import EchoWatch.Text.Utf8
import EchoWatch.Yaml.Token
/-!
# Texts that are read in portions

A text is read as it is needed, a portion at a time, so a fault in it counts only once a reader
gets as far as its portion. A draft is the text in front of that portion, with the fault.
-/

namespace EchoWatch.Yaml

/-- A text as far as it can be read, and what is wrong with what follows. -/
structure Draft where
  chars : List Char
  fault : Option Error
  deriving Repr

/-- A text in which every line ends with a line feed. -/
def unifyBreaks : List Char → List Char
  | '\r' :: '\n' :: r => '\n' :: unifyBreaks r
  | '\r' :: r => '\n' :: unifyBreaks r
  | c :: r => c :: unifyBreaks r
  | [] => []

namespace Draft

/-- The start of the portion that a character is in. The first portion is twice as long as the
others. -/
def portionStart (index : Nat) : Nat :=
  if index < 8192 then 0 else index / 4096 * 4096

/-- The draft of a text, up to the portion with a character that may not stand in it. -/
def ofChars (cs : List Char) : Draft :=
  match cs.findIdx? fun c => !isAllowed c with
  | none => ⟨cs, none⟩
  | some index => ⟨cs.take (portionStart index), some .malformed⟩

/-- How many bytes are decoded at a time. -/
def chunk : Nat := 8192

/-- Whether a character is known before the chunk with a fault. A character that is cut off is a
fault only when there are no more bytes. -/
def precedes (fault : Text.Utf8.Piece) : Text.Utf8.Piece → Bool
  | .char _ last =>
    match fault with
    | .broken place => last < place / chunk * chunk
    | _ => true
  | _ => false

/-- The characters that are known, except for a carriage return at their end, of which it is open
whether a line feed follows. -/
def settled (cs : List Char) : List Char :=
  unifyBreaks (if cs.getLast? = some '\r' then cs.dropLast else cs)

/-- The draft of a text given by its bytes. -/
def ofBytes (bytes : List UInt8) : Draft :=
  let pieces := Text.Utf8.pieces bytes
  match pieces.find? fun p => p.char?.isNone with
  | none => ofChars (unifyBreaks (pieces.filterMap (·.char?)))
  | some fault =>
    let known := settled ((pieces.takeWhile (precedes fault)).filterMap (·.char?))
    let d := ofChars (known.take (portionStart known.length))
    { d with fault := d.fault.or (some .undecodable) }

end Draft
end EchoWatch.Yaml
