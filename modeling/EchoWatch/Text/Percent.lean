import EchoWatch.Text.Digit
import EchoWatch.Text.Half
import EchoWatch.Text.Utf8
/-!
# Percent signs

Where only some characters may stand, the others are written by their bytes, each as a percent sign
with two hexadecimal digits. `escape` writes a text so, `decoded` reads it back, and `requoted`
sets right a text of which some parts are escaped already.
-/

namespace EchoWatch.Text.Percent

/-- A character that never needs to be escaped. -/
def isUnreserved (c : Char) : Bool :=
  c.isAlphanum || ['-', '.', '_', '~'].contains c

/-- The bytes of a character. -/
def bytes (c : Char) : List UInt8 :=
  if isHalf c then
    [0xE0 + code c / 4096, 0x80 + code c / 64 % 64, 0x80 + code c % 64].map UInt8.ofNat
  else String.utf8EncodeChar c

/-- One hexadecimal digit, in upper case. -/
def capitalDigit (n : Nat) : Char :=
  if n < 10 then Char.ofNat ('0'.toNat + n) else Char.ofNat ('A'.toNat + (n - 10))

/-- A character written by its bytes. -/
def escaped (c : Char) : List Char :=
  (bytes c).flatMap fun b => ['%', capitalDigit (b.toNat / 16), capitalDigit (b.toNat % 16)]

/-- Whether every percent sign of a text starts an escape. -/
def isClosed : List Char → Bool
  | [] => true
  | '%' :: a :: b :: r => (hexValue? a).isSome && (hexValue? b).isSome && isClosed r
  | '%' :: _ => false
  | _ :: r => isClosed r

/-- A text whose escapes have capital digits. -/
def capitalized : List Char → List Char
  | [] => []
  | '%' :: a :: b :: r =>
    if (hexValue? a).isSome ∧ (hexValue? b).isSome then
      '%' :: a.toUpper :: b.toUpper :: capitalized r
    else '%' :: capitalized (a :: b :: r)
  | c :: r => c :: capitalized r

/-- A text in which all but the given characters are escaped. Percent signs stay if every one of
them starts an escape. -/
def escape (keeps : Char → Bool) (cs : List Char) : List Char :=
  (capitalized cs).flatMap fun c =>
    if keeps c ∨ (c = '%' ∧ isClosed cs) then [c] else escaped c

/-- The character that an escape with two digits stands for, if it never needs one. -/
def plain? (a b : Char) : Option Char :=
  match hexValue? a, hexValue? b with
  | some m, some n => some (Char.ofNat (16 * m + n)) |>.filter isUnreserved
  | _, _ => none

/-- A text without the escapes that are not needed. -/
def relaxed : List Char → List Char
  | [] => []
  | '%' :: a :: b :: r =>
    match plain? a b with
    | some c => c :: relaxed r
    | none => '%' :: relaxed (a :: b :: r)
  | c :: r => c :: relaxed r

/-- Whether a percent sign is followed by two letters or digits that are not both hexadecimal. -/
def isSpoilt : List Char → Bool
  | [] => false
  | '%' :: a :: b :: r =>
    (a.isAlphanum && b.isAlphanum && !((hexValue? a).isSome && (hexValue? b).isSome))
      || isSpoilt (a :: b :: r)
  | _ :: r => isSpoilt r

/-- A character with a meaning of its own in an address, which stays. -/
def isReserved (c : Char) : Bool :=
  ['!', '#', '$', '&', '\'', '(', ')', '*', '+', ',', '/', ':', ';', '=', '?', '@', '[',
    ']'].contains c

/-- A text with just the escapes that are needed. If some percent sign is spoilt, then none starts
an escape. -/
def requoted (cs : List Char) : List Char :=
  let keeps (c : Char) : Bool := isUnreserved c || isReserved c
  if isSpoilt cs then cs.flatMap fun c => if keeps c then [c] else escaped c
  else (relaxed cs).flatMap fun c => if keeps c ∨ c = '%' then [c] else escaped c

/-- The bytes of a text in ASCII with its escapes read. -/
def bytesRead : List Char → List UInt8
  | [] => []
  | '%' :: a :: b :: r =>
    match hexValue? a, hexValue? b with
    | some m, some n => UInt8.ofNat (16 * m + n) :: bytesRead r
    | _, _ => 0x25 :: bytesRead (a :: b :: r)
  | c :: r => UInt8.ofNat c.toNat :: bytesRead r

/-- A text with its escapes read. Bytes that are no characters leave a mark each. -/
def decoded (cs : List Char) : List Char :=
  let isAscii (c : Char) : Bool := c.toNat < 128
  (cs.splitBy fun a b => isAscii a = isAscii b).flatMap fun run =>
    if run.all isAscii then Utf8.lenient (bytesRead run) else run

end EchoWatch.Text.Percent
