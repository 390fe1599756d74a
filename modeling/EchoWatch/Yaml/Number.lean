import EchoWatch.Number.Binary64
import EchoWatch.Number.Numeral
import EchoWatch.Text.Blank
import EchoWatch.Text.Lower
import EchoWatch.Text.Quoted
import EchoWatch.Yaml.Tag
import EchoWatch.Yaml.Token
/-!
# Numbers in documents

Whole numbers are binary, octal, decimal or hexadecimal, or decimal places to the base of sixty
between colons; numbers with a point are decimal, or have a point in the last of such places.
Underscores between digits do not count. A tag that is written out may claim that any text is a
number, so each reader also says why a text is none.
-/

namespace EchoWatch.Yaml.Number

/-- A text with every digit in ASCII and no blanks around it. -/
def plain (cs : List Char) : List Char :=
  (Text.trim cs).map fun c => (Text.digitValue? c).elim c Numeral.digit

/-- Whether a sign says that a number is negative, and the rest. -/
def splitSign : List Char → Bool × List Char
  | '-' :: r => (true, r)
  | '+' :: r => (false, r)
  | cs => (false, cs)

def ungrouped (cs : List Char) : List Char :=
  cs.filter (· ≠ '_')

/-! ### Whole numbers -/

/-- The letter that may follow a zero in front of the digits of a base. -/
def baseLetter (base : Nat) : Option Char :=
  match base with
  | 2 => some 'b'
  | 8 => some 'o'
  | 16 => some 'x'
  | _ => none

/-- The digits of a number, without what announces its base. -/
def unannounced (base : Nat) (cs : List Char) : List Char :=
  match cs with
  | '0' :: letter :: r => if some letter.toLower = baseLetter base then r else cs
  | _ => cs

/-- Why a text is no whole number to a base. -/
def notInteger (base : Nat) (cs : List Char) : Error :=
  let base := String.ofList (Numeral.ofNat base)
  let shown := String.ofList ((Text.quoted (String.ofList cs)).toList.take 200)
  .badValue s!"invalid literal for int() with base {base}: {shown}"

/-- Why a whole number has too many digits. -/
def tooLong (count : Nat) : Error :=
  let limit := String.ofList (Numeral.ofNat Numeral.maxDigits)
  let count := String.ofList (Numeral.ofNat count)
  .badValue (s!"Exceeds the limit ({limit} digits) for integer string conversion: value has {count}"
    ++ " digits; use sys.set_int_max_str_digits() to increase the limit")

/-- Reads a whole number to a base. -/
def integer (base : Nat) (cs : List Char) : Except Error Int :=
  let (negative, r) := splitSign (plain cs)
  let digits := unannounced base r
  match digits.mapM fun c => (Text.hexValue? c).filter (· < base) with
  | some (d :: ds) =>
    if base = 10 ∧ Numeral.maxDigits < digits.length then .error (tooLong digits.length)
    else
      let n : Int := Text.ofDigitValues base (d :: ds)
      .ok (if negative then -n else n)
  | _ => .error (notInteger base cs)

/-- The number that its places to the base of sixty spell. -/
def ofSixtieths (places : List Int) : Int :=
  places.foldl (fun n place => 60 * n + place) 0

/-- A whole number without its sign. -/
def magnitude (cs : List Char) : Except Error Int :=
  match cs with
  | [] => .error .emptyNumber
  | ['0'] => .ok 0
  | '0' :: 'b' :: r => integer 2 r
  | '0' :: 'x' :: r => integer 16 r
  | '0' :: _ => integer 8 cs
  | _ =>
    if cs.contains ':' then ((Text.split ':' cs).mapM (integer 10)).map ofSixtieths
    else integer 10 cs

def readInt (cs : List Char) : Except Error Int :=
  match splitSign (ungrouped cs) with
  | (negative, r) => (magnitude r).map fun n => if negative then -n else n

/-! ### Numbers with a point -/

/-- Reads an exponent: nothing, or the letter e with a number after it. -/
def exponent? : List Char → Option Int
  | [] => some 0
  | e :: r =>
    if e = 'e' then
      let (negative, ds) := splitSign r
      if ds ≠ [] ∧ ds.all Text.isAsciiDigit then
        let n : Int := Text.ofDigitValues 10 (ds.map Text.asciiDigit)
        some (if negative then -n else n)
      else none
    else none

/-- Reads a decimal number without its sign, or a word for one that is none. -/
def unsigned? (negative : Bool) (cs : List Char) : Option Binary64 :=
  if ["inf", "infinity"].contains (String.ofList cs) then some (.infinite negative)
  else if cs = "nan".toList then some (.nan negative)
  else
    let whole := cs.takeWhile Text.isAsciiDigit
    let r := cs.dropWhile Text.isAsciiDigit
    let pointed := r.head? = some '.'
    let fraction := if pointed then (r.drop 1).takeWhile Text.isAsciiDigit else []
    let r := if pointed then (r.drop 1).dropWhile Text.isAsciiDigit else r
    let digits := whole ++ fraction
    if digits = [] then none
    else
      (exponent? r).map fun e =>
        .ofDecimal negative (Text.ofDigitValues 10 (digits.map Text.asciiDigit)) digits.length
          (e - fraction.length)

/-- Reads a decimal number. -/
def decimal (cs : List Char) : Except Error Binary64 :=
  match splitSign (plain (cs.map Char.toLower)) with
  | (negative, r) =>
    match unsigned? negative r with
    | some x => .ok x
    | none =>
      let shown := Text.quoted (String.ofList cs)
      .error (.badValue s!"could not convert string to float: {shown}")

/-- The sum of places to the base of sixty, the last one first. What a place is worth must be a
finite double. -/
def addSixtieths (places : List Binary64) : Except Error Binary64 :=
  let units := (List.range places.length).map fun k => Binary64.ofInt (Nat.pow 60 k : Nat)
  if units.all Binary64.isFinite then
    .ok ((places.reverse.zip units).foldl
      (fun sum (place, unit) => Binary64.add sum (Binary64.mul place unit)) (Binary64.ofInt 0))
  else .error .placeTooLarge

/-- Reads the text of a number with a point. -/
def readFloat (cs : List Char) : Except Error Binary64 :=
  match Text.lower (ungrouped cs) with
  | [] => .error .emptyNumber
  | c :: cs =>
    let (negative, r) := splitSign (c :: cs)
    let signed (x : Binary64) : Binary64 := Binary64.mul (.ofInt (if negative then -1 else 1)) x
    if r = ".inf".toList then .ok (.infinite negative)
    else if r = ".nan".toList then .ok (.nan true)
    else if r.contains ':' then
      match (Text.split ':' r).mapM decimal with
      | .error e => .error e
      | .ok places => (addSixtieths places).map signed
    else (decimal r).map signed

end EchoWatch.Yaml.Number
