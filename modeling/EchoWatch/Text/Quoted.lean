import EchoWatch.Number.Numeral
import EchoWatch.Text.Half
import EchoWatch.Text.Printable
/-!
# Quoted text

How a text is shown inside a message: between single quotes, or between double quotes when it
holds a single quote and no double one. The quote in use, the backslash and every unprintable
character are escaped, so that a quoted text stays on its line.
-/

namespace EchoWatch.Text

/-- One hexadecimal digit, in lower case. -/
def hexDigit (n : Nat) : Char :=
  if n % 16 < 10 then Char.ofNat ('0'.toNat + n % 16) else Char.ofNat ('a'.toNat + n % 16 - 10)

/-- The last `width` hexadecimal digits of a number. -/
def hexPadded : (width n : Nat) → List Char
  | 0, _ => []
  | width + 1, n => hexPadded width (n / 16) ++ [hexDigit n]

/-- A character written by its code point. -/
def codeEscaped (c : Char) : List Char :=
  if code c < 0x100 then '\\' :: 'x' :: hexPadded 2 (code c)
  else if code c < 0x10000 then '\\' :: 'u' :: hexPadded 4 (code c)
  else '\\' :: 'U' :: hexPadded 8 (code c)

/-- A character outside ASCII is written by its code point. -/
def asciiEscaped (c : Char) : List Char :=
  if c.toNat < 128 then [c] else codeEscaped c

/-- How one character is written between the given quotes. -/
def escaped (quote c : Char) : List Char :=
  if c = quote ∨ c = '\\' then ['\\', c]
  else if c = '\n' then ['\\', 'n']
  else if c = '\r' then ['\\', 'r']
  else if c = '\t' then ['\\', 't']
  else if isPrintable c then [c]
  else codeEscaped c

/-- The quote that goes around a text. -/
def quoteFor (cs : List Char) : Char :=
  if cs.contains '\'' && !cs.contains '"' then '"' else '\''

/-- A text as it is shown inside a message. -/
def quoted (s : String) : String :=
  let quote := quoteFor s.toList
  String.ofList (quote :: s.toList.flatMap (escaped quote) ++ [quote])

/-! ### Refused texts -/

/-- How a codec says that it has no bytes for the characters of a text from one place to another. -/
def codecMessage (codec reason : String) (cs : List Char) (first last : Nat) : String :=
  let start := String.ofList (Numeral.ofNat first)
  let which :=
    if first = last then
      let shown := String.ofList ((cs.drop first).take 1 |>.flatMap codeEscaped)
      s!"character \x27{shown}\x27 in position {start}"
    else
      let stop := String.ofList (Numeral.ofNat last)
      s!"characters in position {start}-{stop}"
  s!"\x27{codec}\x27 codec can\x27t encode {which}: {reason}"

/-- The error with which UTF-8 refuses a text with halves, which are no characters. -/
def halfMessage? (s : String) : Option String :=
  let cs := s.toList
  (cs.findIdx? isHalf).map fun first =>
    let run := (cs.drop first).takeWhile isHalf
    codecMessage "utf-8" "surrogates not allowed" cs first (first + run.length - 1)

end EchoWatch.Text
