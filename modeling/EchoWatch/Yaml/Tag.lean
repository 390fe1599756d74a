import EchoWatch.Text.Split
import EchoWatch.Yaml.Timestamp
/-!
# Tags

A tag says what a node stands for. It is written out, or implied: a plain scalar that looks like a
number, a truth value, a timestamp or nothing is one, and any other scalar is a text.
-/

namespace EchoWatch.Yaml

/-- What a node stands for. -/
inductive Tag where
  | null
  | bool
  | int
  | float
  | text
  | timestamp
  | binary
  | sequence
  | mapping
  | set
  | orderedMapping
  | pairs
  /-- The key under which other mappings are merged in. -/
  | merge
  /-- The key of a mapping's value when a scalar is wanted. -/
  | value
  | unknown
  deriving DecidableEq, Repr

namespace Tag

/-- The names of the tags, without what they all start with. -/
def names : List (String × Tag) :=
  [
    ("null", null), ("bool", bool), ("int", int), ("float", float), ("str", text),
    ("timestamp", timestamp), ("binary", binary), ("seq", sequence), ("map", mapping),
    ("set", set), ("omap", orderedMapping), ("pairs", pairs), ("merge", merge), ("value", value)]

/-- What the names of all tags of the language start with. -/
def common : List Char :=
  "tag:yaml.org,2002:".toList

def ofName (name : List Char) : Tag :=
  if name.take common.length = common then
    (names.lookup (String.ofList (name.drop common.length))).getD unknown
  else unknown

/-! ### Shapes of plain scalars -/

/-- The texts of truth values. -/
def truthWords : List String :=
  [
    "yes", "Yes", "YES", "no", "No", "NO", "true", "True", "TRUE", "false", "False", "FALSE",
    "on", "On", "ON", "off", "Off", "OFF"]

/-- The texts that stand for nothing. -/
def nullWords : List String :=
  ["~", "null", "Null", "NULL", ""]

/-- A text without its sign. -/
def unsigned : List Char → List Char
  | '+' :: r | '-' :: r => r
  | cs => cs

/-- A digit of a base up to sixteen, or the underscore that may stand between digits. -/
def isDigitOf (base : Nat) (c : Char) : Bool :=
  c = '_' || (Text.hexValue? c).any (· < base)

/-- A number below sixty, with one digit or two. -/
def isSixtieth : List Char → Bool
  | [d] => Text.isAsciiDigit d
  | [d, e] => '0' ≤ d && d ≤ '5' && Text.isAsciiDigit e
  | _ => false

/-- Whether a text is a whole number: binary, octal, decimal, hexadecimal or to the base of
sixty. -/
def isInt (cs : List Char) : Bool :=
  match unsigned cs with
  | '0' :: 'b' :: r => r ≠ [] && r.all (isDigitOf 2)
  | '0' :: 'x' :: r => r ≠ [] && r.all (isDigitOf 16)
  | '0' :: r => r.all (isDigitOf 8)
  | c :: r =>
    Text.isAsciiDigit c &&
      match Text.split ':' r with
      | first :: sixtieths => first.all (isDigitOf 10) && sixtieths.all isSixtieth
      | [] => false
  | [] => false

/-- Whether a text is empty or an exponent with a sign. -/
def isExponent : List Char → Bool
  | [] => true
  | e :: sign :: r =>
    (e = 'e' || e = 'E') && (sign = '+' || sign = '-') && r ≠ [] && r.all Text.isAsciiDigit
  | _ => false

/-- Whether a text is the fraction of a number, after the point, with an exponent or without. -/
def isFraction (cs : List Char) : Bool :=
  isExponent (cs.dropWhile (isDigitOf 10))

/-- Whether a text is a number to the base of sixty with a point in its last place. -/
def isSexagesimal (cs : List Char) : Bool :=
  match Text.cut? '.' cs with
  | none => false
  | some (whole, fraction) =>
    fraction.all (isDigitOf 10) &&
      match Text.split ':' whole with
      | first :: sixtieth :: more =>
        first.all (isDigitOf 10) && (sixtieth :: more).all isSixtieth
      | _ => false

/-- Whether a text is a number with a point, or one of the words for the infinite and for what is
no number. -/
def isFloat (cs : List Char) : Bool :=
  [".nan", ".NaN", ".NAN"].contains (String.ofList cs)
    || [".inf", ".Inf", ".INF"].contains (String.ofList (unsigned cs))
    || match cs with
      | '.' :: d :: r => Text.isAsciiDigit d && isFraction r
      | _ =>
        match unsigned cs with
        | d :: r =>
          Text.isAsciiDigit d &&
            (isSexagesimal (d :: r)
              || match r.dropWhile (isDigitOf 10) with
                | '.' :: r => isFraction r
                | _ => false)
        | [] => false

/-- A text without the line feed at its end. A text that is nothing else stays as it is. -/
def dropFinalBreak (cs : List Char) : List Char :=
  if cs.getLast? = some '\n' ∧ 1 < cs.length then cs.dropLast else cs

/-- The tag of a plain scalar with no tag of its own. A line feed at its end does not count. -/
def implied (written : List Char) : Tag :=
  let cs := dropFinalBreak written
  let s := String.ofList cs
  if truthWords.contains s then bool
  else if isFloat cs then float
  else if isInt cs then int
  else if s = "<<" then merge
  else if nullWords.contains s then null
  else if Timestamp.isEvident cs then timestamp
  else if s = "=" then value
  else if ["!", "&", "*"].contains s then unknown
  else text

end Tag
end EchoWatch.Yaml
