import EchoWatch.Number.Shortest
import EchoWatch.Text.Quoted
import EchoWatch.Value
/-!
# Values inside messages

How a document value is shown in a line of text: scalars by their usual notation, texts in quotes,
lists in brackets and mappings in braces. `Value.shown` differs from `Value.literal` only in that
a text by itself has no quotes.
-/

namespace EchoWatch.Value

/-- Texts with a comma and a space between them. -/
def commaSeparated (parts : List String) : String :=
  String.intercalate ", " parts

/-- Bytes as the characters with their numbers. -/
def charsOfBytes (bs : List UInt8) : List Char :=
  bs.map fun b => Char.ofNat b.toNat

/-- One byte inside a literal of bytes: characters outside ASCII are written by their numbers. -/
def byteText (quote c : Char) : List Char :=
  if c.toNat < 128 then Text.escaped quote c else Text.codeEscaped c

/-- The notation of bytes: a text in quotes with a letter in front. -/
def bytesLiteral (bs : List UInt8) : String :=
  let cs := charsOfBytes bs
  let quote := Text.quoteFor cs
  String.ofList ('b' :: quote :: cs.flatMap (byteText quote) ++ [quote])

/-- Numbers between parentheses. -/
def numbered (head : String) (ns : List Nat) : String :=
  head ++ "(" ++ commaSeparated (ns.map fun n => String.ofList (Numeral.ofNat n)) ++ ")"

/-- A length of time in days, seconds and microseconds, as far as there are any. -/
def timeLiteral (time : Micros) : String :=
  let parts := [("days", time / 86400000000), ("seconds", time % 86400000000 / 1000000),
    ("microseconds", time % 1000000)]
  let shown := (parts.filter fun part => part.2 ≠ 0).map fun (name, n) =>
    name ++ "=" ++ String.ofList (Numeral.ofInt n)
  "datetime.timedelta(" ++ commaSeparated shown ++ ")"

/-- The notation of an offset from UTC. -/
def offsetLiteral (offset : Int) : String :=
  if offset = 0 then "datetime.timezone.utc"
  else
    let shown := timeLiteral offset
    s!"datetime.timezone({shown})"

/-- The notation of a moment: microseconds and seconds are left out when there are none. -/
def momentLiteral (m : Moment) : String :=
  let d := m.date
  let rest := if m.micro ≠ 0 then [m.second, m.micro] else if m.second ≠ 0 then [m.second] else []
  let fields := ([d.year, d.month, d.day, m.hour, m.minute] ++ rest).map fun n =>
    String.ofList (Numeral.ofNat n)
  let zone := match m.zone with
    | some zone => ["tzinfo=" ++ offsetLiteral zone.offset]
    | none => []
  "datetime.datetime(" ++ commaSeparated (fields ++ zone) ++ ")"

mutual

/-- The notation of a value, with texts in quotes. -/
def literal : Value → String
  | null => "None"
  | bool true => "True"
  | bool false => "False"
  | int n => String.ofList (Numeral.ofInt n)
  | float x => x.text
  | text s => Text.quoted s
  | bytes bs => bytesLiteral bs
  | date d => numbered "datetime.date" [d.year, d.month, d.day]
  | moment m => momentLiteral m
  | list items => "[" ++ commaSeparated (literals items) ++ "]"
  | pair k v => "(" ++ literal k ++ ", " ++ literal v ++ ")"
  | set [] => "set()"
  | set members => "\x7b" ++ commaSeparated (literals members) ++ "\x7d"
  | map entries => "\x7b" ++ commaSeparated (entryLiterals entries) ++ "\x7d"

def literals : List Value → List String
  | [] => []
  | v :: vs => literal v :: literals vs

def entryLiterals : List (Value × Value) → List String
  | [] => []
  | (k, v) :: rest => (literal k ++ ": " ++ literal v) :: entryLiterals rest

end

/-- The notation of a value, with a text by itself as it is. -/
def shown : Value → String
  | text s => s
  | date d =>
    String.ofList (Numeral.padded 4 d.year ++ '-' :: Moment.pairs '-' [d.month, d.day])
  | moment m => String.ofList (m.iso.toList.map fun c => if c = 'T' then ' ' else c)
  | v => v.literal

end EchoWatch.Value
