import EchoWatch.Delivery.Channel
import EchoWatch.Delivery.Url
/-!
# Requests

A request is built from an address, headers and a body. `Request.build` tells how the client that
the program is delivered with does this, which can end in three ways. The request may be refused,
which counts as a failed delivery; it may break on a value that has no place in headers or bodies at
all; or it is ready and goes out to be answered. Nothing that is said about deliveries depends on
it: there the client is any function of what it is asked.
-/

namespace EchoWatch

/-- What a client is asked to post. -/
structure Post where
  target : String
  payload : Value
  headers : List (Value × Value)
  timeout : Value
  deriving Inhabited, Repr

namespace Request

/-- Why the building of a request breaks. -/
inductive Break where
  | headersNotMapping (kind : String)
  /-- The name of a header is neither text nor bytes. -/
  | headerNameKind (kind : String)
  /-- The name of a header is bytes with one that is not in ASCII. -/
  | headerNameByte (byte place : Nat)
  /-- The moment of the check has no epoch seconds. -/
  | outOfCalendar
  /-- The body holds a value that no request body can hold. -/
  | notSerializable (kind : String)
  /-- The body holds a mapping with a key that no request body can hold. -/
  | keyKind (kind : String)
  /-- The authority of the address cannot be taken apart; the message says why. -/
  | authority (message : String)
  /-- A login holds characters that cannot be sent, from one place on up to another one. -/
  | login (chars : List Char) (first last : Nat)
  deriving DecidableEq, Repr

def Break.message : Break → String
  | .headersNotMapping kind => s!"\x27{kind}\x27 object is not a mapping"
  | .headerNameKind kind => s!"\x27{kind}\x27 object has no attribute \x27lower\x27"
  | .headerNameByte byte place =>
    let byte := String.ofList (Text.hexPadded 2 byte)
    let place := String.ofList (Numeral.ofNat place)
    s!"\x27ascii\x27 codec can\x27t decode byte 0x{byte} in position {place}:"
      ++ " ordinal not in range(128)"
  | .outOfCalendar => Moment.outOfCalendar
  | .notSerializable kind => s!"Object of type {kind} is not JSON serializable"
  | .keyKind kind => s!"keys must be str, int, float, bool or None, not {kind}"
  | .authority message => message
  | .login chars first last =>
    Text.codecMessage "latin-1" "ordinal not in range(256)" chars first last

/-- The name of a value's kind; moments and dates come from a module of their own. -/
def kindName : Value → String
  | .null => "NoneType"
  | .bool _ => "bool"
  | .int _ => "int"
  | .float _ => "float"
  | .text _ => "str"
  | .bytes _ => "bytes"
  | .date _ => "date"
  | .moment _ => "datetime"
  | .list _ => "list"
  | .pair _ _ => "tuple"
  | .set _ => "set"
  | .map _ => "dict"

/-- The name of a value's kind together with its module. -/
def fullKindName : Value → String
  | .date _ => "datetime.date"
  | .moment _ => "datetime.datetime"
  | v => kindName v

/-! ### Headers -/

/-- White space of ASCII, which is all that bytes know. -/
def isByteBlank (c : Char) : Bool :=
  c = ' ' || ('\t' ≤ c && c ≤ '\r')

/-- A piece of a header: text, or bytes as the characters with their numbers. -/
structure Part where
  isBytes : Bool
  chars : List Char
  deriving DecidableEq, Repr

namespace Part

def ofValue? : Value → Option Part
  | .text s => some ⟨false, s.toList⟩
  | .bytes bs => some ⟨true, Value.charsOfBytes bs⟩
  | _ => none

/-- A piece in small letters; bytes have those of ASCII only. -/
def lower (p : Part) : Part :=
  { p with chars := if p.isBytes then p.chars.map Char.toLower else Text.lower p.chars }

/-- White space, as far as a piece knows it. -/
def isBlank (p : Part) (c : Char) : Bool :=
  if p.isBytes then isByteBlank c else Text.isBlank c

/-- A name of a header: not empty, not starting with white space, without colons and line breaks. -/
def isName (p : Part) : Bool :=
  match p.chars with
  | [] => false
  | c :: _ => !p.isBlank c && p.chars.all fun d => !([':', '\r', '\n'].contains d)

/-- A value of a header: empty, or not starting with white space and without line breaks. -/
def isContent (p : Part) : Bool :=
  match p.chars with
  | [] => true
  | c :: _ => !p.isBlank c && p.chars.all fun d => !(['\r', '\n'].contains d)

/-- The first byte that is not in ASCII, and its place. -/
def firstBeyondAscii? (p : Part) : Option (Char × Nat) :=
  if p.isBytes then p.chars.zipIdx.find? fun c => 128 ≤ c.1.toNat else none

end Part

abbrev Header := Part × Value

/-- The headers of every request, unless others of their names come. -/
def commonHeaders : List Header :=
  ["User-Agent", "Accept-Encoding", "Accept", "Connection"].map fun name =>
    (⟨false, name.toList⟩, .text "")

/-- Headers with one more: one of the same name in small letters keeps its place and changes. -/
def insertHeader (headers : List Header) (h : Header) : List Header :=
  match headers with
  | [] => [h]
  | g :: rest => if g.1.lower = h.1.lower then h :: rest else g :: insertHeader rest h

/-- Headers by name in small letters: of several spellings the last one holds, and a header without
a value is dropped. -/
def merged (headers : List (Value × Value)) : List Header :=
  let named := headers.filterMap fun h => (Part.ofValue? h.1).map fun name => (name, h.2)
  (named.foldl insertHeader commonHeaders).filter fun h => match h.2 with
    | .null => false
    | _ => true

/-- The kind of the first header name that is neither text nor bytes. -/
def headerNameBreak? (headers : List (Value × Value)) : Option Break :=
  (headers.find? fun h => (Part.ofValue? h.1).isNone).map fun h =>
    .headerNameKind (fullKindName h.1)

/-- What is wrong with a header or a body: a refusal, or a break. -/
inductive Fault where
  | refused
  | broken (b : Break)
  deriving DecidableEq, Repr

/-- What is wrong with a header: its form, or else a name that is not in ASCII. -/
def headerFault? (h : Header) : Option Fault :=
  if h.1.isName && (Part.ofValue? h.2).any Part.isContent then
    h.1.firstBeyondAscii?.map fun (c, i) => .broken (.headerNameByte c.toNat i)
  else some .refused

/-! ### Bodies

A number that no body can hold is a refusal, a value of a kind that no body can hold is a break. -/

/-- What is wrong with a key of a mapping in a body. -/
def keyFault? : Value → Option Fault
  | .text _ | .int _ | .bool _ | .null => none
  | .float x => if x.isFinite then none else some .refused
  | v => some (.broken (.keyKind (fullKindName v)))

mutual

/-- The first thing wrong with a body, in the order in which it is written. -/
def bodyFault? : Value → Option Fault
  | .null | .bool _ | .int _ | .text _ => none
  | .float x => if x.isFinite then none else some .refused
  | .list items => itemsFault? items
  | .pair k v => (bodyFault? k).or (bodyFault? v)
  | .map entries => entriesFault? entries
  | .bytes _ => some (.broken (.notSerializable "bytes"))
  | .date _ => some (.broken (.notSerializable "date"))
  | .moment _ => some (.broken (.notSerializable "datetime"))
  | .set _ => some (.broken (.notSerializable "set"))

def itemsFault? : List Value → Option Fault
  | [] => none
  | v :: vs => (bodyFault? v).or (itemsFault? vs)

def entriesFault? : List (Value × Value) → Option Fault
  | [] => none
  | (k, v) :: rest => ((keyFault? k).or (bodyFault? v)).or (entriesFault? rest)

end

/-! ### Logins -/

def isSendable (c : Char) : Bool :=
  c.toNat < 256

/-- The first run of characters in a text that cannot be sent. -/
def loginBreak? (cs : List Char) : Option Break :=
  match cs.findIdx? fun c => !isSendable c with
  | none => none
  | some first =>
    let run := (cs.drop first).takeWhile fun c => !isSendable c
    some (.login cs first (first + run.length - 1))

/-! ### Building -/

inductive Build where
  | broken (b : Break)
  | refused
  | ready
  deriving DecidableEq, Repr

/-- What is wrong with a request, apart from names of headers and the form of the address: the
headers, the authority, the body and the login, in this order. -/
def fault? (url : Url) (headers : List (Value × Value)) (body : Value) : Option Fault :=
  ((merged headers).findSome? headerFault?).or
    ((url.authority.flaw?.map fun message => .broken (.authority message)).or
      ((bodyFault? body).or
        (url.authority.login?.bind fun (name, password) =>
          ((loginBreak? name).or (loginBreak? password)).map .broken)))

/-- Builds a request: names of headers first, then the address, then all that it consists of, and
last whether anything speaks the scheme. -/
def build (target : String) (headers : List (Value × Value)) (body : Value) : Build :=
  match headerNameBreak? headers with
  | some b => .broken b
  | none =>
    match Url.read? target with
    | none => .refused
    | some url =>
      match fault? url headers body with
      | some .refused => .refused
      | some (.broken b) => .broken b
      | none => if url.isSpoken then .ready else .refused

end Request
end EchoWatch
