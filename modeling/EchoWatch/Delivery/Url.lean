import EchoWatch.Delivery.Authority
import EchoWatch.Net.Host.Label
import EchoWatch.Text.Blank
/-!
# Webhook addresses

Before a request is made its address is looked at. `Url.read?` refuses an address that no request
can be built for. Of any other one it gives the authority as it goes out, and tells whether the
scheme can be spoken.
-/

namespace EchoWatch

structure Url where
  authority : Authority
  /-- Whether anything speaks the scheme. -/
  isSpoken : Bool
  deriving Repr

namespace Url

/-! ### Parts -/

def lower (cs : List Char) : List Char :=
  cs.map Char.toLower

/-- A character that a scheme may hold after its first letter. -/
def isSchemeChar (c : Char) : Bool :=
  c.isAlpha || Text.isAsciiDigit c || c = '+' || c = '-'

/-- The scheme of an address, and what follows its colon. -/
def scheme? (cs : List Char) : Option (List Char × List Char) :=
  match cs with
  | [] => none
  | c :: _ =>
    match Text.cut? ':' cs with
    | some (scheme, rest) =>
      if c.isAlpha ∧ scheme.all isSchemeChar then some (lower scheme, rest) else none
    | none => none

/-- What stands between two slashes and the end of the authority. -/
def authority? (isEnd : Char → Bool) : List Char → Option (List Char)
  | '/' :: '/' :: r => some (r.takeWhile fun c => !isEnd c)
  | _ => none

/-- What may follow the colon of a host: digits for a number below 65536, or nothing. -/
def isPort (cs : List Char) : Bool :=
  cs.all Text.isAsciiDigit && Text.ofDigitValues 10 (cs.map Text.asciiDigit) ≤ 65535

/-! ### Hosts -/

/-- A control character of ASCII, or the space. -/
def isControl (c : Char) : Bool :=
  c ≤ ' ' || c = '\x7f'

/-- Whether some escape of a text stands for a control character or the space. -/
def hidesControl : List Char → Bool
  | [] => false
  | '%' :: a :: b :: r =>
    (match Text.hexValue? a, Text.hexValue? b with
      | some m, some n => isControl (Char.ofNat (16 * m + n))
      | _, _ => false) || hidesControl (a :: b :: r)
  | _ :: r => hidesControl r

/-- Four numbers of up to three digits with points between them. -/
def isLooseQuad (cs : List Char) : Bool :=
  let numbers := Text.split '.' cs
  numbers.length = 4
    && numbers.all fun n => n ≠ [] && n.length ≤ 3 && n.all Text.isAsciiDigit

/-- Whether a text has the form of an IPv6 address. The numbers at its end may have any value. -/
def isGroups (cs : List Char) : Bool :=
  let last := (cs.reverse.takeWhile (· ≠ ':')).reverse
  if last.contains '.' then
    isLooseQuad last
      && (Net.Groups.readValue? (cs.take (cs.length - last.length) ++ ['0', ':', '0'])).isSome
  else (Net.Groups.readValue? cs).isSome

/-- A zone of an IPv6 address with its percent sign: unreserved characters and escapes. -/
def isZone (cs : List Char) : Bool :=
  cs.length ≠ 1 && (cs.drop 1).all (fun c => Text.Percent.isUnreserved c || c = '%')
    && Text.Percent.isClosed (cs.drop 1)

/-- Whether a text is a host between brackets: an IPv6 address, perhaps with a zone. -/
def isBracketed (cs : List Char) : Bool :=
  let zone := cs.dropWhile (· ≠ '%')
  isGroups (cs.takeWhile (· ≠ '%')) && (zone = [] || isZone zone)

/-- The host of a text that is made of a host and perhaps a colon with a number. -/
def host? (cs : List Char) : Option (List Char) :=
  if cs.any isControl then none
  else
    match cs with
    | '[' :: r =>
      match Text.cut? ']' r with
      | some (body, more) =>
        if isBracketed body ∧ (more = [] ∨ (more.head? = some ':' ∧ isPort (more.drop 1))) then
          some ('[' :: body ++ [']'])
        else none
      | none => none
    | _ =>
      let name := cs.takeWhile (· ≠ ':')
      let number := (cs.dropWhile (· ≠ ':')).drop 1
      if name.all (fun c => !(['[', ']', '/', '?', '#'].contains c)) ∧ Text.Percent.isClosed name
          ∧ !hidesControl name ∧ isPort number
      then some name else none

/-- A host between brackets as it goes out: in small letters, with the zone behind one percent
sign. -/
def bracketed (cs : List Char) : List Char :=
  let zone := (cs.dropWhile (· ≠ '%')).dropLast
  let zone := if zone.take 3 = ['%', '2', '5'] ∧ zone.length ≠ 3 then zone.drop 3 else zone.drop 1
  lower (cs.takeWhile (· ≠ '%'))
    ++ if zone = [] then [] else '%' :: Text.Percent.capitalized zone ++ [']']

/-- A host as it goes out, if it can. Hosts of schemes that nothing speaks are left as they are,
unless they are not in ASCII. -/
def sent? (isSpoken : Bool) (host : List Char) : Option (List Char) :=
  let written :=
    if host.head? = some '[' then some (if isSpoken then bracketed host else host)
    else if isSpoken then Net.Host.name? (Text.Percent.relaxed host)
    else if Net.Host.isAscii host then some host
    else Net.Host.name? host
  written.filter fun h => h ≠ [] && h.head? ≠ some '*' && h.head? ≠ some '.'

/-! ### Addresses -/

def isLoginChar (c : Char) : Bool :=
  Text.Percent.isUnreserved c
    || ['!', '$', '&', '\'', '(', ')', '*', '+', ',', ';', '=', ':'].contains c

/-- The authority of an address as it goes out. -/
def prepared? (isSpoken : Bool) (authority : List Char) : Option Authority :=
  let (login, rest) := Authority.parted authority
  match (host? rest).bind (sent? isSpoken) with
  | none => none
  | some host =>
    let front := match login with
      | none | some [] => []
      | some login => (if isSpoken then Text.Percent.escape isLoginChar login else login) ++ ['@']
    some ⟨Text.Percent.requoted (front ++ host)⟩

/-- The authority of an address that is not looked into: line breaks and tabs do not count. -/
def plainAuthority (cs : List Char) : Authority :=
  let cs := (cs.dropWhile (· ≤ ' ')).filter fun c => !(['\t', '\r', '\n'].contains c)
  let rest := match Text.cut? ':' cs with
    | some (scheme, rest) =>
      if scheme.head?.any Char.isAlpha ∧ scheme.all (fun c => isSchemeChar c || c = '.') then rest
      else cs
    | none => cs
  ⟨(authority? (fun c => ['/', '?', '#'].contains c) rest).getD []⟩

/-- What an address says. White space in front of it does not count. -/
def read? (address : String) : Option Url :=
  let cs := address.toList.dropWhile Text.isBlank
  -- without a colon there is no scheme; other schemes are not looked into
  if !cs.contains ':' then none
  else if (lower cs).take 4 ≠ "http".toList then some ⟨plainAuthority cs, false⟩
  else
    match scheme? cs with
    | none => none
    | some (scheme, rest) =>
      let isSpoken := scheme = "http".toList || scheme = "https".toList
      ((authority? (fun c => ['\\', '/', '?', '#'].contains c) rest).bind (prepared? isSpoken)).map
        fun a => ⟨a, isSpoken⟩

end Url
end EchoWatch
