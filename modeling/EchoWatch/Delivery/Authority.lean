import EchoWatch.Net.Address
import EchoWatch.Text.Percent
import EchoWatch.Text.Quoted
/-!
# Authorities

The authority of an address is what stands between the two slashes and the path: a host, perhaps
with a login in front of it. `flaw?` tells why an authority cannot be taken apart, and `login?`
gives the name and the password that go out with a request.
-/

namespace EchoWatch

structure Authority where
  chars : List Char
  deriving DecidableEq, Repr

namespace Authority

/-- What stands in front of the last at sign, if there is one, and what stands behind it. -/
def parted (cs : List Char) : Option (List Char) × List Char :=
  match Text.cut? '@' cs.reverse with
  | some (host, login) => (some login.reverse, host.reverse)
  | none => (none, cs)

/-- Characters that other forms of the signs in an address are known by. -/
def lookalikes : List Char :=
  [
    '\u2047', '\u2048', '\u2049', '\u2100', '\u2101', '\u2105', '\u2106', '\u2a74', '\ufe13',
    '\ufe16', '\ufe55', '\ufe56', '\ufe5f', '\ufe6b', '\uff03', '\uff0f', '\uff1a', '\uff1f',
    '\uff20']

/-- Whether a text is the letter v with hexadecimal digits, a point and more. -/
def isFutureHost (cs : List Char) : Bool :=
  match Text.cut? '.' (cs.drop 1) with
  | some (version, more) =>
    version ≠ [] && version.all (fun c => (Text.hexValue? c).isSome) && more ≠ []
  | none => false

/-- Why a text is no host between brackets, if it is none. -/
def bracketFlaw? (cs : List Char) : Option String :=
  if cs.head? = some 'v' then
    if isFutureHost cs then none else some "IPvFuture address is invalid"
  else
    match Net.Address.read? cs with
    | some ⟨.v6, _, _, _⟩ => none
    | some ⟨.v4, _, _, _⟩ => some "An IPv4 address cannot be in brackets"
    | none =>
      let shown := Text.quoted (String.ofList cs)
      some s!"{shown} does not appear to be an IPv4 or IPv6 address"

/-- Why an authority cannot be taken apart, if it cannot. -/
def flaw? (a : Authority) : Option String :=
  let opened := a.chars.contains '['
  if opened ≠ a.chars.contains ']' then some "Invalid IPv6 URL"
  else
    let inside := ((a.chars.dropWhile (· ≠ '[')).drop 1).takeWhile (· ≠ ']')
    match if opened then bracketFlaw? inside else none with
    | some message => some message
    | none =>
      if a.chars.any lookalikes.contains then
        let shown := String.ofList a.chars
        some s!"netloc \x27{shown}\x27 contains invalid characters under NFKC normalization"
      else none

/-- The name and the password of the login, unless both are empty. A login without a colon is
none. -/
def login? (a : Authority) : Option (List Char × List Char) :=
  match ((parted a.chars).1).bind (Text.cut? ':') with
  | some (name, password) =>
    if name = [] ∧ password = [] then none
    else some (Text.Percent.decoded name, Text.Percent.decoded password)
  | none => none

end Authority
end EchoWatch
