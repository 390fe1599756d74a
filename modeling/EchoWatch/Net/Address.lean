import EchoWatch.Net.Groups
/-!
# Internet addresses

An address is a family, a value of the family's width and, for an IPv6 address, perhaps the zone
that it belongs to. The zone is part of the text but not of the value: ranges look at the value.
-/

namespace EchoWatch.Net

/-- The two families of internet addresses. -/
inductive Family where
  | v4 | v6
  deriving DecidableEq, Inhabited, Repr

/-- The bits of an address. -/
def Family.width : Family → Nat
  | .v4 => 32
  | .v6 => 128

/-- The number that names a family. -/
def Family.version : Family → Nat
  | .v4 => 4
  | .v6 => 6

structure Address where
  family : Family
  value : Nat
  zone : Option (List Char) := none
  value_lt : value < Nat.pow 2 family.width
  deriving DecidableEq, Repr

namespace Address

def ofQuad (n : Fin (Nat.pow 2 32)) : Address :=
  { family := .v4, value := n, value_lt := n.isLt }

def ofGroups (n : Fin (Nat.pow 2 128)) (zone : Option (List Char)) : Address :=
  { family := .v6, value := n, zone := zone, value_lt := n.isLt }

/-- Reads an IPv6 address. A zone follows a percent sign; it is not empty and holds no other one. -/
def readGroups? (cs : List Char) : Option Address :=
  match Text.cut? '%' cs with
  | none => (Groups.readValue? cs).map (ofGroups · none)
  | some (body, zone) =>
    if zone = [] ∨ '%' ∈ zone then none
    else (Groups.readValue? body).map (ofGroups · (some zone))

/-- Reads an address of either family. A slash is no part of one. -/
def read? (cs : List Char) : Option Address :=
  if '/' ∈ cs then none
  else
    match Quad.read? cs with
    | some n => some (ofQuad n)
    | none => readGroups? cs

def write (a : Address) : List Char :=
  match a.family, a.zone with
  | .v4, _ => Quad.write a.value
  | .v6, none => Groups.write a.value
  | .v6, some zone => Groups.write a.value ++ '%' :: zone

end Address
end EchoWatch.Net
