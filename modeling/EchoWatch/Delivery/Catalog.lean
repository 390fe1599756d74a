import EchoWatch.Delivery.Channel
/-!
# The catalogue of carriers

A catalogue maps names of types to what is made for them. A name that is registered again gets the
new entry; the names are listed in the order of their characters.
-/

namespace EchoWatch

/-- Entries by type name. -/
structure Catalog (α : Type) where
  entries : List (String × α)

namespace Catalog

variable {α : Type}

def empty : Catalog α :=
  ⟨[]⟩

def register (c : Catalog α) (name : String) (entry : α) : Catalog α :=
  ⟨c.entries.filter (fun e => e.1 ≠ name) ++ [(name, entry)]⟩

def get? (c : Catalog α) (name : String) : Option α :=
  (c.entries.find? fun e => e.1 = name).map Prod.snd

/-- The registered names, in order. -/
def names (c : Catalog α) : List String :=
  (c.entries.map Prod.fst).mergeSort fun a b => a ≤ b

def builtIn : Catalog ChannelKind :=
  ChannelKind.all.foldl (fun c k => c.register k.typeName k) empty

end Catalog
end EchoWatch
