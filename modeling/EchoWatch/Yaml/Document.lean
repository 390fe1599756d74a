import EchoWatch.Value.Literal
import EchoWatch.Yaml.Base64
import EchoWatch.Yaml.Node
import EchoWatch.Yaml.Number
/-!
# From nodes to values

`Yaml.read` gives the value of the one document in a text. Mappings that are merged in come before
the entries that are written out, so that the latter replace what they have in common. Of several
failures, the one that is least deep in the document counts, and of those the first.

Two things are taken to be as they hardly ever are otherwise: no text is nested so deep that its
reader gives up (`Error.tooDeep`), and no collection holds an alias to itself. What is proved about
configurations holds of every `Yaml.Loader`, and so it does not rest on this.
-/

namespace EchoWatch.Yaml

/-! ### Scalars -/

/-- Whether a text is a truth value, and which. -/
def truth? (word : String) : Option Bool :=
  if ["yes", "true", "on"].contains word then some true
  else if ["no", "false", "off"].contains word then some false
  else none

/-- Why a zone is no zone, if it is none: it must be less than a day away. -/
def zoneFault? (zone : Zone) : Option String :=
  if -1440 < zone ∧ zone < 1440 then none
  else
    let shown := Value.timeLiteral (60000000 * zone)
    some ("offset must be a timedelta strictly between -timedelta(hours=24) and"
      ++ s!" timedelta(hours=24), not {shown}.")

/-- Why a date is no day of the calendar, if it is none. -/
def dateFault? (year month day : Nat) : Option String :=
  if year = 0 then some "year 0 is out of range"
  else if month = 0 ∨ 12 < month then some "month must be in 1..12"
  else if day = 0 ∨ Calendar.daysInMonth year month < day then
    some "day is out of range for month"
  else none

/-- Why a time is no time of day, if it is none. -/
def timeFault? (t : TimeOfDay) : Option String :=
  if 23 < t.hour then some "hour must be in 0..23"
  else if 59 < t.minute then some "minute must be in 0..59"
  else if 59 < t.second then some "second must be in 0..59"
  else none

def Timestamp.value (t : Timestamp) : Except Error Value :=
  let date := dateFault? t.year t.month t.day
  match t.time with
  | none =>
    match date with
    | some message => .error (.badValue message)
    | none => .ok (.date ⟨t.year, t.month, t.day⟩)
  | some time =>
    match (time.zone.bind zoneFault?).or (date.or (timeFault? time)) with
    | some message => .error (.badValue message)
    | none =>
      .ok (.moment (.ofFields ⟨t.year, t.month, t.day⟩ time.hour time.minute time.second time.micro
        (time.zone.map fun minutes => .fixed (60000000 * minutes))))

/-- The value of a scalar whose tag is not that of a collection. -/
def scalarValue (tag : Tag) (text : List Char) : Except Error Value :=
  match tag with
  | .null => .ok .null
  | .text => .ok (.text (String.ofList text))
  | .bool =>
    let word := String.ofList (Text.lower text)
    match truth? word with
    | some b => .ok (.bool b)
    | none => .error (.notTruth word)
  | .int => (Number.readInt text).map .int
  | .float => (Number.readFloat text).map .float
  | .timestamp =>
    match Timestamp.read? text with
    | some t => t.value
    | none => .error .notTimestamp
  | .binary =>
    match Base64.read? text with
    | some bytes => .ok (.bytes bytes)
    | none => .error .malformed
  | _ => .error .malformed

/-- Whether a tag is that of a collection. -/
def Tag.isCollection : Tag → Bool
  | .sequence | .mapping | .set | .orderedMapping | .pairs => true
  | _ => false

/-! ### Failures -/

/-- A failure, and how deep in the document it is. -/
structure Failure where
  depth : Nat
  error : Error
  deriving Repr

/-- A value or a failure. -/
abbrev Outcome (α : Type) := Except Failure α

namespace Outcome

variable {α β : Type}

/-- An outcome right here. -/
def here : Except Error α → Outcome α
  | .ok a => .ok a
  | .error e => .error ⟨0, e⟩

/-- An outcome seen from one step further out. -/
def deeper : Outcome α → Outcome α
  | .ok a => .ok a
  | .error f => .error { f with depth := f.depth + 1 }

/-- Two outcomes. Of two failures the less deep one counts, and the first of equals. -/
def both : Outcome α → Outcome β → Outcome (α × β)
  | .ok a, .ok b => .ok (a, b)
  | .error f, .ok _ => .error f
  | .ok _, .error g => .error g
  | .error f, .error g => .error (if g.depth < f.depth then g else f)

/-- All outcomes of a list. -/
def all : List (Outcome α) → Outcome (List α)
  | [] => .ok []
  | o :: os => (both o (all os)).map fun (a, as) => a :: as

/-- A collection of what the given outcomes hold. -/
def within (collect : List α → β) (os : List (Outcome α)) : Outcome β :=
  match all os with
  | .ok as => .ok (collect as)
  | .error f => .error { f with depth := f.depth + 1 }

/-- A structure that no value has. -/
def malformed : Outcome α :=
  .error ⟨0, .malformed⟩

end Outcome

/-! ### Collections -/

namespace Node

mutual

/-- The text of a scalar, or of what a mapping gives as its value. -/
def text? : Node → Option (List Char)
  | scalar _ text => some text
  | sequence _ _ => none
  | mapping _ entries => valueText? entries

/-- The text under the key for the value. -/
def valueText? : List (Node × Node) → Option (List Char)
  | [] => none
  | (k, v) :: r => if k.tag = .value then text? v else valueText? r

end

/-- What the key of an entry stands for, given the value of its node. A collection is no key, and
what it holds does not matter. The key for a value counts as a text. -/
def keyOf (k : Node) (v : Outcome Value) : Outcome Value :=
  if k.tag.isCollection then Outcome.malformed
  else
    match k with
    | scalar .value text => .ok (.text (String.ofList text))
    | _ => v

def mapOf (entries : List (Value × Value)) : Value :=
  .map (entries.foldl (fun es (k, v) => Value.insert es k v) [])

/-- The members of a set in the order in which it lists them: whole numbers ascend, anything else
stays as it came. -/
def listed (members : List Value) : List Value :=
  if members.all (·.exactInt?.isSome) then
    members.mergeSort fun a b => a.exactInt?.getD 0 ≤ b.exactInt?.getD 0
  else members

def setOf (entries : List (Value × Value)) : Value :=
  .set (listed ((entries.foldl (fun es (k, v) => Value.insert es k v) []).map Prod.fst))

mutual

/-- Whether nothing but mappings and lists of mappings is merged into the mapping of the given
entries, and into those in their turn. -/
def mergesFit : List (Node × Node) → Bool
  | [] => true
  | (k, v) :: r => (k.tag ≠ .merge || v.givesEntries) && mergesFit r

/-- Whether a node is a mapping or a list of mappings that has entries to give. -/
def givesEntries : Node → Bool
  | mapping _ entries => mergesFit entries
  | sequence _ nodes => allMergesFit nodes
  | scalar _ _ => false

/-- Whether all nodes of a list are mappings that have entries to give. -/
def allMergesFit : List Node → Bool
  | [] => true
  | mapping _ entries :: ns => mergesFit entries && allMergesFit ns
  | _ :: _ => false

end

mutual

/-- The value of a node. In a mapping, what is merged in comes first. -/
def value : Node → Outcome Value
  | scalar tag text =>
    if tag.isCollection then Outcome.malformed.deeper else .here (scalarValue tag text)
  | sequence tag nodes =>
    match tag with
    | .sequence => Outcome.within Value.list (values nodes)
    | .orderedMapping | .pairs => Outcome.within Value.list (pairValues nodes)
    | .mapping | .set => Outcome.malformed.deeper
    | _ => Outcome.malformed
  | mapping tag nodes =>
    match tag with
    | .mapping | .set =>
      -- a mapping is put together before any of its entries is looked at
      if !mergesFit nodes then Outcome.malformed.deeper
      else
        Outcome.within (if tag = .set then setOf else mapOf) (merged nodes ++ written nodes)
    | .sequence | .orderedMapping | .pairs => Outcome.malformed.deeper
    | _ =>
      match valueText? nodes with
      | some text =>
        .here (if tag = .timestamp then .error .wrappedTimestamp else scalarValue tag text)
      | none => Outcome.malformed

def values : List Node → List (Outcome Value)
  | [] => []
  | n :: ns => n.value :: values ns

/-- The pairs of an ordered mapping: each item is a mapping with one entry. -/
def pairValues : List Node → List (Outcome Value)
  | [] => []
  | mapping _ [(k, v)] :: ns =>
    ((Outcome.both k.value v.value).map fun (k, v) => Value.pair k v) :: pairValues ns
  | _ :: ns => Outcome.malformed :: pairValues ns

/-- The entries that are merged into a mapping. -/
def merged : List (Node × Node) → List (Outcome (Value × Value))
  | [] => []
  | (k, v) :: r => if k.tag = .merge then mergedFrom v ++ merged r else merged r

/-- The entries that a mapping, or a list of mappings, has to give. Of the mappings in a list the
first one counts most. -/
def mergedFrom : Node → List (Outcome (Value × Value))
  | mapping _ nodes => merged nodes ++ written nodes
  | sequence _ nodes => mergedFromAll nodes
  | scalar _ _ => []

/-- The entries of the mappings in a list, the last one's first. -/
def mergedFromAll : List Node → List (Outcome (Value × Value))
  | [] => []
  | mapping _ nodes :: ns => mergedFromAll ns ++ (merged nodes ++ written nodes)
  | _ :: ns => mergedFromAll ns

/-- The entries that are written out in a mapping. -/
def written : List (Node × Node) → List (Outcome (Value × Value))
  | [] => []
  | (k, v) :: r =>
    if k.tag = .merge then written r
    else Outcome.both (k.keyOf k.value) v.value :: written r

end

end Node

/-- What finds the document in the bytes of a file. -/
abbrev Loader := List UInt8 → Except Error Value

/-- The value of the one document in a text that is given by its bytes. -/
def read : Loader := fun bytes =>
  match Node.ofDraft (.ofBytes bytes) with
  | .error e => .error e
  | .ok n => (Node.value n).mapError Failure.error

end EchoWatch.Yaml
