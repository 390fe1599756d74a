import EchoWatch.Number.Binary64
import EchoWatch.Time.Moment
/-!
# Document values

What a configuration document holds: scalars, lists and mappings. A mapping keeps its entries in
the order in which their keys first appeared; its keys may be any scalar.
-/

namespace EchoWatch

/-- A value of a document. -/
inductive Value where
  | null
  | bool (b : Bool)
  | int (n : Int)
  | float (x : Binary64)
  | text (s : String)
  | bytes (bs : List UInt8)
  | date (d : Calendar.Date)
  | moment (m : Moment)
  | list (items : List Value)
  /-- A pair of an ordered mapping. -/
  | pair (key value : Value)
  /-- A set keeps its members in order. -/
  | set (members : List Value)
  | map (entries : List (Value × Value))
  deriving Inhabited, Repr

namespace Value

def isText (key : String) : Value → Bool
  | text s => s = key
  | _ => false

/-- The value under a text key. -/
def lookup? (key : String) (entries : List (Value × Value)) : Option Value :=
  (entries.find? fun entry => entry.1.isText key).map Prod.snd

/-- The integer that a scalar equals, if any. -/
def exactInt? : Value → Option Int
  | int n => some n
  | bool b => some (if b then 1 else 0)
  | float x => x.toInt?
  | _ => none

/-- The one value that documents have for what is no number: it is the same as itself. -/
def isCommonNan : Value → Bool
  | float (.nan true) => true
  | _ => false

/-- Whether two scalars are the same key. Numbers are compared by value, whatever their kind. -/
def sameKey (a b : Value) : Bool :=
  match a.exactInt?, b.exactInt? with
  | some m, some n => m = n
  | some _, none => false
  | none, some _ => false
  | none, none =>
    match a, b with
    | null, null => true
    | float x, float y => x.eq y || ((float x).isCommonNan && (float y).isCommonNan)
    | text s, text t => s = t
    | bytes s, bytes t => s = t
    | date d, date e => d = e
    | moment m, moment n => m.elapsed? n = some 0
    | _, _ => false

/-- Entries with one more: a key that is there already keeps its place and takes the new value. -/
def insert (entries : List (Value × Value)) (key value : Value) : List (Value × Value) :=
  match entries with
  | [] => [(key, value)]
  | (k, v) :: rest =>
    if k.sameKey key then (k, value) :: rest else (k, v) :: insert rest key value

end Value
end EchoWatch
