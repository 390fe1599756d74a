import EchoWatch.Yaml.Layout
import EchoWatch.Yaml.Tag
/-!
# From tokens to nodes

A document is a tree of nodes, each with the tag that says what it stands for. The reader below
descends along the grammar of tokens; a node that is left out counts as an empty scalar. An anchor
names a node, and an alias stands for the node so named.
-/

namespace EchoWatch.Yaml

inductive Node where
  | scalar (tag : Tag) (text : List Char)
  | sequence (tag : Tag) (items : List Node)
  | mapping (tag : Tag) (entries : List (Node × Node))
  deriving Repr

namespace Node

def tag : Node → Tag
  | scalar t _ | sequence t _ | mapping t _ => t

/-- The node that stands where nothing is written. -/
def absent : Node :=
  scalar (Tag.implied []) []

/-! ### Properties -/

/-- A tag in front of a node: none, a single exclamation mark, or a tag by its name. -/
inductive Label where
  | none
  | bare
  | named (tag : Tag)
  deriving DecidableEq, Repr

/-- The tag of a scalar. The exclamation mark makes every scalar count as plain. -/
def Label.ofScalar (label : Label) (plain : Bool) (text : List Char) : Tag :=
  match label with
  | .named t => t
  | .bare => Tag.implied text
  | .none => if plain then Tag.implied text else .text

/-- The tag of a collection. -/
def Label.ofCollection (label : Label) (otherwise : Tag) : Tag :=
  match label with
  | .named t => t
  | _ => otherwise

/-- What the handles of tags stand for. -/
abbrev Handles := List (List Char × List Char)

/-- The handles that need no directive. -/
def commonHandles : Handles :=
  [(['!'], ['!']), (['!', '!'], Tag.common)]

/-! ### The reader -/

/-- What is left to read, what is wrong behind it, and the nodes named so far, the last one
first. -/
structure Source where
  tokens : List Token
  fault : Option Error
  anchors : List (List Char × Node)

/-- A reader of nodes. -/
abbrev Reader := StateT Source (Except Error)

/-- No document can go on like this. -/
def malformed {α : Type} : Reader α :=
  throw .malformed

def next : Reader Token := do
  match (← get).tokens, (← get).fault with
  | t :: _, _ => return t
  | [], some e => throw e
  | [], none => return .streamEnd

def advance : Reader Unit :=
  modify fun s => { s with tokens := s.tokens.drop 1 }

/-- Passes over a token if it comes next, and tells whether it did. -/
def accept (t : Token) : Reader Bool := do
  if (← next) = t then
    advance
    return true
  else return false

/-- The node with a name. -/
def ofAlias (name : List Char) : Reader Node := do
  match (← get).anchors.lookup name with
  | some n => return n
  | none => malformed

/-- Gives a node its name, if it has one. -/
def bindName (anchor : Option (List Char)) (n : Node) : Reader Unit :=
  match anchor with
  | some name => modify fun s => { s with anchors := (name, n) :: s.anchors }
  | none => pure ()

/-- A name that is not taken yet. -/
def freshName (anchor : Option (List Char)) : Reader Unit := do
  if let some name := anchor then
    if ((← get).anchors.lookup name).isSome then malformed

/-- The anchor in front of a node. -/
def anchor? : Reader (Option (List Char)) := do
  match ← next with
  | .anchor name =>
    advance
    return some name
  | _ => return none

/-- The tag in front of a node: its handle and the rest of it. -/
def tag? : Reader (Option (Option (List Char) × List Char)) := do
  match ← next with
  | .tag handle suffix =>
    advance
    return some (handle, suffix)
  | _ => return none

/-- What a tag in front of a node means. -/
def label (handles : Handles) : Option (Option (List Char) × List Char) → Reader Label
  | none => return .none
  | some (none, suffix) => return if suffix = ['!'] then .bare else .named (Tag.ofName suffix)
  | some (some handle, suffix) =>
    match handles.lookup handle with
    | some start =>
      let name := start ++ suffix
      return if name = ['!'] then .bare else .named (Tag.ofName name)
    | none => malformed

/-- The anchor and the tag in front of a node, in either order. -/
def properties (handles : Handles) : Reader (Option (List Char) × Label) := do
  match ← anchor? with
  | some name => return (some name, ← label handles (← tag?))
  | none =>
    let found ← tag?
    -- an anchor behind the tag is read before the tag's handle is looked up
    let name ← if found.isSome then anchor? else pure none
    return (name, ← label handles found)

/-- Reads the inside of a collection. An alias inside it to the collection itself stands for an
empty one. -/
def enclosed {α : Type} (anchor : Option (List Char)) (make : List α → Node)
    (inside : Reader (List α)) : Reader Node := do
  bindName anchor (make [])
  let n := make (← inside)
  bindName anchor n
  return n

/-- Where a node stands: in brackets or braces, in a block, or as a key or a value of a block
mapping, where a sequence needs no deeper column. -/
inductive Site where
  | flow
  | block
  | entry
  deriving DecidableEq, Repr

/-- Whether block collections may stand at a site. -/
def Site.admitsBlocks : Site → Bool
  | flow => false
  | _ => true

mutual

def read (handles : Handles) (site : Site) : (fuel : Nat) → Reader Node
  | 0 => malformed
  | fuel + 1 => do
    if let .alias name := ← next then
      advance
      ofAlias name
    else
      let (anchor, label) ← properties handles
      let t ← next
      if let .scalar plain text := t then
        freshName anchor
        advance
        let n := scalar (label.ofScalar plain text) text
        bindName anchor n
        return n
      let list := sequence (label.ofCollection .sequence)
      let map := mapping (label.ofCollection .mapping)
      let isCollection := t = .flowSequenceStart || t = .flowMappingStart
        || (site.admitsBlocks && (t = .blockSequenceStart || t = .blockMappingStart))
        || (site = .entry && t = .blockEntry)
      if isCollection || anchor.isSome || label ≠ .none then freshName anchor else malformed
      -- a sequence under a key may stand at the column of the key
      if site = .entry ∧ t = .blockEntry then
        enclosed anchor list (aligned handles fuel)
      else if t = .flowSequenceStart then
        advance
        enclosed anchor list (flowItems handles true fuel)
      else if t = .flowMappingStart then
        advance
        enclosed anchor map (flowEntries handles true fuel)
      else if site.admitsBlocks ∧ t = .blockSequenceStart then
        advance
        enclosed anchor list (items handles fuel)
      else if site.admitsBlocks ∧ t = .blockMappingStart then
        advance
        enclosed anchor map (entries handles fuel)
      else
        -- properties without a node are those of an empty scalar
        let n := scalar (label.ofScalar true []) []
        bindName anchor n
        return n

/-- A node, or nothing if one of the given tokens comes next. -/
def readUnless (stops : List Token) (handles : Handles) (site : Site) :
    (fuel : Nat) → Reader Node
  | 0 => malformed
  | fuel + 1 => do
    if stops.contains (← next) then return absent else read handles site fuel

def items (handles : Handles) : (fuel : Nat) → Reader (List Node)
  | 0 => malformed
  | fuel + 1 => do
    if ← accept .blockEntry then
      let item ← readUnless [.blockEntry, .blockEnd] handles .block fuel
      return item :: (← items handles fuel)
    else if ← accept .blockEnd then return []
    else malformed

/-- The items of a block sequence that is aligned with the mapping around it. -/
def aligned (handles : Handles) : (fuel : Nat) → Reader (List Node)
  | 0 => malformed
  | fuel + 1 => do
    if ← accept .blockEntry then
      let item ← readUnless [.blockEntry, .key, .value, .blockEnd] handles .block fuel
      return item :: (← aligned handles fuel)
    else return []

def entries (handles : Handles) : (fuel : Nat) → Reader (List (Node × Node))
  | 0 => malformed
  | fuel + 1 => do
    if ← accept .key then
      let k ← readUnless [.key, .value, .blockEnd] handles .entry fuel
      let v ← if ← accept .value then
          readUnless [.key, .value, .blockEnd] handles .entry fuel
        else pure absent
      return (k, v) :: (← entries handles fuel)
    else if ← accept .blockEnd then return []
    else malformed

/-- The items of a sequence in brackets. An item that is a key is a mapping with one entry. -/
def flowItems (handles : Handles) (first : Bool) : (fuel : Nat) → Reader (List Node)
  | 0 => malformed
  | fuel + 1 => do
    if ← accept .flowSequenceEnd then return []
    if !first then
      if !(← accept .flowEntry) then malformed
    if ← accept .key then
      let k ← readUnless [.value, .flowEntry, .flowSequenceEnd] handles .flow fuel
      let v ← if ← accept .value then
          readUnless [.flowEntry, .flowSequenceEnd] handles .flow fuel
        else pure absent
      return mapping .mapping [(k, v)] :: (← flowItems handles false fuel)
    else if ← accept .flowSequenceEnd then return []
    else
      let item ← read handles .flow fuel
      return item :: (← flowItems handles false fuel)

/-- The entries of a mapping in braces. A node that is no key is one with nothing under it. -/
def flowEntries (handles : Handles) (first : Bool) : (fuel : Nat) → Reader (List (Node × Node))
  | 0 => malformed
  | fuel + 1 => do
    if ← accept .flowMappingEnd then return []
    if !first then
      if !(← accept .flowEntry) then malformed
    if ← accept .key then
      let k ← readUnless [.value, .flowEntry, .flowMappingEnd] handles .flow fuel
      let v ← if ← accept .value then
          readUnless [.flowEntry, .flowMappingEnd] handles .flow fuel
        else pure absent
      return (k, v) :: (← flowEntries handles false fuel)
    else if ← accept .flowMappingEnd then return []
    else
      let k ← read handles .flow fuel
      return (k, absent) :: (← flowEntries handles false fuel)

end

/-! ### Documents -/

/-- The handles that the directives in front of a document add, and whether a version was named. -/
def directives (versioned : Bool) (handles : Handles) : (fuel : Nat) → Reader Handles
  | 0 => malformed
  | fuel + 1 => do
    match ← next with
    | .yamlDirective major =>
      advance
      if versioned ∨ major ≠ 1 then malformed else directives true handles fuel
    | .tagDirective handle start =>
      advance
      if (handles.lookup handle).isSome then malformed
      else directives versioned ((handle, start) :: handles) fuel
    | .otherDirective =>
      advance
      directives versioned handles fuel
    | _ => return handles

/-- Passes over the marks of a document's end. -/
def documentEnds : (fuel : Nat) → Reader Unit
  | 0 => malformed
  | fuel + 1 => do if ← accept .documentEnd then documentEnds fuel

/-- Whether a token starts a document that is announced. -/
def announces : Token → Bool
  | .yamlDirective _ | .tagDirective _ _ | .otherDirective | .documentStart => true
  | _ => false

/-- Whether a token leaves an announced document empty. -/
def leavesEmpty (t : Token) : Bool :=
  announces t || t = .documentEnd || t = .streamEnd

/-- The one document of a text. A text without any stands for an absent node. -/
def document (fuel : Nat) : Reader Node := do
  if (← next) = .streamEnd then return absent
  let root ← if announces (← next) then do
      let added ← directives false [] fuel
      if !(← accept .documentStart) then malformed
      if leavesEmpty (← next) then pure absent
      else read (added ++ commonHandles) .block fuel
    else read commonHandles .block fuel
  documentEnds fuel
  if (← next) = .streamEnd then return root
  else
    -- the start of another document is read before it is found to be one too many
    let _ ← directives false [] fuel
    let _ ← next
    malformed

/-- The document that a text holds. -/
def ofDraft (d : Draft) : Except Error Node :=
  let found := Layout.scan d
  StateT.run' (document (4 * found.tokens.length + 4)) ⟨found.tokens, found.fault, []⟩

end Node
end EchoWatch.Yaml
