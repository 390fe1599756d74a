import EchoWatch.Yaml.Cursor
/-!
# Tokens

The tokens of a YAML text, with the starts and ends of blocks made explicit.
-/

namespace EchoWatch.Yaml

/-- Why a text is no single YAML document, or why one of its scalars has no value. -/
inductive Error where
  | malformed
  /-- The bytes of the text are no characters. -/
  | undecodable
  /-- A value is out of the range of its type; the message says which. -/
  | badValue (message : String)
  /-- A number has no digit at all. -/
  | emptyNumber
  /-- A moment in time is not written as one. -/
  | notTimestamp
  /-- A moment in time stands in a mapping and is no text itself. -/
  | wrappedTimestamp
  /-- A truth value is not written as one. -/
  | notTruth (text : String)
  /-- A character's number does not fit in 32 bits with a sign. -/
  | numberTooLarge
  /-- A place of a number is worth more than any double. -/
  | placeTooLarge
  /-- The text is nested deeper than the reader can follow. -/
  | tooDeep (message : String)
  deriving DecidableEq, Repr

/-- Where the reading of a text stops, and why. -/
structure Halt where
  error : Error
  index : Nat
  deriving DecidableEq, Repr

def Cursor.halt (c : Cursor) (e : Error := .malformed) : Halt :=
  ⟨e, c.index⟩

inductive Token where
  | yamlDirective (major : Nat)
  | tagDirective (handle expansion : List Char)
  | otherDirective
  | documentStart
  | documentEnd
  | streamEnd
  | blockSequenceStart
  | blockMappingStart
  | blockEnd
  | flowSequenceStart
  | flowSequenceEnd
  | flowMappingStart
  | flowMappingEnd
  | blockEntry
  | flowEntry
  | key
  | value
  | alias (name : List Char)
  | anchor (name : List Char)
  | tag (handle : Option (List Char)) (suffix : List Char)
  | scalar (plain : Bool) (text : List Char)
  deriving DecidableEq, Repr

end EchoWatch.Yaml
