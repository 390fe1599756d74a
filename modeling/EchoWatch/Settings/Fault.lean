import EchoWatch.Time.Duration
import EchoWatch.Value
/-!
# Faults of a configuration

A check of a document either gives a value, or lists every fault with its location, or is aborted
by a duration that no number of microseconds can hold. Checks are combined from left to right: the
faults of all parts are collected in order, and an abort ends everything at once.
-/

namespace EchoWatch.Settings

/-- A step on the way to a fault. -/
inductive Locator where
  | key (name : String)
  | index (n : Int)
  deriving DecidableEq, Repr

inductive Cause where
  | missing
  | notModel (model : String)
  | notList
  | notMapping
  | notText
  | notUnicode
  | emptyText
  | notInteger
  | unreadableInteger
  | fractional
  | notFinite
  | tooManyDigits
  | negative
  | rule (message : String)
  deriving DecidableEq, Repr

def Cause.name : Cause → String
  | .missing => "missing"
  | .notModel _ => "model_type"
  | .notList => "list_type"
  | .notMapping => "dict_type"
  | .notText => "string_type"
  | .notUnicode => "string_unicode"
  | .emptyText => "string_too_short"
  | .notInteger => "int_type"
  | .unreadableInteger => "int_parsing"
  | .fractional => "int_from_float"
  | .notFinite => "finite_number"
  | .tooManyDigits => "int_parsing_size"
  | .negative => "greater_than_equal"
  | .rule _ => "value_error"

def Cause.message : Cause → String
  | .missing => "Field required"
  | .notModel model => s!"Input should be a valid dictionary or instance of {model}"
  | .notList => "Input should be a valid list"
  | .notMapping => "Input should be a valid dictionary"
  | .notText => "Input should be a valid string"
  | .notUnicode => "Input should be a valid string, unable to parse raw data as a unicode string"
  | .emptyText => "String should have at least 1 character"
  | .notInteger => "Input should be a valid integer"
  | .unreadableInteger => "Input should be a valid integer, unable to parse string as an integer"
  | .fractional => "Input should be a valid integer, got a number with a fractional part"
  | .notFinite => "Input should be a finite number"
  | .tooManyDigits => "Unable to parse input string as an integer, exceeded maximum size"
  | .negative => "Input should be greater than or equal to 0"
  | .rule message => "Value error, " ++ message

structure Fault where
  cause : Cause
  location : List Locator
  deriving DecidableEq, Repr

/-- A fault seen from one step further out. -/
def Fault.under (step : Locator) (f : Fault) : Fault :=
  { f with location := step :: f.location }

inductive Check (α : Type) where
  | valid (value : α)
  | invalid (faults : List Fault)
  | aborted (cause : Duration.Overflow)
  deriving Repr

namespace Check

variable {α β : Type}

/-- A check that finds one fault, right here. -/
def fault (cause : Cause) : Check α :=
  invalid [⟨cause, []⟩]

def map (f : α → β) : Check α → Check β
  | valid a => valid (f a)
  | invalid faults => invalid faults
  | aborted cause => aborted cause

/-- Two checks, the left one first. Faults of both are kept. -/
def both : Check α → Check β → Check (α × β)
  | aborted cause, _ => aborted cause
  | _, aborted cause => aborted cause
  | invalid faults, invalid more => invalid (faults ++ more)
  | invalid faults, valid _ => invalid faults
  | valid _, invalid faults => invalid faults
  | valid a, valid b => valid (a, b)

/-- A second check of a value that passed the first. -/
def andThen (first : Check α) (second : α → Check β) : Check β :=
  match first with
  | valid a => second a
  | invalid faults => invalid faults
  | aborted cause => aborted cause

/-- A check of a part, with its faults located in the whole. -/
def located (step : Locator) : Check α → Check α
  | invalid faults => invalid (faults.map (Fault.under step))
  | other => other

/-- One check after the other along a list. -/
def all : List (Check α) → Check (List α)
  | [] => valid []
  | c :: cs => (both c (all cs)).map fun (a, as) => a :: as

end Check
end EchoWatch.Settings
