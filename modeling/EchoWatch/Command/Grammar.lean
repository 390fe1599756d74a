/-!
# Grammars of command lines

What may stand on a command line: options, operands, and commands with grammars of their own.
-/

namespace EchoWatch.Command

inductive OptionKind where
  /-- It asks for the help text. -/
  | help
  /-- It is there or not. -/
  | switch
  /-- It takes an argument; where choices are listed, one of them. -/
  | argument (choices : List String)
  deriving DecidableEq, Repr

/-- An option. It is known by its name and written in one of its spellings. -/
structure OptionSpec where
  spellings : List String
  name : String
  kind : OptionKind
  required : Bool := false
  help : String
  deriving DecidableEq, Repr

/-- An argument that is known by its place. -/
structure Operand where
  name : String
  help : String
  deriving DecidableEq, Repr

/-- The place of a command: its name, and the help text for all commands together. -/
structure CommandPlace where
  name : String
  help : Option String
  deriving DecidableEq, Repr

/-- A grammar. Commands are listed with their help texts. -/
inductive Grammar where
  | mk (description : Option String) (options : List OptionSpec) (operands : List Operand)
    (place : CommandPlace) (commands : List (String × String × Grammar))

namespace Grammar

def description : Grammar → Option String
  | mk d _ _ _ _ => d

/-- The options that were added to the one for help. -/
def ownOptions : Grammar → List OptionSpec
  | mk _ o _ _ _ => o

def operands : Grammar → List Operand
  | mk _ _ o _ _ => o

def place : Grammar → CommandPlace
  | mk _ _ _ p _ => p

def commands : Grammar → List (String × String × Grammar)
  | mk _ _ _ _ c => c

/-- The option that every grammar has. -/
def helpOption : OptionSpec :=
  { spellings := ["-h", "--help"], name := "help", kind := .help
    help := "show this help message and exit" }

def options (g : Grammar) : List OptionSpec :=
  helpOption :: g.ownOptions

def commandNames (g : Grammar) : List String :=
  g.commands.map Prod.fst

def command? (g : Grammar) (name : String) : Option Grammar :=
  (g.commands.find? fun c => c.1 = name).map fun c => c.2.2

/-- A grammar without commands. -/
def leaf (options : List OptionSpec) (operands : List Operand) : Grammar :=
  mk none options operands ⟨"", none⟩ []

/-- A grammar that has nothing but commands. -/
def group (place : String) (commands : List (String × String × Grammar)) : Grammar :=
  mk none [] [] ⟨place, none⟩ commands

end Grammar
end EchoWatch.Command
