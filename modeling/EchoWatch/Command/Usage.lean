import EchoWatch.Command.Grammar
import EchoWatch.Text.Split
/-!
# Usage and help texts

How a grammar is explained on lines of 78 characters: a usage text that shows everything that may
be written, and a help text that adds what each thing means, in two columns.
-/

namespace EchoWatch.Command

/-- The characters of a line. -/
def lineWidth : Nat := 78

/-- The column at which explanations start at the latest. -/
def maxColumn : Nat := 24

def blanks (n : Nat) : String :=
  String.ofList (List.replicate n ' ')

def joined (sep : String) (parts : List String) : String :=
  String.intercalate sep parts

def braced (choices : List String) : String :=
  "\x7b" ++ joined "," choices ++ "\x7d"

/-! ### What is written -/

/-- What stands for the argument of an option; nothing if it takes none. -/
def OptionSpec.argument? (o : OptionSpec) : Option String :=
  match o.kind with
  | .argument [] =>
    some (String.ofList (o.name.toList.map fun c => if c = '-' then '_' else c.toUpper))
  | .argument choices => some (braced choices)
  | _ => none

/-- A spelling of an option with what stands for its argument. -/
def OptionSpec.written (o : OptionSpec) (spelling : String) : String :=
  match o.argument? with
  | some a => s!"{spelling} {a}"
  | none => spelling

def OptionSpec.shown (o : OptionSpec) : String :=
  joined ", " (o.spellings.map o.written)

/-- The parts of an option in a usage text; those of one that may be left out stay together. -/
def OptionSpec.usageParts (o : OptionSpec) : List String :=
  let spelling := o.spellings.headD ""
  if o.required then spelling :: o.argument?.toList else ["[" ++ o.written spelling ++ "]"]

/-- The operands and the commands of a grammar in a usage text. -/
def Grammar.operandParts (g : Grammar) : List String :=
  g.operands.map Operand.name ++
    if g.commands.isEmpty then [] else [braced g.commandNames, "..."]

/-! ### Usage -/

/-- Parts on lines that are not too long; the first line starts with `used` characters taken. -/
def fillLines (indent : Nat) : (used : Nat) → (line : List String) → List String → List String
  | _, [], [] => []
  | _, line, [] => [joined " " line]
  | used, line, p :: ps =>
    if lineWidth < used + 1 + p.length ∧ line ≠ [] then
      joined " " line :: fillLines indent (indent - 1 + p.length + 1) [p] ps
    else fillLines indent (used + p.length + 1) (line ++ [p]) ps

/-- What every usage text starts with. -/
def usageHead : String := "usage: "

/-- The usage text of a program. On more than one line, operands start on a line of their own. -/
def Grammar.usage (g : Grammar) (program : String) : String :=
  let options := g.options.flatMap OptionSpec.usageParts
  let oneLine := usageHead ++ joined " " (program :: (options ++ g.operandParts))
  if oneLine.length ≤ lineWidth then oneLine
  else
    let indent := usageHead.length + program.length + 1
    let lines := fillLines indent (usageHead.length - 1) [] (program :: options) ++
      fillLines indent (indent - 1) [] g.operandParts
    usageHead ++ joined ("\n" ++ blanks indent) lines

/-! ### Help -/

/-- The words of a text on lines of at most the given width. -/
def wrap (width : Nat) (text : String) : List String :=
  go [] ((Text.split ' ' text.toList).map String.ofList)
where
  go (line : List String) : List String → List String
    | [] => if line = [] then [] else [joined " " line]
    | w :: ws =>
      if line ≠ [] ∧ width < (joined " " (line ++ [w])).length then joined " " line :: go [w] ws
      else go (line ++ [w]) ws

/-- A line of a help text: its indentation, what is explained, and the explanation. -/
structure HelpLine where
  indent : Nat
  head : String
  help : Option String

/-- A line of a help text, with its explanation at a column. -/
def HelpLine.lines (column : Nat) (l : HelpLine) : List String :=
  let head := blanks l.indent ++ l.head
  match l.help with
  | none => [head]
  | some help =>
    let explained := (wrap (lineWidth - column) help).map fun text => blanks column ++ text
    -- a head that reaches into the column gets a line of its own
    if head.length + 2 ≤ column then
      match explained with
      | first :: rest =>
        (head ++ String.ofList (first.toList.drop head.length)) :: rest
      | [] => [head]
    else head :: explained

def Grammar.operandLines (g : Grammar) : List HelpLine :=
  g.operands.map (fun o => ⟨2, o.name, some o.help⟩) ++
    if g.commands.isEmpty then []
    else
      ⟨2, braced g.commandNames, g.place.help⟩ ::
        g.commands.map fun (name, help, _) => ⟨4, name, some help⟩

def Grammar.optionLines (g : Grammar) : List HelpLine :=
  g.options.map fun o => ⟨2, o.shown, some o.help⟩

def Grammar.helpColumn (g : Grammar) : Nat :=
  let longest := ((g.operandLines ++ g.optionLines).map fun l => l.head.length).foldl max 0
  min (longest + 4) maxColumn

/-- A section of a help text, if there is anything in it. -/
def titled? (title : String) (column : Nat) (ls : List HelpLine) : Option String :=
  if ls.isEmpty then none
  else some (joined "\n" ((title ++ ":") :: ls.flatMap (HelpLine.lines column)))

def Grammar.help (g : Grammar) (program : String) : String :=
  let column := g.helpColumn
  let parts := [
    some (g.usage program), g.description, titled? "positional arguments" column g.operandLines,
    titled? "options" column g.optionLines]
  joined "\n\n" (parts.filterMap id) ++ "\n"

end EchoWatch.Command
