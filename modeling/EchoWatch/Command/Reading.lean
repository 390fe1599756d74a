import EchoWatch.Command.Usage
import EchoWatch.Text.Digit
import EchoWatch.Text.Quoted
/-!
# Reading command lines

`Grammar.read` reads the arguments of a program. Arguments that look like options are recognised
first, also by the beginnings of their long spellings, up to two hyphens that stand alone; then
options and operands are taken as they come. A command takes all that follows it. Arguments that
nobody takes are collected and refused at the end.
-/

namespace EchoWatch.Command

/-- What a command line says. Of values given twice the later one comes first. -/
structure Parsed where
  /-- The chosen commands, from the outside in. -/
  path : List String
  /-- The values of options and operands. Two hyphens in the word of an option are no value. -/
  values : List (String × Option String)
  switches : List String
  /-- Arguments that nobody takes. -/
  extras : List String
  deriving DecidableEq, Repr

namespace Parsed

def empty : Parsed := ⟨[], [], [], []⟩

/-- The value of an option or an operand: the one given, if that is one, or else a default. -/
def value? (p : Parsed) (name : String) (default_ : String) : Option String :=
  (p.values.lookup name).getD (some default_)

def isOn (p : Parsed) (name : String) : Bool :=
  p.switches.contains name

end Parsed

/-- Why reading ends early: the help text was asked for, or the command line is refused. -/
inductive Stop where
  | help (text : String)
  | refused (usage program message : String)
  deriving DecidableEq, Repr

/-! ### Shapes of arguments -/

/-- An option as it was recognised: the option, the spelling, and an argument in the same word. -/
structure Spotted where
  option : OptionSpec
  spelling : String
  attached : Option (List Char)

inductive Shape where
  | operand
  | option (found : Spotted)
  /-- It looks like an option, but there is no such option. -/
  | unknownOption
  /-- Two hyphens alone. -/
  | separator

abbrev Item := String × Shape

/-- A hyphen with a number after it, which is no option. A line feed may end it. -/
def isNegativeNumber : List Char → Bool
  | '-' :: text =>
    let r := if text.getLast? = some '\n' then text.dropLast else text
    let whole := r.takeWhile Text.isDigit
    match r.dropWhile Text.isDigit with
    | [] => whole ≠ []
    | '.' :: fraction => fraction ≠ [] && fraction.all Text.isDigit
    | _ => false
  | _ => false

def Grammar.spellings (g : Grammar) : List (String × OptionSpec) :=
  g.options.flatMap fun o => o.spellings.map fun s => (s, o)

/-- A word before its first equals sign, and what follows the sign. -/
def cutEquals (word : List Char) : String × Option (List Char) :=
  match Text.cut? '=' word with
  | some (before, after) => (String.ofList before, some after)
  | none => (String.ofList word, none)

/-- The options whose spelling a word may be meant for. -/
def Grammar.candidates (g : Grammar) (word : List Char) : List Spotted :=
  if ['-', '-'].isPrefixOf word then
    let (start, attached) := cutEquals word
    g.spellings.filterMap fun (s, o) =>
      if start.toList.isPrefixOf s.toList then some ⟨o, s, attached⟩ else none
  else
    g.spellings.filterMap fun (s, o) =>
      if s.toList = word.take 2 then some ⟨o, s, some (word.drop 2)⟩
      else if word.isPrefixOf s.toList then some ⟨o, s, none⟩
      else none

/-- The shape of an argument before any separator; options that it could all be meant for make it
ambiguous. -/
def Grammar.shape (g : Grammar) (arg : String) : Except (List String) Shape :=
  let word := arg.toList
  if word.head? ≠ some '-' then .ok .operand
  else
    match g.spellings.lookup arg with
    | some o => .ok (.option ⟨o, arg, none⟩)
    | none =>
      -- a hyphen alone is an operand
      if word.length = 1 then .ok .operand
      else
        let (before, attached) := cutEquals word
        match if attached.isSome then g.spellings.lookup before else none with
        | some o => .ok (.option ⟨o, before, attached⟩)
        | none =>
          match g.candidates word with
          | [one] => .ok (.option one)
          | [] =>
            .ok (if isNegativeNumber word || word.contains ' ' then .operand else .unknownOption)
          | many => .error (many.map Spotted.spelling)

/-- The arguments with their shapes. After the separator there are only operands. -/
def Grammar.shapes (g : Grammar) : List String → Except (String × List String) (List Item)
  | [] => .ok []
  | arg :: rest =>
    if arg = "--" then .ok ((arg, .separator) :: rest.map fun a => (a, .operand))
    else
      match g.shape arg with
      | .error many => .error (arg, many)
      | .ok s => (g.shapes rest).map ((arg, s) :: ·)

namespace Item

def isOption (i : Item) : Bool :=
  match i.2 with
  | .option _ | .unknownOption => true
  | _ => false

def isSeparator (i : Item) : Bool :=
  match i.2 with
  | .separator => true
  | _ => false

end Item

/-! ### Messages -/

inductive Flaw where
  | ambiguous (arg : String) (matches_ : List String)
  | ignoredArgument (o : OptionSpec) (text : List Char)
  | noArgument (o : OptionSpec)
  | badChoice (what : String) (given : String) (choices : List String)
  | required (names : List String)
  | unrecognized (args : List String)
  deriving DecidableEq, Repr

/-- All spellings of an option, as messages name it. -/
def OptionSpec.label (o : OptionSpec) : String :=
  joined "/" o.spellings

def Flaw.message : Flaw → String
  | .ambiguous arg candidates =>
    let shown := joined ", " candidates
    s!"ambiguous option: {arg} could match {shown}"
  | .ignoredArgument o text =>
    let label := o.label
    let shown := Text.quoted (String.ofList text)
    s!"argument {label}: ignored explicit argument {shown}"
  | .noArgument o =>
    let label := o.label
    s!"argument {label}: expected one argument"
  | .badChoice what given choices =>
    let shown := Text.quoted given
    let offered := joined ", " (choices.map Text.quoted)
    s!"argument {what}: invalid choice: {shown} (choose from {offered})"
  | .required names =>
    let shown := joined ", " names
    s!"the following arguments are required: {shown}"
  | .unrecognized args =>
    let shown := joined " " args
    s!"unrecognized arguments: {shown}"

def Grammar.refuse (g : Grammar) (program : String) (f : Flaw) : Stop :=
  .refused (g.usage program) program f.message

/-! ### Options -/

structure Taken where
  option : OptionSpec
  argument : Option String

/-- Takes the options in one word, and the next word as the argument of the last one if it needs
one. Short options may share a word; all of it must be options then. -/
def Grammar.takeOptions (g : Grammar) (s : Spotted) :
    (fuel : Nat) → List Item → Except Flaw (List Taken × List Item)
  | 0, rest => .ok ([], rest)
  | fuel + 1, rest =>
    match s.attached, s.option.kind with
    -- the argument is in the same word
    | some ['-', '-'], .argument _ => .ok ([⟨s.option, none⟩], rest)
    | some text, .argument _ => .ok ([⟨s.option, some (String.ofList text)⟩], rest)
    | some [], _ => .error (.ignoredArgument s.option [])
    | some (c :: more), _ =>
      -- the rest of a word with a short option is another short option
      let spelling := String.ofList ['-', c]
      let inner :=
        if ['-', '-'].isPrefixOf s.spelling.toList then none else g.spellings.lookup spelling
      match inner with
      | none => .error (.ignoredArgument s.option (c :: more))
      | some o =>
        let attached := if more = [] then none else some more
        (g.takeOptions ⟨o, spelling, attached⟩ fuel rest).map fun (taken, rest) =>
          (⟨s.option, none⟩ :: taken, rest)
    | none, .argument _ =>
      match rest with
      | (arg, .operand) :: rest => .ok ([⟨s.option, some arg⟩], rest)
      | _ => .error (.noArgument s.option)
    | none, _ => .ok ([⟨s.option, none⟩], rest)

/-- What a command line says after an option was taken. -/
def Parsed.take (p : Parsed) (t : Taken) : Except Flaw Parsed :=
  match t.option.kind with
  | .help => .ok p
  | .switch => .ok { p with switches := t.option.name :: p.switches }
  | .argument choices =>
    match t.argument.filter fun arg => !choices.isEmpty && !choices.contains arg with
    | some arg => .error (.badChoice t.option.label arg choices)
    | none => .ok { p with values := (t.option.name, t.argument) :: p.values }

def Grammar.takeAll (g : Grammar) (program : String) (p : Parsed) : List Taken → Except Stop Parsed
  | [] => .ok p
  | t :: ts =>
    if t.option.kind = .help then .error (.help (g.help program))
    else
      match p.take t with
      | .error f => .error (g.refuse program f)
      | .ok p => g.takeAll program p ts

/-! ### Operands and commands -/

/-- The first operand, if one comes next: separators around it are passed over. -/
def nextOperand? (items : List Item) : Option (String × List Item) :=
  match items.dropWhile Item.isSeparator with
  | (arg, .operand) :: rest => some (arg, rest.dropWhile Item.isSeparator)
  | _ => none

/-- The operands that come next: their values, the operands still open, and the rest. -/
def takeOperands :
    List Operand → List Item → List (String × Option String) × List Operand × List Item
  | [], items => ([], [], items)
  | o :: os, items =>
    match nextOperand? items with
    | none => ([], o :: os, items)
    | some (arg, rest) =>
      let (values, os, rest) := takeOperands os rest
      ((o.name, some arg) :: values, os, rest)

/-- A reading in progress: what was read, the options seen, the operands that are still open, and
whether a command may still come. -/
structure Progress where
  parsed : Parsed
  seen : List String
  operands : List Operand
  commandOpen : Bool
  /-- The arguments that nobody took, of this grammar and of its commands. -/
  extras : List String
  laterExtras : List String

/-- What is missing in the end. -/
def Grammar.missing (g : Grammar) (p : Progress) : List String :=
  (g.options.filter fun o => o.required && !p.seen.contains o.name).map OptionSpec.label ++
    p.operands.map Operand.name

mutual

/-- Reads the arguments of a program; those that nobody takes are left. -/
def Grammar.readKnown (g : Grammar) (program : String) :
    (fuel : Nat) → List String → Except Stop Parsed
  | 0, _ => .ok .empty
  | fuel + 1, args =>
    match g.shapes args with
    | .error (arg, many) => .error (g.refuse program (.ambiguous arg many))
    | .ok items =>
      match g.walk program fuel ⟨.empty, [], g.operands, !g.commands.isEmpty, [], []⟩ items with
      | .error stop => .error stop
      | .ok p =>
        match g.missing p with
        | [] => .ok { p.parsed with extras := p.extras ++ p.laterExtras }
        | names => .error (g.refuse program (.required names))

/-- Takes options and operands as they come. -/
def Grammar.walk (g : Grammar) (program : String) :
    (fuel : Nat) → Progress → List Item → Except Stop Progress
  | 0, p, _ => .ok p
  | fuel + 1, p, items =>
    match items with
    | [] => .ok p
    | (arg, .unknownOption) :: rest =>
      g.walk program fuel { p with extras := p.extras ++ [arg] } rest
    | (_, .option s) :: rest =>
      match g.takeOptions s ((s.attached.getD []).length + 1) rest with
      | .error f => .error (g.refuse program f)
      | .ok (taken, rest) =>
        match g.takeAll program p.parsed taken with
        | .error stop => .error stop
        | .ok parsed =>
          g.walk program fuel
            { p with parsed := parsed, seen := taken.map (fun t => t.option.name) ++ p.seen } rest
    | items =>
      let (values, operands, rest) := takeOperands p.operands items
      let p' := { p with
        parsed := { p.parsed with values := values ++ p.parsed.values }
        operands := operands }
      if operands.isEmpty && p.commandOpen && (nextOperand? rest).isSome then
        g.readCommand program fuel p' (rest.map Prod.fst)
      else if values.isEmpty then
        -- nobody takes what comes up to the next option
        let (skipped, rest) := items.span fun i => !i.isOption
        g.walk program fuel { p' with extras := p.extras ++ skipped.map Prod.fst } rest
      else g.walk program fuel p' rest

def Grammar.readCommand (g : Grammar) (program : String) :
    (fuel : Nat) → Progress → List String → Except Stop Progress
  | 0, p, _ => .ok p
  | _, p, [] => .ok p
  | fuel + 1, p, name :: args =>
    match g.command? name with
    | none =>
      .error (g.refuse program (.badChoice g.place.name name g.commandNames))
    | some inner =>
      match inner.readKnown (program ++ " " ++ name) fuel args with
      | .error stop => .error stop
      | .ok q =>
        .ok { p with
          parsed := {
            path := name :: q.path
            values := q.values ++ p.parsed.values
            switches := q.switches ++ p.parsed.switches
            extras := [] }
          commandOpen := false
          laterExtras := q.extras }

end

/-- Reads the arguments of a program. -/
def Grammar.read (g : Grammar) (program : String) (args : List String) : Except Stop Parsed :=
  match g.readKnown program (4 * args.length + 4) args with
  | .error stop => .error stop
  | .ok p =>
    if p.extras = [] then .ok p else .error (g.refuse program (.unrecognized p.extras))

end EchoWatch.Command
