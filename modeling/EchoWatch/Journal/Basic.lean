import EchoWatch.Directory
import EchoWatch.Journal.Entry
import EchoWatch.Journal.Template
import EchoWatch.Time.Moment
/-!
# The journal

The journal writes entries to a console stream and, if asked, to a file as well. A set-up replaces
all that an earlier one installed. An entry is written when its level is at least that of the
set-up. Before the first set-up the journal falls back on the error output, where it shows warnings
and what is worse, as bare messages.

A file may have a largest size: a line that would reach it makes the file roll over first. The file
is renamed to a first backup, the backups move on by one, and the last one is dropped.
-/

namespace EchoWatch

/-- The file that a journal writes to, and when it rolls over. -/
structure JournalFile where
  name : String
  maxBytes : Int
  backups : Int
  deriving DecidableEq, Repr

namespace JournalFile

/-- Whether a line makes a file roll over: the bytes in the file and the characters of the line
with its end would reach the largest size. The null device never does. -/
def isFull (f : JournalFile) (d : Directory) (text : String) : Bool :=
  f.name ≠ Directory.nullDevice && 0 < f.maxBytes
    && f.maxBytes ≤ (d.size f.name + text.length : Nat)

def backup (f : JournalFile) (k : Nat) : String :=
  f.name ++ "." ++ String.ofList (Numeral.ofNat k)

/-- Moves the file to its first backup and every backup to the next. -/
def rollOver (f : JournalFile) (d : Directory) : Directory :=
  if f.backups ≤ 0 then d
  else
    let last := f.backups.toNat - 1
    let moved := (List.range last).foldl
      (fun d i => d.rename (f.backup (last - i)) (f.backup (last - i + 1))) d
    (moved.rename f.name (f.backup 1)).put f.name (.text "")

/-- Writes a line to a file. A line with a half of a pair has no bytes and is lost. -/
def write (f : JournalFile) (d : Directory) (text : String) : Directory :=
  let d := if f.isFull d text then f.rollOver d else d
  if Text.hasHalf text then d else d.append f.name text

end JournalFile

/-- A journal: the least severity that is written, and where to. -/
structure Journal where
  threshold : Nat
  /-- The stream of the console, once there is one. -/
  console : Option String
  file : Option JournalFile
  deriving DecidableEq, Repr

namespace Journal

/-- The name above all parts of the program. -/
def root : String := "woodwatch"

/-- The journal before the first set-up, with the threshold of all programs. -/
def initial : Journal :=
  { threshold := 30, console := none, file := none }

/-- The stream that shows the entries of a journal without a console. -/
def lastResort : String := "stderr"

/-- The full name of a part; a name that is full already is not extended twice. -/
def sourceName (name : String) : String :=
  let head := (root ++ ".").toList
  let rest := if head.isPrefixOf name.toList then name.toList.drop head.length else name.toList
  String.ofList (head ++ rest)

/-! ### Lines -/

/-- The line of an entry, without its end. -/
def line (time : Moment) (e : Entry) : String :=
  let stamp := time.stamp
  let level := e.level.name
  let source := e.source
  let message := e.message
  s!"{stamp} [{level}] {source}: {message}"

/-- Whether entries of a level are written. The messages of others are not even put together. -/
def admits (j : Journal) (level : Level) : Bool :=
  j.threshold ≤ level.severity

/-- What an entry looks like on the console, or on the stream of the last resort. -/
def display (j : Journal) (time : Moment) (e : Entry) : String :=
  match j.console with
  | some _ => line time e ++ "\n"
  | none => e.message ++ "\n"

/-- What is shown of an entry, and the files after it. -/
def write (j : Journal) (d : Directory) (time : Moment) (e : Entry) : Option String × Directory :=
  if j.admits e.level then
    (some (j.display time e), match j.file with
      | some f => f.write d (line time e ++ "\n")
      | none => d)
  else (none, d)

/-- Puts a message together from its template and writes it. Below the threshold the template does
not matter. -/
def log (j : Journal) (d : Directory) (time : Moment) (level : Level) (source template : String)
    (args : List Value) : Except Template.Fault (Option String × Directory) :=
  if j.admits level then
    (Template.message template args).map fun message => j.write d time { level, source, message }
  else .ok (none, d)

/-! ### Set-up -/

structure Options where
  level : String := "INFO"
  file : Option String := none
  maxBytes : Int := 10485760
  backups : Int := 5

/-- The letters outside ASCII whose capitals are in ASCII: the dotless i, the long and the sharp s,
and ligatures. -/
def asciiCapitals : List (Char × String) :=
  [
    ('\u00df', "SS"), ('\u0131', "I"), ('\u017f', "S"), ('\ufb00', "FF"), ('\ufb01', "FI"),
    ('\ufb02', "FL"), ('\ufb03', "FFI"), ('\ufb04', "FFL"), ('\ufb05', "ST"), ('\ufb06', "ST")]

/-- The capitals of a letter, as far as names of levels have them. -/
def capitals (c : Char) : List Char :=
  match asciiCapitals.lookup c with
  | some s => s.toList
  | none => [c.toUpper]

/-- What the name of a level stands for. -/
inductive Threshold where
  | severity (n : Nat)
  /-- No threshold of its own: the one of all programs holds. -/
  | inherited
  /-- A name of something that is text but no level. -/
  | text (s : String)
  /-- A name of something that is no level at all. -/
  | other
  deriving DecidableEq, Repr

/-- What the name of a level stands for, in any case; an unknown name stands for `INFO`. -/
def Threshold.ofName (name : String) : Threshold :=
  match String.ofList (name.toList.flatMap capitals) with
  | "DEBUG" => .severity 10
  | "WARN" | "WARNING" => .severity 30
  | "ERROR" => .severity 40
  | "CRITICAL" | "FATAL" => .severity 50
  | "NOTSET" => .inherited
  | "BASIC_FORMAT" => .text "%(levelname)s:%(name)s:%(message)s"
  | "_STYLES" => .other
  | _ => .severity 20

inductive SetupError where
  | unknownLevel (text : String)
  | notALevel
  | file (trouble : Directory.Trouble) (path : String)
  deriving DecidableEq, Repr

def SetupError.message : SetupError → String
  | .unknownLevel text => "Unknown level: " ++ Text.quoted text
  | .notALevel => "Level not an integer or a valid string"
  | .file trouble path => trouble.message path

/-- A set-up that succeeded shows the level it was given. -/
structure Installed where
  severity : Nat
  hasFile : Bool
  deriving DecidableEq, Repr

/-- Opens a journal file for appending. Its path is made absolute first, and its steps up are taken
back. -/
def openFile (d : Directory) (path : String) (maxBytes backups : Int) :
    Except SetupError (JournalFile × Directory) :=
  let path := d.absolute path
  match d.place path with
  | .file name _ => .ok (⟨name, maxBytes, backups⟩, d)
  | .vacant name => .ok (⟨name, maxBytes, backups⟩, d.put name (.text ""))
  | .directory => .error (.file .isDirectory path)
  | .blocked trouble => .error (.file trouble path)

/-- Replaces a journal. The level comes first, then the console, then the file: when the file
cannot be opened the other two are in force. -/
def setup (j : Journal) (d : Directory) (o : Options) (stream : String) :
    Except SetupError Installed × Journal × Directory :=
  match Threshold.ofName o.level with
  | .text s => (.error (.unknownLevel s), j, d)
  | .other => (.error .notALevel, j, d)
  | .inherited => install 0 30
  | .severity n => install n n
where
  install (shown threshold : Nat) : Except SetupError Installed × Journal × Directory :=
    let bare : Journal := { threshold := threshold, console := some stream, file := none }
    match o.file with
    | none | some "" => (.ok ⟨shown, false⟩, bare, d)
    | some path =>
      match openFile d path o.maxBytes o.backups with
      | .ok (f, d) => (.ok ⟨shown, true⟩, { bare with file := some f }, d)
      | .error e => (.error e, bare, d)

end Journal
end EchoWatch
