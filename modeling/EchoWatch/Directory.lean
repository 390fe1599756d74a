import EchoWatch.Text.Quoted
import EchoWatch.Text.Split
/-!
# Files

The files that the program reads its configuration from and writes its journal to. Every file has an
absolute name; a path that does not begin at the root begins in the working directory. `place`
follows a path as it is written, step by step, and `Trouble.message` words what can go wrong the way
the system does. The null device is a file that is empty whatever is written to it.

There are no links, so that a file has one name, and whatever is there may be read and written. Of
the directories on which the program has no influence only those count as there that are given.
-/

namespace EchoWatch

/-- What a file holds: text, or bytes that need not be text. -/
inductive Content where
  | text (s : String)
  | raw (bytes : List UInt8)
  deriving DecidableEq, Inhabited, Repr

def Content.bytes : Content → List UInt8
  | .text s => s.toUTF8.data.toList
  | .raw bytes => bytes

structure Directory where
  /-- The absolute path of the working directory. -/
  home : String
  /-- Directories that are there, if need be without any file. -/
  folders : List String
  /-- The files by their absolute names. -/
  files : List (String × Content)
  deriving Inhabited, Repr

namespace Directory

/-! ### Paths -/

/-- The steps of a path, without the ones that stay where they are. -/
def steps (path : String) : List (List Char) :=
  (Text.split '/' path.toList).filter fun s => s ≠ [] ∧ s ≠ ['.']

/-- What the steps of a path start from: nothing for the working directory, and one slash for the
root; just two slashes are kept as they are. -/
def origin (path : String) : List Char :=
  match path.toList.takeWhile (· = '/') with
  | [] => []
  | ['/', '/'] => ['/', '/']
  | _ => ['/']

/-- A path with the given steps. -/
def written (origin : List Char) (steps : List (List Char)) : String :=
  if origin = [] ∧ steps = [] then "." else String.ofList (origin ++ Text.join ['/'] steps)

/-- A path without steps that stay where they are. -/
def tidy (path : String) : String :=
  written (origin path) (steps path)

/-- Where some steps lead when every step up is taken back together with the step before it. -/
def collapse (here : List (List Char)) (ss : List (List Char)) : List (List Char) :=
  ss.foldl (fun done s => if s = ['.', '.'] then done.dropLast else done ++ [s]) here

/-- The steps from the root to the working directory. -/
def homeSteps (d : Directory) : List (List Char) :=
  collapse [] (steps d.home)

/-- The steps from the root to where a path begins. -/
def start (d : Directory) (path : String) : List (List Char) :=
  if origin path = [] then d.homeSteps else []

/-- The steps from the root to the end of a path whose steps up are taken back. -/
def direct (d : Directory) (path : String) : List (List Char) :=
  collapse (d.start path) (steps path)

/-- The absolute path to the end of a path whose steps up are taken back. -/
def absolute (d : Directory) (path : String) : String :=
  written (if origin path = ['/', '/'] then ['/', '/'] else ['/']) (d.direct path)

/-- The name of what some steps from the root lead to. -/
def nameOf (at_ : List (List Char)) : String :=
  written ['/'] at_

/-! ### Places -/

inductive Trouble where
  | notFound
  /-- What should lead on is a file. -/
  | notDirectory
  | isDirectory
  | nameTooLong
  /-- A path must not hold the character zero. -/
  | holdsZero
  /-- The system has no bytes for a path. -/
  | notEncodable
  deriving DecidableEq, Repr

inductive Place where
  | file (name : String) (content : Content)
  | directory
  /-- Nothing has this name yet, but its directory is there. -/
  | vacant (name : String)
  | blocked (trouble : Trouble)
  deriving DecidableEq, Repr

/-- The file that stays empty. -/
def nullDevice : String := "/dev/null"

def content? (d : Directory) (name : String) : Option Content :=
  if name = nullDevice then some (.text "")
  else (d.files.find? fun f => f.1 = name).map Prod.snd

/-- Whether there is a directory at some steps from the root: one that is known, or one on the way
to a directory or a file that is. -/
def isDirectory (d : Directory) (at_ : List (List Char)) : Bool :=
  at_.isPrefixOf d.homeSteps || (d.folders.any fun f => at_.isPrefixOf (steps f))
    || (nullDevice :: d.files.map Prod.fst).any fun f => at_.isPrefixOf (steps f).dropLast

/-- Some halves stand for bytes that are no text. -/
def isByte (c : Char) : Bool :=
  0xDC80 ≤ Text.code c && Text.code c ≤ 0xDCFF

/-- How many bytes some characters of a path take. -/
def byteSize (cs : List Char) : Nat :=
  cs.foldl (fun n c => n + if isByte c then 1 else c.utf8Size) 0

/-- The most bytes that one step of a path may have. -/
def maxStep : Nat := 255

/-- The most bytes that a path may have. -/
def maxPath : Nat := 4095

/-- A character that the system has no bytes for. -/
def isUnencodable (c : Char) : Bool :=
  Text.isHalf c && !isByte c

/-- What is wrong with a path, whatever it leads to. -/
def pathTrouble? (path : String) : Option Trouble :=
  if path.toList.any isUnencodable then some .notEncodable
  else if path.toList.contains '\x00' then some .holdsZero
  else if maxPath < byteSize (tidy path).toList then some .nameTooLong
  else none

/-- Where the remaining steps lead from a directory. -/
def follow (d : Directory) (here : List (List Char)) : List (List Char) → Place
  | [] => .directory
  | s :: rest =>
    if s = ['.', '.'] then follow d here.dropLast rest
    else if maxStep < byteSize s then .blocked .nameTooLong
    else
      let name := nameOf (here ++ [s])
      match d.content? name with
      | some content => if rest.isEmpty then .file name content else .blocked .notDirectory
      | none =>
        if d.isDirectory (here ++ [s]) then follow d (here ++ [s]) rest
        else if rest.isEmpty then .vacant name
        else .blocked .notFound

/-- What a path leads to. -/
def place (d : Directory) (path : String) : Place :=
  match pathTrouble? path with
  | some trouble => .blocked trouble
  | none => d.follow (d.start path) (steps path)

/-! ### Trouble -/

/-- The error about a path that the system has no bytes for: it names the first such character, or
the halves around it. -/
def encodingMessage (path : String) : String :=
  let cs := path.toList
  let first := (cs.findIdx? isUnencodable).getD 0
  let run := (cs.drop first).takeWhile Text.isHalf
  Text.codecMessage "utf-8" "surrogates not allowed" cs first (first + run.length - 1)

def Trouble.message (trouble : Trouble) (path : String) : String :=
  let shown := Text.quoted path
  match trouble with
  | .notFound => s!"[Errno 2] No such file or directory: {shown}"
  | .notDirectory => s!"[Errno 20] Not a directory: {shown}"
  | .isDirectory => s!"[Errno 21] Is a directory: {shown}"
  | .nameTooLong => s!"[Errno 36] File name too long: {shown}"
  | .holdsZero => "embedded null byte"
  | .notEncodable => encodingMessage path

/-! ### Writing -/

/-- Gives a file its content, in place or as the last file. -/
def put (d : Directory) (name : String) (content : Content) : Directory :=
  if name = nullDevice then d
  else if d.files.any fun f => f.1 = name then
    { d with files := d.files.map fun f => if f.1 = name then (name, content) else f }
  else { d with files := d.files ++ [(name, content)] }

def erase (d : Directory) (name : String) : Directory :=
  { d with files := d.files.filter fun f => f.1 ≠ name }

/-- The bytes in a file; a file that is not there has none. -/
def size (d : Directory) (name : String) : Nat :=
  match d.content? name with
  | some (.text s) => s.utf8ByteSize
  | some (.raw bytes) => bytes.length
  | none => 0

/-- Adds text at the end of a file. -/
def append (d : Directory) (name s : String) : Directory :=
  match d.content? name with
  | some (.text t) => d.put name (.text (t ++ s))
  | some (.raw bytes) => d.put name (.raw (bytes ++ s.toUTF8.data.toList))
  | none => d.put name (.text s)

/-- Gives a file another name, in place of the file that had it. -/
def rename (d : Directory) (old new : String) : Directory :=
  match d.content? old with
  | none => d
  | some content => ((d.erase old).erase new).put new content

end Directory
end EchoWatch
