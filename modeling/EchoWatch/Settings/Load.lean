import EchoWatch.Directory
import EchoWatch.Settings.Basic
import EchoWatch.Yaml.Document
/-!
# Configuration files

`Settings.load` reads the configuration from a file: the file holds a document, the document is a
mapping, and the mapping passes the checks of `Settings.ofValue`. Each step has its own way to fail.
Which bytes hold which document is up to the given loader.
-/

namespace EchoWatch.Settings

inductive LoadError where
  | notFound (path : String)
  /-- The system refuses to read it. -/
  | refused (trouble : Directory.Trouble) (path : String)
  /-- It holds no document. -/
  | unreadable (cause : Yaml.Error)
  /-- Its document is no mapping. -/
  | notMapping (path : String)
  /-- The checks find faults. -/
  | faulty (faults : List Fault)
  /-- A duration is too long to be counted in microseconds. -/
  | overflow (cause : Duration.Overflow)
  deriving Repr

/-- How many faults the checks found. -/
def faultCount (faults : List Fault) : String :=
  let count := String.ofList (Numeral.ofNat faults.length)
  if faults.length = 1 then s!"{count} validation error for Config"
  else s!"{count} validation errors for Config"

/-- How the failure of a document is described. -/
def documentMessage : Yaml.Error → String
  | .malformed | .undecodable => "<unreadable>"
  | .badValue message => message
  | .emptyNumber => "string index out of range"
  | .notTimestamp => "'NoneType' object has no attribute 'groupdict'"
  | .wrappedTimestamp => "expected string or bytes-like object, got 'list'"
  | .notTruth word => Text.quoted word
  | .numberTooLarge => "Python int too large to convert to C int"
  | .placeTooLarge => "int too large to convert to float"
  | .tooDeep message => message

/-- How a failure is described; what is wrong with bytes or with the form of a document is left
out. -/
def LoadError.message : LoadError → String
  | .notFound path => s!"Configuration file not found: {path}"
  | .refused trouble path => trouble.message (Directory.tidy path)
  | .unreadable cause => documentMessage cause
  | .notMapping path => s!"Configuration validation error: expected a mapping in {path}"
  | .faulty faults =>
    let count := faultCount faults
    s!"Configuration validation error: {count}"
  | .overflow cause => cause.message

def readFile (d : Directory) (path : String) : Except LoadError (List UInt8) :=
  match d.place path with
  | .file _ content => .ok content.bytes
  | .directory => .error (.refused .isDirectory path)
  | .blocked .nameTooLong => .error (.refused .nameTooLong path)
  | .vacant _ | .blocked _ => .error (.notFound path)

/-- The configuration that the bytes of a file hold. The path only serves to name the file. -/
def ofBytes (read : Yaml.Loader) (path : String) (bytes : List UInt8) :
    Except LoadError Settings :=
  match read bytes with
  | .error cause => .error (.unreadable cause)
  | .ok (.map entries) =>
    match ofValue (.map entries) with
    | .valid s => .ok s
    | .invalid faults => .error (.faulty faults)
    | .aborted cause => .error (.overflow cause)
  | .ok _ => .error (.notMapping path)

def load (read : Yaml.Loader) (d : Directory) (path : String) : Except LoadError Settings :=
  match readFile d path with
  | .error e => .error e
  | .ok bytes => ofBytes read path bytes

end EchoWatch.Settings
