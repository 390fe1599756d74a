import EchoWatch.Command.Run
import Std.Time.DateTime.Timestamp
/-!
# The executable

Fetches the files that a command line names, runs the program on them and shows what comes of it.
An executable whose name ends in `-daemon` is the program that only runs the service. There is no
client and no capture here: every request fails, and opening a capture is not permitted.
-/

namespace EchoWatch.Executable

open Command

/-- Whether there is a directory of a name. -/
def isFolder (name : String) : IO Bool := do
  try
    let _ ← IO.FS.Handle.mk (name ++ "/.") .read
    return true
  catch _ => return false

/-- Fetches the file that a path leads to, and the directories on the way there. -/
def fetch (d : Directory) (path : String) : IO Directory := do
  if path.toList.contains '\x00' then return d
  let ss := Directory.steps path
  let way := (List.range (ss.length + 1)).map fun k =>
    Directory.nameOf (Directory.collapse (d.start path) (ss.take k))
  let mut found := d
  for name in way do
    if ← isFolder name then
      found := { found with folders := found.folders ++ [name] }
  let name := Directory.nameOf (d.direct path)
  try
    let bytes ← IO.FS.readBinFile name
    return { found with files := found.files ++ [(name, .raw bytes.toList)] }
  catch _ => return found

/-- Fetches the files that some options name. -/
def fetchGiven (paths : List (Option String)) : IO Directory := do
  let home := toString (← IO.currentDir)
  (paths.filterMap id).foldlM fetch ⟨home, [], []⟩

def clock : IO Moment := do
  let t ← Std.Time.Timestamp.now
  return ⟨Moment.epochWall + (t.toNanosecondsSinceUnixEpoch.toInt / 1000).toNat, some .utc⟩

/-- What the programs find here. -/
def surroundings (files : Directory) : IO Surroundings := do
  let now ← clock
  return {
    files, now
    journalTime := { now with zone := none }
    read := Yaml.read
    client := fun _ _ => .failure
    agent := Channel.userAgent "Linux" "x86_64"
    interface := "any"
    refusal := some ⟨"PermissionError", "Operation not permitted"⟩
    script := ⟨[], .terminate⟩
    refuses? := Text.halfMessage? }

/-- Writes the files that a program changed. -/
def store (before after : Directory) : IO Unit :=
  for (name, content) in after.files do
    if before.content? name ≠ some content then
      match content with
      | .text s => IO.FS.writeFile name s
      | .raw bytes => IO.FS.writeBinFile name ⟨bytes.toArray⟩

/-- Shows what came of a program, and gives its exit code. -/
def present (before : Directory) (e : Ended) : IO UInt32 := do
  IO.print e.transcript.stdout
  for (_, text) in e.transcript.others do
    IO.print text
  IO.eprint e.transcript.stderr
  store before e.transcript.files
  match e.deed.exit with
  | .code n => return UInt32.ofNat n
  | .returned => return 0
  | .escaped e => IO.eprintln e.message; return 1

def run (args : List String) : IO UInt32 := do
  let name := toString (← IO.appPath)
  if name.endsWith "-daemon" then
    let files ← fetchGiven (match Daemon.order args with
      | .ok o => [o.config, o.logFile]
      | .error _ => [])
    present files (Daemon.run (← surroundings files) args)
  else
    let files ← fetchGiven (match Tool.order args with
      | .ok o => [o.config]
      | .error _ => [])
    present files (Tool.run (← surroundings files) args)

end EchoWatch.Executable

def main (args : List String) : IO UInt32 :=
  EchoWatch.Executable.run args
