/-!
# Journal entries

An entry of the journal has a level, the name of the part of the program that wrote it, and a
message; it may also carry the account of an error. Entries are written by several threads, and
only the order within one thread is determined.
-/

namespace EchoWatch

inductive Level where
  | debug | info | warning | error | critical
  deriving DecidableEq, Inhabited, Repr

namespace Level

/-- Levels are compared by these numbers. -/
def severity : Level → Nat
  | debug => 10
  | info => 20
  | warning => 30
  | error => 40
  | critical => 50

def name : Level → String
  | debug => "DEBUG"
  | info => "INFO"
  | warning => "WARNING"
  | error => "ERROR"
  | critical => "CRITICAL"

/-- The level of a name in capitals; two levels have a second name. -/
def ofName? : String → Option Level
  | "DEBUG" => some debug
  | "INFO" => some info
  | "WARNING" | "WARN" => some warning
  | "ERROR" => some error
  | "CRITICAL" | "FATAL" => some critical
  | _ => none

end Level

/-- The threads of the program: the one that receives packets, the one that checks, the workers
that deliver, and the one that stops everything. -/
inductive Thread where
  | main | check | notify | stop
  deriving DecidableEq, Inhabited, Repr

def Thread.name : Thread → String
  | main => "main"
  | check => "check"
  | notify => "notify"
  | stop => "stop"

structure Entry where
  level : Level
  source : String
  message : String
  /-- Whether the account of an error comes with it. -/
  withError : Bool := false
  thread : Thread := .main
  deriving DecidableEq, Repr

namespace Entry

/-- An entry at a level, written by the main thread. -/
def debug (source message : String) : Entry := { level := .debug, source, message }
def info (source message : String) : Entry := { level := .info, source, message }
def warning (source message : String) : Entry := { level := .warning, source, message }
def critical (source message : String) : Entry := { level := .critical, source, message }

/-- An entry with the account of an error. -/
def failure (source message : String) : Entry :=
  { level := .error, source, message, withError := true }

/-- The same entry, written by another thread. -/
def on (thread : Thread) (e : Entry) : Entry :=
  { e with thread := thread }

end Entry
end EchoWatch
