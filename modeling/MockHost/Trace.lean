import MockHost.Level
import MockHost.MessageStream
import MockHost.Value.Basic

/-!
# Traces

What a host does to the world around it is kept as a trace: the log entries it
writes, the calls it makes on its sockets and the hooks it calls, in the order in
which they happen. A trace only grows.

## Main definitions

* `Severity`, `LogEntry`: What is logged.
* `HookCall`: A call of a hook.
* `Occurrence`: One thing that happened.
* `Trace`: What happened, latest last.
-/

namespace MockHost

/-- A time span. -/
abbrev Seconds := Binary64

/-- How important a log entry is, in words. -/
inductive Severity where
  | debug
  | info
  | warning
  | error
  | critical
  deriving DecidableEq, Repr

/-- The name of a severity. -/
def Severity.label : Severity → Text
  | .debug => "debug"
  | .info => "info"
  | .warning => "warning"
  | .error => "error"
  | .critical => "critical"

/-- The level of a severity. -/
def Severity.level : Severity → Level
  | .debug => Level.debug
  | .info => Level.info
  | .warning => Level.warning
  | .error => Level.error
  | .critical => Level.critical

/-- The severity with a name, of which some have two. -/
def Severity.ofName? (name : Text) : Option Severity :=
  ([("debug", .debug), ("info", .info), ("warning", .warning), ("warn", .warning),
    ("error", .error), ("exception", .error), ("critical", .critical), ("fatal", .critical)].find?
      fun (p : String × Severity) => Text.ofString p.1 == name).map Prod.snd

/-- An entry of a log. -/
structure LogEntry where
  severity : Severity
  event : Text
  fields : List (Text × Value)

/-- A call of a hook. -/
inductive HookCall where
  | onConnect
  | onMessage (message : MessageStream)
  | afterResponse (response : Bytes)
  | onClose

/-- One thing that happened. -/
inductive Occurrence where
  | log (e : LogEntry)
  | setTimeout (socket : Text) (span : Seconds)
  | send (socket : Text) (data : Bytes)
  | shutdown (socket : Text)
  | close (socket : Text)
  | connect (endpoint : Text) (span : Seconds)
  /-- A call of a hook that records its calls, with the number of messages received so far. -/
  | hook (call : HookCall) (messages : Nat)
  | threadDied (thread label text : Text)
  | setupLogging (component : Text) (asked : Option Text) (level : Level)

/-- What happened, latest last. -/
abbrev Trace := Array Occurrence

/-- A field of a log entry. -/
abbrev LogField := Text × Value

namespace LogField

def text (name : String) (t : Text) : LogField := (Text.ofString name, .text t)

def int (name : String) (n : Int) : LogField := (Text.ofString name, .int n)

def nat (name : String) (n : Nat) : LogField := (Text.ofString name, .int n)

def seconds (name : String) (s : Seconds) : LogField := (Text.ofString name, .float s)

/-- The mark that the place of an error is logged with it. -/
def withPlace : LogField := (Text.ofString "exc_info", .bool true)

end LogField

namespace Occurrence

/-- A log entry as an occurrence. -/
def logged (severity : Severity) (event : String) (fields : List LogField) : Occurrence :=
  .log ⟨severity, Text.ofString event, fields⟩

/-- The fields of a warning of one kind of event. -/
def warning? (event : Text) : Occurrence → Option (List LogField)
  | .log ⟨.warning, e, fields⟩ => if e = event then some fields else none
  | _ => none

/-- Whether a thread died. -/
def isThreadDeath : Occurrence → Bool
  | .threadDied _ _ _ => true
  | _ => false

end Occurrence

end MockHost
