import MockHost.Error.Failure
import MockHost.FileTree
import MockHost.Settings.Basic
import MockHost.Table
import MockHost.Trace
import MockHost.Value.Printer

/-!
# Logging

Log entries are written a line each, as far as the level of the log lets them through.
Every entry gets the name of its logger, its time, its severity and the component that
it comes from, unless it states one itself. A line is either a JSON document or meant
to be read by people. The same lines may go to a file, too.

The time is given from outside, in words.

## Main definitions

* `Moment`: A time in words.
* `Logging`: How a component logs.
* `Logging.setUp`: Logging as the settings state it.
* `Logging.line?`: The line of an entry.
-/

namespace MockHost

/-- A time in words. -/
structure Moment where
  /-- As it stands at the start of a line. -/
  onLine : Text
  /-- As it stands in an entry. -/
  inEntry : Text
  deriving DecidableEq, Repr

/-- How a component logs. -/
structure Logging where
  component : Text
  level : Level
  /-- Writes entries in JSON. -/
  json : Bool
  /-- The file that the lines go to as well. -/
  file : Option Text

namespace Settings

/-- The level that is asked for, or else the one of the settings. -/
def levelFor (s : Settings) (asked : Option Level.Stated) : Except ErrorReport Level :=
  Level.resolve (asked.getD (.name s.logLevel))

/-- The file for the lines of a component. -/
def logFile (s : Settings) (component : Text) : Text := Path.join s.logDir (component ++ ".log")

end Settings

namespace Logging

/-- A tree with a file that can be added to, in a directory that is made if need be. The file is
    opened by its path from the root. -/
def openFile (files : FileTree) (directory path : Text) : Except FileError FileTree := do
  let files ← (files.makeDirectory directory).mapError Prod.fst
  files.touch (Path.absolute files.workingDirectory path)

/-- Logging of a component as the settings state it, and the files once its own has been
    opened. -/
def setUp (s : Settings) (files : FileTree) (component : Text)
    (asked : Option Level.Stated) : Except Failure (Logging × FileTree) := do
  let level ← (s.levelFor asked).mapError Failure.reported
  let logging : Logging := ⟨component, level, s.logJson, none⟩
  if s.logToFile then
    let path := s.logFile component
    let files ← (openFile files s.logDir path).mapError FileError.toFailure
    return ({ logging with file := some path }, files)
  else return (logging, files)

/-- Whether entries of a level are written. -/
def lets (l : Logging) (level : Level) : Bool := l.level ≤ level

/-- A line with what stands before every message. -/
def headed (time : Moment) (severity logger message : Text) : Text :=
  Text.join " | " [time.onLine, severity.map Text.upperAscii, "MainThread", logger, message]

/-- The fields of an entry that only say how it is to be written. -/
def isInstruction (name : Text) : Bool :=
  name == Text.ofString "exc_info" || name == Text.ofString "stack_info"

/-- The fields of an entry with all that it gets. -/
def completed (l : Logging) (time : Moment) (logger : Text) (e : LogEntry) : List (Text × Value) :=
  (e.fields
    |> Table.put "event" (.text e.event)
    |> Table.putNew "component" (.text l.component)
    |> Table.put "logger" (.text logger)
    |> Table.put "timestamp" (.text time.inEntry)
    |> Table.put "level" (.text e.severity.label)).filter fun f => !isInstruction f.1

/-- Whether a text would be unclear without quotes. -/
def needsQuotes (t : Text) : Bool :=
  t.any fun c => c == 32 || c == 9 || c == 61 || c == 13 || c == 10 || c == 34 || c == 39

/-- A value in a line for people. -/
def shown : Value → Text
  | .text t => if needsQuotes t then t.quoted else t
  | v => v.quoted

/-- The names of fields with a place of their own in a line for people. -/
def placed : List String := ["timestamp", "level", "event", "logger"]

/-- A message for people: the time, the severity and the event in columns, then the
    logger and the other fields by name. -/
def plainMessage (fields : List (Text × Value)) (time : Moment) (logger : Text)
    (e : LogEntry) : Text :=
  let others := (fields.filter fun f => !(placed.map Text.ofString).contains f.1).mergeSort
    fun f g => f.1.notAfter g.1
  Text.join " " <|
    [time.inEntry, "[" ++ e.severity.label.padRight 9 ++ "]", e.event.padRight 30, "[" ++ logger ++ "]"] ++
      others.map fun f => f.1 ++ "=" ++ shown f.2

/-- The name of a logger; the one without a name is that of all. -/
def loggerName (t : Text) : Text := if t.isEmpty then "root" else t

/-- The line of an entry, if it is written. -/
def line? (l : Logging) (time : Moment) (logger : Text) (e : LogEntry) : Option Text :=
  if l.lets e.severity.level then
    let logger := loggerName logger
    let fields := l.completed time logger e
    let message := if l.json then (Value.record fields).line else plainMessage fields time logger e
    some (headed time e.severity.label logger message)
  else none

/-- The line that says that logging has begun, if it is written. -/
def firstLine? (l : Logging) (time : Moment) : Option Text :=
  if l.lets Level.info then
    some (headed time Severity.info.label "mocktcp.logging" "logging_initialized")
  else none

/-- The lines of a log. -/
def lines (l : Logging) (time : Moment) (logger : Text) (entries : List LogEntry) : List Text :=
  (l.firstLine? time).toList ++ entries.filterMap (l.line? time logger)

end Logging

end MockHost
