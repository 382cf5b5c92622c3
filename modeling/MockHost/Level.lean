import MockHost.Error.Report
import MockHost.Unicode.Blank

/-!
# Log levels

A level is a number; the usual ones have names. A level may be given as a number
or as a name in any case, with white space around it.

## Main definitions

* `Level.Stated`: A level as it is given.
* `Level.resolve`: The number of a level.
-/

namespace MockHost

/-- How important a log entry is. -/
abbrev Level := Int

namespace Level

def debug : Level := 10

def info : Level := 20

def warning : Level := 30

def error : Level := 40

def critical : Level := 50

/-- The names of levels. -/
def names : List (String × Level) :=
  [("FATAL", 50), ("CRITICAL", 50), ("ERROR", 40), ("WARN", 30), ("WARNING", 30), ("INFO", 20),
    ("DEBUG", 10), ("NOTSET", 0)]

/-- A code point in upper case, as far as a name of a level can hold it: beside the
    letters of ASCII only two others have one of them as their upper case. -/
def upper (c : CodePoint) : CodePoint :=
  if c = 305 then 73 else if c = 383 then 83 else Text.upperAscii c

/-- The level with a name. -/
def ofName? (t : Text) : Option Level :=
  let name := t.strip.map upper
  (names.find? fun p => Text.ofString p.1 == name).map Prod.snd

/-- A level as it is given. -/
inductive Stated where
  | number (n : Level)
  | name (t : Text)
  deriving DecidableEq, Repr

/-- The number of a level. -/
def resolve : Stated → Except ErrorReport Level
  | .number n => .ok n
  | .name name =>
    match ofName? name with
    | some n => .ok n
    | none => .error
      { kind := .configuration
        message := "Unknown log level: " ++ name
        details := [(Text.ofString "level", .text name)] }

end Level

end MockHost
