import MockHost.CommandLine.Options

/-!
# Help on the command line

The help is laid out for a terminal of eighty columns, of which the last two stay free:
the options have a column of their own, and what they do stands beside it, broken between
words. An option that is too wide for its column has a line to itself.

## Main definitions

* `Help.fill`: Words broken into lines.
* `Help.usage`: The options in short.
* `Help.text`: The help.
-/

namespace MockHost

namespace Help

/-- The columns that are written to. -/
def width : Nat := 78

/-- Where the explanation of an option starts. -/
def explanationColumn : Nat := 24

/-- The widest option that has its explanation beside it. -/
def optionWidth : Nat := explanationColumn - 4

/-- Adds a word to lines of which the last is `line`. -/
def fillAfter (columns : Nat) (line : Text) : List Text → List Text
  | [] => [line]
  | word :: rest =>
    if line.length + 1 + word.length ≤ columns then
      fillAfter columns (line ++ " " ++ word) rest
    else line :: fillAfter columns word rest

/-- Words in lines, as many of them on a line as it has room for. -/
def fill (columns : Nat) : List Text → List Text
  | [] => []
  | word :: rest => fillAfter columns word rest

/-- The words of a text. -/
def words (t : Text) : List Text := (t.splitOn 32).filter (!·.isEmpty)

/-- A number of spaces. -/
def spaces (n : Nat) : Text := Text.replicate n 32

/-- A spelling of an option with its operand. -/
def withOperand (o : CommandOption) (spelling : Text) : Text :=
  match o.operand? with
  | some operand => spelling ++ " " ++ operand
  | none => spelling

/-- An option as the usage shows it. -/
def shortForm (o : CommandOption) : Text := withOperand o (o.short?.getD o.long)

/-- The options as the usage shows them, two that exclude each other as one. -/
def usageParts : List Text :=
  let bracketed (t : Text) : Text := "[" ++ t ++ "]"
  [bracketed (shortForm .help),
    bracketed (shortForm .port ++ " | " ++ shortForm .pool)] ++
    [CommandOption.config, .host, .logLevel, .version].map fun o => bracketed (shortForm o)

/-- The name of the command. -/
def commandName : Text := "mocktcp"

/-- The options in short. -/
def usage : Text :=
  let start : Text := "usage: " ++ commandName ++ " "
  start ++ Text.join (10 :: spaces start.length) (fill (width - start.length) usageParts) ++ "\n"

/-- What an option does. -/
def explanation (s : Settings) : CommandOption → Text
  | .help => "show this help message and exit"
  | .port => "the port that the server will listen on."
  | .pool => "start one server for each port in the configuration file."
  | .config => "configuration file (default: " ++ s.configurationFile ++ ")"
  | .host => "interface to bind to (default: " ++ s.host ++ ")"
  | .logLevel => "DEBUG, INFO, WARNING or ERROR (default: " ++ s.logLevel ++ ")"
  | .version => "print product version and exit."

/-- An option with what it does. -/
def entry (s : Settings) (o : CommandOption) : Text :=
  let spelled := Text.join ", " (o.spellings.map (withOperand o))
  let lines := fill (width - explanationColumn) (words (explanation s o))
  let below : Text := 10 :: spaces explanationColumn
  let gap : Text := if spelled.length ≤ optionWidth then "  " else below
  "  " ++ spelled.padRight (if spelled.length ≤ optionWidth then optionWidth else 0) ++ gap ++
    Text.join below lines ++ "\n"

/-- What the command is for. -/
def purpose : Text :=
  "A TCP server that simulates success and failure conditions in system/integration test environments."

/-- Ways to call the command. -/
def samples : Text :=
  "Examples:\n  # Listen on a single port\n  mocktcp --port 6789\n\n" ++
    "  # Listen on every port in the configuration file\n" ++
    "  mocktcp --pool --config configuration/mocktcpserver.json\n        \n"

/-- The help. -/
def text (s : Settings) : Text :=
  usage ++ "\n" ++ purpose ++ "\n\noptions:\n" ++ CommandOption.all.flatMap (entry s) ++ "\n" ++
    samples

end Help

end MockHost
