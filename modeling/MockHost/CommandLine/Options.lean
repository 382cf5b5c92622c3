import MockHost.Number.Integer
import MockHost.Settings.Basic
import MockHost.Text.Quoted

/-!
# Options of the command line

The command takes options only. A long option may be cut short as long as no other one
starts like it, and may have its operand after an equals sign; short options may stand
together behind one dash, the last of them with its operand behind it. After two dashes
nothing is an option any more.

Arguments are told apart before any of them counts, so that an ambiguous option is
refused first. After that they count one by one.

## Main definitions

* `CommandOption`: The options.
* `Arguments`: What the options ask for.
* `Refusal`: Why a command line is refused.
* `Word.of`: What an argument is.
* `Arguments.read`: What a command line asks for.
-/

namespace MockHost

/-- The options of the command. -/
inductive CommandOption where
  | help
  | port
  | pool
  | config
  | host
  | logLevel
  | version
  deriving DecidableEq, Repr

namespace CommandOption

/-- All options. -/
def all : List CommandOption := [.help, .port, .pool, .config, .host, .logLevel, .version]

/-- The short spelling of an option. -/
def short? : CommandOption → Option Text
  | .help => some "-h"
  | .port => some "-p"
  | .version => some "-v"
  | _ => none

/-- The long spelling of an option. -/
def long : CommandOption → Text
  | .help => "--help"
  | .port => "--port"
  | .pool => "--pool"
  | .config => "--config"
  | .host => "--host"
  | .logLevel => "--log-level"
  | .version => "--version"

/-- What an option calls its operand. -/
def operand? : CommandOption → Option Text
  | .port => some "PORT"
  | .config => some "CONFIG"
  | .host => some "HOST"
  | .logLevel => some "LOG_LEVEL"
  | _ => none

/-- Whether an option has an operand. -/
def takesOperand (o : CommandOption) : Bool := o.operand?.isSome

/-- The option that may not be given together with this one. -/
def rival? : CommandOption → Option CommandOption
  | .port => some .pool
  | .pool => some .port
  | _ => none

/-- The spellings of an option. -/
def spellings (o : CommandOption) : List Text := o.short?.toList ++ [o.long]

/-- An option in a message. -/
def label (o : CommandOption) : Text := Text.join "/" o.spellings

/-- The option with a spelling. -/
def ofSpelling? (t : Text) : Option CommandOption := all.find? fun o => o.spellings.contains t

/-- The options whose long spelling starts with a text. -/
def startingWith (t : Text) : List CommandOption := all.filter fun o => t.isPrefixOf o.long

end CommandOption

/-- What is wrong with the use of an option. -/
inductive Misuse where
  | operandMissing
  /-- An option that has no operand was given one. -/
  | operandIgnored (t : Text)
  | noInteger (t : Text)
  | besideRival (rival : CommandOption)
  deriving DecidableEq, Repr

/-- Why a command line is refused. -/
inductive Refusal where
  | ambiguous (argument : Text) (candidates : List CommandOption)
  | misused (o : CommandOption) (m : Misuse)
  | unrecognized (arguments : List Text)
  deriving DecidableEq, Repr

/-- The text of a misuse. -/
def Misuse.message : Misuse → Text
  | .operandMissing => "expected one argument"
  | .operandIgnored t => "ignored explicit argument " ++ t.quoted
  | .noInteger t => "invalid int value: " ++ t.quoted
  | .besideRival rival => "not allowed with argument " ++ rival.label

/-- The text of a refusal. -/
def Refusal.message : Refusal → Text
  | .ambiguous argument candidates =>
    "ambiguous option: " ++ argument ++ " could match " ++
      Text.join ", " (candidates.map CommandOption.long)
  | .misused o m => "argument " ++ o.label ++ ": " ++ m.message
  | .unrecognized arguments => "unrecognized arguments: " ++ Text.join " " arguments

/-- What an argument is. -/
inductive Word where
  | operand
  /-- An option, told by its short spelling or by a long one, and what is attached to it. -/
  | option (o : CommandOption) (short : Bool) (attached : Option Text)
  /-- It looks like an option. -/
  | stranger
  deriving DecidableEq, Repr

namespace Word

/-- Whether a text is a negative number, which is no option. -/
def isNegativeNumber (t : Text) : Bool :=
  match t with
  | 45 :: body =>
    let body := if body.getLast? = some 10 then body.dropLast else body
    match body.dropWhile Unicode.isDecimal with
    | [] => !body.isEmpty
    | 46 :: places => !places.isEmpty && places.all Unicode.isDecimal
    | _ => false
  | _ => false

/-- A text before and after its first equals sign, where there is one. -/
def atEquals (t : Text) : Text × Option Text :=
  match t.span (· != 61) with
  | (before, _ :: after) => (before, some after)
  | (before, []) => (before, none)

/-- An argument that is no spelling of an option. -/
def plain (t : Text) : Word :=
  if isNegativeNumber t || t.contains 32 then .operand else .stranger

/-- What an argument with two dashes is that no option is spelled like. -/
def ofLong (t : Text) : Except Refusal Word :=
  let (name, attached) := atEquals t
  match CommandOption.startingWith name with
  | [] => .ok (plain t)
  | [o] => .ok (.option o false attached)
  | candidates => .error (.ambiguous t candidates)

/-- What an argument with one dash is that no option is spelled like. -/
def ofShort (t : Text) : Word :=
  match CommandOption.ofSpelling? (t.take 2) with
  | some o => .option o true (some (t.drop 2))
  | none => plain t

/-- Whether a spelling is a short one. -/
def isShort (t : Text) : Bool := t.length = 2

/-- What an argument is. -/
def of (t : Text) : Except Refusal Word :=
  if t.head? ≠ some 45 then .ok .operand
  else match CommandOption.ofSpelling? t with
    | some o => .ok (.option o (isShort t) none)
    | none =>
      if t.length = 1 then .ok .operand
      else
        let (name, attached) := atEquals t
        match attached.bind fun _ => CommandOption.ofSpelling? name with
        | some o => .ok (.option o (isShort name) attached)
        | none => if t[1]? = some 45 then ofLong t else .ok (ofShort t)

/-- The arguments with what they are. Two dashes and what follows them are no options. -/
def ofAll : List Text → Except Refusal (List (Text × Word))
  | [] => .ok []
  | t :: rest =>
    if t = Text.ofString "--" then .ok ((t :: rest).map (·, .operand))
    else do
      let word ← of t
      return (t, word) :: (← ofAll rest)

end Word

/-- What a command line asks for. -/
structure Arguments where
  port : Option Port := none
  pool : Bool := false
  config : Text
  host : Text
  logLevel : Option Text := none
  version : Bool := false
  deriving DecidableEq, Repr

namespace Arguments

/-- The arguments that stand for options left out. -/
def usual (s : Settings) : Arguments where
  config := s.configurationFile
  host := s.host

/-- The arguments by name. -/
def toFields (a : Arguments) : List (Text × Value) :=
  [(Text.ofString "port", (a.port.map Value.int).getD .null),
    (Text.ofString "pool", .bool a.pool),
    (Text.ofString "config", .text a.config),
    (Text.ofString "host", .text a.host),
    (Text.ofString "log_level", Value.ofText? a.logLevel),
    (Text.ofString "version", .bool a.version)]

/-- Why reading ends early. -/
inductive Stop where
  | helpAsked
  | refused (r : Refusal)
  deriving DecidableEq, Repr

/-- What has been read so far. -/
structure Progress where
  arguments : Arguments
  /-- The options that have been given. -/
  given : List CommandOption := []
  /-- The arguments that belong to no option. -/
  left : List Text := []

/-- The options that one argument gives, each with its operand if that is attached. A short
    option without operand may have others attached to it. -/
def unfold (o : CommandOption) (short : Bool) (attached : Text) :
    Except Refusal (List (CommandOption × Option Text)) :=
  if o.takesOperand then .ok [(o, some attached)]
  else
    let ignored := Refusal.misused o (.operandIgnored attached)
    match attached with
    | [] => .error ignored
    | c :: rest =>
      if !short then .error ignored
      else match CommandOption.ofSpelling? [45, c] with
        | none => .error ignored
        | some next =>
          if rest.isEmpty then .ok [(o, none), (next, none)]
          else (unfold next true rest).map ((o, none) :: ·)

/-- Arguments with an option. -/
def set (a : Arguments) (o : CommandOption) (operand : Text) : Except Stop Arguments :=
  match o with
  | .help => .ok a
  | .port =>
    match Integer.read? operand with
    | some n => .ok { a with port := some n }
    | none => .error (.refused (.misused .port (.noInteger operand)))
  | .pool => .ok { a with pool := true }
  | .config => .ok { a with config := operand }
  | .host => .ok { a with host := operand }
  | .logLevel => .ok { a with logLevel := some operand }
  | .version => .ok { a with version := true }

/-- An option counts. -/
def give (p : Progress) (use : CommandOption × Option Text) : Except Stop Progress := do
  let (o, operand) := use
  let arguments ← p.arguments.set o (operand.getD [])
  match o.rival? with
  | some rival =>
    if p.given.contains rival then throw (.refused (.misused o (.besideRival rival)))
  | none => pure ()
  if o = .help then throw .helpAsked
  return { p with arguments := arguments, given := o :: p.given }

/-- The arguments count one by one. An operand that is not attached to its option is the
    next argument. -/
def follow : Progress → List (Text × Word) → Except Stop Progress
  | p, [] => .ok p
  | p, (_, .option o short attached) :: rest => do
    let uses ← match attached with
      | some t => (unfold o short t).mapError Stop.refused
      | none => pure [(o, none)]
    match uses.getLast? with
    | none => follow p rest
    | some (last, operand) =>
      if last.takesOperand && operand.isNone then
        match rest with
        | (t, .operand) :: rest =>
          if t = Text.ofString "--" then throw (.refused (.misused last .operandMissing))
          follow (← (uses.dropLast ++ [(last, some t)]).foldlM give p) rest
        | _ => throw (.refused (.misused last .operandMissing))
      else follow (← uses.foldlM give p) rest
  | p, (t, _) :: rest => follow { p with left := p.left ++ [t] } rest

/-- What a command line asks for. -/
def read (s : Settings) (line : List Text) : Except Stop Arguments := do
  let words ← (Word.ofAll line).mapError Stop.refused
  let p ← follow { arguments := usual s } words
  if p.left.isEmpty then return p.arguments
  else throw (.refused (.unrecognized p.left))

end Arguments

end MockHost
