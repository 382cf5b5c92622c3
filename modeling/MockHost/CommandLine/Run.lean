import MockHost.CommandLine.Help
import MockHost.Logging
import MockHost.Network.Operation
import MockHost.Pool

/-!
# Running the command

The command starts either a single server or one for each port of the configuration, and
then waits until the operating system interrupts it. A configuration that cannot be used
and a server that cannot start end it early, each with a code of its own.

## Main definitions

* `Exit`: How the command ends.
* `Arguments.ofLine`: What a command line asks for, unless that is refused.
* `Arguments.answer?`: What is printed without any server.
* `Command.prepare`, `Command.initial`: The host that a run begins with.
* `Command.serve`, `Command.interrupt`: The beginning and the end of a run.
* `Command.run`: A whole run.
-/

namespace MockHost

/-- How the command ends. -/
structure Exit where
  code : Nat
  /-- What it prints. -/
  output : Text := []
  /-- What it prints as an error. -/
  complaint : Text := []
  deriving DecidableEq, Repr

namespace Arguments

/-- The end of a command line that is not read to its end. -/
def Stop.toExit (s : Settings) : Stop → Exit
  | .helpAsked => { code := 0, output := Help.text s }
  | .refused r =>
    { code := 2
      complaint := Help.usage ++ Help.commandName ++ ": error: " ++ r.message ++ "\n" }

/-- What a command line asks for, unless that is refused. -/
def ofLine (s : Settings) (line : List Text) : Except Exit Arguments :=
  (Arguments.read s line).mapError (Stop.toExit s)

/-- The servers to start. -/
inductive Mode where
  | single (port : Port)
  /-- One for each port of the configuration. -/
  | pool
  deriving DecidableEq, Repr

/-- The servers that are asked for, if any are. -/
def mode? (a : Arguments) : Option Mode :=
  match a.port with
  | some port => some (.single port)
  | none => if a.pool then some .pool else none

end Arguments

namespace Command

/-- The version of the command, as far as it is known. -/
def versionText (known : Bool) : Text :=
  if known then "1.2.0" else "Version number cannot be identified."

/-- What is printed where no servers are asked for: the version or the help. -/
def answer (s : Settings) (versionKnown : Bool) (a : Arguments) : Exit :=
  if a.version then { code := 0, output := versionText versionKnown ++ "\n" }
  else { code := 0, output := Help.text s }

/-- The servers to start, unless something is printed instead. -/
def mode? (a : Arguments) : Option Arguments.Mode := if a.version then none else a.mode?

/-- The component that the command logs as. -/
def component : Text := "mocktcpserver"

/-- The end of a command for which logging cannot be set up. -/
def refusal? : Failure → Option Exit
  | .reported r =>
    if r.kind.isUnder .configuration then
      some { code := 2, complaint := Help.commandName ++ ": " ++ r.message ++ "\n" }
    else none
  | _ => none

/-- A host in which no server has been started yet, with what will keep it from listening on some
    ports. -/
def initial (s : Settings) (files : FileTree) (a : Arguments) (faults : PortFaults)
    (trace : Trace) : Host where
  network := { settings := s, bindFaults := faults, trace }
  configuration := Configuration.create s files (some a.config) none

/-- The host that a run begins with, and how it logs. -/
def prepare (s : Settings) (files : FileTree) (a : Arguments) (faults : PortFaults) :
    Except Failure (Logging × Host) := do
  let (logging, files) ← Logging.setUp s files component (a.logLevel.map Level.Stated.name)
  return (logging,
    initial s files a faults #[.setupLogging component a.logLevel logging.level])

section

variable (sch : Scheduler) (s : Settings)

/-- Starts servers. -/
def startServers (a : Arguments) (mode : Arguments.Mode) : Act Host Unit := do
  let make (port : Port) (registry : Registry) : Server :=
    Server.create s (some port) (some a.host) none (some registry)
  match mode with
  | .pool =>
    Host.note (.logged .info "starting_server_pool" [.text "config" a.config])
    let _ ← Host.bootstrap sch make
  | .single port =>
    Host.note (.logged .info "starting_single_server" [.int "port" port])
    let registry ← Host.onConfiguration (Configuration.registry port)
    let _ ← Host.addNew sch (make port registry)

/-- Starts servers. Gives the code with which the command ends if they cannot be started. -/
def serve (a : Arguments) (mode : Arguments.Mode) : Act Host (Option Nat) := do
  match ← Act.attempt (startServers sch s a mode) with
  | .ok () => return none
  | .error (.reported r) =>
    if r.kind.isUnder .configuration then
      Host.note <| .logged .error "configuration_error"
        [.text "message" r.message, (Text.ofString "details", .record r.details)]
      Host.shutdown sch
      return some 2
    else if r.kind.isUnder .serverStart then
      Host.note (.logged .error "server_start_failed" [.text "error" r.message])
      Host.shutdown sch
      return some 1
    else throw (.reported r)
  | .error f => throw f

/-- The operating system interrupts the command, which closes its servers. -/
def interrupt (signal : Nat) : Act Host Unit := do
  Host.note (.logged .info "operating_system_interrupt" [.nat "signal" signal])
  Host.shutdown sch

/-- A whole run, which ends with a code. What happens while the command waits for a signal is left
    to whoever runs it, and so is how acts of the host are done there. -/
def run {m : Type → Type} [Monad m] (perform : ∀ {α : Type}, Act Host α → m α) (wait : m Nat)
    (a : Arguments) (mode : Arguments.Mode) : m Nat := do
  match ← perform (serve sch s a mode) with
  | some code => return code
  | none =>
    let signal ← wait
    perform (interrupt sch signal)
    return 0

/-- Waits for a signal while things happen in the network. -/
def waiting (during : List Network.Operation) (signal : Nat) : Act Host Nat := do
  Host.onNetwork (Network.operateAll sch during)
  return signal

end

end Command

end MockHost
