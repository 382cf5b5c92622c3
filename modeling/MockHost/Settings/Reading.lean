import MockHost.Error.Failure
import MockHost.FileTree
import MockHost.Settings.Basic
import MockHost.Settings.EnvironmentFile
import MockHost.Unicode.Case
import MockHost.Validation.Scalar

/-!
# Reading settings

A setting may be stated in the environment or in an environment file, under its name
after a common word and in any case; the environment counts before the file. What is
stated is checked, and so is that the file states nothing that is no setting, while the
environment may hold anything.

## Main definitions

* `Settings.check`: Settings with some of them replaced by given values.
* `Settings.read`: The settings that an environment and a file state.
-/

namespace MockHost

namespace Settings

/-- A path, without empty parts and dots. -/
def checkPath (v : Value) : Checked Text := (Checked.text v).map Path.normal

/-- Settings with those replaced that fields state. -/
def check (base : Settings) (fields : List (Text × Value)) : Checked Settings :=
  let stated {α : Type} (name : String) (setting : Settings → α) (check : Value → Checked α) :=
    Checked.optional fields (Text.ofString name) (setting base) check
  .ok Settings.mk
    |> Checked.next (stated "host" host Checked.text)
    |> Checked.next (stated "default_port" defaultPort Checked.int)
    |> Checked.next (stated "listen_backlog" listenBacklog Checked.int)
    |> Checked.next (stated "accept_poll_interval_sec" acceptPollInterval Checked.float)
    |> Checked.next (stated "project_root" projectRoot checkPath)
    |> Checked.next (stated "configuration_file" configurationFile checkPath)
    |> Checked.next (stated "initialise_configuration" initialiseConfiguration Checked.bool)
    |> Checked.next (stated "log_dir" logDir checkPath)
    |> Checked.next (stated "log_to_file" logToFile Checked.bool)
    |> Checked.next (stated "log_level" logLevel Checked.text)
    |> Checked.next (stated "log_json" logJson Checked.bool)
    |> Checked.next (stated "read_timeout_sec" readTimeout Checked.float)
    |> Checked.next (stated "recv_buffer_size" recvBufferSize Checked.int)
    |> Checked.next (stated "close_join_timeout_sec" closeJoinTimeout Checked.float)
    |> Checked.next (stated "connect_timeout_sec" connectTimeout Checked.float)
    |> Checked.next (stated "ack_timeout_sec" ackTimeout Checked.float)
    |> Checked.next (stated "dispatch_wait_for_ack" dispatchWaitForAck Checked.bool)

/-- The kind of document that settings are. -/
def title : Text := "Settings"

/-- What the names of settings start with where other names stand beside them. -/
def namePrefix : Text := "mocktcp_"

/-- A name in lower case. One capital letter becomes a letter and a mark on it. -/
def lowerName (t : Text) : Text :=
  t.flatMap fun c => if c = 304 then [105, 775] else [Unicode.toLower c]

/-- Bindings with their names in lower case. Of names that become the same the last
    counts. -/
def lowered (bs : Bindings) : Bindings :=
  bs.foldl (fun done b => Table.put (lowerName b.1) b.2 done) []

/-- The bindings that a file makes in an environment. A mark of the order of bytes at its
    start is not part of it. -/
def fileBindings (environment : List (Text × Text)) (content : Bytes) :
    Except DecodeError Bindings := do
  let t ← Utf8.decode? content
  let t := if t.head? = some 0xFEFF then t.tail else t
  return EnvironmentFile.bindings environment t

/-- What bindings state about the settings. -/
def statedBy (names : List Text) (bs : Bindings) : List (Text × Value) :=
  names.filterMap fun name =>
    (bs.lookup (namePrefix ++ name)).join.map fun t => (name, .text t)

/-- The bindings to some text under names that no setting has. -/
def strangers (names : List Text) (bs : Bindings) : List Issue :=
  (bs.filter fun b =>
    b.2.any (!·.isEmpty) && !names.contains b.1 &&
      !(names.map (namePrefix ++ ·)).contains b.1).map fun b => ⟨.extraForbidden, [.field b.1]⟩

/-- The settings that an environment and a file state. -/
def read (base : Settings) (environment : List (Text × Text)) (file : Bytes) :
    Except Failure Settings := do
  let names := base.toFields.map Prod.fst
  let inFile := lowered (← (fileBindings environment file).mapError Failure.decoding)
  let inEnvironment := lowered (environment.map fun e => (e.1, some e.2))
  let stated := statedBy names inFile ++ statedBy names inEnvironment
  let known : Checked Unit := match strangers names inFile with
    | [] => .ok ()
    | issues => .error issues
  let checked := .ok (fun s (_ : Unit) => s)
    |> Checked.next (check base stated)
    |> Checked.next known
  (Checked.titled title checked).mapError Failure.invalid

end Settings

end MockHost
