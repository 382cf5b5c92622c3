import MockHost.Act
import MockHost.Document
import MockHost.FileTree
import MockHost.Registry
import MockHost.Settings.Basic
import MockHost.Value.Printer

/-!
# Configuration

A configuration is read from a file when it is first asked for and kept until it is
read again. Where there is no file, the usual configuration is written first, unless
that is switched off. From it follow the ports to listen on and, for each port, the
registry of the deliveries that messages trigger.

## Main definitions

* `Configuration`: A path, the files around it and the document read last.
* `Configuration.load`, `Configuration.reload`: Reading the document.
* `Configuration.ports`, `Configuration.registry`: What follows from it.
* `Configuration.writeDefaults`: Writes the usual configuration.
-/

namespace MockHost

namespace Document

/-- The usual document, which listens on one port. -/
def usual (port : Port) : Except ValidationError Document :=
  let response (message : String) : ResponseDefinition := ⟨"localhost", 1234, message⟩
  let incoming : IncomingDefinition :=
    { message := "Incoming Message One"
      responses :=
        [response "Response to destinationA\\u000d\\u000a\\u000a",
          response "Response to destinationB\\u000d\\u000a\\u000a"] }
  match Port.check (.int port) with
  | .ok port => .ok ⟨[⟨port, [incoming]⟩]⟩
  | .error issues =>
    .error ⟨ServerDefinition.title, issues.map fun i => { i with path := .field "port" :: i.path }⟩

/-- The ports that a document names, in order and each once. -/
def ports (d : Document) : List Port :=
  ((d.servers.map ServerDefinition.port).mergeSort).eraseReps

/-- The definitions for a port. -/
def serversOn (d : Document) (port : Port) : List ServerDefinition :=
  d.servers.filter fun s => s.port == port

/-- The responses for a port, each with the message that triggers it. -/
def responsesOn (d : Document) (port : Port) : List (Text × ResponseDefinition) :=
  (d.serversOn port).flatMap fun s =>
    s.incoming.flatMap fun i => i.responses.map fun r => (i.message, r)

end Document

/-- A configuration file. -/
structure Configuration where
  path : Text
  /-- Writes the usual configuration where there is none. -/
  initialise : Bool
  /-- The port of the usual configuration. -/
  defaultPort : Port
  files : FileTree
  /-- The document that has been read. -/
  document : Option Document := none
  trace : Trace := #[]

namespace Configuration

/-- The configuration at a path, or at the usual one. -/
def create (settings : Settings) (files : FileTree) (path : Option Text)
    (initialise : Option Bool) : Configuration where
  path := (path.map Path.normal).getD settings.configurationFile
  initialise := initialise.getD settings.initialiseConfiguration
  defaultPort := settings.defaultPort
  files := files

/-- Adds to the trace. -/
def note (o : Occurrence) : Act Configuration Unit :=
  modify fun c => { c with trace := c.trace.push o }

/-! ### Reports -/

/-- There is no file. -/
def notFound (path : Text) : ErrorReport where
  kind := .configuration
  message := "Configuration file not found: " ++ path
  details := [LogField.text "path" path]

/-- The file cannot be read. -/
def unreadable (path error : Text) : ErrorReport where
  kind := .configuration
  message := "Unable to read configuration file " ++ path ++ ": " ++ error
  details := [LogField.text "path" path, LogField.text "error" error]

/-- The file does not hold a document. -/
def invalid (path : Text) (e : ValidationError) : ErrorReport where
  kind := .configuration
  message := "Invalid configuration file " ++ path
  details := [LogField.text "path" path,
    (Text.ofString "errors", .list (e.issues.map Issue.toValue))]

/-- The usual configuration cannot be written. -/
def unwritable (path error : Text) : ErrorReport where
  kind := .configuration
  message := "Unable to write default configuration to " ++ path ++ ": " ++ error
  details := [LogField.text "path" path, LogField.text "error" error]

/-! ### The file -/

/-- Changes the files, or fails as a report says with the files as they are then. -/
def changeFiles (f : FileTree → Except (FileError × FileTree) FileTree)
    (report : Text → ErrorReport) : Act Configuration Unit := do
  match f (← get).files with
  | .ok files => modify fun c => { c with files := files }
  | .error (e, files) =>
    modify fun c => { c with files := files }
    throw (e.reportedBy report)

/-- Writes the usual configuration, in a directory that is made if need be. -/
def writeDefaults : Act Configuration Text := do
  let c ← get
  changeFiles (·.makeDirectory (Path.parent c.path)) (unwritable c.path)
  match Document.usual c.defaultPort with
  | .error e => throw (.invalid e)
  | .ok d =>
    let content := Utf8.encode (d.toValue.pretty 0)
    changeFiles (fun t => (t.write c.path content).mapError fun e => (e, t)) (unwritable c.path)
    note (.logged .info "configuration_defaults_written" [.text "path" c.path])
    return c.path

/-- The text of the file. -/
def readText (c : Configuration) : Except Failure Text :=
  match c.files.read c.path with
  | .error e => .error (e.reportedBy (unreadable c.path))
  | .ok content =>
    match Utf8.decode? content with
    | .ok t => .ok t
    | .error e => .error (.reported (unreadable c.path e.message))

/-- The document that the file holds. -/
def readDocument (c : Configuration) : Except Failure Document := do
  let t ← c.readText
  match Document.read t with
  | .ok d => return d
  | .error e => throw (.reported (invalid c.path e))

/-- Reads the document from the file and keeps it. -/
def readIn : Act Configuration Document := do
  let c ← get
  match c.readDocument with
  | .error f => throw f
  | .ok d =>
    note (.logged .info "configuration_loaded"
      [.text "path" c.path, .nat "servers" d.servers.length])
    modify fun c => { c with document := some d }
    return d

/-- The document, read from the file unless it has been read before. -/
def load : Act Configuration Document := do
  let c ← get
  match c.document with
  | some d => return d
  | none =>
    match c.files.holds c.path with
    | .error e => throw (.system e)
    | .ok true => readIn
    | .ok false =>
      if !c.initialise then throw (.reported (notFound c.path))
      let _ ← writeDefaults
      readIn

/-- The document, read from the file again. -/
def reload : Act Configuration Document := do
  modify fun c => { c with document := none }
  load

/-! ### What follows from the document -/

/-- The ports to listen on. -/
def ports : Act Configuration (List Port) := do return (← load).ports

/-- The definitions for a port. -/
def serversOn (port : Port) : Act Configuration (List ServerDefinition) := do
  return (← load).serversOn port

/-- Adds responses to a registry, their payloads without escapes. -/
def addResponses (r : Registry) : List (Text × ResponseDefinition) → Act Configuration Registry
  | [] => return r
  | (key, response) :: rest => do
    match Escape.unescape? response.message with
    | .error e => throw (.escape e)
    | .ok payload =>
      let d : Delivery := ⟨response.host, response.port, payload⟩
      match r.addLogged key d with
      | .error e => throw (.reported e)
      | .ok (r, logged) =>
        modify fun c => { c with trace := c.trace ++ logged }
        addResponses r rest

/-- The registry for a port. -/
def registry (port : Port) : Act Configuration Registry := do
  addResponses {} ((← load).responsesOn port)

end Configuration

end MockHost
