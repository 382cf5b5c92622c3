import MockHost.CommandLine.Run
import MockHost.Settings.Reading
import Std.Async.Signal
import Std.Async.TCP
import Std.Time

/-!
# The command

The outermost layer: it reads the environment and the files that the command needs, and
joins real sockets to the network of the host. Every client that connects from outside
gets a link of that network; what it sends goes into the link, and what comes out of the
link goes back to it. All decisions are the host's.

## Main definitions

* `main`: The command.
-/

open Std.Async

namespace MockHost

namespace Outside

/-- The text of a string from outside, and the string for the outside of a text. -/
def shown (t : Text) : String := String.ofList (t.map Char.ofNat)

/-- The current time in words. -/
def now : IO Moment := do
  let t ← Std.Time.PlainDateTime.now
  return ⟨t.format "uuuu-MM-dd HH:mm:ss,SSS", t.format "uuuu-MM-dd'T'HH:mm:ss.SSSSSS'Z'"⟩

/-- How the threads of the host take turns. -/
def sch : Scheduler := .usual

/-- A host at work, changed by one thread at a time. -/
structure Session where
  logging : Logging
  host : IO.Ref Host

namespace Session

/-- Writes a line of the log. -/
def writeLine (s : Session) (line : Text) : IO Unit := do
  IO.eprintln (shown line)
  match s.logging.file with
  | some path => IO.FS.withFile (shown path) .append fun h => h.putStrLn (shown line)
  | none => return

/-- Does something in the host and logs what happened. -/
def act {α : Type} (s : Session) (a : Act Host α) : IO (Except Failure α) := do
  let (r, trace) ← s.host.modifyGet fun h =>
    let (r, h) := a.runFrom h
    ((r, h.network.trace), { h with network := { h.network with trace := #[] } })
  for o in trace do
    match o with
    | .log e =>
      match s.logging.line? (← now) "mocktcp" e with
      | some line => s.writeLine line
      | none => pure ()
    | _ => pure ()
  return r

/-- Does something in the network of the host. -/
def onNetwork (s : Session) (a : Act Network Unit) : IO Unit := do
  let _ ← s.act (Host.onNetwork a)

/-- Takes what the host has sent over a link, and tells whether that was all. -/
def take (s : Session) (id : LinkId) : IO (Bytes × Bool) :=
  s.host.modifyGet fun h =>
    match h.network.links[id]? with
    | none => (([], true), h)
    | some l =>
      let rest := l.consume l.client.inbox.length
      ((l.client.inbox, l.client.ended),
        { h with network := { h.network with links := h.network.links.setIfInBounds id rest } })

/-- Passes on to a client what the host has sent, and tells whether that was all. -/
def passOn (s : Session) (id : LinkId) (client : TCP.Socket.Client) : Async Bool := do
  let (data, ended) ← s.take id
  unless data.isEmpty do client.send ⟨data.toArray⟩
  return ended

/-- Passes on what a client and the host send each other. -/
partial def exchange (s : Session) (id : LinkId) (client : TCP.Socket.Client) : Async Unit := do
  if ← s.passOn id client then client.shutdown
  else
    match ← client.recv? 4096 with
    | some received =>
      s.onNetwork (Network.send sch .client id received.toList)
      s.exchange id client
    | none =>
      s.onNetwork (Network.finish sch id)
      let _ ← s.passOn id client
      s.onNetwork (Network.close sch .client id)

/-- Serves a client. One that breaks off has closed its side. -/
def welcome (s : Session) (port : Port) (client : TCP.Socket.Client) : Async Unit := do
  match ← s.act (Host.onNetwork (Network.connect sch true port)) with
  | .error _ => client.shutdown
  | .ok id =>
    try s.exchange id client
    catch _ => s.onNetwork (Network.close sch .client id)

/-- Accepts clients, all of which are served at the same time. -/
partial def accept (s : Session) (port : Port) (server : TCP.Socket.Server) : Async Unit := do
  let client ← server.accept
  background (s.welcome port client)
  s.accept port server

/-- Listens on a port of the host. -/
def listen (s : Session) (address : Std.Net.IPv4Addr) (backlog : Int) (port : Port) :
    IO Unit := do
  let server ← TCP.Socket.Server.mk
  server.bind (.v4 ⟨address, port.toNat.toUInt16⟩)
  server.listen backlog.toNat.toUInt32
  let _ ← (s.accept port server).toIO

end Session

/-- Waits for one of the signals that end the command, and gives its number. -/
def awaitSignal : IO Nat := do
  let numbered (number : Nat) (signal : Signal) : IO (Task Nat) := do
    let arrival : Task (Except IO.Error Int) ← (← Signal.Waiter.mk signal false).wait
    return arrival.map fun _ => number
  IO.waitAny [← numbered 2 .sigint, ← numbered 15 .sigterm]

/-- A file from outside put into a tree, if it is there. -/
def loadFile (files : FileTree) (path : Text) : IO FileTree := do
  try return files.withFile path (← IO.FS.readBinFile (shown path)).toList
  catch
    | .noFileOrDirectory .. => return files
    | .permissionDenied .. =>
      let files := files.withFile path []
      return { files with refusals := [(.read, files.placeOf path, 13)] }
    | _ => return files.withDirectory path

/-- Writes the files of a tree that another one does not have, or has with another content. -/
def saveChanges (old new : FileTree) (directory : Text) : IO Unit := do
  for name in new.filesUnder directory do
    let path := Path.join directory name
    let content := (new.read path).toOption
    unless content == (old.read path).toOption do
      IO.FS.createDirAll (shown (Path.parent path))
      IO.FS.writeBinFile (shown path) ⟨(content.getD []).toArray⟩

/-- The variables of the environment that state settings. -/
def environment (s : Settings) : IO (List (Text × Text)) :=
  s.toFields.filterMapM fun (name, _) => do
    let stated := (Settings.namePrefix ++ name).map Text.upperAscii
    return (← IO.getEnv (shown stated)).map fun value => (stated, Text.ofString value)

/-- Ends the command. -/
def finish (e : Exit) : IO UInt32 := do
  IO.print (shown e.output)
  IO.eprint (shown e.complaint)
  return e.code.toUInt32

/-- Ends the command because of a failure that nothing handles. -/
def giveUp (f : Failure) : IO UInt32 :=
  finish { code := 1, complaint := f.unhandledLabel ++ ": " ++ f.message ++ "\n" }

/-- Does something in the host and writes the files that it has changed. -/
def perform (session : Session) (directory : Text) {α : Type} (act : Act Host α) :
    ExceptT Failure IO α := ExceptT.mk do
  let old := (← session.host.get).configuration.files
  let r ← session.act act
  saveChanges old (← session.host.get).configuration.files directory
  return r

/-- Serves until a signal arrives. -/
def wait (s : Settings) (a : Arguments) (session : Session) : ExceptT Failure IO Nat := do
  let address := (Std.Net.IPv4Addr.ofString (shown a.host)).getD (.ofParts 127 0 0 1)
  for port in (← session.host.get).network.listeningPorts do
    session.listen address s.listenBacklog port
  awaitSignal

/-- Sets up logging, and runs the command. -/
def run (s : Settings) (directory : Text) (a : Arguments) (mode : Arguments.Mode) :
    IO UInt32 := do
  let files ← loadFile { workingDirectory := Path.parts directory } a.config
  match Command.prepare s files a [] with
  | .error f =>
    match Command.refusal? f with
    | some e => finish e
    | none => giveUp f
  | .ok (logging, host) =>
    let session : Session := ⟨logging, ← IO.mkRef host⟩
    if logging.file.isSome then IO.FS.createDirAll (shown s.logDir)
    match logging.firstLine? (← now) with
    | some line => session.writeLine line
    | none => pure ()
    match ← (Command.run sch s (perform session directory) (wait s a session) a mode).run with
    | .error f => giveUp f
    | .ok code => finish { code }

end Outside

end MockHost

open MockHost Outside in
/-- Reads the settings and the command line, and does what they say. -/
def main (args : List String) : IO UInt32 := do
  let directory := Text.ofString (← IO.currentDir).toString
  let usual := Settings.usual directory
  let file ← try pure (← IO.FS.readBinFile ".env").toList catch _ => pure []
  match Settings.read usual (← environment usual) file with
  | .error f => giveUp f
  | .ok s =>
    match Arguments.ofLine s (args.map Text.ofString) with
    | .error e => finish e
    | .ok a =>
      match Command.mode? a with
      | some mode => run s directory a mode
      | none => finish (Command.answer s true a)
