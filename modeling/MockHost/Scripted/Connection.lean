import MockHost.Connection.Reading
import MockHost.Scripted.World

/-!
# Connections on scripted sockets

A rehearsal is a connection whose peer follows a script. The data of a script is
handed out in pieces no longer than a read may give, and every read takes the next
piece. Deliveries go to scripted endpoints. Other threads may close the connection
while it is being served; a schedule says when.

## Main definitions

* `Rehearsal`: A connection, the rest of the script of its peer and a scripted world.
* `Interruption`: A step of another thread that closes the connection.
* `Rehearsal.run`, `Rehearsal.readOne`: Reading until the end, and one message.
* `Rehearsal.start`, `Rehearsal.close`: Starting a thread, and closing.
* `Rehearsal.operateAll`: Any sequence of operations.
-/

namespace MockHost

/-- What one read gives. -/
structure Script.Piece where
  reception : Reception
  /-- Whether the read takes an event of the script, and does not go on with one. -/
  startsEvent : Bool

namespace Script

/-- Bytes in pieces of at most `size`; a size of zero gives a single empty piece. -/
def cut (size : Nat) (bs : Bytes) : List Bytes :=
  if _h : size = 0 then [[]]
  else if bs.length ≤ size then [bs]
  else bs.take size :: cut size (bs.drop size)
termination_by bs.length
decreasing_by simp only [List.length_drop]; omega

/-- What the reads of an event give. -/
def Event.pieces (size : Nat) : Event → List Piece
  | .data bs =>
    match cut size bs with
    | [] => []
    | p :: ps => ⟨.data p, true⟩ :: ps.map fun p => ⟨.data p, false⟩
  | .finished => [⟨.data [], true⟩]
  | .fault f => [⟨.fault f, true⟩]
  | .closing f => [⟨.closing f, true⟩]

end Script

/-- What another thread does that closes a connection while it is being served. Several
    threads may do so, each step of theirs at any moment. -/
inductive Interruption where
  /-- The end of the connection is asked for. -/
  | request
  /-- The socket is shut down, for the first time or again after a wait. -/
  | shutdown (again : Bool)
  deriving DecidableEq, Repr

/-- A connection whose peer follows a script. -/
structure Rehearsal where
  world : ScriptedWorld
  connection : Connection
  /-- What further reads give; after that the peer has finished. -/
  unread : List Script.Piece
  /-- The failures of successive sends to the peer. -/
  sends : List (Option Failure)
  /-- What shutting the socket down fails with, by the number of calls made before. -/
  shuttingDown : Nat → Option Failure
  closing : Option Failure
  /-- What other threads do each time before the connection looks at its state. -/
  interruptions : List (List Interruption) := []

namespace Rehearsal

/-- An act of the scripted world. -/
def onWorld {α : Type} (a : Act ScriptedWorld α) : Act Rehearsal α :=
  Act.within Rehearsal.world (fun w r => { r with world := w }) a

/-- Adds to the trace. -/
def note (o : Occurrence) : Act Rehearsal Unit := onWorld (ScriptedWorld.note o)

/-- Changes the connection. -/
def update (f : Connection → Connection) (r : Rehearsal) : Rehearsal :=
  { r with connection := f r.connection }

/-- The name of the peer's socket in the trace. -/
def label : Text := "peer"

/-- Sends to the peer, or fails as the script says. -/
def sendToPeer (data : Bytes) : Act Rehearsal Unit := do
  let next := (← get).sends.head?
  modify fun r => { r with sends := r.sends.tail }
  match next with
  | some (some f) => throw f
  | _ => note (.send label data)

/-- Shuts the socket down, or fails as the script says. -/
def shutdown : Act Rehearsal Unit := do
  note (.shutdown label)
  let r ← get
  ScriptedWorld.failing (r.shuttingDown r.connection.calls.length)

/-- One step of another thread that closes the connection. -/
def interrupt (closeJoinTimeout : Seconds) : Interruption → Act Rehearsal Unit
  | .request => do
    let c := (← get).connection
    modify (update fun c => { c with closeRequested := true, status := .closed })
    if !c.closeRequested then note (c.entry .debug "connection_closing" [])
  | .shutdown again => do
    let c := (← get).connection
    if again then
      note (c.entry .warning "connection_close_slow" [.seconds "waited_sec" closeJoinTimeout])
    modify (update fun c => { c with calls := c.calls ++ [.shutdown] })
    match ← Act.attempt shutdown with
    | .ok () => return
    | .error f => note (c.entry .debug "connection_shutdown_ignored" [.text "error" f.message])

/-- Steps of other threads, one after another. -/
def interruptAll (closeJoinTimeout : Seconds) : List Interruption → Act Rehearsal Unit
  | [] => return
  | i :: rest => do
    interrupt closeJoinTimeout i
    interruptAll closeJoinTimeout rest

/-- What other threads do before the connection looks at its state again. -/
def meanwhile (closeJoinTimeout : Seconds) : Act Rehearsal Unit := do
  match (← get).interruptions with
  | [] => return
  | now :: later =>
    modify fun r => { r with interruptions := later }
    interruptAll closeJoinTimeout now

/-- The world of the connection. It has no server. -/
def surroundings (closeJoinTimeout : Seconds) : Surroundings Rehearsal where
  connection := Rehearsal.connection
  update := update
  meanwhile := meanwhile closeJoinTimeout
  note := note
  send := sendToPeer
  shutdown := shutdown
  close := do
    note (.close label)
    ScriptedWorld.failing (← get).closing
  dispatch d deliveries := onWorld (d.dispatchAll ScriptedWorld.transport deliveries)
  closeServer := return
  configureServer _ := return
  countMessage := return
  forget := return
  closeJoinTimeout := closeJoinTimeout

/-- A rehearsal for a connection and the script of its peer. -/
def of (c : Connection) (s : Script) (world : ScriptedWorld) (bufferSize : Nat) :
    Rehearsal where
  world := { world with trace := world.trace.push (.setTimeout label c.readTimeout) }
  connection := c
  unread := s.received.flatMap (Script.Event.pieces bufferSize)
  sends := s.sends
  shuttingDown _ := s.shuttingDown
  closing := s.closing

/-- The number of events of the script that have not been taken yet. -/
def eventsLeft (r : Rehearsal) : Nat := r.unread.countP (·.startsEvent)

section

variable (w : Surroundings Rehearsal)

/-- Reads on, part way through a message, as long as there is something to wait for. At the
    end of the script the peer has finished. -/
def readOn (single : Bool) (begun : MessageStream) : List Script.Piece → Act Rehearsal Unit
  | [] => do
    let _ ← Connection.receive w single begun (.data [])
  | p :: rest => do
    modify fun r => { r with unread := rest }
    match ← Connection.receive w single begun p.reception with
    | none => return
    | some begun => readOn single begun rest

/-- Reads until the connection is no longer open, or one message. -/
def read (single : Bool) : Act Rehearsal Unit := do
  match ← Connection.begin w single with
  | none => return
  | some begun => readOn w single begun (← get).unread

/-- Reads one message and sees it through its cycle. -/
def readOne : Act Rehearsal Unit := read w true

/-- Serves the peer to the end. -/
def run : Act Rehearsal Unit := do
  let r ← Act.attempt (read w false)
  Connection.conclude w r

/-- Serves the peer on a thread of its own, once. -/
def start : Act Rehearsal Unit := do
  let c := (← get).connection
  if c.worker = .notStarted then
    Connection.change w fun c => { c with worker := .running }
    let r ← Act.attempt (run w)
    Connection.change w fun c => { c with worker := .ended }
    match r with
    | .ok () => return
    | .error f => w.note (.threadDied c.threadName f.unhandledLabel f.message)

/-- Asks for the end of the connection. -/
def close : Act Rehearsal Unit := Connection.close w

/-- What the owner of a connection may do with it. -/
inductive Operation where
  | start
  | close
  /-- Waits for the thread, which has come to its end when `start` is over. -/
  | join
  deriving DecidableEq, Repr

/-- One operation. -/
def operate : Operation → Act Rehearsal Unit
  | .start => start w
  | .close => close w
  | .join => return

/-- Operations one after another, up to the first failure. -/
def operateAll : List Operation → Act Rehearsal Unit
  | [] => return
  | o :: rest => do
    operate w o
    operateAll rest

end

end Rehearsal

end MockHost
