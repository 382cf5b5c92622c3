import MockHost.Connection.Basic

/-!
# The message cycle

Every message goes through the same cycle: it is counted and checked against the
expectation, the hooks are called with it, it is answered, the hooks are called with
the answer, and the deliveries registered for it are made. The connection may close
after that.

Closing is idempotent and may be asked for at any point of the cycle. It only shuts
the socket down and lets the cycle come to its end; the thread releases the socket
when it has ended. Where no thread has been started the socket is released at once.

## Main definitions

* `Connection.current`, `Connection.change`, `Connection.record`: Reading and changing it.
* `Connection.close`: Asks for the end of a connection.
* `Connection.callHooks`, `Connection.callEveryHook`: Calling hooks.
* `Connection.answer`, `Connection.forward`, `Connection.complete`: The cycle.
-/

namespace MockHost

namespace Connection

section

variable {σ : Type} (w : Surroundings σ)

/-- The connection as it is now. Other threads may have changed it in the meantime. -/
def current : Act σ Connection := do
  w.meanwhile
  return w.connection (← get)

/-- Changes the connection. -/
def change (f : Connection → Connection) : Act σ Unit := modify (w.update f)

/-- Adds a call to the history of the connection. -/
def record (call : Call) : Act σ Unit := change w fun c => { c with calls := c.calls ++ [call] }

/-- Writes a log entry that names the connection. -/
def log (severity : Severity) (event : String) (more : List LogField) : Act σ Unit := do
  let c ← current w
  w.note (c.entry severity event more)

/-! ### Closing -/

/-- Shuts the socket down, if it has not been released. A system error only means that
    nothing was left to shut down. -/
def shutdownSocket : Act σ Unit := do
  if (← current w).hasSocket then
    record w .shutdown
    match ← Act.attempt w.shutdown with
    | .ok () => return
    | .error (.system e) => log w .debug "connection_shutdown_ignored" [.text "error" e.message]
    | .error f => throw f

/-- Releases the socket. From then on the connection has none, even if closing fails. -/
def releaseSocket : Act σ Unit := do
  if (← current w).hasSocket then
    change w fun c => { c with hasSocket := false }
    record w .close
    match ← Act.attempt w.close with
    | .ok () => return
    | .error (.system e) => log w .warning "connection_socket_close_failed" [.text "error" e.message]
    | .error f => throw f

/-- Waits for a thread that goes on waiting for its peer after the socket was shut down,
    and shuts the socket down again after each of at most `n` waits. -/
def awaitWorker : Nat → Act σ Unit
  | 0 => return
  | n + 1 => do
    if (← current w).isWaiting then
      log w .warning "connection_close_slow" [.seconds "waited_sec" w.closeJoinTimeout]
      shutdownSocket w
      awaitWorker n

/-- How often the thread is waited for. The second shutdown always wakes it. -/
def waits : Nat := 2

/-- Asks for the end of the connection. -/
def close : Act σ Unit := do
  let first := !(← current w).closeRequested
  change w fun c => { c with closeRequested := true, status := .closed }
  if first then
    log w .debug "connection_closing" []
    shutdownSocket w
  if (← current w).worker = .notStarted then releaseSocket w
  else awaitWorker w waits

/-! ### Hooks -/

/-- Does one thing that a hook is to do. -/
def perform (call : HookCall) : HookAction → Act σ Unit
  | .record => do w.note (.hook call (← current w).received)
  | .close => close w
  | .closeServer => w.closeServer
  | .configure changes => w.configureServer changes
  | .fail f => throw f

/-- Does everything that a hook is to do, up to the first failure. -/
def performAll (call : HookCall) : List HookAction → Act σ Unit
  | [] => return
  | a :: rest => do
    perform w call a
    performAll call rest

/-- Calls one hook. -/
def callHook (call : HookCall) (h : Hook) : Act σ Unit := do
  let c ← current w
  w.note (Hook.logOf c.serverPort c.peer c.received call)
  performAll w call (h.actions c.peer c.received call)

/-- Calls hooks one after another, up to the first failure. -/
def callHooks (call : HookCall) : List Hook → Act σ Unit
  | [] => return
  | h :: rest => do
    callHook w call h
    callHooks call rest

/-- Calls every hook. The first failure counts, but keeps no hook from being called. -/
def callEveryHook (call : HookCall) : List Hook → Act σ Unit
  | [] => return
  | h :: rest => do
    let first ← Act.attempt (callHook w call h)
    let others ← Act.attempt (callEveryHook call rest)
    match first with
    | .error f => throw f
    | .ok () => liftExcept others

/-- Calls all hooks as one, which the history of the connection shows. -/
def announced (call : HookCall) (a : Act σ Unit) : Act σ Unit := do
  let c ← current w
  record w (.hooks call c.received c.mismatch)
  match ← Act.attempt a with
  | .ok () => return
  | .error f =>
    record w (.hooksFailed call f)
    throw f

/-- Calls the hooks when the connection has been accepted. -/
def callOnConnect : Act σ Unit :=
  announced w .onConnect do callHooks w .onConnect (← current w).hooks

/-- Calls the hooks with a message; the server counts it if none of them fails. -/
def callOnMessage (s : MessageStream) : Act σ Unit :=
  announced w (.onMessage s) do
    callHooks w (.onMessage s) (← current w).hooks
    w.countMessage

/-- Calls the hooks with an answer that has been sent. -/
def callAfterResponse (response : Bytes) : Act σ Unit :=
  announced w (.afterResponse response) do
    callHooks w (.afterResponse response) (← current w).hooks

/-- Calls the hooks when the connection has ended. The server forgets it in any case. -/
def callOnClose : Act σ Unit :=
  announced w .onClose do
    Act.andFinally (callEveryHook w .onClose (← current w).hooks) w.forget

/-! ### One message -/

/-- Records whether a message was expected. -/
def judge (s : MessageStream) : Act σ Unit := do
  let mismatch := (← current w).expectation.bind fun e => e.check s
  change w fun c => { c with mismatch := mismatch }
  match mismatch with
  | none => return
  | some m =>
    log w .warning "unexpected_message" [.text "expected" m.expected, .text "actual" m.actual]

/-- The answer to a message that has been judged. -/
def responseTo (c : Connection) : Bytes :=
  if c.mismatch.isNone && !c.behavior.alwaysNak then c.behavior.ack else c.behavior.nak

/-- Sends to the peer. A connection without a socket cannot. -/
def sendToPeer (data : Bytes) : Act σ Unit := do
  if (← current w).hasSocket then
    match ← Act.attempt (w.send data) with
    | .ok () => record w (.send data none)
    | .error f =>
      record w (.send data (some f))
      throw f
  else throw .released

/-- Calls the hooks with a message and answers it. -/
def answer (s : MessageStream) : Act σ Unit := do
  callOnMessage w s
  let c ← current w
  if !c.behavior.noResponse then
    let response := responseTo c
    sendToPeer w response
    callAfterResponse w response

/-- The deliveries that a message triggers, with its key. -/
def deliveriesFor (c : Connection) (s : MessageStream) : Text × List Delivery :=
  let key := s.body c.behavior.terminator
  match c.registry with
  | some r => if c.behavior.sendResponses then (key, r.lookup key) else (key, [])
  | none => (key, [])

/-- Makes the deliveries that a message triggers. -/
def forward (s : MessageStream) : Act σ Unit := do
  let c ← current w
  let (key, deliveries) := deliveriesFor c s
  if !deliveries.isEmpty then
    log w .debug "dispatching_responses" [.text "key" key, .nat "count" deliveries.length]
    let records ← w.dispatch c.dispatcher deliveries
    change w (withRecords records)
    record w (.dispatch deliveries records)

/-- The cycle of one message. -/
def complete (s : MessageStream) : Act σ Unit := do
  change w fun c => { c with lastMessage := some s, received := c.received + 1 }
  judge w s
  answer w s
  forward w s
  if (← current w).behavior.closeAfterNext then
    log w .debug "connection_close_after_response" []
    change w fun c => { c with status := .closed }

end

end Connection

end MockHost
