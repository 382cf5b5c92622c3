import MockHost.Connection.Reading
import MockHost.Proofs.Connection.Deed

/-!
# What Serving a Peer Consists Of

A connection can be closed, have its hooks called and be served in any surroundings,
and whatever is to be shown of it there has to be shown of all the steps that this
consists of. That is the same walk through closing, the hooks and the message cycle
every time, so it is made once, for a relation on worlds that is left open.

What the walk asks of the relation is stated in parts: what looking at the connection
takes, what closing it takes besides, what its hooks take, and what serving a peer
takes on top of these. Whoever wants to know something of a connection in some
surroundings says what the relation is, shows it for the steps that these parts name,
and has it for everything that the connection does.

## Main definitions

* `Connection.Aloof`, `Connection.Modest`: Changes that leave most of a connection alone.
* `Call.isFarewell`, `Call.isRefusal`, `Call.isOutgoing`: The calls that count for something
  besides.
* `Occurrence.isRemark`: What a connection adds to the trace itself.
* `Connection.greet`: The cycle of a message up to the hooks that are called with it.
* `Surroundings.Telling`, `Surroundings.Hooking`, `Surroundings.Shutting`,
  `Surroundings.Closing`, `Surroundings.Calling`, `Surroundings.Serving`: What a relation has to
  admit.
* `Surroundings.Sturdy`: What must not fail for closing a connection not to fail.

## Theorems

* `Surroundings.Telling.shutdownSocket`, `Surroundings.Telling.sendToPeer`: Calls on the socket,
  which the history shows.
* `Surroundings.Shutting.awaitWorker`: A part of closing.
* `Surroundings.Hooking.callHooks`, `Surroundings.Hooking.callEveryHook`: Calling hooks.
* `Surroundings.Serving.complete`: The message cycle.
* `Surroundings.Serving.begin`, `Surroundings.Serving.receive`: Serving a peer.
* `Surroundings.Sturdy.closing`: Closing a connection does not fail.
-/

namespace MockHost

namespace Call

/-- Whether the hooks are called because the connection has ended. -/
def isFarewell : Call → Bool
  | .hooks .onClose _ _ => true
  | _ => false

/-- Whether a call may be made while the connection is served. -/
def isServing (call : Call) : Bool := !call.isFarewell

/-- Whether the hooks failed for a message, which the server does not count then. -/
def isRefusal : Call → Bool
  | .hooksFailed (.onMessage _) _ => true
  | _ => false

/-- Whether a call does something with the socket, other than to read it. -/
def isOutgoing : Call → Bool
  | .send _ _ | .shutdown | .close => true
  | _ => false

theorem isClose_of_isOutgoing {call : Call} (h : call.isOutgoing = false) :
    call.isClose = false := by
  cases call with
  | close => exact absurd h.symm Bool.false_ne_true
  | _ => rfl

/-- Whether a call is one of the many that nothing depends on. -/
def isPlain (call : Call) : Bool := call.isServing && !call.isOutgoing && !call.isRefusal

end Call

/-- Whether an occurrence is one that a connection adds to the trace itself: a log entry, or that
    a hook has been called. -/
def Occurrence.isRemark : Occurrence → Bool
  | .log _ | .hook _ _ => true
  | _ => false

theorem Occurrence.isThreadDeath_of_isRemark {o : Occurrence} (h : o.isRemark) :
    o.isThreadDeath = false := by
  cases o with
  | threadDied _ _ _ => exact absurd h Bool.false_ne_true
  | _ => rfl

namespace Connection

/-- A change of the connection that does not concern its thread, its socket or its history. It
    may close the connection, but never opens it again. -/
structure Aloof (f : Connection → Connection) : Prop where
  worker : ∀ c, (f c).worker = c.worker
  hasSocket : ∀ c, (f c).hasSocket = c.hasSocket
  calls : ∀ c, (f c).calls = c.calls
  status : ∀ c, c.status = .closed → (f c).status = .closed

/-- A change that does not concern messages and records either. -/
structure Modest (f : Connection → Connection) : Prop extends Aloof f where
  received : ∀ c, (f c).received = c.received
  lastMessage : ∀ c, (f c).lastMessage = c.lastMessage
  dispatches : ∀ c, (f c).dispatches = c.dispatches

/-- Asking for the end of the connection. -/
theorem modest_request : Modest fun c => { c with closeRequested := true, status := .closed } :=
  ⟨⟨fun _ => rfl, fun _ => rfl, fun _ => rfl, fun _ _ => rfl⟩, fun _ => rfl, fun _ => rfl, fun _ => rfl⟩

theorem modest_closed : Modest fun c => { c with status := .closed } :=
  ⟨⟨fun _ => rfl, fun _ => rfl, fun _ => rfl, fun _ _ => rfl⟩, fun _ => rfl, fun _ => rfl, fun _ => rfl⟩

theorem modest_pending (rest : Bytes) : Modest fun c => { c with pending := rest } :=
  ⟨⟨fun _ => rfl, fun _ => rfl, fun _ => rfl, fun _ => id⟩, fun _ => rfl, fun _ => rfl, fun _ => rfl⟩

theorem modest_mismatch (m : Option Mismatch) : Modest fun c => { c with mismatch := m } :=
  ⟨⟨fun _ => rfl, fun _ => rfl, fun _ => rfl, fun _ => id⟩, fun _ => rfl, fun _ => rfl, fun _ => rfl⟩

section

variable {σ : Type} (w : Surroundings σ)

/-- The cycle of a message up to the hooks that are called with it. -/
def greet (s : MessageStream) : Act σ Unit := do
  change w fun c => { c with lastMessage := some s, received := c.received + 1 }
  judge w s
  callOnMessage w s

/-- The answer to a message for which the hooks have been called. -/
def respond : Act σ Unit := do
  let c ← current w
  if !c.behavior.noResponse then
    let response := responseTo c
    sendToPeer w response
    callAfterResponse w response

/-- The end of the cycle of a message. -/
def closeAfter : Act σ Unit := do
  if (← current w).behavior.closeAfterNext then
    log w .debug "connection_close_after_response" []
    change w fun c => { c with status := .closed }

theorem complete_eq (s : MessageStream) :
    complete w s = (do greet w s; respond w; forward w s; closeAfter w) := by
  simp only [complete, answer, greet, respond, closeAfter, bind_assoc]

end

end Connection

open Act (Moves Succeeds Harmless)

namespace Surroundings

variable {σ : Type}

/-- What has to be known of a relation for a connection to look at itself and to log. -/
structure Telling (w : Surroundings σ) (R : σ → σ → Prop) : Prop where
  path : Act.Path R
  meanwhile : Moves R w.meanwhile
  note : ∀ o : Occurrence, o.isRemark → Moves R (w.note o)

/-- What has to be known besides for the hooks themselves to follow it. -/
structure Hooking (w : Surroundings σ) (R : σ → σ → Prop) : Prop extends Telling w R where
  close : Moves R (Connection.close w)
  closeServer : Moves R w.closeServer
  configureServer : ∀ changes, Moves R (w.configureServer changes)

/-- What has to be known besides for shutting the socket down to follow it. -/
structure Shutting (w : Surroundings σ) (R : σ → σ → Prop) : Prop extends Telling w R where
  shutdownSocket : Moves R (Connection.shutdownSocket w)

/-- What has to be known for closing a connection to follow it, but for the release of the
    socket. -/
structure Closing (w : Surroundings σ) (R : σ → σ → Prop) : Prop extends Shutting w R where
  change : ∀ {f}, Connection.Modest f → Moves R (Connection.change w f)

/-- What has to be known for closing, for the hooks and for judging a message. -/
structure Calling (w : Surroundings σ) (R : σ → σ → Prop) : Prop extends Closing w R, Hooking w R

/-- What has to be known besides for serving a peer to follow it. -/
structure Serving (w : Surroundings σ) (R : σ → σ → Prop) : Prop extends Calling w R where
  record : ∀ {call : Call}, call.isPlain → Moves R (Connection.record w call)
  greet : ∀ s, Moves R (Connection.greet w s)
  sendToPeer : ∀ data, Moves R (Connection.sendToPeer w data)
  dispatch : ∀ d deliveries, Moves R (w.dispatch d deliveries)
  withRecords : ∀ records, Moves R (Connection.change w (Connection.withRecords records))

variable {w : Surroundings σ} {R : σ → σ → Prop}

namespace Telling

theorem current (h : Telling w R) : Moves R (Connection.current w) :=
  Moves.bind h.path h.meanwhile fun _ =>
    Moves.bind h.path (Moves.get h.path) fun _ => Moves.pure h.path _

theorem log (h : Telling w R) (severity : Severity) (event : String) (more : List LogField) :
    Moves R (Connection.log w severity event more) :=
  Moves.bind h.path h.current fun _ => h.note _ rfl

/-- An error of the system is logged, and any other failure goes on. -/
theorem outcome (h : Telling w R) (severity : Severity) (event : String)
    (res : Except Failure Unit) :
    Moves R (match res with
      | .ok () => return
      | .error (.system e) => Connection.log w severity event [.text "error" e.message]
      | .error f => throw f) := by
  split
  · exact Moves.pure h.path _
  · exact h.log _ _ _
  · exact Moves.throw h.path _

theorem attempt (h : Telling w R) {a : Act σ Unit} (ha : Moves R a) (severity : Severity)
    (event : String) :
    Moves R (do
      match ← Act.attempt a with
      | .ok () => return
      | .error (.system e) => Connection.log w severity event [.text "error" e.message]
      | .error f => throw f) :=
  Moves.bind h.path (Moves.attempt ha) (h.outcome severity event)

theorem reportEnd (h : Telling w R) (res : Except Failure Unit) :
    Moves R (Connection.reportEnd w res) := by
  cases res with
  | ok _ => exact Moves.pure h.path _
  | error f =>
      cases f with
      | system e =>
          refine Moves.bind h.path h.current fun c => ?_
          split
          · exact h.log _ _ _
          · exact h.log _ _ _
      | _ => exact h.log _ _ _

/-- A relation that admits the call and the record of it admits both, one after the other. -/
theorem shutdownSocket (h : Telling w R) (hrecord : Moves R (Connection.record w .shutdown))
    (hshutdown : Moves R w.shutdown) : Moves R (Connection.shutdownSocket w) := by
  refine Moves.bind h.path h.current fun c => ?_
  split
  · refine Moves.bind h.path hrecord fun _ => ?_
    exact h.attempt hshutdown .debug "connection_shutdown_ignored"
  · exact Moves.pure h.path _

theorem sendToPeer (h : Telling w R) {data : Bytes}
    (hrecord : ∀ fault, Moves R (Connection.record w (.send data fault)))
    (hsend : Moves R (w.send data)) : Moves R (Connection.sendToPeer w data) := by
  refine Moves.bind h.path h.current fun c => ?_
  split
  · refine Moves.bind h.path (Moves.attempt hsend) fun res => ?_
    split
    · exact hrecord none
    · exact Moves.bind h.path (hrecord _) fun _ => Moves.throw h.path _
  · exact Moves.throw h.path _

end Telling

/-! ### Closing -/

namespace Shutting

theorem awaitWorker (h : Shutting w R) (n : Nat) : Moves R (Connection.awaitWorker w n) := by
  induction n with
  | zero => exact Moves.pure h.path _
  | succ n ih =>
      refine Moves.bind h.path h.current fun c => ?_
      split
      · refine Moves.bind h.path (h.log _ _ _) fun _ => ?_
        exact Moves.bind h.path h.shutdownSocket fun _ => ih
      · exact Moves.pure h.path _

end Shutting

namespace Closing

/-- What follows a relation follows any that admits more. -/
theorem mono {Q : σ → σ → Prop} (h : Closing w Q) (path : Act.Path R)
    (himp : ∀ {s s'}, Q s s' → R s s') : Closing w R where
  path := path
  meanwhile s := himp (h.meanwhile s)
  note o ho s := himp (h.note o ho s)
  change hf s := himp (h.change hf s)
  shutdownSocket s := himp (h.shutdownSocket s)

/-- Whoever closes a connection, and whenever. Only where no thread has been started is the
    socket released here. -/
theorem close (h : Closing w R) (hrelease : Moves R (Connection.releaseSocket w)) :
    Moves R (Connection.close w) := by
  refine Moves.bind h.path h.current fun c => ?_
  refine Moves.bind h.path (h.change Connection.modest_request) fun _ => ?_
  have hend : Moves R (do
      if (← Connection.current w).worker = .notStarted then Connection.releaseSocket w
      else Connection.awaitWorker w Connection.waits) := by
    refine Moves.bind h.path h.current fun c' => ?_
    split
    · exact hrelease
    · exact h.awaitWorker _
  exact Moves.ifThen h.path (h.log _ _ _)
    (fun _ => Moves.bind h.path h.shutdownSocket fun _ => hend) hend

end Closing

/-! ### Hooks -/

namespace Hooking

theorem perform (h : Hooking w R) (call : HookCall) (a : HookAction) :
    Moves R (Connection.perform w call a) := by
  cases a with
  | record => exact Moves.bind h.path h.current fun c => h.note _ rfl
  | close => exact h.close
  | closeServer => exact h.closeServer
  | configure changes => exact h.configureServer changes
  | fail f => exact Moves.throw h.path f

theorem performAll (h : Hooking w R) (call : HookCall) (actions : List HookAction) :
    Moves R (Connection.performAll w call actions) := by
  induction actions with
  | nil => exact Moves.pure h.path _
  | cons a rest ih => exact Moves.bind h.path (h.perform call a) fun _ => ih

theorem callHook (h : Hooking w R) (call : HookCall) (hook : Hook) :
    Moves R (Connection.callHook w call hook) := by
  refine Moves.bind h.path h.current fun c => ?_
  have hlogged : (Hook.logOf c.serverPort c.peer c.received call).isRemark := by
    cases call <;> rfl
  exact Moves.bind h.path (h.note _ hlogged) fun _ => h.performAll call _

theorem callHooks (h : Hooking w R) (call : HookCall) (hooks : List Hook) :
    Moves R (Connection.callHooks w call hooks) := by
  induction hooks with
  | nil => exact Moves.pure h.path _
  | cons hook rest ih => exact Moves.bind h.path (h.callHook call hook) fun _ => ih

theorem callEveryHook (h : Hooking w R) (call : HookCall) (hooks : List Hook) :
    Moves R (Connection.callEveryHook w call hooks) := by
  induction hooks with
  | nil => exact Moves.pure h.path _
  | cons hook rest ih =>
      -- A failure of the first hook is put off until the others have been called.
      refine Moves.bind h.path (Moves.attempt (h.callHook call hook)) fun first => ?_
      refine Moves.bind h.path (Moves.attempt ih) fun others => ?_
      split
      · exact Moves.throw h.path _
      · cases others with
        | ok _ => exact Moves.pure h.path _
        | error f => exact Moves.throw h.path f

/-- Calling all hooks as one shows in the history, and so does their failure. -/
theorem announced (h : Hooking w R) {call : HookCall}
    (hcall : ∀ n m, Moves R (Connection.record w (.hooks call n m)))
    (hfailed : ∀ f, Moves R (Connection.record w (.hooksFailed call f)))
    {a : Act σ Unit} (ha : Moves R a) : Moves R (Connection.announced w call a) := by
  refine Moves.bind h.path h.current fun c => ?_
  refine Moves.bind h.path (hcall _ _) fun _ => ?_
  refine Moves.bind h.path (Moves.attempt ha) fun res => ?_
  split
  · exact Moves.pure h.path _
  · exact Moves.bind h.path (hfailed _) fun _ => Moves.throw h.path _

end Hooking

namespace Calling

theorem mono {Q : σ → σ → Prop} (h : Calling w Q) (path : Act.Path R)
    (himp : ∀ {s s'}, Q s s' → R s s') : Calling w R where
  toClosing := h.toClosing.mono path himp
  close s := himp (h.close s)
  closeServer s := himp (h.closeServer s)
  configureServer changes s := himp (h.configureServer changes s)

theorem judge (h : Calling w R) (s : MessageStream) : Moves R (Connection.judge w s) := by
  refine Moves.bind h.path h.current fun c => ?_
  refine Moves.bind h.path (h.change (Connection.modest_mismatch _)) fun _ => ?_
  split
  · exact Moves.pure h.path _
  · exact h.log _ _ _

end Calling

/-! ### The message cycle -/

namespace Serving

theorem respond (h : Serving w R) : Moves R (Connection.respond w) := by
  refine Moves.bind h.path h.current fun c => ?_
  split
  · refine Moves.bind h.path (h.sendToPeer _) fun _ => ?_
    refine h.announced (fun _ _ => h.record rfl) (fun _ => h.record rfl) ?_
    exact Moves.bind h.path h.current fun c => h.callHooks _ _
  · exact Moves.pure h.path _

theorem forward (h : Serving w R) (s : MessageStream) : Moves R (Connection.forward w s) := by
  refine Moves.bind h.path h.current fun c => ?_
  dsimp only
  split
  · refine Moves.bind h.path (h.log _ _ _) fun _ => ?_
    refine Moves.bind h.path (h.dispatch _ _) fun records => ?_
    exact Moves.bind h.path (h.withRecords records) fun _ => h.record rfl
  · exact Moves.pure h.path _

theorem closeAfter (h : Serving w R) : Moves R (Connection.closeAfter w) := by
  refine Moves.bind h.path h.current fun c => ?_
  split
  · exact Moves.bind h.path (h.log _ _ _) fun _ => h.change Connection.modest_closed
  · exact Moves.pure h.path _

theorem complete (h : Serving w R) (s : MessageStream) : Moves R (Connection.complete w s) := by
  rw [Connection.complete_eq]
  refine Moves.bind h.path (h.greet s) fun _ => ?_
  refine Moves.bind h.path h.respond fun _ => ?_
  exact Moves.bind h.path (h.forward s) fun _ => h.closeAfter

/-! ### Reading -/

theorem finish (h : Serving w R) (begun : MessageStream) : Moves R (Connection.finish w begun) := by
  rw [Connection.finish]
  split
  · exact Moves.bind h.path (h.log _ _ _) fun _ => h.change Connection.modest_closed
  · exact Moves.bind h.path (h.log _ _ _) fun _ => h.change Connection.modest_closed

theorem proceed (h : Serving w R) (begun : MessageStream) :
    Moves R (Connection.proceed w begun) := by
  refine Moves.bind h.path h.current fun c => ?_
  split
  · exact Moves.bind h.path (h.finish begun) fun _ => Moves.pure h.path _
  · exact Moves.pure h.path _

theorem work (h : Serving w R) (single : Bool) (begun : MessageStream) (bytes : Bytes) :
    Moves R (Connection.work w single begun bytes) := by
  induction bytes generalizing begun with
  | nil =>
      exact Moves.bind h.path (h.change (Connection.modest_pending _)) fun _ => h.proceed begun
  | cons b rest ih =>
      refine Moves.bind h.path h.current fun c => ?_
      split
      · refine Moves.bind h.path (h.change (Connection.modest_pending rest)) fun _ => ?_
        refine Moves.bind h.path (h.complete _) fun _ => ?_
        refine Moves.bind h.path h.current fun c' => ?_
        split
        · exact Moves.pure h.path _
        · exact ih _
      · exact ih _

/-- The start of reading. -/
theorem begin (h : Serving w R) (single : Bool) : Moves R (Connection.begin w single) := by
  refine Moves.bind h.path h.current fun c => ?_
  split
  · exact h.work single _ _
  · exact Moves.pure h.path _

theorem takeIn (h : Serving w R) (single : Bool) (begun : MessageStream) (x : Reception) :
    Moves R (Connection.takeIn w single begun x) := by
  have hfinish : Moves R (do
      Connection.finish w begun
      return (none : Option MessageStream)) :=
    Moves.bind h.path (h.finish begun) fun _ => Moves.pure h.path _
  cases x with
  | data bs =>
      cases bs with
      | nil => exact hfinish
      | cons b bs => exact h.work single begun _
  | fault f =>
      rw [Connection.takeIn]
      split
      · refine Moves.bind h.path h.current fun c => ?_
        exact Moves.ifThen h.path (h.log _ _ _) (fun _ => h.proceed begun) (h.proceed begun)
      · exact Moves.throw h.path f
  | closing fault =>
      -- This read was ended by somebody who closed the connection.
      refine Moves.bind h.path h.close fun _ => ?_
      cases fault with
      | none => exact hfinish
      | some f =>
          dsimp only
          split
          · exact hfinish
          · exact Moves.bind h.path (Moves.throw h.path f) fun _ => Moves.pure h.path _

/-- One read of the socket. -/
theorem receive (h : Serving w R) (single : Bool) (begun : MessageStream) (x : Reception) :
    Moves R (Connection.receive w single begun x) :=
  Moves.bind h.path (h.record rfl) fun _ => h.takeIn single begun x

end Serving

/-! ### What cannot fail -/

/-- What is done with the socket fails with errors of the system only, and nothing else fails
    that it takes to close a connection. -/
structure Sturdy (w : Surroundings σ) : Prop where
  meanwhile : Succeeds w.meanwhile
  note : ∀ o, Succeeds (w.note o)
  shutdown : Harmless w.shutdown
  close : Harmless w.close

namespace Sturdy

theorem current (h : Sturdy w) : Succeeds (Connection.current w) :=
  Succeeds.bind h.meanwhile fun _ => Succeeds.bind Succeeds.get fun _ => Succeeds.pure _

theorem log (h : Sturdy w) (severity : Severity) (event : String) (more : List LogField) :
    Succeeds (Connection.log w severity event more) :=
  Succeeds.bind h.current fun _ => h.note _

/-- Errors of the system are only logged. -/
theorem attempt (h : Sturdy w) {a : Act σ Unit} (ha : Harmless a) (severity : Severity)
    (event : String) :
    Succeeds (do
      match ← Act.attempt a with
      | .ok () => return
      | .error (.system e) => Connection.log w severity event [.text "error" e.message]
      | .error f => throw f) := by
  intro s
  rw [Act.runFrom_bind_ok (Act.runFrom_attempt a s)]
  rcases ha s with ⟨s', hok | ⟨e, hfail⟩⟩
  · rw [hok]
    exact ⟨(), s', rfl⟩
  · rw [hfail]
    exact h.log _ _ _ s'

theorem shutdownSocket (h : Sturdy w) : Succeeds (Connection.shutdownSocket w) := by
  refine Succeeds.bind h.current fun c => ?_
  split
  · exact Succeeds.bind (Succeeds.modify _) fun _ => h.attempt h.shutdown _ _
  · exact Succeeds.pure _

theorem releaseSocket (h : Sturdy w) : Succeeds (Connection.releaseSocket w) := by
  refine Succeeds.bind h.current fun c => ?_
  split
  · refine Succeeds.bind (Succeeds.modify _) fun _ => ?_
    exact Succeeds.bind (Succeeds.modify _) fun _ => h.attempt h.close _ _
  · exact Succeeds.pure _

theorem awaitWorker (h : Sturdy w) (n : Nat) : Succeeds (Connection.awaitWorker w n) := by
  induction n with
  | zero => exact Succeeds.pure _
  | succ n ih =>
      refine Succeeds.bind h.current fun c => ?_
      split
      · refine Succeeds.bind (h.log _ _ _) fun _ => ?_
        exact Succeeds.bind h.shutdownSocket fun _ => ih
      · exact Succeeds.pure _

/-- Asking for the end of a connection does not fail. -/
theorem closing (h : Sturdy w) : Succeeds (Connection.close w) := by
  refine Succeeds.bind h.current fun c => ?_
  refine Succeeds.bind (Succeeds.modify _) fun _ => ?_
  have hend : Succeeds (do
      if (← Connection.current w).worker = .notStarted then Connection.releaseSocket w
      else Connection.awaitWorker w Connection.waits) := by
    refine Succeeds.bind h.current fun c' => ?_
    split
    · exact h.releaseSocket
    · exact h.awaitWorker _
  exact Succeeds.ifThen (h.log _ _ _) (fun _ => Succeeds.bind h.shutdownSocket fun _ => hend) hend

theorem reportEnd (h : Sturdy w) (res : Except Failure Unit) :
    Succeeds (Connection.reportEnd w res) := by
  cases res with
  | ok _ => exact Succeeds.pure _
  | error f =>
      cases f with
      | system e =>
          refine Succeeds.bind h.current fun c => ?_
          split
          · exact h.log _ _ _
          · exact h.log _ _ _
      | _ => exact h.log _ _ _

end Sturdy

end Surroundings

end MockHost
