import MockHost.Proofs.Connection.Conduct
import MockHost.Proofs.Connection.Undisturbed
import MockHost.Proofs.Scripted.Walk

/-!
# The Ledger of a Connection

A connection may be closed from anywhere: by its hooks, by the read that it waits
for, by other threads between any two of its steps. Whatever comes together, its
socket is released once. What makes this true at every step is a sum: the number of
times the socket has been closed, plus one while there still is a socket. No step
changes it, since the only step that closes the socket takes it away first.

All that serving a connection takes is shown to respect the ledger in this sense,
with any hooks, any failures and any interruptions. Once the socket is gone the
steps that closing and the hooks consist of do less still: they neither read, send
nor close. That is what the end of a thread needs to know of the last call of the
hooks.

## Main definitions

* `Connection.sockets`: The sum that no step changes.
* `Rehearsal.Keeps`: Steps that respect the ledger and make calls of some kind only.
* `Rehearsal.Fades`: The same, for connections without a socket.

## Theorems

* `Rehearsal.keeps_path`: Steps that respect the ledger can follow one another.
* `Rehearsal.releaseSocket_keeps`: Closing the socket takes it away.
* `Rehearsal.interrupting_keeps`: What other threads do.
* `Rehearsal.closing_keeps`, `Rehearsal.calling_of`: What closing and the hooks take.
* `Rehearsal.serving_keeps`: What serving takes.
* `Rehearsal.read_keeps`: Serving a peer respects the ledger.
-/

namespace MockHost

/-- Whether a call may still be made when the socket is gone. -/
def Call.isIdle : Call → Bool
  | .shutdown | .hooksFailed _ _ => true
  | _ => false

/-- The number of times the socket has been closed, and one more while it has not been
    released. -/
def Connection.sockets (c : Connection) : Nat :=
  c.calls.countP Call.isClose + if c.hasSocket then 1 else 0

namespace Rehearsal

open Act (Moves)

/-- A step that respects the ledger, leaves the thread alone, and only makes calls of one
    kind. -/
structure Keeps (P : Call → Bool) (r r' : Rehearsal) : Prop where
  shuttingDown : r'.shuttingDown = r.shuttingDown
  closing : r'.closing = r.closing
  trace : Trace.GrowsBy (fun o => o.isThreadDeath = false) r.world.trace r'.world.trace
  worker : r'.connection.worker = r.connection.worker
  released : r.connection.hasSocket = false → r'.connection.hasSocket = false
  closed : r.connection.status = .closed → r'.connection.status = .closed
  sockets : r'.connection.sockets = r.connection.sockets
  history : ∃ more, r'.connection.calls = r.connection.calls ++ more ∧ ∀ call ∈ more, P call

/-- Steps that respect the ledger can follow one another. -/
theorem keeps_path (P : Call → Bool) : Act.Path (Keeps P) where
  refl r := ⟨rfl, rfl, Trace.GrowsBy.refl _, rfl, id, id, rfl, [], (List.append_nil _).symm,
    fun _ h => absurd h List.not_mem_nil⟩
  trans := by
    intro r s u h h'
    rcases h.history with ⟨more, hmore, hP⟩
    rcases h'.history with ⟨more', hmore', hP'⟩
    refine ⟨h'.shuttingDown.trans h.shuttingDown, h'.closing.trans h.closing,
      h.trace.trans h'.trace, h'.worker.trans h.worker, fun hr => h'.released (h.released hr),
      fun hr => h'.closed (h.closed hr), h'.sockets.trans h.sockets, more ++ more', ?_,
      List.forall_mem_append.mpr ⟨hP, hP'⟩⟩
    rw [hmore', hmore, List.append_assoc]

theorem Keeps.mono {P Q : Call → Bool} {r r' : Rehearsal} (h : Keeps P r r')
    (himp : ∀ call, P call → Q call) : Keeps Q r r' := by
  rcases h.history with ⟨more, hmore, hP⟩
  exact ⟨h.shuttingDown, h.closing, h.trace, h.worker, h.released, h.closed, h.sockets, more, hmore,
    fun call hcall => himp call (hP call hcall)⟩

theorem isServing_of_isIdle (call : Call) (h : call.isIdle) : call.isServing := by
  cases call with
  | shutdown => rfl
  | hooksFailed call f => rfl
  | _ => exact absurd h Bool.false_ne_true

section

variable {P : Call → Bool} {r : Rehearsal}

/-- What the world does besides leaves the ledger alone. -/
theorem Keeps.of_trace {r' : Rehearsal} (hconnection : r'.connection = r.connection)
    (hshuttingDown : r'.shuttingDown = r.shuttingDown) (hclosing : r'.closing = r.closing)
    (htrace : Trace.GrowsBy (fun o => o.isThreadDeath = false) r.world.trace r'.world.trace) :
    Keeps P r r' :=
  ⟨hshuttingDown, hclosing, htrace, by rw [hconnection], by rw [hconnection]; exact id,
    by rw [hconnection]; exact id, by rw [hconnection],
    [], by rw [hconnection, List.append_nil], fun _ h => absurd h List.not_mem_nil⟩

/-- So do changes of anything in the connection that the ledger does not state. -/
theorem Keeps.of_update {f : Connection → Connection} (hf : Connection.Aloof f) :
    Keeps P r (update f r) := by
  refine ⟨rfl, rfl, Trace.GrowsBy.refl _, hf.worker _, fun h => (hf.hasSocket _).trans h,
    hf.status _, ?_, [], ?_, fun _ h => absurd h List.not_mem_nil⟩
  · change (f r.connection).sockets = _
    rw [Connection.sockets, hf.hasSocket, hf.calls]
    rfl
  · rw [List.append_nil]
    exact hf.calls _

/-- A call of the kind is added to the history, unless it releases the socket. -/
theorem Keeps.of_record {call : Call} (hP : P call) (hclose : call.isClose = false) :
    Keeps P r (update (fun c => { c with calls := c.calls ++ [call] }) r) := by
  refine ⟨rfl, rfl, Trace.GrowsBy.refl _, rfl, id, id, ?_, [call], rfl, ?_⟩
  · change (r.connection.calls ++ [call]).countP Call.isClose + _ = _
    rw [List.countP_append, List.countP_singleton, hclose]
    rfl
  · intro x hx
    rwa [List.mem_singleton.mp hx]

end

section

variable (t : Seconds) {P : Call → Bool}

theorem note_keeps {o : Occurrence} (h : o.isThreadDeath = false) :
    Moves (Keeps P) ((surroundings t).note o) :=
  fun r => Keeps.of_trace rfl rfl rfl (Trace.growsBy_push h r.world.trace)

theorem change_keeps {f : Connection → Connection} (hf : Connection.Aloof f) :
    Moves (Keeps P) (Connection.change (surroundings t) f) :=
  fun _ => Keeps.of_update hf

theorem record_keeps {call : Call} (hP : P call) (hclose : call.isClose = false) :
    Moves (Keeps P) (Connection.record (surroundings t) call) :=
  fun _ => Keeps.of_record hP hclose

/-! ### Other threads -/

theorem shutdown_keeps : Moves (Keeps P) shutdown := by
  have path := keeps_path P
  refine Moves.bind path (note_keeps ⟨0⟩ rfl) fun _ => ?_
  exact Moves.bind path (Moves.get path) fun r => ScriptedWorld.failing_moves path _

/-- Other threads may ask for the end of the connection and shut the socket down, but they
    do not release it. -/
theorem interrupting_keeps : Interrupting t (Keeps Call.isIdle) where
  path := keeps_path _
  schedule _ _ := Keeps.of_trace rfl rfl rfl (Trace.GrowsBy.refl _)
  note _ h := note_keeps t (Occurrence.isThreadDeath_of_isRemark h)
  request := change_keeps t Connection.modest_request.toAloof
  shutdown hnext :=
    Moves.bind (keeps_path _) (record_keeps t rfl rfl) fun _ =>
      Moves.bind (keeps_path _) (Moves.attempt shutdown_keeps) hnext

theorem note_succeeds (o : Occurrence) : Act.Succeeds (note o) := fun r => ⟨(), r.noting o, rfl⟩

/-- Whatever other threads do, nothing of it fails here. -/
theorem interrupt_succeeds (i : Interruption) : Act.Succeeds (interrupt t i) := by
  cases i with
  | request =>
      refine Act.Succeeds.bind Act.Succeeds.get fun r => ?_
      refine Act.Succeeds.bind (Act.Succeeds.modify _) fun _ => ?_
      split
      · exact note_succeeds _
      · exact Act.Succeeds.pure _
  | shutdown again =>
      refine Act.Succeeds.bind Act.Succeeds.get fun r => ?_
      refine Act.Succeeds.ifThen (note_succeeds _) (fun _ => ?_) ?_
      all_goals
        refine Act.Succeeds.bind (Act.Succeeds.modify _) fun _ => ?_
        refine Act.Succeeds.bind (Act.Succeeds.attempt shutdown) fun res => ?_
        cases res with
        | ok _ => exact Act.Succeeds.pure _
        | error f => exact note_succeeds _

theorem interruptAll_succeeds (is : List Interruption) : Act.Succeeds (interruptAll t is) := by
  induction is with
  | nil => exact Act.Succeeds.pure _
  | cons i rest ih => exact Act.Succeeds.bind (interrupt_succeeds t i) fun _ => ih

theorem meanwhile_succeeds : Act.Succeeds (meanwhile t) := by
  refine Act.Succeeds.bind Act.Succeeds.get fun r => ?_
  split
  · exact Act.Succeeds.pure _
  · exact Act.Succeeds.bind (Act.Succeeds.modify _) fun _ => interruptAll_succeeds t _

/-- The connection as it is when other threads have done what they do. -/
theorem current_ok (r : Rehearsal) :
    ∃ r', (Connection.current (surroundings t)).runFrom r = (.ok r'.connection, r') := by
  have hmeanwhile : Act.Succeeds (surroundings t).meanwhile := meanwhile_succeeds t
  rcases hmeanwhile r with ⟨_, r', hr'⟩
  refine ⟨r', ?_⟩
  rw [Connection.current, Act.runFrom_bind_ok hr']
  rfl

/-! ### Closing -/

/-- What closing a connection takes, but for the release of the socket, is idle. -/
theorem closing_keeps : (surroundings t).Closing (Keeps Call.isIdle) where
  toTelling := (interrupting_keeps t).telling
  change h := change_keeps t h.toAloof
  shutdownSocket :=
    (interrupting_keeps t).telling.shutdownSocket (record_keeps t rfl rfl) shutdown_keeps

theorem close_keeps : Moves (Keeps Call.isIdle) (surroundings t).close := by
  have path := keeps_path Call.isIdle
  refine Moves.bind path (note_keeps t rfl) fun _ => ?_
  exact Moves.bind path (Moves.get path) fun _ => ScriptedWorld.failing_moves path _

/-- Closing the socket takes it away, so the sum stays the same. -/
theorem release_keeps {r : Rehearsal} (h : r.connection.hasSocket) :
    Keeps Call.isServing r
      (update (fun c => { c with hasSocket := false, calls := c.calls ++ [.close] }) r) := by
  refine ⟨rfl, rfl, Trace.GrowsBy.refl _, rfl, fun _ => rfl, id, ?_, [.close], rfl, ?_⟩
  · rw [Connection.sockets, Connection.sockets, h]
    change (r.connection.calls ++ [Call.close]).countP Call.isClose + 0 = _
    rw [List.countP_append]
    rfl
  · intro x hx
    rw [List.mem_singleton.mp hx]
    rfl

/-- Releasing the socket respects the ledger, and leaves none. -/
theorem releaseSocket_keeps (r : Rehearsal) :
    Keeps Call.isServing r ((Connection.releaseSocket (surroundings t)).runFrom r).2 ∧
      ((Connection.releaseSocket (surroundings t)).runFrom r).2.connection.hasSocket = false ∧
      (r.connection.hasSocket = false → Keeps Call.isIdle r
        ((Connection.releaseSocket (surroundings t)).runFrom r).2) := by
  rcases current_ok t r with ⟨r', hrun⟩
  have hcurrent : Keeps Call.isIdle r r' := (closing_keeps t).current.reaches hrun
  rw [Connection.releaseSocket, Act.runFrom_bind_ok hrun]
  by_cases hsocket : r'.connection.hasSocket
  · rw [if_pos hsocket, Act.runFrom_bind_ok (change_runFrom _),
      Act.runFrom_bind_ok (record_runFrom _)]
    have hrest := (closing_keeps t).attempt (close_keeps t) .warning "connection_socket_close_failed"
      (update (fun c => { c with hasSocket := false, calls := c.calls ++ [.close] }) r')
    -- The socket is taken away before it is closed, so whatever comes of that it is gone.
    refine ⟨?_, hrest.released rfl, fun hnone => ?_⟩
    · exact (keeps_path _).trans (hcurrent.mono isServing_of_isIdle)
        ((keeps_path _).trans (release_keeps hsocket) (hrest.mono isServing_of_isIdle))
    · exact absurd hsocket (by rw [hcurrent.released hnone]; exact Bool.false_ne_true)
  · rw [if_neg hsocket]
    exact ⟨hcurrent.mono isServing_of_isIdle, Bool.eq_false_iff.mpr hsocket, fun _ => hcurrent⟩

end

/-- A step that makes idle calls only where there is no socket. -/
def Fades (r r' : Rehearsal) : Prop := r.connection.hasSocket = false → Keeps Call.isIdle r r'

theorem fades_path : Act.Path Fades where
  refl r _ := (keeps_path _).refl r
  trans h h' hnone := (keeps_path _).trans (h hnone) (h' ((h hnone).released hnone))

section

variable (t : Seconds)

/-- Closing and the hooks follow a relation that admits all idle steps, and releasing the
    socket. -/
theorem calling_of {R : Rehearsal → Rehearsal → Prop} (path : Act.Path R)
    (idle : ∀ {r r'}, Keeps Call.isIdle r r' → R r r')
    (release : Moves R (Connection.releaseSocket (surroundings t))) :
    (surroundings t).Calling R := by
  have closing := (closing_keeps t).mono path idle
  exact
    { closing with
      close := closing.close release
      closeServer := Moves.pure path _
      configureServer := fun _ => Moves.pure path _ }

theorem calling_keeps : (surroundings t).Calling (Keeps Call.isServing) :=
  calling_of t (keeps_path _) (fun h => h.mono isServing_of_isIdle)
    fun r => (releaseSocket_keeps t r).1

theorem calling_fades : (surroundings t).Calling Fades :=
  calling_of t fades_path (fun h _ => h) fun r => (releaseSocket_keeps t r).2.2

/-! ### Serving -/

theorem send_keeps (data : Bytes) : Moves (Keeps Call.isServing) ((surroundings t).send data) := by
  have path := keeps_path Call.isServing
  refine Moves.bind path (Moves.get path) fun r => ?_
  refine Moves.bind path (Moves.modify fun _ => Keeps.of_trace rfl rfl rfl (Trace.GrowsBy.refl _))
    fun _ => ?_
  split
  · exact Moves.throw path _
  · exact note_keeps t rfl

theorem dispatch_keeps (d : Dispatcher) (deliveries : List Delivery) :
    Moves (Keeps Call.isServing) ((surroundings t).dispatch d deliveries) := by
  intro r
  rcases ScriptedWorld.dispatchAll_outbound d deliveries r.world with
    ⟨records, world, hrun, -, more, hmore, houtbound⟩
  have hworld : ((surroundings t).dispatch d deliveries).runFrom r =
      (.ok records, { r with world := world }) := by
    change (onWorld (d.dispatchAll ScriptedWorld.transport deliveries)).runFrom r = _
    rw [onWorld, Act.runFrom_within, hrun]
  rw [hworld]
  -- The death of a thread is nothing that a delivery may leave in the trace.
  refine Keeps.of_trace rfl rfl rfl ⟨more, hmore, fun o ho => ?_⟩
  have hout := houtbound o ho
  cases o with
  | threadDied thread label text => exact absurd hout Bool.false_ne_true
  | _ => rfl

theorem greet_keeps (s : MessageStream) :
    Moves (Keeps Call.isServing) (Connection.greet (surroundings t) s) := by
  have path := keeps_path Call.isServing
  refine Moves.bind path
    (change_keeps t ⟨fun _ => rfl, fun _ => rfl, fun _ => rfl, fun _ => id⟩) fun _ => ?_
  refine Moves.bind path ((calling_keeps t).judge s) fun _ => ?_
  refine (calling_keeps t).announced (fun _ _ => record_keeps t rfl rfl)
    (fun _ => record_keeps t rfl rfl) ?_
  refine Moves.bind path (calling_keeps t).current fun c => ?_
  exact Moves.bind path ((calling_keeps t).callHooks _ _) fun _ => Moves.pure path _

/-- All that serving a peer takes respects the ledger. -/
theorem serving_keeps : (surroundings t).Serving (Keeps Call.isServing) where
  toCalling := calling_keeps t
  record := by
    intro call h
    simp only [Call.isPlain, Bool.and_eq_true, Bool.not_eq_true'] at h
    exact record_keeps t h.1.1 (Call.isClose_of_isOutgoing h.1.2)
  greet := greet_keeps t
  sendToPeer data :=
    (calling_keeps t).sendToPeer (fun _ => record_keeps t rfl rfl) (send_keeps t data)
  dispatch := dispatch_keeps t
  withRecords _ := change_keeps t ⟨fun _ => rfl, fun _ => rfl, fun _ => rfl, fun _ => id⟩

/-- Serving a peer respects the ledger, whatever the peer sends, whatever fails, whatever the
    hooks do and whoever closes the connection meanwhile. -/
theorem read_keeps (single : Bool) :
    Moves (Keeps Call.isServing) (read (surroundings t) single) :=
  read_moves (serving_keeps t) (fun _ _ => Keeps.of_trace rfl rfl rfl (Trace.GrowsBy.refl _)) single

end

end Rehearsal

end MockHost
