import MockHost.Proofs.Client.Sending
import MockHost.Proofs.Connection.Ledger

/-!
# The History and the Trace

A connection keeps a history of its calls, and its world keeps a trace of what has been
done in it. The two are written in different places: the socket writes to the trace when
it is used, and the connection writes to its history before it shuts the socket down or
closes it, and after it has sent. Other threads that shut the socket down do the same.
What is said of the history is said of the world only because the two agree, and here
they are shown to do so, for everything that is done with the socket of the peer: the
sends that came to their end, the shutdowns and the closing, in their order.

Between a call and its record they do not agree, so this is not shown for the call and
for the record but for the two together. Deliveries leave calls on sockets of their own
in the same trace. The names of these contain a colon, and that of the peer does not.

## Main definitions

* `Occurrence.isOn`: Whether the trace shows a call on a socket.
* `Call.occurrence?`: How a call on the socket of the peer shows in the trace.
* `ScriptedWorld.Lacks`, `ScriptedWorld.Elsewhere`: No outbound socket has a name.
* `Rehearsal.Agrees`, `Rehearsal.Traced`: The same has been written to the history and to the trace.

## Theorems

* `ScriptedWorld.transport_elsewhere`: Deliveries are made on other sockets.
* `Rehearsal.shutdownSocket_agrees`, `Rehearsal.releaseSocket_agrees`,
  `Rehearsal.sendToPeer_agrees`: The calls on the socket.
* `Rehearsal.serving_agrees`: All that serving a peer takes.
* `Rehearsal.run_traced`, `Rehearsal.operateAll_traced`: Whatever is done with a connection, the
  trace shows the calls of its history.
-/

namespace MockHost

/-- Whether something was sent over the socket of this name, or it was shut down or closed. -/
def Occurrence.isOn (name : Text) : Occurrence → Bool
  | .send socket _ | .shutdown socket | .close socket => socket == name
  | _ => false

/-- What a call leaves in the trace that is done with the socket of the peer. A send that failed
    leaves nothing. -/
def Call.occurrence? : Call → Option Occurrence
  | .send data none => some (.send Rehearsal.label data)
  | .shutdown => some (.shutdown Rehearsal.label)
  | .close => some (.close Rehearsal.label)
  | _ => none

theorem Call.occurrence?_of_isOutgoing {call : Call} (h : call.isOutgoing = false) :
    call.occurrence? = none := by
  cases call with
  | send _ _ => exact absurd h.symm Bool.false_ne_true
  | shutdown => exact absurd h.symm Bool.false_ne_true
  | close => exact absurd h.symm Bool.false_ne_true
  | _ => rfl

theorem Occurrence.isOn_of_isRemark {o : Occurrence} (h : o.isRemark) (name : Text) :
    o.isOn name = false := by
  cases o with
  | send _ _ => exact absurd h Bool.false_ne_true
  | shutdown _ => exact absurd h Bool.false_ne_true
  | close _ => exact absurd h Bool.false_ne_true
  | _ => rfl

/-- Only calls on the socket of the peer are looked for in the trace. -/
theorem Call.isOn_of_occurrence? {call : Call} {o : Occurrence} (h : call.occurrence? = some o) :
    o.isOn Rehearsal.label := by
  cases call with
  | send data fault =>
      cases fault with
      | none => exact Option.some.inj h ▸ beq_self_eq_true _
      | some f => injection h
  | shutdown => exact Option.some.inj h ▸ beq_self_eq_true _
  | close => exact Option.some.inj h ▸ beq_self_eq_true _
  | _ => injection h

open Act (Moves)

namespace ScriptedWorld

/-- No outbound socket has this name. -/
def Lacks (name : Text) (w : ScriptedWorld) : Prop := ∀ k ∈ w.sockets, k.label ≠ name

/-- A step that leaves no sign of a socket of this name, if there is none. -/
def Elsewhere (name : Text) (w w' : ScriptedWorld) : Prop :=
  w.Lacks name → w'.Lacks name ∧ Trace.GrowsBy (fun o => o.isOn name = false) w.trace w'.trace

section

variable {name : Text}

theorem elsewhere_path : Act.Path (Elsewhere name) where
  refl w h := ⟨h, Trace.GrowsBy.refl w.trace⟩
  trans h h' hlacks :=
    ⟨(h' (h hlacks).1).1, (h hlacks).2.trans (h' (h hlacks).1).2⟩

theorem elsewhere_push {o : Occurrence} (h : o.isOn name = false) {w w' : ScriptedWorld}
    (htrace : w'.trace = w.trace.push o) (hsockets : w'.sockets = w.sockets) :
    Elsewhere name w w' := by
  intro hlacks
  rw [Lacks, hsockets, htrace]
  exact ⟨hlacks, Trace.growsBy_push h w.trace⟩

theorem onSocket_elsewhere {id : SocketId} {a : ScriptedSocket → Act ScriptedWorld Unit}
    (ha : ∀ k, k.label ≠ name → Moves (Elsewhere name) (a k)) :
    Moves (Elsewhere name) (onSocket id a) := by
  intro w hlacks
  rw [onSocket_runFrom]
  rcases hk : w.sockets[id]? with _ | k
  · exact elsewhere_path.refl w hlacks
  · exact ha k (hlacks k (Array.mem_of_getElem? hk)) w hlacks

theorem setSocket_elsewhere {k : ScriptedSocket} (hk : k.label ≠ name) (id : SocketId) :
    Moves (Elsewhere name) (setSocket id k) := by
  intro w hlacks
  refine ⟨fun k' hk' => ?_, Trace.GrowsBy.refl w.trace⟩
  rcases Array.mem_or_eq_of_mem_setIfInBounds hk' with hold | rfl
  · exact hlacks k' hold
  · exact hk

theorem connect_elsewhere {host : Text} {port : Port}
    (hname : host ++ ":" ++ Text.ofInt port ≠ name) (span : Seconds) : Moves (Elsewhere name) (connect host port span) := by
  intro w hlacks
  rw [connect_runFrom]
  rcases takeScript (host ++ ":" ++ Text.ofInt port) w.endpoints with _ | ⟨script, endpoints⟩
  · exact elsewhere_push rfl rfl rfl hlacks
  · dsimp only
    rcases script.connecting with _ | f
    · have hgrows := Trace.growsBy_push (P := fun o => o.isOn name = false)
        (o := .connect (host ++ ":" ++ Text.ofInt port) span) rfl w.trace
      refine ⟨fun k hk => ?_, hgrows⟩
      rcases Array.mem_push.mp hk with hold | rfl
      · exact hlacks k hold
      · exact hname
    · exact elsewhere_push rfl rfl rfl hlacks

/-- The sockets of deliveries are named for their endpoints. -/
theorem transport_elsewhere (hname : ∀ (host : Text) (port : Port),
    host ++ ":" ++ Text.ofInt port ≠ name) : transport.Moves (Elsewhere name) where
  path := elsewhere_path
  note _ _ _ := elsewhere_push rfl rfl rfl
  connect host port span := connect_elsewhere (hname host port) span
  setTimeout _ _ := onSocket_elsewhere fun _ _ _ => elsewhere_push rfl rfl rfl
  send id data := onSocket_elsewhere fun k hk => by
    refine Moves.bind elsewhere_path
      (setSocket_elsewhere (k := { k with sends := k.sends.tail }) hk id) fun _ => ?_
    have hsent : (Occurrence.send k.label data).isOn name = false := beq_eq_false_iff_ne.mpr hk
    split
    · exact Moves.throw elsewhere_path _
    · exact fun _ => elsewhere_push hsent rfl rfl
  consume id n := onSocket_elsewhere fun k hk =>
    setSocket_elsewhere (k := { k with arrivals := k.arrivals.drop n }) hk id
  close _ := onSocket_elsewhere fun k hk => by
    have hclosed : (Occurrence.close k.label).isOn name = false := beq_eq_false_iff_ne.mpr hk
    exact Moves.bind elsewhere_path (fun _ => elsewhere_push hclosed rfl rfl) fun _ =>
      failing_moves elsewhere_path _

end

end ScriptedWorld

namespace Rehearsal

open ScriptedWorld (Elsewhere)

/-- The name of an endpoint contains a colon. -/
theorem endpoint_ne_label (host : Text) (port : Port) :
    host ++ ":" ++ Text.ofInt port ≠ label := by
  intro h
  have hcolon : 58 ∈ host ++ ":" ++ Text.ofInt port :=
    List.mem_append_left _ (List.mem_append_right _ List.mem_cons_self)
  rw [h] at hcolon
  exact absurd hcolon (by decide)

/-- A step that writes the same to the history of the connection and to the trace of its world, as
    far as the socket of the peer is concerned and if no other socket has its name. -/
def Agrees (r r' : Rehearsal) : Prop :=
  r.world.Lacks label → r'.world.Lacks label ∧ ∃ calls happened,
    r'.connection.calls = r.connection.calls ++ calls ∧
      r'.world.trace.toList = r.world.trace.toList ++ happened ∧
      happened.filter (Occurrence.isOn label) = calls.filterMap Call.occurrence?

theorem agrees_path : Act.Path Agrees where
  refl r hlacks := ⟨hlacks, [], [], (List.append_nil _).symm, (List.append_nil _).symm, rfl⟩
  trans := by
    intro r s u h h' hlacks
    rcases h hlacks with ⟨hlacks₁, calls₁, happened₁, hcalls₁, htrace₁, hsame₁⟩
    rcases h' hlacks₁ with ⟨hlacks₂, calls₂, happened₂, hcalls₂, htrace₂, hsame₂⟩
    refine ⟨hlacks₂, calls₁ ++ calls₂, happened₁ ++ happened₂, ?_, ?_, ?_⟩
    · rw [hcalls₂, hcalls₁, List.append_assoc]
    · rw [htrace₂, htrace₁, List.append_assoc]
    · rw [List.filter_append, List.filterMap_append, hsame₁, hsame₂]

section

variable {r r' : Rehearsal}

/-- What is done elsewhere shows in neither. -/
theorem Agrees.of_elsewhere (hcalls : r'.connection.calls = r.connection.calls)
    (h : Elsewhere label r.world r'.world) : Agrees r r' := by
  intro hlacks
  rcases h hlacks with ⟨hlacks', happened, htrace, hothers⟩
  refine ⟨hlacks', [], happened, by rw [hcalls, List.append_nil], htrace, ?_⟩
  rw [List.filter_eq_nil_iff.mpr fun o ho => by rw [hothers o ho]; exact Bool.false_ne_true]
  rfl

theorem Agrees.of_eq (hconnection : r'.connection = r.connection)
    (hworld : r'.world = r.world) : Agrees r r' := by
  refine .of_elsewhere (by rw [hconnection]) ?_
  rw [hworld]
  exact ScriptedWorld.elsewhere_path.refl r.world

theorem Agrees.of_update {f : Connection → Connection} (hf : ∀ c, (f c).calls = c.calls) :
    Agrees r (update f r) :=
  .of_elsewhere (hf _) (ScriptedWorld.elsewhere_path.refl r.world)

/-- A call that is not to show is recorded, and nothing shows. -/
theorem Agrees.of_record {call : Call} (h : call.occurrence? = none) :
    Agrees r (r.recording call) := by
  intro hlacks
  refine ⟨hlacks, [call], [], rfl, (List.append_nil _).symm, ?_⟩
  rw [List.filterMap_cons_none h]
  rfl

/-- A call that is to show is recorded, and shows. -/
theorem Agrees.of_shown {call : Call} {o : Occurrence} (h : call.occurrence? = some o) :
    Agrees r ((r.recording call).noting o) := by
  intro hlacks
  refine ⟨hlacks, [call], [o], rfl, Array.toList_push, ?_⟩
  rw [List.filterMap_cons_some h, List.filter_cons_of_pos (Call.isOn_of_occurrence? h)]
  rfl

end

section

variable (t : Seconds)

theorem note_agrees {o : Occurrence} (h : o.isOn label = false) :
    Moves Agrees ((surroundings t).note o) :=
  fun _ => .of_elsewhere rfl (ScriptedWorld.elsewhere_push h rfl rfl)

theorem change_agrees {f : Connection → Connection} (hf : ∀ c, (f c).calls = c.calls) :
    Moves Agrees (Connection.change (surroundings t) f) :=
  fun _ => .of_update hf

theorem record_agrees {call : Call} (h : call.occurrence? = none) :
    Moves Agrees (Connection.record (surroundings t) call) :=
  fun _ => .of_record h

/-- A call that is recorded and made shows once, whatever it comes to. -/
theorem shown_agrees {α : Type} {call : Call} {o : Occurrence} (h : call.occurrence? = some o)
    (f : Rehearsal → Option Failure) {next : Except Failure Unit → Act Rehearsal α}
    (hnext : ∀ res, Moves Agrees (next res)) :
    Moves Agrees (do
      Connection.record (surroundings t) call
      let res ← Act.attempt (do
        note o
        ScriptedWorld.failing (f (← get)))
      next res) := by
  intro r
  rcases failing_runFrom o f (r.recording call) with ⟨res, hmade⟩
  rw [Act.runFrom_bind_ok (record_runFrom _), Act.runFrom_bind_ok (Act.runFrom_attempt _ _), hmade]
  exact agrees_path.trans (.of_shown h) (hnext res _)

/-! ### The calls on the socket -/

theorem interrupting_agrees : Interrupting t Agrees where
  path := agrees_path
  schedule _ _ := .of_eq rfl rfl
  note _ h := note_agrees t (Occurrence.isOn_of_isRemark h label)
  request := change_agrees t fun _ => rfl
  shutdown := shown_agrees t rfl fun r => r.shuttingDown r.connection.calls.length

theorem telling_agrees : (surroundings t).Telling Agrees := (interrupting_agrees t).telling

theorem shutdownSocket_agrees : Moves Agrees (Connection.shutdownSocket (surroundings t)) := by
  refine Moves.bind agrees_path (telling_agrees t).current fun c => ?_
  split
  · exact shown_agrees t rfl (fun r => r.shuttingDown r.connection.calls.length)
      ((telling_agrees t).outcome .debug "connection_shutdown_ignored")
  · exact Moves.pure agrees_path _

theorem releaseSocket_agrees : Moves Agrees (Connection.releaseSocket (surroundings t)) := by
  refine Moves.bind agrees_path (telling_agrees t).current fun c => ?_
  split
  · refine Moves.bind agrees_path (change_agrees t fun _ => rfl) fun _ => ?_
    exact shown_agrees t rfl Rehearsal.closing
      ((telling_agrees t).outcome .warning "connection_socket_close_failed")
  · exact Moves.pure agrees_path _

/-- A send shows in the trace, or fails and does not. -/
theorem send_runFrom (data : Bytes) (r : Rehearsal) :
    ∃ r', Agrees r r' ∧
      (((surroundings t).send data).runFrom r = (.ok (), r'.noting (.send label data)) ∨
        ∃ f, ((surroundings t).send data).runFrom r = (.error f, r')) := by
  refine ⟨{ r with sends := r.sends.tail }, .of_eq rfl rfl, ?_⟩
  change (sendToPeer data).runFrom r = _ ∨ ∃ f, (sendToPeer data).runFrom r = _
  rw [sendToPeer, Act.runFrom_bind_ok (Act.runFrom_get _),
    Act.runFrom_bind_ok (Act.runFrom_modify _ _)]
  rcases r.sends.head? with _ | _ | f
  · exact .inl rfl
  · exact .inl rfl
  · exact .inr ⟨f, rfl⟩

/-- A send is recorded when it has come back. -/
theorem sendToPeer_agrees (data : Bytes) :
    Moves Agrees (Connection.sendToPeer (surroundings t) data) := by
  refine Moves.bind agrees_path (telling_agrees t).current fun c => ?_
  split
  · intro r
    rcases send_runFrom t data r with ⟨r', hagrees, hsend | ⟨f, hsend⟩⟩
    · rw [Act.runFrom_bind_ok (Act.runFrom_attempt _ _), hsend]
      have hsent : Agrees r' ((r'.recording (.send data none)).noting (.send label data)) :=
        .of_shown rfl
      exact agrees_path.trans hagrees hsent
    · rw [Act.runFrom_bind_ok (Act.runFrom_attempt _ _), hsend]
      exact agrees_path.trans hagrees (.of_record rfl)
  · exact Moves.throw agrees_path _

/-! ### Serving -/

theorem closing_agrees : (surroundings t).Closing Agrees where
  toTelling := telling_agrees t
  change h := change_agrees t h.calls
  shutdownSocket := shutdownSocket_agrees t

theorem calling_agrees : (surroundings t).Calling Agrees where
  toClosing := closing_agrees t
  close := (closing_agrees t).close (releaseSocket_agrees t)
  closeServer := Moves.pure agrees_path _
  configureServer _ := Moves.pure agrees_path _

/-- Deliveries leave the history alone, and are made on other sockets. -/
theorem dispatch_agrees (d : Dispatcher) (deliveries : List Delivery) :
    Moves Agrees ((surroundings t).dispatch d deliveries) :=
  Moves.within (Dispatcher.dispatchAll_moves
    (ScriptedWorld.transport_elsewhere endpoint_ne_label) d deliveries)
    fun _ _ h => .of_elsewhere rfl h

theorem greet_agrees (s : MessageStream) : Moves Agrees (Connection.greet (surroundings t) s) := by
  refine Moves.bind agrees_path (change_agrees t fun _ => rfl) fun _ => ?_
  refine Moves.bind agrees_path ((calling_agrees t).judge s) fun _ => ?_
  refine (calling_agrees t).announced (fun _ _ => record_agrees t rfl)
    (fun _ => record_agrees t rfl) ?_
  refine Moves.bind agrees_path (calling_agrees t).current fun c => ?_
  exact Moves.bind agrees_path ((calling_agrees t).callHooks _ _) fun _ => Moves.pure agrees_path _

/-- All that serving a peer takes writes the same to the history and to the trace. -/
theorem serving_agrees : (surroundings t).Serving Agrees where
  toCalling := calling_agrees t
  record := by
    intro call h
    simp only [Call.isPlain, Bool.and_eq_true, Bool.not_eq_true'] at h
    exact record_agrees t (Call.occurrence?_of_isOutgoing h.1.2)
  greet := greet_agrees t
  sendToPeer := sendToPeer_agrees t
  dispatch := dispatch_agrees t
  withRecords _ := change_agrees t fun _ => rfl

theorem read_agrees (single : Bool) : Moves Agrees (read (surroundings t) single) :=
  read_moves (serving_agrees t) (fun _ _ => .of_eq rfl rfl) single

/-! ### The end of a thread -/

theorem notifyClosed_agrees : Moves Agrees (Connection.notifyClosed (surroundings t)) := by
  have hannounced : Moves Agrees (Connection.callOnClose (surroundings t)) := by
    refine (calling_agrees t).announced (fun _ _ => record_agrees t rfl)
      (fun _ => record_agrees t rfl) ?_
    refine Moves.bind agrees_path (calling_agrees t).current fun c => ?_
    exact Moves.andFinally agrees_path ((calling_agrees t).callEveryHook _ _)
      (Moves.pure agrees_path _)
  refine Moves.bind agrees_path hannounced.attempt fun res => ?_
  split
  · exact Moves.pure agrees_path _
  · exact (telling_agrees t).log _ _ _

theorem conclude_agrees (res : Except Failure Unit) :
    Moves Agrees (Connection.conclude (surroundings t) res) := by
  refine Moves.bind agrees_path ((telling_agrees t).reportEnd res) fun _ => ?_
  refine Moves.bind agrees_path (change_agrees t fun _ => rfl) fun _ => ?_
  exact Moves.bind agrees_path (releaseSocket_agrees t) fun _ => notifyClosed_agrees t

theorem run_agrees : Moves Agrees (run (surroundings t)) :=
  Moves.bind agrees_path (read_agrees t false).attempt (conclude_agrees t)

theorem start_agrees : Moves Agrees (start (surroundings t)) := by
  refine Moves.bind agrees_path (Moves.get agrees_path) fun r => ?_
  dsimp only
  split
  · refine Moves.bind agrees_path (change_agrees t fun _ => rfl) fun _ => ?_
    refine Moves.bind agrees_path (run_agrees t).attempt fun res => ?_
    refine Moves.bind agrees_path (change_agrees t fun _ => rfl) fun _ => ?_
    split
    · exact Moves.pure agrees_path _
    · exact note_agrees t rfl
  · exact Moves.pure agrees_path _

/-! ### Operations -/

theorem operate_agrees (o : Operation) : Moves Agrees (operate (surroundings t) o) := by
  cases o with
  | start => exact start_agrees t
  | close => exact (calling_agrees t).close
  | join => exact Moves.pure agrees_path _

theorem operateAll_agrees (ops : List Operation) :
    Moves Agrees (operateAll (surroundings t) ops) := by
  induction ops with
  | nil => exact Moves.pure agrees_path _
  | cons o rest ih => exact Moves.bind agrees_path (operate_agrees t o) fun _ => ih

/-- What a connection has done to the socket of its peer, and what the trace has come to show of
    it, since a moment when it had done nothing. -/
def Traced (r r' : Rehearsal) : Prop :=
  ∃ happened, r'.world.trace.toList = r.world.trace.toList ++ happened ∧
    happened.filter (Occurrence.isOn label) = r'.connection.calls.filterMap Call.occurrence?

theorem Agrees.traced {r r' : Rehearsal} (h : Agrees r r') (fresh : r.connection.calls = [])
    (hlacks : r.world.Lacks label) : Traced r r' := by
  rcases h hlacks with ⟨-, calls, happened, hcalls, htrace, hsame⟩
  refine ⟨happened, htrace, ?_⟩
  rw [hcalls, fresh]
  exact hsame

variable {r : Rehearsal} (fresh : r.connection.calls = []) (hlacks : r.world.Lacks label)

include fresh hlacks

/-- When a peer has been served, the trace shows the sends that succeeded, the shutdowns and the
    closing of its socket that are in the history, in their order. -/
theorem run_traced : Traced r ((run (surroundings t)).runFrom r).2 :=
  (run_agrees t r).traced fresh hlacks

/-- So it does whatever the owner of a connection does with it, whatever the peer, the hooks and
    other threads do and whatever fails. -/
theorem operateAll_traced (ops : List Operation) :
    Traced r ((operateAll (surroundings t) ops).runFrom r).2 :=
  (operateAll_agrees t ops r).traced fresh hlacks

end

end Rehearsal

end MockHost
