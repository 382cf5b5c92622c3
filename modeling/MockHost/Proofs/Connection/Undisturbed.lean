import MockHost.Proofs.Connection.Deed
import MockHost.Proofs.Dispatch.Trace
import MockHost.Scripted.Connection

/-!
# Steps of an Undisturbed Connection

What the steps of the message cycle come to on a scripted socket while no other
thread has a hand in it. Other threads are let in each time a connection looks at
its own state, so without interruptions it finds what it left there, and every
step can be computed from the state before it.

Two kinds of steps are told apart. Log entries and the hooks leave the connection
as it is. Calls leave nothing in it but their own traces: they are added to the
history, and so are their dispatch records. Whatever else a step does to a
rehearsal is held together by `Discarding`, which also keeps count of the warnings
about discarded bytes, so that the one such warning at the end of a run can be
told from all that is logged on the way.

## Main definitions

* `Hook.Observes`, `Hook.Harmless`: Hooks that only look on, and hooks that may fail.
* `Rehearsal.Abides`, `Rehearsal.Discarding`: What steps do beside changing the connection.
* `Rehearsal.Sound`: Nothing is going to fail.
* `Rehearsal.Unaltered`: Steps that leave the connection as it is.

## Theorems

* `Rehearsal.current_runFrom`: A connection finds what it left.
* `Rehearsal.Unaltered.bind`: Steps that leave the connection alone, one after another.
* `Rehearsal.callHooks_unaltered`: Hooks leave the connection alone.
-/

namespace MockHost

/-- Whether a hook only looks on. The behaviour of the server does not concern a connection
    that has been accepted. -/
def HookAction.observes : HookAction → Bool
  | .record | .configure _ => true
  | _ => false

/-- Whether a hook closes the connection. -/
def HookAction.interferes : HookAction → Bool
  | .close | .closeServer => true
  | _ => false

/-- The hook only looks on, at every call. -/
def Hook.Observes (h : Hook) : Prop :=
  ∀ peer received call, ∀ a ∈ h.actions peer received call, a.observes

/-- The hook closes the connection at no call, but it may fail. -/
def Hook.Harmless (h : Hook) : Prop :=
  ∀ peer received call, ∀ a ∈ h.actions peer received call, a.interferes = false

theorem HookAction.interferes_eq_false_of_observes {a : HookAction} (h : a.observes) :
    a.interferes = false := by
  cases a with
  | record => rfl
  | configure changes => rfl
  | close => exact absurd h Bool.false_ne_true
  | closeServer => exact absurd h Bool.false_ne_true
  | fail f => exact absurd h Bool.false_ne_true

theorem Hook.Observes.harmless {h : Hook} (hobs : h.Observes) : h.Harmless :=
  fun peer received call a ha =>
    HookAction.interferes_eq_false_of_observes (hobs peer received call a ha)

/-- What an act failed with. -/
def Act.failureOf {α : Type} : Except Failure α → Option Failure
  | .ok _ => none
  | .error f => some f

/-- The fields of the warnings about discarded bytes in a trace. -/
def Trace.discards (t : Trace) : List (List LogField) :=
  t.toList.filterMap (Occurrence.warning? (Text.ofString "incomplete_message_discarded"))

/-- The connection after it has made some calls. -/
def Connection.after (c : Connection) (calls : List Call) : Connection :=
  { c with
    calls := c.calls ++ calls
    dispatches := c.dispatches ++ calls.flatMap Call.records }

theorem Connection.after_append (c : Connection) (calls calls' : List Call) :
    c.after (calls ++ calls') = (c.after calls).after calls' := by
  simp only [Connection.after, List.flatMap_append, List.append_assoc]

theorem Connection.after_nil (c : Connection) : c.after [] = c := by
  simp only [Connection.after, List.flatMap_nil, List.append_nil]

namespace Rehearsal

/-- The rehearsal with something more in its trace. -/
def noting (o : Occurrence) (r : Rehearsal) : Rehearsal :=
  { r with world := { r.world with trace := r.world.trace.push o } }

/-- The rehearsal with one more call in the history of the connection. -/
def recording (call : Call) (r : Rehearsal) : Rehearsal :=
  update (fun c => { c with calls := c.calls ++ [call] }) r

theorem recording_connection {call : Call} (h : call.records = []) (r : Rehearsal) :
    (r.recording call).connection = r.connection.after [call] := by
  simp only [recording, update, Connection.after, List.flatMap_cons, List.flatMap_nil, h,
    List.append_nil]

/-- No other thread has come in, and sends and the socket fail where they were to fail. -/
structure Abides (r r' : Rehearsal) : Prop where
  interruptions : r'.interruptions = r.interruptions
  sends : r'.sends ⊆ r.sends
  shuttingDown : r'.shuttingDown = r.shuttingDown
  closing : r'.closing = r.closing

theorem abides_path : Act.Path Abides where
  refl _ := ⟨rfl, List.Subset.refl _, rfl, rfl⟩
  trans h h' := ⟨h'.interruptions.trans h.interruptions, List.Subset.trans h'.sends h.sends,
    h'.shuttingDown.trans h.shuttingDown, h'.closing.trans h.closing⟩

/-- What has happened beside the connection: nobody else has had a hand in it, and these
    warnings about discarded bytes have been logged. -/
structure Discarding (found : List (List LogField)) (r r' : Rehearsal) : Prop
    extends Abides r r' where
  discards : r'.world.trace.discards = r.world.trace.discards ++ found

namespace Discarding

theorem refl (r : Rehearsal) : Discarding [] r r :=
  ⟨abides_path.refl r, (List.append_nil _).symm⟩

theorem trans {found : List (List LogField)} {r s t : Rehearsal} (h : Discarding [] r s)
    (h' : Discarding found s t) : Discarding found r t := by
  refine ⟨abides_path.trans h.toAbides h'.toAbides, ?_⟩
  rw [h'.discards, h.discards, List.append_nil]

theorem update (f : Connection → Connection) (r : Rehearsal) :
    Discarding [] r (Rehearsal.update f r) :=
  ⟨⟨rfl, List.Subset.refl _, rfl, rfl⟩, (List.append_nil _).symm⟩

theorem recording (call : Call) (r : Rehearsal) : Discarding [] r (r.recording call) :=
  update _ r

theorem noting {o : Occurrence} {found : List (List LogField)}
    (h : (o.warning? (Text.ofString "incomplete_message_discarded")).toList = found)
    (r : Rehearsal) : Discarding found r (noting o r) := by
  refine ⟨⟨rfl, List.Subset.refl _, rfl, rfl⟩, ?_⟩
  rw [Rehearsal.noting, Trace.discards, Array.toList_push, List.filterMap_append, ← h]
  cases hwarning : o.warning? (Text.ofString "incomplete_message_discarded") with
  | none => rw [List.filterMap_cons_none hwarning]; rfl
  | some fields => rw [List.filterMap_cons_some hwarning]; rfl

end Discarding

theorem Discarding.quiet {o : Occurrence}
    (h : o.warning? (Text.ofString "incomplete_message_discarded") = none) (r : Rehearsal) :
    Discarding [] r (r.noting o) :=
  Discarding.noting (by rw [h]; rfl) r

/-- Nothing is going to fail: the hooks only look on, and every send succeeds. -/
structure Sound (r : Rehearsal) : Prop where
  hooks : ∀ h ∈ r.connection.hooks, h.Observes
  sends : ∀ fault ∈ r.sends, fault = none

theorem Sound.discarding {found : List (List LogField)} {r r' : Rehearsal} (h : r.Sound)
    (hdiscarding : Discarding found r r') (hhooks : r'.connection.hooks = r.connection.hooks) :
    r'.Sound :=
  ⟨by rw [hhooks]; exact h.hooks, fun fault hfault => h.sends fault (hdiscarding.sends hfault)⟩

section

variable {t : Seconds} {r : Rehearsal}

theorem current_runFrom (h : r.interruptions = []) :
    (Connection.current (surroundings t)).runFrom r = (.ok r.connection, r) := by
  have hmeanwhile : (surroundings t).meanwhile.runFrom r = (.ok (), r) := by
    simp only [surroundings, meanwhile, Act.runFrom_bind, Act.runFrom_get, h, Act.runFrom_pure]
  rw [Connection.current, Act.runFrom_bind_ok hmeanwhile]
  rfl

theorem change_runFrom (f : Connection → Connection) :
    (Connection.change (surroundings t) f).runFrom r = (.ok (), update f r) := rfl

theorem record_runFrom (call : Call) :
    (Connection.record (surroundings t) call).runFrom r = (.ok (), r.recording call) := rfl

/-- Whether or not a call on the socket fails, nothing but the trace changes. -/
theorem failing_runFrom (o : Occurrence) (f : Rehearsal → Option Failure) (r : Rehearsal) :
    ∃ res, (do
      note o
      ScriptedWorld.failing (f (← get)) : Act Rehearsal Unit).runFrom r = (res, r.noting o) := by
  have hnoted : (note o).runFrom r = (.ok (), r.noting o) := rfl
  rw [Act.runFrom_bind_ok hnoted, Act.runFrom_bind_ok (Act.runFrom_get _)]
  cases f (r.noting o) with
  | none => exact ⟨_, rfl⟩
  | some g => exact ⟨_, rfl⟩

theorem log_runFrom (h : r.interruptions = []) (severity : Severity) (event : String)
    (more : List LogField) :
    (Connection.log (surroundings t) severity event more).runFrom r =
      (.ok (), r.noting (r.connection.entry severity event more)) := by
  rw [Connection.log, Act.runFrom_bind_ok (current_runFrom h)]
  rfl

end

/-! ### Steps that leave the connection as it is -/

/-- The connection is left as it is, and where `sure` holds nothing fails. -/
structure Unaltered (sure : Prop) (r : Rehearsal) (out : Except Failure Unit × Rehearsal) :
    Prop where
  discarding : Discarding [] r out.2
  connection : out.2.connection = r.connection
  ok : sure → out.1 = .ok ()

section

variable {t : Seconds} {r : Rehearsal} {sure : Prop}

theorem Unaltered.pure (sure : Prop) (r : Rehearsal) :
    Unaltered sure r ((Pure.pure () : Act Rehearsal Unit).runFrom r) :=
  ⟨Discarding.refl r, rfl, fun _ => rfl⟩

theorem Unaltered.throw (f : Failure) (h : ¬ sure) :
    Unaltered sure r ((MonadExcept.throw f : Act Rehearsal Unit).runFrom r) :=
  ⟨Discarding.refl r, rfl, fun hsure => absurd hsure h⟩

theorem Unaltered.mono {sure' : Prop} {out : Except Failure Unit × Rehearsal}
    (h : Unaltered sure r out) (himp : sure' → sure) : Unaltered sure' r out :=
  ⟨h.discarding, h.connection, fun hsure => h.ok (himp hsure)⟩

theorem Unaltered.of_noting {o : Occurrence} (r : Rehearsal)
    (ho : o.warning? (Text.ofString "incomplete_message_discarded") = none) :
    Unaltered sure r (.ok (), r.noting o) :=
  ⟨Discarding.quiet ho r, rfl, fun _ => rfl⟩

theorem Unaltered.bind {a : Act Rehearsal Unit} {b : Act Rehearsal Unit}
    (ha : Unaltered sure r (a.runFrom r))
    (hb : ∀ r', Discarding [] r r' → r'.connection = r.connection →
      Unaltered sure r' (b.runFrom r')) :
    Unaltered sure r ((a >>= fun _ => b).runFrom r) := by
  rw [Act.runFrom_bind]
  rcases hrun : a.runFrom r with ⟨f | _, r'⟩
  · rw [hrun] at ha
    exact ⟨ha.discarding, ha.connection, fun hsure => by injection ha.ok hsure⟩
  · rw [hrun] at ha
    have hrest := hb r' ha.discarding ha.connection
    exact ⟨ha.discarding.trans hrest.discarding, hrest.connection.trans ha.connection, hrest.ok⟩

/-- Neither a debug entry nor a warning about anything else is a warning about discarded
    bytes. -/
theorem entry_warning?_eq_none {c : Connection} {severity : Severity} {event : String}
    {more : List LogField}
    (h : severity ≠ .warning ∨ event ≠ "incomplete_message_discarded") :
    (c.entry severity event more).warning?
      (Text.ofString "incomplete_message_discarded") = none := by
  cases severity with
  | warning =>
      rcases h with h | h
      · exact absurd rfl h
      · exact if_neg fun heq => h (Text.ofString_inj.mp heq)
  | _ => rfl

theorem log_unaltered (h : r.interruptions = []) {severity : Severity} {event : String}
    (hevent : severity ≠ .warning ∨ event ≠ "incomplete_message_discarded")
    (more : List LogField) :
    Unaltered sure r ((Connection.log (surroundings t) severity event more).runFrom r) := by
  rw [log_runFrom h]
  exact Unaltered.of_noting r (entry_warning?_eq_none hevent)

theorem perform_unaltered (h : r.interruptions = []) (call : HookCall) {a : HookAction}
    (ha : a.interferes = false) :
    Unaltered a.observes r ((Connection.perform (surroundings t) call a).runFrom r) := by
  cases a with
  | record =>
      rw [Connection.perform, Act.runFrom_bind_ok (current_runFrom h)]
      exact Unaltered.of_noting r rfl
  | close => injection ha
  | closeServer => injection ha
  | configure changes => exact Unaltered.pure _ r
  | fail f => exact Unaltered.throw f Bool.false_ne_true

theorem performAll_unaltered (h : r.interruptions = []) (call : HookCall)
    (actions : List HookAction) (hactions : ∀ a ∈ actions, a.interferes = false) :
    Unaltered (∀ a ∈ actions, a.observes) r
      ((Connection.performAll (surroundings t) call actions).runFrom r) := by
  induction actions generalizing r with
  | nil => exact Unaltered.pure _ r
  | cons a rest ih =>
      have hfirst := perform_unaltered (t := t) h call (hactions a List.mem_cons_self)
      refine Unaltered.bind (hfirst.mono fun hall => hall a List.mem_cons_self) fun r' hr' _ => ?_
      have hrest := ih (hr'.interruptions.trans h) fun x hx =>
        hactions x (List.mem_cons_of_mem a hx)
      exact hrest.mono fun hall x hx => hall x (List.mem_cons_of_mem a hx)

theorem logOf_warning?_eq_none (serverPort : Port) (peer : Peer) (received : Nat)
    (call : HookCall) (event : Text) :
    (Hook.logOf serverPort peer received call).warning? event = none := by
  cases call <;> rfl

theorem callHook_unaltered (h : r.interruptions = []) (call : HookCall) {hook : Hook}
    (hharmless : hook.Harmless) :
    Unaltered hook.Observes r ((Connection.callHook (surroundings t) call hook).runFrom r) := by
  rw [Connection.callHook, Act.runFrom_bind_ok (current_runFrom h)]
  have hlogged : Unaltered hook.Observes r (.ok (), r.noting
      (Hook.logOf r.connection.serverPort r.connection.peer r.connection.received call)) :=
    Unaltered.of_noting r (logOf_warning?_eq_none _ _ _ _ _)
  refine Unaltered.bind hlogged fun r' hr' _ => ?_
  refine (performAll_unaltered (hr'.interruptions.trans h) call _ ?_).mono ?_
  · exact hharmless _ _ call
  · exact fun hobs => hobs _ _ call

theorem callHooks_unaltered (h : r.interruptions = []) (call : HookCall) (hooks : List Hook)
    (hharmless : ∀ hook ∈ hooks, hook.Harmless) :
    Unaltered (∀ hook ∈ hooks, hook.Observes) r
      ((Connection.callHooks (surroundings t) call hooks).runFrom r) := by
  induction hooks generalizing r with
  | nil => exact Unaltered.pure _ r
  | cons hook rest ih =>
      have hfirst := callHook_unaltered (t := t) h call (hharmless hook List.mem_cons_self)
      refine Unaltered.bind (hfirst.mono fun hall => hall hook List.mem_cons_self)
        fun r' hr' _ => ?_
      have hrest := ih (hr'.interruptions.trans h) fun x hx =>
        hharmless x (List.mem_cons_of_mem hook hx)
      exact hrest.mono fun hall x hx => hall x (List.mem_cons_of_mem hook hx)

end

end Rehearsal

end MockHost
