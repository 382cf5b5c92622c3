import MockHost.Proofs.Connection.Cleanup

/-!
# Hooks That Ask for the End

A hook may close the connection that has called it. What this leaves in the connection
is little: the end has been asked for, the connection is closed, and the socket is shut
down, which the history shows. Where no thread serves the peer the socket is released as
well. Everything else is as it was, so that the cycle of the message goes on as if
nothing had happened.

A connection has therefore either been left alone by its hooks or been asked to end,
and the history tells which: there is a shutdown in it exactly in the second case.

## Main definitions

* `Connection.Takes`: A connection that has made some calls, asked to end or not.
* `Rehearsal.Asks`: What hooks may do to the connection.
* `Rehearsal.Assured`: Nothing is going to fail, though hooks may close the connection.

## Theorems

* `Connection.Takes.trans`: Calls made one after another.
* `Rehearsal.close_asks`: Closing a connection asks for its end, once.
* `Rehearsal.callHooks_asks`: Hooks do nothing but that.
* `Rehearsal.callHooks_assured`: Hooks that do not fail leave the socket.
-/

namespace MockHost

/-- Whether a hook fails. -/
def HookAction.fails : HookAction → Bool
  | .fail _ => true
  | _ => false

/-- The hook fails at no call, but it may close the connection. -/
def Hook.Unfailing (h : Hook) : Prop :=
  ∀ peer received call, ∀ a ∈ h.actions peer received call, a.fails = false

/-- A hook that closes the connection with every message. -/
def Hook.closing : Hook where
  onMessage := .always [.close]

theorem Hook.closing_unfailing : Hook.closing.Unfailing := by
  intro peer received call a ha
  cases call with
  | onMessage m =>
      rw [List.mem_singleton.mp ha]
      rfl
  | _ => exact absurd ha List.not_mem_nil

/-- Whether a call shuts the socket down or releases it. -/
def Call.isEnding : Call → Bool
  | .shutdown | .close => true
  | _ => false

/-- The connection when its end has been asked for, with or without its socket. -/
def Connection.ending (hasSocket : Bool) (c : Connection) : Connection :=
  { c with closeRequested := true, status := .closed, hasSocket }

theorem Connection.ending_after (k : Bool) (c : Connection) (calls : List Call) :
    (c.after calls).ending k = (c.ending k).after calls := rfl

/-- The end of the connection has been asked for. -/
def Connection.IsEnding (c : Connection) : Prop := c.closeRequested ∧ c.status = .closed

/-- Asked for once more, only the socket may change. -/
theorem Connection.IsEnding.ending_eq {c : Connection} (h : c.IsEnding) (k : Bool) :
    c.ending k = { c with hasSocket := k } := by
  rw [Connection.ending, ← h.1, ← h.2]

/-- The connection has made some calls. It has been left alone otherwise, or its end has been
    asked for. The first request shuts the socket down, and only where no thread serves the peer
    is the socket released. -/
inductive Connection.Takes (c : Connection) : Connection → List Call → Prop where
  | calm {calls : List Call} (calm : Call.shutdown ∉ calls) : Takes c (c.after calls) calls
  | asked {calls : List Call} (k : Bool)
      (marked : c.hasSocket → c.closeRequested = false → Call.shutdown ∈ calls)
      (kept : c.worker ≠ .notStarted → k = c.hasSocket) :
      Takes c ((c.ending k).after calls) calls

namespace Connection.Takes

variable {c c' c'' : Connection} {calls calls' : List Call}

theorem refl (c : Connection) : c.Takes c [] := by
  have h : c.Takes (c.after []) [] := .calm List.not_mem_nil
  rwa [Connection.after_nil] at h

/-- Calls made one after another. The first of several requests is the one that counts. -/
theorem trans (h : c.Takes c' calls) (h' : c'.Takes c'' calls') :
    c.Takes c'' (calls ++ calls') := by
  cases h with
  | calm hcalm =>
      cases h' with
      | calm hcalm' =>
          rw [← Connection.after_append]
          exact .calm fun hmem => (List.mem_append.mp hmem).elim hcalm hcalm'
      | asked k marked kept =>
          rw [Connection.ending_after, ← Connection.after_append]
          exact .asked k (fun hs hr => List.mem_append_right _ (marked hs hr)) kept
  | asked k marked kept =>
      have hmarked : c.hasSocket → c.closeRequested = false → Call.shutdown ∈ calls ++ calls' :=
        fun hs hr => List.mem_append_left _ (marked hs hr)
      cases h' with
      | calm _ =>
          rw [← Connection.after_append]
          exact .asked k hmarked kept
      | asked k' _ kept' =>
          rw [Connection.ending_after, ← Connection.after_append]
          exact .asked k' hmarked fun hw => (kept' hw).trans (kept hw)

/-- One more call of another kind. -/
theorem one (c : Connection) {call : Call} (h : call.isEnding = false) :
    c.Takes (c.after [call]) [call] := by
  refine .calm fun hmem => ?_
  rw [← List.mem_singleton.mp hmem] at h
  exact Bool.false_ne_true h.symm

/-- All that calls leave besides is the same whether or not the end has been asked for. -/
theorem eq (h : c.Takes c' calls) :
    { c' with closeRequested := false, status := .opened, hasSocket := false } =
      { c.after calls with closeRequested := false, status := .opened, hasSocket := false } := by
  cases h with
  | calm _ => rfl
  | asked k _ _ => rfl

/-- A thread that serves the peer keeps its socket. -/
theorem hasSocket (h : c.Takes c' calls) (hworker : c.worker ≠ .notStarted) :
    c'.hasSocket = c.hasSocket := by
  cases h with
  | calm _ => rfl
  | asked k _ kept => exact kept hworker

/-- A connection with its socket whose end had not been asked for tells from its history whether
    it has been by now. It is closed in that case. -/
theorem requested_iff (h : c.Takes c' calls) (hwanted : c.closeRequested = false)
    (hsocket : c.hasSocket) :
    (c'.closeRequested ↔ Call.shutdown ∈ calls) ∧
      (c'.isOpen → c'.closeRequested = false ∧ c'.hasSocket) := by
  cases h with
  | calm hcalm => exact ⟨⟨fun hr => absurd (hwanted.symm.trans hr) Bool.false_ne_true,
      fun hmem => absurd hmem hcalm⟩, fun _ => ⟨hwanted, hsocket⟩⟩
  | asked k marked _ => exact ⟨⟨fun _ => marked hsocket hwanted, fun _ => rfl⟩,
      fun hopen => absurd hopen Bool.false_ne_true⟩

end Connection.Takes

namespace Rehearsal

open Act (Moves)

theorem Abides.systemErrors {r r' : Rehearsal} (h : Abides r r')
    (hsystem : r.SystemErrorsAtClosing) : r'.SystemErrorsAtClosing :=
  ⟨by rw [h.shuttingDown]; exact hsystem.shuttingDown, by rw [h.closing]; exact hsystem.closing⟩

/-- The connection has at most been asked to end, and has made no calls but those that this
    takes. -/
structure Asked (r r' : Rehearsal) : Prop where
  abides : Abides r r'
  calls : ∃ calls, r.connection.Takes r'.connection calls ∧ ∀ call ∈ calls, call.isEnding

theorem Asked.trans {r s u : Rehearsal} (h : Asked r s) (h' : Asked s u) : Asked r u := by
  rcases h.calls with ⟨calls, htakes, hending⟩
  rcases h'.calls with ⟨calls', htakes', hending'⟩
  exact ⟨abides_path.trans h.abides h'.abides, calls ++ calls', htakes.trans htakes',
    List.forall_mem_append.mpr ⟨hending, hending'⟩⟩

theorem Asked.of_abides {r r' : Rehearsal} (h : Abides r r')
    (hconnection : r'.connection = r.connection) : Asked r r' :=
  ⟨h, [], by rw [hconnection]; exact .refl _, fun _ hx => absurd hx List.not_mem_nil⟩

/-- While no other thread comes in, the connection is at most asked to end. -/
def Asks (r r' : Rehearsal) : Prop := r.interruptions = [] → Asked r r'

theorem asks_path : Act.Path Asks where
  refl r _ := Asked.of_abides (abides_path.refl r) rfl
  trans h h' hr := (h hr).trans (h' ((h hr).abides.interruptions.trans hr))

theorem Asked.isEnding {r r' : Rehearsal} (h : Asked r r') (hr : r.connection.IsEnding) :
    r'.connection.IsEnding := by
  rcases h.calls with ⟨calls, htakes, -⟩
  generalize r'.connection = c at htakes ⊢
  cases htakes with
  | calm _ => exact hr
  | asked k _ _ => exact ⟨rfl, rfl⟩

/-- The same for a connection whose end has been asked for. -/
def Sheds (r r' : Rehearsal) : Prop :=
  r.interruptions = [] → r.connection.IsEnding → Asked r r'

theorem sheds_path : Act.Path Sheds where
  refl r _ _ := Asked.of_abides (abides_path.refl r) rfl
  trans h h' hr hending :=
    (h hr hending).trans (h' ((h hr hending).abides.interruptions.trans hr)
      ((h hr hending).isEnding hending))

section

variable (t : Seconds)

theorem note_abides (o : Occurrence) (r : Rehearsal) : Abides r (r.noting o) :=
  ⟨rfl, List.Subset.refl _, rfl, rfl⟩

theorem meanwhile_runFrom {r : Rehearsal} (h : r.interruptions = []) :
    ((surroundings t).meanwhile).runFrom r = (.ok (), r) := by
  simp only [surroundings, meanwhile, Act.runFrom_bind, Act.runFrom_get, h, Act.runFrom_pure]

/-- What fails as the script says leaves the connection alone. -/
theorem failing_asked (o : Occurrence) (f : Rehearsal → Option Failure) (r : Rehearsal) :
    Asked r ((do
      note o
      ScriptedWorld.failing (f (← get)) : Act Rehearsal Unit).runFrom r).2 := by
  rcases failing_runFrom o f r with ⟨res, hrun⟩
  rw [hrun]
  exact Asked.of_abides (note_abides o r) rfl

theorem telling_sheds : (surroundings t).Telling Sheds where
  path := sheds_path
  meanwhile r h _ := by
    rw [meanwhile_runFrom t h]
    exact Asked.of_abides (abides_path.refl r) rfl
  note o _ r _ _ := Asked.of_abides (note_abides o r) rfl

theorem shutdown_sheds : Moves Sheds (surroundings t).shutdown :=
  fun r _ _ => failing_asked _ (fun r => r.shuttingDown r.connection.calls.length) r

theorem shutting_sheds : (surroundings t).Shutting Sheds where
  toTelling := telling_sheds t
  shutdownSocket := by
    refine (telling_sheds t).shutdownSocket (fun r _ hending => ?_) (shutdown_sheds t)
    refine ⟨⟨rfl, List.Subset.refl _, rfl, rfl⟩, [.shutdown], ?_,
      List.forall_mem_singleton.mpr rfl⟩
    have htakes : r.connection.Takes ((r.connection.ending r.connection.hasSocket).after [.shutdown])
        [.shutdown] := .asked _ (fun _ _ => List.mem_singleton.mpr rfl) fun _ => rfl
    rw [hending.ending_eq] at htakes
    change r.connection.Takes (r.recording .shutdown).connection _
    rwa [recording_connection rfl]

/-- The socket is released only where no thread serves the peer. -/
theorem releaseSocket_asked {r : Rehearsal} (h : r.interruptions = [])
    (hending : r.connection.IsEnding) (hworker : r.connection.worker = .notStarted) :
    Asked r ((Connection.releaseSocket (surroundings t)).runFrom r).2 := by
  rw [Connection.releaseSocket, Act.runFrom_bind_ok (current_runFrom h)]
  by_cases hsocket : r.connection.hasSocket
  · rw [if_pos hsocket, Act.runFrom_bind_ok (change_runFrom _),
      Act.runFrom_bind_ok (record_runFrom _)]
    generalize hr₁ : (update (fun c => { c with hasSocket := false }) r).recording .close = r₁
    have hreleased : Asked r r₁ := by
      refine ⟨by rw [← hr₁]; exact ⟨rfl, List.Subset.refl _, rfl, rfl⟩, [.close], ?_,
        List.forall_mem_singleton.mpr rfl⟩
      have htakes : r.connection.Takes ((r.connection.ending false).after [.close]) [.close] := by
        refine .asked false (fun _ hrequested => ?_) fun hne => absurd hworker hne
        rw [hending.1] at hrequested
        injection hrequested
      rw [hending.ending_eq] at htakes
      rw [← hr₁, recording_connection rfl]
      exact htakes
    refine hreleased.trans ?_
    exact (shutting_sheds t).attempt (fun s _ _ => failing_asked _ Rehearsal.closing s) .warning
      "connection_socket_close_failed" r₁ (hreleased.abides.interruptions.trans h)
      (hreleased.isEnding hending)
  · rw [if_neg hsocket]
    exact Asked.of_abides (abides_path.refl r) rfl

/-- What follows the request depends on whether a thread serves the peer. -/
theorem afterRequest_sheds : Moves Sheds (do
    if (← Connection.current (surroundings t)).worker = .notStarted then
      Connection.releaseSocket (surroundings t)
    else Connection.awaitWorker (surroundings t) Connection.waits) := by
  intro r h hending
  rw [Act.runFrom_bind_ok (current_runFrom h)]
  split
  · exact releaseSocket_asked t h hending ‹_›
  · exact (shutting_sheds t).awaitWorker _ r h hending

/-- The rehearsal when the end of its connection has been asked for. -/
def requested (r : Rehearsal) : Rehearsal :=
  update (Connection.ending r.connection.hasSocket) r

/-- What follows a request follows a shutdown, if it is the first request. -/
theorem Asked.of_request {r r' : Rehearsal} (h : Asked r.requested r')
    (first : r.connection.hasSocket → r.connection.closeRequested = false →
      Asked (r.requested.recording .shutdown) r') : Asked r r' := by
  have habides : Abides r r.requested := ⟨rfl, List.Subset.refl _, rfl, rfl⟩
  have hkept : r.connection.worker ≠ .notStarted →
      r.connection.hasSocket = r.connection.hasSocket := fun _ => rfl
  by_cases hfirst : r.connection.hasSocket ∧ r.connection.closeRequested = false
  · have hshutdown : Asked r (r.requested.recording .shutdown) := by
      refine ⟨⟨rfl, List.Subset.refl _, rfl, rfl⟩, [.shutdown], ?_,
        List.forall_mem_singleton.mpr rfl⟩
      rw [recording_connection rfl]
      exact .asked _ (fun _ _ => List.mem_singleton.mpr rfl) hkept
    exact hshutdown.trans (first hfirst.1 hfirst.2)
  · rcases h.calls with ⟨calls, htakes, hending⟩
    refine ⟨abides_path.trans habides h.abides, calls, ?_, hending⟩
    generalize r'.connection = c at htakes ⊢
    cases htakes with
    | calm _ => exact .asked _ (fun hs hr => absurd ⟨hs, hr⟩ hfirst) hkept
    | asked k _ kept => exact .asked k (fun hs hr => absurd ⟨hs, hr⟩ hfirst) kept

/-- The first request shuts the socket down before anything else. -/
theorem firstRequest_asked {r : Rehearsal} (h : r.interruptions = [])
    (hending : r.connection.IsEnding)
    {a : Act Rehearsal Unit} (ha : Moves Sheds a) :
    Asked r ((Connection.shutdownSocket (surroundings t) >>= fun _ => a).runFrom r).2 ∧
      (r.connection.hasSocket → Asked (r.recording .shutdown)
        ((Connection.shutdownSocket (surroundings t) >>= fun _ => a).runFrom r).2) := by
  refine ⟨Moves.bind sheds_path (shutting_sheds t).shutdownSocket (fun _ => ha) r h hending, ?_⟩
  intro hsocket
  rw [Connection.shutdownSocket, bind_assoc, Act.runFrom_bind_ok (current_runFrom h),
    if_pos hsocket, bind_assoc, Act.runFrom_bind_ok (record_runFrom _)]
  have hshutdown := (telling_sheds t).attempt (shutdown_sheds t) .debug
    "connection_shutdown_ignored"
  exact Moves.bind sheds_path hshutdown (fun _ => ha) _ h hending

/-- Closing a connection asks for its end, and the first request shuts the socket down. -/
theorem close_asks : Moves Asks (Connection.close (surroundings t)) := by
  intro r h
  have hending : r.requested.connection.IsEnding := ⟨rfl, rfl⟩
  rw [Connection.close, Act.runFrom_bind_ok (current_runFrom h),
    Act.runFrom_bind_ok (change_runFrom _)]
  change Asked r (Act.runFrom _ r.requested).2
  by_cases hfirst : r.connection.closeRequested
  · rw [hfirst]
    refine Asked.of_request (afterRequest_sheds t _ h hending) fun _ hnot => ?_
    rw [hfirst] at hnot
    injection hnot
  · rw [Bool.eq_false_iff.mpr hfirst]
    change Asked r ((Connection.log (surroundings t) .debug "connection_closing" [] >>= fun _ =>
      Connection.shutdownSocket (surroundings t) >>= fun _ => _).runFrom r.requested).2
    rw [Act.runFrom_bind_ok (log_runFrom (r := r.requested) h _ _ _)]
    -- The log entry makes no difference to what follows.
    generalize r.requested.connection.entry .debug "connection_closing" [] = o
    have hasked := firstRequest_asked t (r := r.requested.noting o) h hending (afterRequest_sheds t)
    refine Asked.of_request ((Asked.of_abides (note_abides o _) rfl).trans hasked.1) fun hs _ => ?_
    exact (Asked.of_abides (note_abides o _) rfl).trans (hasked.2 hs)

/-- Hooks may ask for the end of the connection, and do nothing else to it. -/
theorem hooking_asks : (surroundings t).Hooking Asks where
  path := asks_path
  meanwhile r h := by
    rw [meanwhile_runFrom t h]
    exact Asked.of_abides (abides_path.refl r) rfl
  note o _ r _ := Asked.of_abides (note_abides o r) rfl
  close := close_asks t
  closeServer := Moves.pure asks_path _
  configureServer _ := Moves.pure asks_path _

/-! ### Hooks that do not fail -/

theorem perform_ok {r : Rehearsal} (h : r.SystemErrorsAtClosing) (call : HookCall) {a : HookAction}
    (ha : a.fails = false) :
    ∃ r', (Connection.perform (surroundings t) call a).runFrom r = (.ok (), r') := by
  cases a with
  | record =>
      rcases current_ok t r with ⟨r₁, hr₁⟩
      rw [Connection.perform, Act.runFrom_bind_ok hr₁]
      exact ⟨_, rfl⟩
  | close =>
      rcases close_ok t h with ⟨r', hr', -⟩
      exact ⟨r', hr'⟩
  | closeServer => exact ⟨r, rfl⟩
  | configure changes => exact ⟨r, rfl⟩
  | fail f => injection ha

theorem performAll_ok {r : Rehearsal} (h : r.SystemErrorsAtClosing) (call : HookCall)
    (actions : List HookAction) (hactions : ∀ a ∈ actions, a.fails = false) :
    ∃ r', (Connection.performAll (surroundings t) call actions).runFrom r = (.ok (), r') := by
  induction actions generalizing r with
  | nil => exact ⟨r, rfl⟩
  | cons a rest ih =>
      rcases perform_ok t h call (hactions a List.mem_cons_self) with ⟨r₁, hr₁⟩
      rw [Connection.performAll, Act.runFrom_bind_ok hr₁]
      exact ih ((((calling_keeps t).perform call a).reaches hr₁).systemErrors h)
        fun x hx => hactions x (List.mem_cons_of_mem a hx)

theorem callHooks_ok {r : Rehearsal} (h : r.SystemErrorsAtClosing) (call : HookCall)
    (hooks : List Hook) (hhooks : ∀ hook ∈ hooks, hook.Unfailing) :
    ∃ r', (Connection.callHooks (surroundings t) call hooks).runFrom r = (.ok (), r') := by
  induction hooks generalizing r with
  | nil => exact ⟨r, rfl⟩
  | cons hook rest ih =>
      rcases current_ok t r with ⟨r₁, hr₁⟩
      have hsystem₁ : r₁.SystemErrorsAtClosing :=
        ((closing_keeps t).current.reaches hr₁).systemErrors h
      have hcall : ∃ r', (Connection.callHook (surroundings t) call hook).runFrom r =
          (.ok (), r') := by
        rw [Connection.callHook, Act.runFrom_bind_ok hr₁]
        exact performAll_ok t (r := r₁.noting _) ⟨hsystem₁.shuttingDown, hsystem₁.closing⟩ call _
          (hhooks hook List.mem_cons_self _ _ call)
      rcases hcall with ⟨r₂, hr₂⟩
      rw [Connection.callHooks, Act.runFrom_bind_ok hr₂]
      exact ih ((((calling_keeps t).callHook call hook).reaches hr₂).systemErrors h)
        fun x hx => hhooks x (List.mem_cons_of_mem hook hx)

end

/-- Nothing is going to fail: hooks do not, and sends do not. A hook may close the connection,
    but not where this would take the socket away before the message has been answered. -/
structure Assured (r : Rehearsal) : Prop where
  hooks : ∀ h ∈ r.connection.hooks, h.Unfailing
  sends : ∀ fault ∈ r.sends, fault = none
  systemErrors : r.SystemErrorsAtClosing
  hasSocket : r.connection.hasSocket
  served : r.connection.worker = .notStarted → ∀ h ∈ r.connection.hooks, h.Harmless

theorem Assured.of_abides {r r' : Rehearsal} (h : r.Assured) (habides : Abides r r')
    (hhooks : r'.connection.hooks = r.connection.hooks)
    (hworker : r'.connection.worker = r.connection.worker) (hsocket : r'.connection.hasSocket) :
    r'.Assured where
  hooks := by
    rw [hhooks]
    exact h.hooks
  sends fault hfault := h.sends fault (habides.sends hfault)
  systemErrors := habides.systemErrors h.systemErrors
  hasSocket := hsocket
  served := by
    rw [hworker, hhooks]
    exact h.served

theorem Assured.of_takes {r r' : Rehearsal} {calls : List Call} (h : r.Assured)
    (habides : Abides r r') (htakes : r.connection.Takes r'.connection calls)
    (hsocket : r'.connection.hasSocket) : r'.Assured :=
  h.of_abides habides (congrArg Connection.hooks htakes.eq :)
    (congrArg Connection.worker htakes.eq :) hsocket

section

variable (t : Seconds)

/-- Calling the hooks comes to its end then, and leaves the socket. -/
theorem callHooks_assured {r : Rehearsal} (h : r.interruptions = []) (hassured : r.Assured)
    (call : HookCall) :
    ∃ r', (Connection.callHooks (surroundings t) call r.connection.hooks).runFrom r = (.ok (), r') ∧
      r'.connection.hasSocket := by
  rcases callHooks_ok t hassured.systemErrors call _ hassured.hooks with ⟨r', hr'⟩
  refine ⟨r', hr', ?_⟩
  by_cases hworker : r.connection.worker = .notStarted
  · have hunaltered := callHooks_unaltered (t := t) h call _ (hassured.served hworker)
    rw [hr'] at hunaltered
    rw [hunaltered.connection]
    exact hassured.hasSocket
  · have hasked := (hooking_asks t).callHooks call r.connection.hooks r h
    rw [hr'] at hasked
    rcases hasked.calls with ⟨calls, htakes, -⟩
    rw [htakes.hasSocket hworker]
    exact hassured.hasSocket

end

end Rehearsal

end MockHost
