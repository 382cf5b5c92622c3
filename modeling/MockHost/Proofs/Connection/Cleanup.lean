import MockHost.Proofs.Connection.Ledger

/-!
# Cleaning Up Once

Whatever the owner of a connection does with it and in whatever order, the peer's
socket is closed once and the end is announced once. The owner may start the thread,
close the connection and wait for the thread, each as often as it likes; the peer may
send anything, reads and sends may fail, hooks may fail or close the connection
themselves, and other threads may close it at any moment.

A connection that has not been served has called no hook for the end, and its socket
is closed at most once by the ledger. Serving it ends with three steps that are
always taken: the status is changed, the socket is released, and the end is
announced. The only way to miss one would be a failure of another, so each of them is
shown not to fail, as long as shutting a socket down and closing it fail with errors
of the system only. After that the connection is retired, and nothing that its owner
can do makes it read, send or close again, or call its hooks.

## Main definitions

* `Rehearsal.SystemErrorsAtClosing`: The socket shuts down and closes with errors of the system at
  most.
* `Rehearsal.Leaves`: How a thread comes to its end.
* `Connection.Unserved`, `Connection.Retired`: A connection before and after it is served.
* `Rehearsal.Stands`: Where a connection stands after some operations.
* `Rehearsal.CleanedUp`: What becomes of a connection in the end.

## Theorems

* `Rehearsal.close_ok`: Closing never fails, and releases a socket that no thread serves.
* `Rehearsal.run_leaves`: A thread always comes to its end, and nothing fails there.
* `Rehearsal.operate_comes`, `Rehearsal.operateAll_comes`: One operation, and any number of them.
* `Rehearsal.operateAll_cleansUp`: Every connection is cleaned up once.
-/

namespace MockHost

namespace Rehearsal

open Act (Moves)

/-- Shutting the socket down and closing it fail with errors of the system, if at all. -/
structure SystemErrorsAtClosing (r : Rehearsal) : Prop where
  shuttingDown : ∀ n f, r.shuttingDown n = some f → ∃ e, f = .system e
  closing : ∀ f, r.closing = some f → ∃ e, f = .system e

theorem Keeps.systemErrors {P : Call → Bool} {r r' : Rehearsal} (h : Keeps P r r')
    (hsystem : r.SystemErrorsAtClosing) : r'.SystemErrorsAtClosing :=
  ⟨by rw [h.shuttingDown]; exact hsystem.shuttingDown, by rw [h.closing]; exact hsystem.closing⟩

section

variable (t : Seconds) {r : Rehearsal}

/-! ### Closing never fails -/

theorem log_ok (severity : Severity) (event : String) (more : List LogField) (r : Rehearsal) :
    ∃ r', (Connection.log (surroundings t) severity event more).runFrom r = (.ok (), r') := by
  rcases current_ok t r with ⟨r', hr'⟩
  rw [Connection.log, Act.runFrom_bind_ok hr']
  exact ⟨_, rfl⟩

theorem failing_systemErrors {f : Option Failure} (h : ∀ g, f = some g → ∃ e, g = .system e) :
    ((ScriptedWorld.failing f : Act Rehearsal Unit).runFrom r).1 = .ok () ∨
      ∃ e, ((ScriptedWorld.failing f : Act Rehearsal Unit).runFrom r).1 = .error (.system e) := by
  cases f with
  | none => exact .inl rfl
  | some g =>
      rcases h g rfl with ⟨e, rfl⟩
      exact .inr ⟨e, rfl⟩

/-- Errors of the system are only logged. -/
theorem attempt_ok {a : Act Rehearsal Unit} {severity : Severity} {event : String}
    (h : (a.runFrom r).1 = .ok () ∨ ∃ e, (a.runFrom r).1 = .error (.system e)) :
    ∃ r', (do
      match ← Act.attempt a with
      | .ok () => return
      | .error (.system e) =>
        Connection.log (surroundings t) severity event [.text "error" e.message]
      | .error f => throw f : Act Rehearsal Unit).runFrom r = (.ok (), r') := by
  rw [Act.runFrom_bind_ok (Act.runFrom_attempt _ _)]
  rcases h with h | ⟨e, h⟩
  · rw [h]
    exact ⟨_, rfl⟩
  · rw [h]
    exact log_ok t _ _ _ _

/-- An error of the system only means that nothing was left to shut down. -/
theorem shutdownSocket_ok (h : r.SystemErrorsAtClosing) :
    ∃ r', (Connection.shutdownSocket (surroundings t)).runFrom r = (.ok (), r') := by
  rcases current_ok t r with ⟨r₁, hr₁⟩
  have hsystem : r₁.SystemErrorsAtClosing := ((closing_keeps t).current.reaches hr₁).systemErrors h
  rw [Connection.shutdownSocket, Act.runFrom_bind_ok hr₁]
  split
  · rw [Act.runFrom_bind_ok (record_runFrom _)]
    exact attempt_ok t (failing_systemErrors (hsystem.shuttingDown _))
  · exact ⟨r₁, rfl⟩

theorem releaseSocket_ok (h : r.SystemErrorsAtClosing) :
    ∃ r', (Connection.releaseSocket (surroundings t)).runFrom r = (.ok (), r') ∧
      r'.connection.hasSocket = false := by
  have hkeeps := (releaseSocket_keeps t r).2.1
  rcases current_ok t r with ⟨r₁, hr₁⟩
  have hsystem : r₁.SystemErrorsAtClosing := ((closing_keeps t).current.reaches hr₁).systemErrors h
  have hok : ∃ r', (Connection.releaseSocket (surroundings t)).runFrom r = (.ok (), r') := by
    rw [Connection.releaseSocket, Act.runFrom_bind_ok hr₁]
    split
    · rw [Act.runFrom_bind_ok (change_runFrom _), Act.runFrom_bind_ok (record_runFrom _)]
      exact attempt_ok t (failing_systemErrors hsystem.closing)
    · exact ⟨r₁, rfl⟩
  rcases hok with ⟨r', hr'⟩
  rw [hr'] at hkeeps
  exact ⟨r', hr', hkeeps⟩

theorem awaitWorker_ok (h : r.SystemErrorsAtClosing) (n : Nat) :
    ∃ r', (Connection.awaitWorker (surroundings t) n).runFrom r = (.ok (), r') := by
  induction n generalizing r with
  | zero => exact ⟨r, rfl⟩
  | succ n ih =>
      rcases current_ok t r with ⟨r₁, hr₁⟩
      rw [Connection.awaitWorker, Act.runFrom_bind_ok hr₁]
      split
      · rcases log_ok t .warning "connection_close_slow"
          [.seconds "waited_sec" (surroundings t).closeJoinTimeout] r₁ with ⟨r₂, hr₂⟩
        have hsystem₁ : r₁.SystemErrorsAtClosing :=
          ((closing_keeps t).current.reaches hr₁).systemErrors h
        have hsystem₂ : r₂.SystemErrorsAtClosing :=
          (((closing_keeps t).log _ _ _).reaches hr₂).systemErrors hsystem₁
        rcases shutdownSocket_ok t hsystem₂ with ⟨r₃, hr₃⟩
        rw [Act.runFrom_bind_ok hr₂, Act.runFrom_bind_ok hr₃]
        exact ih (((closing_keeps t).shutdownSocket.reaches hr₃).systemErrors hsystem₂)
      · exact ⟨r₁, rfl⟩

/-- Closing never fails. Where there is no thread to release the socket it is released at
    once. -/
theorem close_ok (h : r.SystemErrorsAtClosing) :
    ∃ r', (Connection.close (surroundings t)).runFrom r = (.ok (), r') ∧
      (r.connection.worker = .notStarted → r'.connection.hasSocket = false) := by
  have path := keeps_path Call.isIdle
  rcases current_ok t r with ⟨r₁, hr₁⟩
  generalize hr₂ : update (fun c => { c with closeRequested := true, status := .closed }) r₁ = r₂
  have hkeeps₂ : Keeps Call.isIdle r r₂ := by
    rw [← hr₂]
    exact path.trans ((closing_keeps t).current.reaches hr₁) (Keeps.of_update Connection.modest_request.toAloof)
  -- The rest is the same whether or not this was the first request.
  have hend : ∀ s, Keeps Call.isIdle r s → ∃ r', (do
      if (← Connection.current (surroundings t)).worker = .notStarted then
        Connection.releaseSocket (surroundings t)
      else Connection.awaitWorker (surroundings t) Connection.waits : Act Rehearsal Unit).runFrom s =
        (.ok (), r') ∧ (r.connection.worker = .notStarted → r'.connection.hasSocket = false) := by
    intro s hkeeps
    rcases current_ok t s with ⟨s₁, hs₁⟩
    have hkeeps₁ := path.trans hkeeps ((closing_keeps t).current.reaches hs₁)
    rw [Act.runFrom_bind_ok hs₁]
    by_cases hworker : s₁.connection.worker = .notStarted
    · rw [if_pos hworker]
      rcases releaseSocket_ok t (hkeeps₁.systemErrors h) with ⟨s₂, hs₂, hnone⟩
      exact ⟨s₂, hs₂, fun _ => hnone⟩
    · rw [if_neg hworker]
      rcases awaitWorker_ok t (hkeeps₁.systemErrors h) Connection.waits with ⟨s₂, hs₂⟩
      exact ⟨s₂, hs₂, fun hnot => absurd (hkeeps₁.worker.trans hnot) hworker⟩
  rw [Connection.close, Act.runFrom_bind_ok hr₁, Act.runFrom_bind_ok (change_runFrom _), hr₂]
  dsimp only
  split
  · rcases log_ok t .debug "connection_closing" [] r₂ with ⟨r₃, hr₃⟩
    have hkeeps₃ := path.trans hkeeps₂ (((closing_keeps t).log _ _ _).reaches hr₃)
    rcases shutdownSocket_ok t (hkeeps₃.systemErrors h) with ⟨r₄, hr₄⟩
    rw [Act.runFrom_bind_ok hr₃, Act.runFrom_bind_ok hr₄]
    exact hend r₄ (path.trans hkeeps₃ ((closing_keeps t).shutdownSocket.reaches hr₄))
  · exact hend r₂ hkeeps₂

/-! ### The end of a thread -/

theorem reportEnd_ok (res : Except Failure Unit) (r : Rehearsal) :
    ∃ r', (Connection.reportEnd (surroundings t) res).runFrom r = (.ok (), r') := by
  cases res with
  | ok _ => exact ⟨r, rfl⟩
  | error f =>
      cases f with
      | system e =>
          rcases current_ok t r with ⟨r₁, hr₁⟩
          rw [Connection.reportEnd, Act.runFrom_bind_ok hr₁]
          split
          · exact log_ok t _ _ _ r₁
          · exact log_ok t _ _ _ r₁
      | _ => exact log_ok t _ _ _ r

end

/-- A thread comes to its end: whatever it has done until then, the socket is gone and the
    connection closed when the hooks are called for the last time, and little follows. -/
def Leaves (r r' : Rehearsal) : Prop :=
  ∃ r₁ n mismatch, Keeps Call.isServing r r₁ ∧ r₁.connection.hasSocket = false ∧
    r₁.connection.status = .closed ∧
    Keeps Call.isIdle (r₁.recording (.hooks .onClose n mismatch)) r'

theorem Leaves.after {r s r' : Rehearsal} (h : Leaves s r') (hkeeps : Keeps Call.isServing r s) :
    Leaves r r' := by
  rcases h with ⟨r₁, n, mismatch, hserving, hsocket, hstatus, hidle⟩
  exact ⟨r₁, n, mismatch, (keeps_path _).trans hkeeps hserving, hsocket, hstatus, hidle⟩

section

variable (t : Seconds) {r : Rehearsal}

/-- Without a socket there is little that the hooks can do. They may close the connection
    again, but find nothing to shut down or to release. -/
theorem callOnClose_leaves (hsocket : r.connection.hasSocket = false)
    (hstatus : r.connection.status = .closed) :
    Leaves r ((Connection.callOnClose (surroundings t)).runFrom r).2 := by
  rcases current_ok t r with ⟨r₁, hr₁⟩
  have hkeeps : Keeps Call.isIdle r r₁ := (closing_keeps t).current.reaches hr₁
  have hhooks : Moves Fades (Act.attempt (do
      Act.andFinally
        (Connection.callEveryHook (surroundings t) .onClose
          (← Connection.current (surroundings t)).hooks)
        (surroundings t).forget)) := by
    refine Moves.attempt (Moves.bind fades_path (calling_fades t).current fun c => ?_)
    exact Moves.andFinally fades_path ((calling_fades t).callEveryHook .onClose c.hooks)
      (Moves.pure fades_path ())
  refine ⟨r₁, r₁.connection.received, r₁.connection.mismatch, hkeeps.mono isServing_of_isIdle,
    hkeeps.released hsocket, hkeeps.closed hstatus, ?_⟩
  rw [Connection.callOnClose, Connection.announced, Act.runFrom_bind_ok hr₁,
    Act.runFrom_bind_ok (record_runFrom _)]
  -- All that follows the call of the hooks fades, and there is no socket any more.
  refine (Moves.bind fades_path hhooks fun res => ?_) _ (hkeeps.released hsocket)
  split
  · exact Moves.pure fades_path _
  · refine Moves.bind fades_path (fun r _ => record_keeps t rfl rfl r) fun _ => ?_
    exact Moves.throw fades_path _

/-- A failure of the hooks is only logged. -/
theorem notifyClosed_leaves (hsocket : r.connection.hasSocket = false)
    (hstatus : r.connection.status = .closed) :
    ∃ r', (Connection.notifyClosed (surroundings t)).runFrom r = (.ok (), r') ∧ Leaves r r' := by
  have hleaves := callOnClose_leaves t hsocket hstatus
  rw [Connection.notifyClosed, Act.runFrom_bind_ok (Act.runFrom_attempt _ _)]
  rcases hrun : (Connection.callOnClose (surroundings t)).runFrom r with ⟨res, r'⟩
  rw [hrun] at hleaves
  cases res with
  | ok _ => exact ⟨r', rfl, hleaves⟩
  | error f =>
      rcases log_ok t .error "on_close_hook_failed"
        [.text "error" f.message, .text "error_type" f.label, .withPlace] r' with ⟨r'', hr''⟩
      rcases hleaves with ⟨r₁, n, mismatch, hserving, hsocket₁, hstatus₁, hidle⟩
      exact ⟨r'', hr'', r₁, n, mismatch, hserving, hsocket₁, hstatus₁,
        (keeps_path _).trans hidle (((closing_keeps t).log _ _ _).reaches hr'')⟩

/-- Whatever ended the reading, the status is changed, the socket is released and the end is
    announced. -/
theorem conclude_leaves (h : r.SystemErrorsAtClosing) (res : Except Failure Unit) :
    ∃ r', (Connection.conclude (surroundings t) res).runFrom r = (.ok (), r') ∧ Leaves r r' := by
  have path := keeps_path Call.isServing
  rcases reportEnd_ok t res r with ⟨r₁, hr₁⟩
  generalize hr₂ : update (fun c => { c with status := .closed }) r₁ = r₂
  have hkeeps₂ : Keeps Call.isServing r r₂ := by
    rw [← hr₂]
    exact path.trans ((((closing_keeps t).reportEnd res).reaches hr₁).mono isServing_of_isIdle)
      (change_keeps t Connection.modest_closed.toAloof r₁)
  have hstatus₂ : r₂.connection.status = .closed := by
    rw [← hr₂]
    rfl
  have hkeeps := (releaseSocket_keeps t r₂).1
  rcases releaseSocket_ok t (hkeeps₂.systemErrors h) with ⟨r₃, hr₃, hsocket₃⟩
  rw [hr₃] at hkeeps
  rcases notifyClosed_leaves t hsocket₃ (hkeeps.closed hstatus₂) with ⟨r₄, hr₄, hleaves⟩
  refine ⟨r₄, ?_, hleaves.after (path.trans hkeeps₂ hkeeps)⟩
  rw [Connection.conclude, Act.runFrom_bind_ok hr₁, Act.runFrom_bind_ok (change_runFrom _), hr₂,
    Act.runFrom_bind_ok hr₃, hr₄]

/-- A thread always comes to its end, and nothing fails there. -/
theorem run_leaves (h : r.SystemErrorsAtClosing) :
    ∃ r', (run (surroundings t)).runFrom r = (.ok (), r') ∧ Leaves r r' := by
  have hread := read_keeps t false r
  rw [run, Act.runFrom_bind_ok (Act.runFrom_attempt _ _)]
  rcases conclude_leaves t (hread.systemErrors h) ((read (surroundings t) false).runFrom r).1 with
    ⟨r', hr', hleaves⟩
  exact ⟨r', hr', hleaves.after hread⟩

end

end Rehearsal

/-! ### Before and after -/

/-- A connection that has not been served: its hooks have not been called for the end. -/
structure Connection.Unserved (c : Connection) : Prop where
  worker : c.worker = .notStarted
  sockets : c.sockets = 1
  serving : ∀ call ∈ c.calls, call.isServing

/-- A connection that has been served: the socket was closed, then the hooks were called for
    the end, and after that nothing was read, sent, closed or given to the hooks. -/
structure Connection.Retired (c : Connection) : Prop where
  worker : c.worker = .ended
  status : c.status = .closed
  hasSocket : c.hasSocket = false
  history : ∃ before n mismatch after, c.calls = before ++ .hooks .onClose n mismatch :: after ∧
    before.countP Call.isClose = 1 ∧ (∀ call ∈ before, call.isServing) ∧
    ∀ call ∈ after, call.isIdle

/-- Without a socket the sum counts what has been closed. -/
theorem Connection.countP_isClose {c : Connection} (h : c.hasSocket = false) :
    c.calls.countP Call.isClose = c.sockets := by
  rw [Connection.sockets, h]
  rfl

theorem Connection.countP_isClose_le (c : Connection) :
    c.calls.countP Call.isClose ≤ c.sockets := Nat.le_add_right _ _

theorem Call.isClose_eq_false_of_isIdle {call : Call} (h : call.isIdle) :
    call.isClose = false := by
  cases call with
  | close => exact absurd h Bool.false_ne_true
  | _ => rfl

/-- The socket has been closed once. -/
theorem Connection.Retired.countP_isClose {c : Connection} (h : c.Retired) :
    c.calls.countP Call.isClose = 1 := by
  rcases h.history with ⟨before, n, mismatch, after, hcalls, hcount, -, hidle⟩
  have hafter : after.countP Call.isClose = 0 :=
    List.countP_eq_zero.mpr fun call hcall => by
      rw [Call.isClose_eq_false_of_isIdle (hidle call hcall)]
      exact Bool.false_ne_true
  rw [hcalls, List.countP_append, hcount, List.countP_cons_of_neg Bool.false_ne_true, hafter]

namespace Rehearsal

/-- An accepted connection has its socket, and has made no calls. -/
theorem accept_unserved {peer : Peer} {serverPort : Port} {b : Behavior}
    {registry : Option Registry} {dispatcher : Dispatcher} {hooks : List Hook}
    {readTimeout : Seconds} {c : Connection}
    (accepted : Connection.accept peer serverPort b registry dispatcher hooks readTimeout = .ok c) :
    c.Unserved := by
  rcases Connection.accept_eq accepted with ⟨expectation, rfl⟩
  exact ⟨rfl, rfl, fun _ h => absurd h List.not_mem_nil⟩

theorem Keeps.unserved {r r' : Rehearsal} (h : Keeps Call.isServing r r')
    (hunserved : r.connection.Unserved) : r'.connection.Unserved := by
  rcases h.history with ⟨more, hmore, hserving⟩
  refine ⟨h.worker.trans hunserved.worker, h.sockets.trans hunserved.sockets, ?_⟩
  rw [hmore]
  exact List.forall_mem_append.mpr ⟨hunserved.serving, hserving⟩

theorem Keeps.retired {r r' : Rehearsal} (h : Keeps Call.isIdle r r')
    (hretired : r.connection.Retired) : r'.connection.Retired := by
  rcases h.history with ⟨more, hmore, hidle⟩
  rcases hretired.history with ⟨before, n, mismatch, after, hcalls, hcount, hserving, hafter⟩
  -- What is still done comes after the last call of the hooks.
  refine ⟨h.worker.trans hretired.worker, h.closed hretired.status,
    h.released hretired.hasSocket, before, n, mismatch, after ++ more, ?_, hcount, hserving,
    List.forall_mem_append.mpr ⟨hafter, hidle⟩⟩
  rw [hmore, hcalls, List.append_assoc, List.cons_append]

/-- A thread that comes to its end leaves its connection retired. -/
theorem Leaves.retired {r r' : Rehearsal} (h : Leaves r r') (hsockets : r.connection.sockets = 1)
    (hserving : ∀ call ∈ r.connection.calls, call.isServing) :
    (update (fun c => { c with worker := .ended }) r').connection.Retired := by
  rcases h with ⟨r₁, n, mismatch, hkeeps, hsocket, hstatus, hidle⟩
  rcases hkeeps.history with ⟨more, hmore, hmoreServing⟩
  rcases hidle.history with ⟨after, hafter, hafterIdle⟩
  -- The history is cut at the last call of the hooks.
  refine ⟨rfl, hidle.closed hstatus, hidle.released hsocket, r₁.connection.calls, n, mismatch,
    after, ?_, ?_, ?_, hafterIdle⟩
  · change r'.connection.calls = _
    rw [hafter]
    exact List.append_assoc _ _ _
  · -- The sum has stayed one, and there is no socket left that it could count.
    rw [Connection.countP_isClose hsocket, hkeeps.sockets, hsockets]
  · rw [hmore]
    exact List.forall_mem_append.mpr ⟨hserving, hmoreServing⟩

theorem Leaves.systemErrors {r r' : Rehearsal} (h : Leaves r r')
    (hsystem : r.SystemErrorsAtClosing) : r'.SystemErrorsAtClosing := by
  rcases h with ⟨r₁, n, mismatch, hkeeps, -, -, hidle⟩
  have hsystem₁ := hkeeps.systemErrors hsystem
  exact hidle.systemErrors ⟨hsystem₁.shuttingDown, hsystem₁.closing⟩

theorem Leaves.trace {r r' : Rehearsal} (h : Leaves r r') :
    Trace.GrowsBy (fun o => o.isThreadDeath = false) r.world.trace r'.world.trace := by
  rcases h with ⟨r₁, n, mismatch, hkeeps, -, -, hidle⟩
  exact hkeeps.trace.trans hidle.trace

/-! ### Operations -/

/-- Where a connection stands when its owner has done some operations. -/
inductive Stands (done : List Operation) (c : Connection) : Prop
  | unserved (h : c.Unserved) (notStarted : .start ∉ done)
      (released : .close ∈ done → c.hasSocket = false)
  | retired (h : c.Retired) (started : .start ∈ done)

/-- What the owner does comes to this: it does not fail, nothing escapes from a thread, and the
    connection stands where it should. -/
structure Comes (done : List Operation) (r : Rehearsal) (out : Except Failure Unit × Rehearsal) :
    Prop where
  ok : out.1 = .ok ()
  systemErrors : out.2.SystemErrorsAtClosing
  trace : Trace.GrowsBy (fun o => o.isThreadDeath = false) r.world.trace out.2.world.trace
  stands : Stands done out.2.connection

theorem mem_of_ne {done : List Operation} {o o' : Operation} (h : o ∈ done ++ [o'])
    (hne : o ≠ o') : o ∈ done :=
  (List.mem_append.mp h).resolve_right fun hmem => hne (List.mem_singleton.mp hmem)

section

variable (t : Seconds) {r : Rehearsal} {done : List Operation}

/-- The first start serves the peer to the end, and further ones do nothing. -/
theorem start_comes (h : r.SystemErrorsAtClosing) (hstands : Stands done r.connection) :
    Comes (done ++ [.start]) r ((start (surroundings t)).runFrom r) := by
  have hstarted : Operation.start ∈ done ++ [.start] := List.mem_append_right _ List.mem_cons_self
  rw [start, Act.runFrom_bind_ok (Act.runFrom_get r)]
  dsimp only
  cases hstands with
  | unserved hunserved _ _ =>
      generalize hr₁ : update (fun c => { c with worker := .running }) r = r₁
      have hsystem₁ : r₁.SystemErrorsAtClosing := by
        rw [← hr₁]
        exact ⟨h.shuttingDown, h.closing⟩
      -- That the thread runs is no concern of the ledger.
      rcases run_leaves t hsystem₁ with ⟨r₂, hr₂, hleaves⟩
      have htrace : Trace.GrowsBy (fun o => o.isThreadDeath = false) r.world.trace
          r₂.world.trace := by
        have hgrows := hleaves.trace
        rw [← hr₁] at hgrows
        exact hgrows
      have hretired : (update (fun c => { c with worker := .ended }) r₂).connection.Retired := by
        refine hleaves.retired ?_ ?_
        · rw [← hr₁]
          exact hunserved.sockets
        · rw [← hr₁]
          exact hunserved.serving
      have hsystem₂ := hleaves.systemErrors hsystem₁
      rw [if_pos hunserved.worker, Act.runFrom_bind_ok (change_runFrom _), hr₁,
        Act.runFrom_bind_ok (Act.runFrom_attempt _ _), hr₂, Act.runFrom_bind_ok (change_runFrom _)]
      exact ⟨rfl, ⟨hsystem₂.shuttingDown, hsystem₂.closing⟩, htrace, .retired hretired hstarted⟩
  | retired hretired _ =>
      have hworker : r.connection.worker ≠ .notStarted := by
        rw [hretired.worker]
        exact Worker.noConfusion
      rw [if_neg hworker]
      exact ⟨rfl, h, Trace.GrowsBy.refl _, .retired hretired hstarted⟩

/-- Closing releases the socket if no thread has been started, and otherwise finds none. -/
theorem close_comes (h : r.SystemErrorsAtClosing) (hstands : Stands done r.connection) :
    Comes (done ++ [.close]) r ((close (surroundings t)).runFrom r) := by
  have hkeeps := (calling_keeps t).close r
  have hfades := (calling_fades t).close r
  rcases close_ok t h with ⟨r', hr', hreleased⟩
  rw [hr'] at hkeeps hfades
  change Comes _ r ((Connection.close (surroundings t)).runFrom r)
  rw [hr']
  refine ⟨rfl, hkeeps.systemErrors h, hkeeps.trace, ?_⟩
  cases hstands with
  | unserved hunserved hnot _ =>
      refine .unserved (hkeeps.unserved hunserved) ?_ fun _ => hreleased hunserved.worker
      intro hmem
      exact hnot (mem_of_ne hmem Operation.noConfusion)
  | retired hretired hstarted =>
      exact .retired ((hfades hretired.hasSocket).retired hretired)
        (List.mem_append_left _ hstarted)

/-- When an operation is over, the thread has ended if there has been one. -/
theorem join_comes (h : r.SystemErrorsAtClosing) (hstands : Stands done r.connection) :
    Comes (done ++ [.join]) r (.ok (), r) := by
  refine ⟨rfl, h, Trace.GrowsBy.refl _, ?_⟩
  cases hstands with
  | unserved hunserved hnot hreleased =>
      refine .unserved hunserved ?_ ?_
      · intro hmem
        exact hnot (mem_of_ne hmem Operation.noConfusion)
      · intro hmem
        exact hreleased (mem_of_ne hmem Operation.noConfusion)
  | retired hretired hstarted =>
      exact .retired hretired (List.mem_append_left _ hstarted)

theorem operate_comes (h : r.SystemErrorsAtClosing) (hstands : Stands done r.connection)
    (o : Operation) : Comes (done ++ [o]) r ((operate (surroundings t) o).runFrom r) := by
  cases o with
  | start => exact start_comes t h hstands
  | close => exact close_comes t h hstands
  | join => exact join_comes h hstands

theorem operateAll_comes (h : r.SystemErrorsAtClosing) (hstands : Stands done r.connection)
    (ops : List Operation) :
    Comes (done ++ ops) r ((operateAll (surroundings t) ops).runFrom r) := by
  induction ops generalizing done r with
  | nil =>
      rw [List.append_nil]
      exact ⟨rfl, h, Trace.GrowsBy.refl _, hstands⟩
  | cons o rest ih =>
      have hfirst := operate_comes t h hstands o
      rcases hrun : (operate (surroundings t) o).runFrom r with ⟨res, r'⟩
      rw [hrun] at hfirst
      have hok : res = .ok () := hfirst.ok
      subst hok
      have hrest := ih hfirst.systemErrors hfirst.stands
      rw [List.append_assoc, List.singleton_append] at hrest
      rw [operateAll, Act.runFrom_bind_ok hrun]
      exact ⟨hrest.ok, hrest.systemErrors, hfirst.trace.trans hrest.trace, hrest.stands⟩

end

/-- What becomes of a connection whose owner has done some operations. -/
structure CleanedUp (ops : List Operation) (c : Connection) : Prop where
  /-- The socket is closed at most once. -/
  once : c.calls.countP Call.isClose ≤ 1
  /-- It has been closed if there is anyone who has to do so. -/
  released : .start ∈ ops ∨ .close ∈ ops → c.calls.countP Call.isClose = 1
  /-- If the peer has been served, the end was announced after that. -/
  retired : .start ∈ ops → c.Retired
  /-- If not, it has not been announced. -/
  unannounced : .start ∉ ops → ∀ call ∈ c.calls, call.isFarewell = false

theorem Stands.cleanedUp {ops : List Operation} {c : Connection} (h : Stands ops c) :
    CleanedUp ops c := by
  cases h with
  | unserved hunserved hnot hreleased =>
      -- The sum is one: either the socket is still there, or it has been closed once.
      refine ⟨?_, ?_, fun hstart => absurd hstart hnot, ?_⟩
      · rw [← hunserved.sockets]
        exact c.countP_isClose_le
      · intro hmem
        have hclose : Operation.close ∈ ops := hmem.resolve_left hnot
        rw [Connection.countP_isClose (hreleased hclose), hunserved.sockets]
      · intro _ call hcall
        have hserving := hunserved.serving call hcall
        rwa [Call.isServing, Bool.not_eq_true'] at hserving
  | retired hretired hstarted =>
      exact ⟨Nat.le_of_eq hretired.countP_isClose, fun _ => hretired.countP_isClose,
        fun _ => hretired, fun hnot => absurd hstarted hnot⟩

/-- Whatever its owner does with an accepted connection, and however often and in whatever
    order, whatever the peer sends, reads, sends and hooks come to, and other threads do: no
    operation fails, nothing escapes from the thread, and the connection is cleaned up once. -/
theorem operateAll_cleansUp {peer : Peer} {serverPort : Port} {b : Behavior}
    {registry : Option Registry} {dispatcher : Dispatcher} {hooks : List Hook}
    {readTimeout : Seconds} {c : Connection}
    (accepted : Connection.accept peer serverPort b registry dispatcher hooks readTimeout = .ok c)
    {r : Rehearsal} (fresh : r.connection = c) (systemErrors : r.SystemErrorsAtClosing)
    (t : Seconds) (ops : List Operation) :
    ∃ r', (operateAll (surroundings t) ops).runFrom r = (.ok (), r') ∧
      Trace.GrowsBy (fun o => o.isThreadDeath = false) r.world.trace r'.world.trace ∧
      CleanedUp ops r'.connection := by
  have hunserved : r.connection.Unserved := by
    rw [fresh]
    exact accept_unserved accepted
  have hstands : Stands [] r.connection :=
    .unserved hunserved List.not_mem_nil fun hmem => absurd hmem List.not_mem_nil
  have hcomes := operateAll_comes t systemErrors hstands ops
  rcases hrun : (operateAll (surroundings t) ops).runFrom r with ⟨res, r'⟩
  rw [hrun] at hcomes
  have hok : res = .ok () := hcomes.ok
  subst hok
  exact ⟨r', rfl, hcomes.trace, hcomes.stands.cleanedUp⟩

/-- The hooks close the connection and fail at the end, reading fails, other threads close the
    connection meanwhile, and neither shutting the socket down nor closing it succeeds. -/
theorem operateAll_cleansUp_failing :
    ∃ c, Connection.accept ⟨"192.0.2.1", 5000⟩ 6789 { terminator := [10] } none .idle
        [{ onMessage := .always [.close, .record],
           onClose := .always [.close, .fail (.raised "late")] }] ⟨0⟩ = .ok c ∧
      let r : Rehearsal :=
        { world := ⟨[], #[], #[]⟩, connection := c,
          unread := [⟨.data [97, 10, 98], true⟩, ⟨.fault .released, true⟩],
          sends := [some (.system .timedOut)],
          shuttingDown := fun _ => some (.system (.numbered 107)),
          closing := some (.system (.numbered 5)),
          interruptions := [[], [], [.request], [.shutdown false, .shutdown true]] }
      let ops : List Operation := [.join, .start, .close, .start, .join, .close]
      ∃ r', (operateAll (surroundings ⟨0⟩) ops).runFrom r = (.ok (), r') ∧
        Trace.GrowsBy (fun o => o.isThreadDeath = false) r.world.trace r'.world.trace ∧
        CleanedUp ops r'.connection := by
  have haccept : ∃ c, Connection.accept ⟨"192.0.2.1", 5000⟩ 6789 { terminator := [10] } none .idle
      [{ onMessage := .always [.close, .record],
         onClose := .always [.close, .fail (.raised "late")] }] ⟨0⟩ = .ok c := ⟨_, rfl⟩
  rcases haccept with ⟨c, accepted⟩
  refine ⟨c, accepted, ?_⟩
  have hshuttingDown : ∀ (n : Nat) (f : Failure),
      (fun _ : Nat => some (Failure.system (.numbered 107))) n = some f → ∃ e, f = .system e :=
    fun _ _ h => ⟨_, (Option.some.inj h).symm⟩
  have hclosing : ∀ f, some (Failure.system (.numbered 5)) = some f → ∃ e, f = .system e :=
    fun _ h => ⟨_, (Option.some.inj h).symm⟩
  exact operateAll_cleansUp accepted rfl ⟨hshuttingDown, hclosing⟩ ⟨0⟩ _

end Rehearsal

end MockHost
