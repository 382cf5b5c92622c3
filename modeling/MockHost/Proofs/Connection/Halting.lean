import MockHost.Proofs.Connection.Course
import MockHost.Proofs.Connection.Run

/-!
# After the End Has Been Asked For

Once somebody has closed a connection nothing new is begun. The history shows the moment:
the first request shuts the socket down. What still follows is the rest of the message
that was being attended to, if there was one, and then the end of the thread. No read is
among it and no further message, even where whole messages had been received and were
waiting to be worked off.

This is read off the course of the run. A shutdown can stand in two places of it, in the
cycle of a message and behind a read, and both are last in the course: after a cycle with
a shutdown in it reading does not go on.

## Main definitions

* `Concludes`: What the end of the thread leaves in the history.
* `Runs`: What a whole run leaves in it.
* `Ceases`: What may follow a shutdown.

## Theorems

* `Rehearsal.conclude_concludes`: The end of the thread, under any hooks.
* `Rehearsal.run_runs`: A run is a course and its end.
* `Course.ceases`: Nothing is begun after a shutdown.
* `Rehearsal.run_halts`: The same for a whole run, which comes to its end.
-/

namespace MockHost

/-- What is to be done remains undone after a failure. -/
theorem Attempts.cut {ds : List Deed} {calls : List Call} (h : Attempts [] calls none)
    (f : Failure) : Attempts ds calls (some f) where
  started := by
    rw [h.done rfl]
    exact List.nil_prefix
  done hend := by injection hend
  unread := h.unread
  records := h.records

/-- The end of the thread that serves a peer. The hooks are called for the last time at most, and
    nothing is read. -/
structure Concludes (c c' : Connection) (calls : List Call) : Prop where
  passes : c.Passes c' calls
  received : c'.received = c.received
  attempts : ∃ end?, Attempts [.hooks .onClose c'.received c'.mismatch] calls end?
  status : c'.status = .closed

namespace Rehearsal

section

variable {t : Seconds} {r : Rehearsal}

/-- Releasing the socket closes it, if it is still there. -/
theorem releaseSocket_passes (h : r.interruptions = []) (hclosed : r.connection.status = .closed) :
    ∃ res r' calls, (Connection.releaseSocket (surroundings t)).runFrom r = (res, r') ∧
      Abides r r' ∧ r.connection.Passes r'.connection calls ∧ (∀ call ∈ calls, call.isEnding) ∧
      r'.connection.status = .closed := by
  by_cases hsocket : r.connection.hasSocket
  · rcases releaseSocket_runFrom (t := t) h hsocket with
      ⟨res, r', hrun, hdiscarding, hconnection⟩
    refine ⟨res, r', [.close], hrun, hdiscarding.toAbides, ?_,
      List.forall_mem_singleton.mpr rfl, ?_⟩
    · rw [hconnection]
      exact ⟨rfl, rfl, rfl, rfl⟩
    · rw [hconnection]
      exact hclosed
  · refine ⟨.ok (), r, [], ?_, abides_path.refl r,
      Connection.Passes.of_unchanged rfl rfl rfl rfl, fun _ hx => absurd hx List.not_mem_nil,
      hclosed⟩
    rw [Connection.releaseSocket, Act.runFrom_bind_ok (current_runFrom h), if_neg hsocket]
    rfl

/-- The last call of the hooks, whatever they do and whether they fail. -/
theorem notifyClosed_attempts (h : r.interruptions = []) :
    ∃ r' calls end?, (Connection.notifyClosed (surroundings t)).runFrom r = (.ok (), r') ∧
      r.connection.Takes r'.connection calls ∧
      Attempts [.hooks .onClose r.connection.received r.connection.mismatch] calls end? := by
  have hforget : Act.Moves Asks (surroundings t).forget := Act.Moves.pure asks_path _
  have hhooks : Act.Moves Asks (do
      Act.andFinally (Connection.callEveryHook (surroundings t) .onClose
        (← Connection.current (surroundings t)).hooks) (surroundings t).forget) := by
    intro r' h'
    rw [Act.runFrom_bind_ok (current_runFrom h')]
    exact Act.Moves.andFinally asks_path ((hooking_asks t).callEveryHook _ _) hforget r' h'
  rcases announced_attempts (t := t) h .onClose hhooks with
    ⟨res, r₁, calls, hrun, habides, htakes, hattempts, -, -⟩
  have hone : Attempts [.hooks .onClose r.connection.received r.connection.mismatch]
      [.hooks .onClose r.connection.received r.connection.mismatch] none := Attempts.one rfl trivial
  have htaken : r.connection.Takes r₁.connection
      (.hooks .onClose r.connection.received r.connection.mismatch :: calls) := by
    rw [recording_connection rfl] at htakes
    exact (Connection.Takes.one _ rfl).trans htakes
  have hall := hone.append hattempts
  rw [Connection.notifyClosed, Act.runFrom_bind_ok (Act.runFrom_attempt _ _),
    Connection.callOnClose, hrun]
  cases res with
  | ok _ => exact ⟨r₁, _, _, rfl, htaken, hall⟩
  | error f =>
      exact ⟨_, _, _, log_runFrom (habides.interruptions.trans h) _ _ _, htaken, hall⟩

theorem conclude_concludes (h : r.interruptions = []) (res : Except Failure Unit) :
    ∃ calls, Concludes r.connection
      ((Connection.conclude (surroundings t) res).runFrom r).2.connection calls := by
  have hreport := reportEnd_unaltered (t := t) h res
  rcases hrun : (Connection.reportEnd (surroundings t) res).runFrom r with ⟨res₁, r₁⟩
  rw [hrun] at hreport
  have hok : res₁ = .ok () := hreport.ok trivial
  subst hok
  generalize hr₂ : update (fun c => { c with status := .closed }) r₁ = r₂
  have hconnection : r₂.connection = { r.connection with status := .closed } := by
    rw [← hr₂, ← hreport.connection]
    rfl
  have halone : r₂.interruptions = [] := by
    rw [← hr₂]
    exact hreport.discarding.interruptions.trans h
  have hclosed : r.connection.Passes r₂.connection [] := by
    rw [hconnection]
    exact Connection.Passes.of_unchanged rfl rfl rfl rfl
  rcases releaseSocket_passes (t := t) halone (by rw [hconnection]) with
    ⟨res₃, r₃, calls, hrelease, habides, hpasses, hending, hstatus⟩
  have hreleased := hclosed.trans hpasses
  have hreceived : r₃.connection.received = r.connection.received := by
    rw [hreleased.received, List.nil_append, (Attempts.of_ending hending).messages rfl]
    rfl
  rw [Connection.conclude, Act.runFrom_bind_ok hrun, Act.runFrom_bind_ok (change_runFrom _), hr₂,
    Act.runFrom_bind, hrelease]
  cases res₃ with
  | error f =>
      exact ⟨calls, hreleased, hreceived, ⟨some f, (Attempts.of_ending hending).cut f⟩, hstatus⟩
  | ok _ =>
      rcases notifyClosed_attempts (t := t) (habides.interruptions.trans halone) with
        ⟨r₄, calls', end?, hnotify, htakes, hattempts⟩
      have hpasses' := Connection.Passes.of_takes htakes (hattempts.messages rfl)
      rw [← show r₄.connection.received = r₃.connection.received from
          (congrArg Connection.received htakes.eq :),
        ← show r₄.connection.mismatch = r₃.connection.mismatch from
          (congrArg Connection.mismatch htakes.eq :)] at hattempts
      dsimp only
      rw [hnotify]
      refine ⟨calls ++ calls', hreleased.trans hpasses', ?_,
        ⟨end?, (Attempts.of_ending hending).append hattempts⟩, ?_⟩
      · exact (congrArg Connection.received htakes.eq :).trans hreceived
      generalize r₄.connection = c at htakes ⊢
      cases htakes with
      | calm _ => exact hstatus
      | asked k _ _ => rfl

end

/-- What a run comes to, under any hooks: the connection reads its peer, and then the thread comes
    to its end. -/
structure Runs (r : Rehearsal) (ended : Connection) (messages ms : List Bytes)
    (calls last : List Call) (end? : Option Failure) : Prop where
  course : Course r.connection.behavior r.connection.registry r.connection.received ms calls
    (.over end?)
  history : ended.calls = r.connection.calls ++ (calls ++ last)
  received : ended.received = r.connection.received + ms.length
  dispatches : ended.dispatches = r.connection.dispatches ++ (calls ++ last).flatMap Call.records
  last : ∃ end?, Attempts [.hooks .onClose ended.received ended.mismatch] last end?
  status : ended.status = .closed
  started : ms <+: messages
  finished : ms = messages ∨ ms ≠ []
  faultless : Script.Faultless r.unread → r.Assured → end? = none

/-- The hooks are called with the messages of the course. -/
theorem Runs.messages {r : Rehearsal} {ended : Connection} {messages ms : List Bytes}
    {calls last : List Call} {end? : Option Failure}
    (h : Runs r ended messages ms calls last end?) :
    (calls ++ last).filterMap Call.message? =
      ms.map (MessageStream.holding r.connection.behavior.terminator.length) := by
  rcases h.last with ⟨_, hlast⟩
  rw [List.filterMap_append, h.course.messages, hlast.messages rfl, List.append_nil]

section

variable {t : Seconds} {r : Rehearsal}

/-- While the connection reads, the history tells whether its end has been asked for. -/
theorem run_runs (h : r.Working) (hpending : r.connection.pending = []) :
    ∃ ms calls last end?,
      Runs r ((run (surroundings t)).runFrom r).2.connection
        (Framing.split r.connection.behavior.terminator [] (Script.arriving r.unread)).1
        ms calls last end? ∧
      ((read (surroundings t) false).runFrom r).2.connection.calls = r.connection.calls ++ calls ∧
      (((read (surroundings t) false).runFrom r).2.connection.closeRequested ↔
        Call.shutdown ∈ calls) := by
  have hreads := read_reads (t := t) h hpending
  rw [run, Act.runFrom_bind_ok (Act.runFrom_attempt _ _)]
  rcases hread : (read (surroundings t) false).runFrom r with ⟨res, r₁⟩
  rw [hread] at hreads
  rcases hreads.course with ⟨ms, calls, hcourse, hpasses, hrequested, hstarted, hfinished⟩
  rcases conclude_concludes (t := t) (hreads.abides.interruptions.trans h.alone) res with
    ⟨last, hconcludes⟩
  have hwhole := hpasses.trans hconcludes.passes
  refine ⟨ms, calls, last, Act.failureOf res, ⟨hcourse, hwhole.history, ?_, hwhole.dispatches,
    hconcludes.attempts, hconcludes.status, hstarted, hfinished.imp_right And.left,
    fun hfaultless hassured => ?_⟩, hpasses.history, hrequested⟩
  · rw [hconcludes.received, hpasses.received, hcourse.messages, List.length_map]
  · cases hend : Act.failureOf res with
    | none => rfl
    | some f => exact absurd (congrArg Progress.over hend) ((hreads.assured hfaultless hassured).2 f)

end

end Rehearsal

/-! ### After a shutdown -/

/-- Calls without a shutdown come before it. -/
theorem Call.append_of_calm {calm rest before after : List Call} (h : Call.shutdown ∉ calm)
    (heq : calm ++ rest = before ++ .shutdown :: after) :
    ∃ earlier, before = calm ++ earlier ∧ rest = earlier ++ .shutdown :: after := by
  rcases List.append_eq_append_iff.mp heq with ⟨earlier, hbefore, hrest⟩ | ⟨more, hcalm, hafter⟩
  · exact ⟨earlier, hbefore, hrest⟩
  · cases more with
    | nil => exact ⟨[], by rw [hcalm, List.append_nil, List.append_nil], hafter.symm⟩
    | cons call more =>
        injection hafter with hcall
        refine absurd ?_ h
        rw [hcalm, ← hcall]
        exact List.mem_append_right _ List.mem_cons_self

/-- What may follow a shutdown: the rest of what is to be done for the message that the hooks were
    last called with, and what belongs to the end. Nothing is read, and there is no further
    message. -/
structure Ceases (b : Behavior) (registry : Option Registry) (n : Nat) (ending : List Deed)
    (before after : List Call) : Prop where
  unread : ∀ call ∈ after, call.isRead = false
  uncounted : after.filterMap Call.message? = []
  deeds : ∃ rest last, after.filterMap Call.deed? = rest ++ last ∧ last <:+: ending ∧
    (rest = [] ∨ ∃ s, (before.filterMap Call.message?).getLast? = some s ∧
      rest <:+: b.answering (n + (before.filterMap Call.message?).length) s.toBytes ++
        Behavior.forwarding (b.deliveriesFor registry s.toBytes))

namespace Ceases

variable {b : Behavior} {registry : Option Registry} {n : Nat} {ending : List Deed}
  {before after calls : List Call}

/-- Calls that only do what belongs to the end. -/
theorem of_attempts {end? : Option Failure} (h : Attempts ending calls end?)
    (hending : ending.filterMap Deed.message? = []) (hafter : after <:+ calls) :
    Ceases b registry n ending before after where
  unread call hcall := h.unread call (hafter.mem hcall)
  uncounted := by
    rcases hafter with ⟨earlier, rfl⟩
    have hnone := h.messages hending
    rw [List.filterMap_append] at hnone
    exact (List.append_eq_nil_iff.mp hnone).2
  deeds :=
    ⟨[], after.filterMap Call.deed?, rfl,
      (hafter.filterMap Call.deed?).isInfix.trans h.started.isInfix, .inl rfl⟩

/-- The end comes after the rest of the message. -/
theorem append {last : List Call} {end? : Option Failure} (h : Ceases b registry n [] before after)
    (hlast : Attempts ending last end?) (hending : ending.filterMap Deed.message? = []) :
    Ceases b registry n ending before (after ++ last) where
  unread := List.forall_mem_append.mpr ⟨h.unread, hlast.unread⟩
  uncounted := by rw [List.filterMap_append, h.uncounted, hlast.messages hending, List.append_nil]
  deeds := by
    rcases h.deeds with ⟨rest, none', hafter, hnone, hrest⟩
    rw [List.infix_nil.mp hnone, List.append_nil] at hafter
    exact ⟨rest, last.filterMap Call.deed?, by rw [List.filterMap_append, hafter],
      hlast.started.isInfix, hrest⟩

/-- The rest of the cycle of a message is all that follows a shutdown in it. -/
theorem of_tended {m : Bytes} {cycle : List Call} {end? : Option Failure}
    (h : Tended b registry (n + 1) m cycle end?) (hcycle : cycle = before ++ .shutdown :: after) :
    Ceases b registry n [] before after := by
  rcases h with ⟨calls, hcalls, hattempts⟩
  -- The hooks have been called with the message before anything else.
  have hcalled : Call.shutdown ∉
      [Call.hooks (.onMessage (.holding b.terminator.length m)) (n + 1) (b.mismatch m)] :=
    fun hmem => absurd (List.mem_singleton.mp hmem) Call.noConfusion
  rcases Call.append_of_calm hcalled (hcalls.symm.trans hcycle) with ⟨earlier, rfl, rfl⟩
  have hmessages := hattempts.messages (b.messages_attending registry (n + 1) m)
  rw [List.filterMap_append, List.append_eq_nil_iff] at hmessages
  have hbefore : ([Call.hooks (.onMessage (.holding b.terminator.length m)) (n + 1) (b.mismatch m)]
      ++ earlier).filterMap Call.message? = [.holding b.terminator.length m] :=
    congrArg (_ :: ·) hmessages.1
  refine ⟨fun call hcall => hattempts.unread call ?_, hmessages.2,
    after.filterMap Call.deed?, [], (List.append_nil _).symm, List.infix_rfl,
    .inr ⟨.holding b.terminator.length m, ?_⟩⟩
  · exact List.mem_append_right _ (List.mem_cons_of_mem _ hcall)
  · rw [hbefore, MessageStream.toBytes_holding]
    refine ⟨rfl, List.IsInfix.trans ?_ hattempts.started.isInfix⟩
    rw [List.filterMap_append]
    exact (List.suffix_append _ _).isInfix

/-- A read that came before makes no difference. -/
theorem receive (h : Ceases b registry n ending before after) (fault : Option Failure) :
    Ceases b registry n ending (.receive fault :: before) after :=
  ⟨h.unread, h.uncounted, h.deeds⟩

/-- Nor does a message that was attended to before. -/
theorem message {m : Bytes} {cycle : List Call} {end? : Option Failure}
    (h : Ceases b registry (n + 1) ending before after)
    (htended : Tended b registry (n + 1) m cycle end?) :
    Ceases b registry n ending (cycle ++ before) after := by
  refine ⟨h.unread, h.uncounted, ?_⟩
  rcases h.deeds with ⟨rest, last, hafter, hlast, hrest⟩
  refine ⟨rest, last, hafter, hlast, hrest.imp_right fun ⟨s, hs, hinfix⟩ => ⟨s, ?_, ?_⟩⟩
  · rw [List.filterMap_append, List.getLast?_append, hs]
    rfl
  · rw [List.filterMap_append, htended.messages, List.length_append, ← Nat.add_assoc]
    exact hinfix

end Ceases

/-- Nothing is begun after a shutdown. -/
theorem Course.ceases {b : Behavior} {registry : Option Registry} {n : Nat} {ms : List Bytes}
    {calls : List Call} {p : Progress} (h : Course b registry n ms calls p)
    {before after : List Call} (hcalls : calls = before ++ .shutdown :: after) :
    Ceases b registry n [] before after := by
  have hread : ∀ fault, Call.shutdown ∉ [Call.receive fault] := Rehearsal.shutdown_notMem_receive
  induction h generalizing before with
  | idle => exact absurd hcalls (by simp)
  | read fault _ ih =>
      rcases Call.append_of_calm (hread fault) hcalls with ⟨earlier, rfl, hrest⟩
      exact (ih hrest).receive fault
  | message tended calm _ ih =>
      rcases Call.append_of_calm calm hcalls with ⟨earlier, rfl, hrest⟩
      exact (ih hrest).message tended
  | finished => exact absurd hcalls (by simp)
  | last tended => exact Ceases.of_tended tended hcalls
  | readFailed f =>
      exact absurd (hcalls ▸ List.mem_append_right _ List.mem_cons_self) (hread (some f))
  | closing ending =>
      rcases Call.append_of_calm (hread _) hcalls with ⟨earlier, rfl, hrest⟩
      refine Ceases.of_attempts (Attempts.of_ending ending) rfl ?_
      rw [hrest]
      exact (List.suffix_cons _ _).trans (List.suffix_append _ _)

namespace Rehearsal

/-- Whatever follows a shutdown in a run is not begun after it. -/
theorem Runs.ceases {r : Rehearsal} {ended : Connection} {messages ms : List Bytes}
    {calls last : List Call} {end? : Option Failure}
    (h : Runs r ended messages ms calls last end?) {before after : List Call}
    (hcalls : calls ++ last = before ++ .shutdown :: after) :
    Ceases r.connection.behavior r.connection.registry r.connection.received
      [.hooks .onClose ended.received ended.mismatch] before after := by
  rcases h.last with ⟨_, hlast⟩
  rcases List.append_eq_append_iff.mp hcalls with ⟨earlier, -, hafter⟩ | ⟨more, hcourse, hafter⟩
  · refine Ceases.of_attempts hlast rfl ?_
    rw [hafter]
    exact (List.suffix_cons _ _).trans (List.suffix_append _ _)
  · cases more with
    | nil =>
        refine Ceases.of_attempts hlast rfl ?_
        rw [← show _ = last from hafter]
        exact List.suffix_cons _ _
    | cons call more =>
        injection hafter with hcall hafter
        rw [← hcall] at hcourse
        rw [hafter]
        exact (h.course.ceases hcourse).append hlast rfl

section

variable {peer : Peer} {serverPort : Port} {b : Behavior} {registry : Option Registry}
  {dispatcher : Dispatcher} {hooks : List Hook} {readTimeout : Seconds} {c : Connection}

/-- A connection that has been accepted works, whether a thread serves it or not. -/
theorem accept_working
    (accepted : Connection.accept peer serverPort b registry dispatcher hooks readTimeout = .ok c)
    (terminated : b.terminator ≠ []) (worker : Worker) (s : Script) (world : ScriptedWorld)
    (size : Nat) : (Rehearsal.of (c.withWorker worker) s world size).Working := by
  have hjudges := Connection.accept_mismatch accepted
  rcases Connection.accept_eq accepted with ⟨expectation, rfl⟩
  exact ⟨rfl, rfl, rfl, rfl, terminated, hjudges⟩

/-- Nothing new is begun once somebody has closed a connection that is being served, be it a hook
    that is called with a message or with an answer, or another thread while a read waits. The
    close shows as a shutdown in the history of the run. No read comes after it, and no message is
    counted or given to the hooks after it, not even one that had been received. What is still
    done is what remains to be done for the message that was being attended to, and the last call
    of the hooks. The run comes to its end, with the socket released. -/
theorem run_halts
    (accepted : Connection.accept peer serverPort b registry dispatcher hooks readTimeout = .ok c)
    (terminated : b.terminator ≠ []) (worker : Worker) (s : Script) (world : ScriptedWorld)
    (size : Nat) (t : Seconds) :
    let start := Rehearsal.of (c.withWorker worker) s world size
    let reading := ((read (surroundings t) false).runFrom start).2.connection
    let out := (run (surroundings t)).runFrom start
    let ended := out.2.connection
    (reading.closeRequested ↔ Call.shutdown ∈ reading.calls) ∧ reading.calls <+: ended.calls ∧
      (∀ before after, ended.calls = before ++ .shutdown :: after →
        ended.received = (before.filterMap Call.message?).length ∧
        Ceases b registry 0 [.hooks .onClose ended.received ended.mismatch] before after) ∧
      ended.status = .closed ∧
      (start.SystemErrorsAtClosing → out.1 = .ok () ∧ ended.hasSocket = false) := by
  intro start reading out ended
  have hworking : start.Working := accept_working accepted terminated worker s world size
  rcases Connection.accept_eq accepted with ⟨expectation, hc⟩
  have hbehavior : b = c.behavior := by rw [hc]
  have hregistry : registry = c.registry := by rw [hc]
  have hfresh : c.calls = [] ∧ c.received = 0 ∧ c.pending = [] := by
    rw [hc]
    exact ⟨rfl, rfl, rfl⟩
  rcases run_runs (t := t) hworking hfresh.2.2 with
    ⟨ms, calls, last, end?, hruns, hreading, hrequested⟩
  have hreading' : reading.calls = calls := hreading.trans (by
    change c.calls ++ calls = calls
    rw [hfresh.1, List.nil_append])
  have hended : ended.calls = calls ++ last := hruns.history.trans (by
    change c.calls ++ (calls ++ last) = calls ++ last
    rw [hfresh.1, List.nil_append])
  refine ⟨?_, ?_, fun before after hcalls => ⟨?_, ?_⟩, hruns.status, fun hsystem => ?_⟩
  · rw [hreading']
    exact hrequested
  · rw [hreading', hended]
    exact List.prefix_append calls last
  · -- The messages that are counted are all in the history, and none of them comes later.
    have hceases := hruns.ceases (hended.symm.trans hcalls)
    have hmessages := hruns.messages
    rw [← hended, hcalls, List.filterMap_append, List.filterMap_cons_none rfl, hceases.uncounted,
      List.append_nil] at hmessages
    rw [hmessages, List.length_map]
    refine hruns.received.trans ?_
    change c.received + ms.length = ms.length
    rw [hfresh.2.1, Nat.zero_add]
  · have hceases := hruns.ceases (hended.symm.trans hcalls)
    rw [hbehavior, hregistry, ← hfresh.2.1]
    exact hceases
  · rcases run_leaves t hsystem with ⟨r', hrun, hleaves⟩
    have hout : out = (.ok (), r') := hrun
    rcases hleaves with ⟨r₁, n, mismatch, -, hsocket, -, hidle⟩
    refine ⟨by rw [hout], ?_⟩
    change out.2.connection.hasSocket = false
    rw [hout]
    exact hidle.released hsocket

/-- One read gives two messages, and a hook closes the connection when it is called with the
    first of them. -/
theorem run_halts_buffered :
    ∃ c, Connection.accept ⟨"192.0.2.1", 5000⟩ 6789 { terminator := [10] } none .idle
        [.closing] ⟨0⟩ = .ok c ∧
      let start := Rehearsal.of (c.withWorker .running)
        { received := [.data [97, 10, 98, 10], .data [99, 10]] } ⟨[], #[], #[]⟩ 8
      let reading := ((read (surroundings ⟨0⟩) false).runFrom start).2.connection
      let out := (run (surroundings ⟨0⟩)).runFrom start
      let ended := out.2.connection
      ended.framed = [[97, 10]] ∧ (reading.closeRequested ↔ Call.shutdown ∈ reading.calls) ∧
        reading.calls <+: ended.calls ∧
        (∀ before after, ended.calls = before ++ .shutdown :: after →
          ended.received = (before.filterMap Call.message?).length ∧
          Ceases { terminator := [10] } none 0 [.hooks .onClose ended.received ended.mismatch]
            before after) ∧
        ended.status = .closed ∧
        (start.SystemErrorsAtClosing → out.1 = .ok () ∧ ended.hasSocket = false) :=
  ⟨_, rfl, by decide +kernel, run_halts rfl (by decide) .running _ _ 8 ⟨0⟩⟩

end

end Rehearsal

end MockHost
