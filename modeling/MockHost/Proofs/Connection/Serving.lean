import MockHost.Proofs.Connection.Cycle

/-!
# The Cycle of One Message

A connection that is served undisturbed counts a message, judges it and goes
through the cycle, and is then the same connection as before but for its calls and
what it counts of them. `Follows` says so. It holds after a cycle that was cut
short just as after one that was not, which is what lets the number of messages and
the records of dispatches be read off the history of any run.

The record of a message that was not expected is replaced when the next message
comes in, before the hooks are called. So the hooks never find the record of an
earlier message.

## Main definitions

* `Connection.Follows`: A connection that is the outcome of some calls.
* `Rehearsal.Proceeds`: A rehearsal that has gone on and done its deeds.
* `Rehearsal.Serving`: A connection that is served undisturbed.
* `Rehearsal.Completes`: What a cycle comes to.

## Theorems

* `Rehearsal.Proceeds.trans`: Going on twice.
* `Rehearsal.judge_runFrom`: The record of a message is that of this message alone.
* `Rehearsal.complete_completes`: A cycle does all that is to be done for its message.
-/

namespace MockHost

/-- What serving a peer undisturbed does not change in a connection. -/
def Connection.frame (c : Connection) : Connection :=
  { c with
    status := .opened
    pending := []
    received := 0
    mismatch := none
    dispatches := []
    lastMessage := none
    calls := [] }

/-- The connection has made some calls, and counted the messages that its hooks were called
    with and the records of its dispatches. -/
structure Connection.Follows (c c' : Connection) (calls : List Call) : Prop where
  frame : c'.frame = c.frame
  history : c'.calls = c.calls ++ calls
  received : c'.received = c.received + (calls.filterMap Call.message?).length
  dispatches : c'.dispatches = c.dispatches ++ calls.flatMap Call.records
  records : ∀ call ∈ calls, call.RecordsAll

theorem Connection.Follows.trans {c c' c'' : Connection} {calls calls' : List Call}
    (h : c.Follows c' calls) (h' : c'.Follows c'' calls') : c.Follows c'' (calls ++ calls') where
  frame := h'.frame.trans h.frame
  history := by rw [h'.history, h.history, List.append_assoc]
  received := by
    rw [h'.received, h.received, List.filterMap_append, List.length_append, Nat.add_assoc]
  dispatches := by rw [h'.dispatches, h.dispatches, List.flatMap_append, List.append_assoc]
  records := List.forall_mem_append.mpr ⟨h.records, h'.records⟩

/-- The connection when a message has been counted and judged. -/
def Connection.counting (c : Connection) (s : MessageStream) : Connection :=
  { c with
    lastMessage := some s
    received := c.received + 1
    mismatch := c.behavior.mismatch s.toBytes }

namespace Rehearsal

/-- The rehearsal has gone on: it has done its deeds up to a failure, and logged these warnings
    about discarded bytes. -/
structure Proceeds (found : List (List LogField)) (ds : List Deed) (r r' : Rehearsal)
    (end? : Option Failure) : Prop where
  discarding : Discarding found r r'
  calls : ∃ calls, r.connection.Follows r'.connection calls ∧ Performs ds calls end?

namespace Proceeds

variable {found : List (List LogField)} {ds ds' : List Deed} {r s u : Rehearsal}
  {end? : Option Failure}

theorem trans (h : Proceeds [] ds r s none) (h' : Proceeds found ds' s u end?) :
    Proceeds found (ds ++ ds') r u end? := by
  rcases h.calls with ⟨calls, hfollows, hperforms⟩
  rcases h'.calls with ⟨calls', hfollows', hperforms'⟩
  exact ⟨h.discarding.trans h'.discarding, calls ++ calls', hfollows.trans hfollows',
    hperforms.append hperforms'⟩

theorem extend {f : Failure} (h : Proceeds found ds r s (some f)) (more : List Deed) :
    Proceeds found (ds ++ more) r s (some f) := by
  rcases h.calls with ⟨calls, hfollows, hperforms⟩
  exact ⟨h.discarding, calls, hfollows, hperforms.extend more⟩

/-- Changes of the connection that no call makes. -/
theorem of_unchanged (h : Discarding found r s) (hframe : s.connection.frame = r.connection.frame)
    (hcalls : s.connection.calls = r.connection.calls)
    (hreceived : s.connection.received = r.connection.received)
    (hdispatches : s.connection.dispatches = r.connection.dispatches) :
    Proceeds found [] r s none :=
  ⟨h, [], ⟨hframe, by rw [hcalls, List.append_nil], hreceived,
    by rw [hdispatches, List.flatMap_nil, List.append_nil], fun _ hx => absurd hx List.not_mem_nil⟩,
    .done⟩

theorem of_unaltered {out : Except Failure Unit × Rehearsal} {sure : Prop}
    (h : Unaltered sure r out) : Proceeds [] [] r out.2 none :=
  of_unchanged h.discarding (by rw [h.connection]) (by rw [h.connection]) (by rw [h.connection])
    (by rw [h.connection])

theorem of_reading {fault : Option Failure} {end? : Option Failure} {ds : List Deed}
    (h : Performs ds [.receive fault] end?) (r : Rehearsal) :
    Proceeds [] ds r (r.recording (.receive fault)) end? :=
  ⟨Discarding.recording _ r, [.receive fault], ⟨rfl, rfl, rfl, (List.append_nil _).symm,
    List.forall_mem_singleton.mpr trivial⟩, h⟩

theorem frame (h : Proceeds found ds r s end?) : s.connection.frame = r.connection.frame := by
  rcases h.calls with ⟨_, hfollows, _⟩
  exact hfollows.frame

theorem behavior (h : Proceeds found ds r s end?) :
    s.connection.behavior = r.connection.behavior :=
  (congrArg Connection.behavior h.frame :)

theorem registry (h : Proceeds found ds r s end?) :
    s.connection.registry = r.connection.registry :=
  (congrArg Connection.registry h.frame :)

theorem sound (h : Proceeds found ds r s end?) (hsound : r.Sound) : s.Sound :=
  hsound.discarding h.discarding (congrArg Connection.hooks h.frame :)

end Proceeds

/-- A connection that is served while no other thread has a hand in it. -/
structure Serving (r : Rehearsal) : Prop where
  alone : r.interruptions = []
  wanted : r.connection.closeRequested = false
  hasSocket : r.connection.hasSocket
  harmless : ∀ h ∈ r.connection.hooks, h.Harmless
  terminated : r.connection.behavior.terminator ≠ []
  judges : ∀ s, (r.connection.expectation.bind fun e => e.check s) =
    r.connection.behavior.mismatch s.toBytes

theorem Serving.proceeds {found : List (List LogField)} {ds : List Deed} {r r' : Rehearsal}
    {end? : Option Failure} (h : r.Serving) (hp : Proceeds found ds r r' end?) : r'.Serving where
  alone := hp.discarding.interruptions.trans h.alone
  wanted := (congrArg Connection.closeRequested hp.frame :).trans h.wanted
  hasSocket := (congrArg Connection.hasSocket hp.frame :).trans h.hasSocket
  harmless := by
    have hhooks : r'.connection.hooks = r.connection.hooks := (congrArg Connection.hooks hp.frame :)
    rw [hhooks]
    exact h.harmless
  terminated := by
    rw [hp.behavior]
    exact h.terminated
  judges := by
    have hexpectation : r'.connection.expectation = r.connection.expectation :=
      (congrArg Connection.expectation hp.frame :)
    rw [hexpectation, hp.behavior]
    exact h.judges

section

variable {t : Seconds} {r : Rehearsal}

/-! ### The cycle of one message -/

/-- The record of a message is that of this message alone: an earlier one is forgotten. -/
theorem judge_runFrom (h : r.interruptions = []) {s : MessageStream}
    (hjudges : (r.connection.expectation.bind fun e => e.check s) =
      r.connection.behavior.mismatch s.toBytes) :
    ∃ r', (Connection.judge (surroundings t) s).runFrom r = (.ok (), r') ∧ Discarding [] r r' ∧
      r'.connection =
        { r.connection with mismatch := r.connection.behavior.mismatch s.toBytes } := by
  rw [Connection.judge, Act.runFrom_bind_ok (current_runFrom h), hjudges,
    Act.runFrom_bind_ok (change_runFrom _)]
  cases r.connection.behavior.mismatch s.toBytes with
  | none => exact ⟨_, rfl, Discarding.update _ r, rfl⟩
  | some m =>
      refine ⟨_, log_runFrom (r := update _ r) h _ _ _, ?_, rfl⟩
      exact (Discarding.update _ r).trans
        (Discarding.quiet (entry_warning?_eq_none (.inr (by decide))) _)

/-- What a cycle comes to: it does all that is to be done for its message, unless something
    fails, and closes the connection if it is to close after the message. -/
structure Completes (m : Bytes) (r : Rehearsal) (out : Except Failure Unit × Rehearsal) :
    Prop where
  proceeds : Proceeds [] (r.connection.behavior.cycle r.connection.registry
    (r.connection.received + 1) m) r out.2 (Act.failureOf out.1)
  isOpen : out.1 = .ok () → out.2.connection.isOpen =
    (r.connection.isOpen && !r.connection.behavior.closeAfterNext)
  ok : r.Sound → out.1 = .ok ()

/-- A connection that has counted a message and gone through its cycle. -/
theorem follows_counting {c : Connection} {calls : List Call} {ds : List Deed}
    {end? : Option Failure} (h : Tells ds end? 1 calls) (s : MessageStream)
    (status : ConnectionStatus) :
    c.Follows { (c.counting s).after calls with status := status } calls where
  frame := rfl
  history := rfl
  received := by rw [h.messages]; rfl
  dispatches := rfl
  records := h.records

theorem answer_forward_does (h : r.interruptions = []) (hsocket : r.connection.hasSocket)
    (hharmless : ∀ hook ∈ r.connection.hooks, hook.Harmless) (s : MessageStream)
    (hjudged : r.connection.mismatch = r.connection.behavior.mismatch s.toBytes) :
    Does
      (.hooks (.onMessage s) r.connection.received (r.connection.behavior.mismatch s.toBytes) ::
        (r.connection.behavior.answering r.connection.received s.toBytes ++
          Behavior.forwarding
            (r.connection.behavior.deliveriesFor r.connection.registry s.toBytes))) 1 r
      ((Connection.answer (surroundings t) s >>= fun _ =>
        Connection.forward (surroundings t) s).runFrom r) := by
  refine Does.bind (answer_does h hsocket hharmless s hjudged) fun r' hr' hafter => ?_
  rcases hafter with ⟨calls, hconnection⟩
  have hforward := forward_does (t := t) (hr'.interruptions.trans h) s
  rw [hconnection] at hforward
  exact hforward

/-- The message is counted and judged before anything can fail. -/
theorem counted_runFrom (h : r.interruptions = []) {s : MessageStream}
    (hjudges : (r.connection.expectation.bind fun e => e.check s) =
      r.connection.behavior.mismatch s.toBytes) (a : Act Rehearsal Unit) :
    ∃ r', Discarding [] r r' ∧ r'.connection = r.connection.counting s ∧
      (do
        Connection.change (surroundings t) fun c =>
          { c with lastMessage := some s, received := c.received + 1 }
        Connection.judge (surroundings t) s
        a : Act Rehearsal Unit).runFrom r = a.runFrom r' := by
  -- Counting the message leaves everything that judging relies on as it is.
  rcases judge_runFrom (t := t) (r := update (fun c =>
    { c with lastMessage := some s, received := c.received + 1 }) r) h hjudges with
    ⟨r', hjudge, hdiscarding, hconnection⟩
  refine ⟨r', (Discarding.update _ r).trans hdiscarding, hconnection, ?_⟩
  rw [Act.runFrom_bind_ok (change_runFrom _), Act.runFrom_bind_ok hjudge]

theorem complete_runFrom (h : r.Serving) (s : MessageStream) :
    ∃ r', Discarding [] r r' ∧ r'.connection = r.connection.counting s ∧
      (Connection.complete (surroundings t) s).runFrom r =
        ((Connection.answer (surroundings t) s >>= fun _ =>
          Connection.forward (surroundings t) s) >>= fun _ => do
            if (← Connection.current (surroundings t)).behavior.closeAfterNext then
              Connection.log (surroundings t) .debug "connection_close_after_response" []
              Connection.change (surroundings t) fun c =>
                { c with status := .closed }).runFrom r' := by
  rw [bind_assoc]
  exact counted_runFrom h.alone (h.judges s) _

theorem complete_completes (h : r.Serving) (m : Bytes) :
    Completes m r ((Connection.complete (surroundings t)
      (.holding r.connection.behavior.terminator.length m)).runFrom r) := by
  generalize hs : MessageStream.holding r.connection.behavior.terminator.length m = s
  have hm : s.toBytes = m := by rw [← hs, MessageStream.toBytes_holding]
  rcases complete_runFrom (t := t) h s with ⟨r₂, hdiscarding, hconnection, hcomplete⟩
  have halone : r₂.interruptions = [] := hdiscarding.interruptions.trans h.alone
  have hdoes := answer_forward_does (t := t) halone (by rw [hconnection]; exact h.hasSocket)
    (by rw [hconnection]; exact h.harmless) s (by rw [hconnection]; rfl)
  rw [hcomplete, Act.runFrom_bind]
  rcases hrun : (Connection.answer (surroundings t) s >>= fun _ =>
    Connection.forward (surroundings t) s).runFrom r₂ with ⟨res, r₃⟩
  rw [hrun] at hdoes
  rcases hdoes.calls with ⟨calls, hcalls, htells⟩
  rw [hconnection] at htells hcalls
  have hcycle : Tells (r.connection.behavior.cycle r.connection.registry
      (r.connection.received + 1) m) (Act.failureOf res) 1 calls := by
    rw [Behavior.cycle, hs, ← hm]
    exact htells
  have hsound : r.Sound → res = .ok () := fun hsound =>
    hdoes.ok (hsound.discarding hdiscarding (by rw [hconnection]; rfl))
  -- Whatever the status comes to be, the connection is the outcome of these calls.
  have hproceeds : ∀ r' status, Discarding [] r₃ r' →
      r'.connection = { r₃.connection with status := status } →
      Proceeds [] (r.connection.behavior.cycle r.connection.registry
        (r.connection.received + 1) m) r r' (Act.failureOf res) := by
    intro r' status hr' hstatus
    refine ⟨hdiscarding.trans (hdoes.discarding.trans hr'), calls, ?_, hcycle.performs⟩
    rw [hstatus, hcalls]
    exact follows_counting hcycle s status
  have hstatus : r₃.connection.isOpen = r.connection.isOpen := by
    rw [hcalls]
    rfl
  cases res with
  | error f =>
      -- The connection is not closed here: that is left to the end of the thread.
      exact ⟨hproceeds r₃ _ (Discarding.refl r₃) rfl, fun hok => by injection hok, hsound⟩
  | ok _ =>
      have hbehavior : r₃.connection.behavior = r.connection.behavior := by
        rw [hcalls]
        rfl
      have halone₃ : r₃.interruptions = [] := hdoes.discarding.interruptions.trans halone
      dsimp only
      rw [Act.runFrom_bind_ok (current_runFrom halone₃), hbehavior]
      by_cases hclose : r.connection.behavior.closeAfterNext
      · rw [if_pos hclose, Act.runFrom_bind_ok (log_runFrom halone₃ _ _ _), change_runFrom]
        have hlogged : Discarding [] r₃
            (r₃.noting (r₃.connection.entry .debug "connection_close_after_response" [])) :=
          Discarding.quiet (entry_warning?_eq_none (.inl (by decide))) r₃
        have hclosed := Discarding.update (fun c => { c with status := .closed })
        refine ⟨hproceeds _ .closed (hlogged.trans (hclosed _)) rfl, fun _ => ?_, fun _ => rfl⟩
        rw [hclose, Bool.not_true, Bool.and_false]
        rfl
      · rw [if_neg hclose]
        refine ⟨hproceeds r₃ _ (Discarding.refl r₃) rfl, fun _ => ?_, fun _ => rfl⟩
        rw [Bool.eq_false_iff.mpr hclose, Bool.not_false, Bool.and_true]
        exact hstatus

end

end Rehearsal

end MockHost
