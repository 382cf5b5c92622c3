import MockHost.Proofs.Connection.Undisturbed

/-!
# The Message Cycle Does Its Deeds

Each step of the cycle of a message is one deed of it: the hooks are called, the
answer is sent, the hooks are called again, the deliveries are made. A step that
fails ends the cycle, and so do hooks that fail, so that what has been done is
always a beginning of what was to be done. Since each step is shown to do its
deed from any state that the steps before it may leave, the cycle as a whole is
put together with `Does.bind`.

The number of messages is raised before the hooks are called for the first time,
and nothing can fail in between. This is why the number of messages is the number
of these calls at the end of every cycle, and not only of those that succeed.

## Main definitions

* `Tells`: Calls that do deeds and call the hooks with a number of messages.
* `Rehearsal.Does`: Steps that do their deeds, up to a failure.

## Theorems

* `Rehearsal.Does.bind`: Steps do their deeds one after another.
* `Rehearsal.announced_does`: The hooks are called once for a purpose.
* `Rehearsal.sendToPeer_does`: A send either succeeds or fails.
* `Rehearsal.answer_does`, `Rehearsal.forward_does`: The parts of a cycle.
-/

namespace MockHost

/-- The calls do what is to be done, up to a failure, and call the hooks with as many
    messages as `heard` says. -/
structure Tells (ds : List Deed) (end? : Option Failure) (heard : Nat) (calls : List Call) :
    Prop where
  performs : Performs ds calls end?
  messages : (calls.filterMap Call.message?).length = heard
  records : ∀ call ∈ calls, call.RecordsAll

theorem Tells.append {ds ds' : List Deed} {end? : Option Failure} {n n' : Nat}
    {calls calls' : List Call} (h : Tells ds none n calls) (h' : Tells ds' end? n' calls') :
    Tells (ds ++ ds') end? (n + n') (calls ++ calls') := by
  refine ⟨h.performs.append h'.performs, ?_, List.forall_mem_append.mpr ⟨h.records, h'.records⟩⟩
  rw [List.filterMap_append, List.length_append, h.messages, h'.messages]

theorem Tells.extend {ds : List Deed} {f : Failure} {n : Nat} {calls : List Call}
    (h : Tells ds (some f) n calls) (more : List Deed) : Tells (ds ++ more) (some f) n calls :=
  ⟨h.performs.extend more, h.messages, h.records⟩

theorem Tells.nil : Tells [] none 0 [] :=
  ⟨.done, rfl, fun _ h => absurd h List.not_mem_nil⟩

/-- A message is expected exactly if there is no record of it. -/
theorem Behavior.isNone_mismatch (b : Behavior) (m : Bytes) :
    (b.mismatch m).isNone = b.welcomes m := by
  rw [Behavior.mismatch]
  by_cases hwelcome : b.welcomes m
  · rw [if_pos hwelcome, hwelcome]
    rfl
  · rw [if_neg hwelcome, Bool.eq_false_iff.mpr hwelcome, Option.isNone_map]
    cases hexpected : b.expected with
    | none =>
        -- Without a pattern every message is expected.
        exact absurd (by rw [Behavior.welcomes, hexpected]) hwelcome
    | some source => rfl

theorem Connection.responseTo_eq {c : Connection} {m : Bytes}
    (h : c.mismatch = c.behavior.mismatch m) :
    Connection.responseTo c = c.behavior.replyTo m := by
  rw [Connection.responseTo, Behavior.replyTo, h, Behavior.isNone_mismatch, Bool.and_comm]

theorem Connection.deliveriesFor_eq (c : Connection) (s : MessageStream) :
    Connection.deliveriesFor c s =
      (s.body c.behavior.terminator, c.behavior.deliveriesFor c.registry s.toBytes) := by
  simp only [Connection.deliveriesFor, Behavior.deliveriesFor, MessageStream.body]
  cases c.registry with
  | none => rfl
  | some registry =>
      dsimp only
      split
      · rfl
      · rfl

namespace Rehearsal

/-- What a step does are these deeds, up to a failure. It leaves nothing in the connection
    but its calls, and where nothing is going to fail it does not fail either. -/
structure Does (ds : List Deed) (heard : Nat) (r : Rehearsal)
    (out : Except Failure Unit × Rehearsal) : Prop where
  discarding : Discarding [] r out.2
  calls : ∃ calls, out.2.connection = r.connection.after calls ∧
    Tells ds (Act.failureOf out.1) heard calls
  ok : r.Sound → out.1 = .ok ()

section

variable {t : Seconds} {r : Rehearsal}

theorem Unaltered.does {out : Except Failure Unit × Rehearsal} (h : Unaltered True r out) :
    Does [] 0 r out :=
  ⟨h.discarding,
    ⟨[], by rw [h.connection, Connection.after_nil], by rw [h.ok trivial]; exact Tells.nil⟩,
    fun _ => h.ok trivial⟩

/-- Steps do their deeds one after another. The second one is not taken if the first one
    fails, so it must not be the one that counts a message. -/
theorem Does.bind {ds ds' : List Deed} {heard : Nat} {a b : Act Rehearsal Unit}
    (ha : Does ds heard r (a.runFrom r))
    (hb : ∀ r', Discarding [] r r' → (∃ calls, r'.connection = r.connection.after calls) →
      Does ds' 0 r' (b.runFrom r')) :
    Does (ds ++ ds') heard r ((a >>= fun _ => b).runFrom r) := by
  rw [Act.runFrom_bind]
  rcases hrun : a.runFrom r with ⟨f | _, r'⟩
  · -- The second step is not taken, so its deeds are those that remain undone.
    rw [hrun] at ha
    rcases ha.calls with ⟨calls, hconnection, htells⟩
    exact ⟨ha.discarding, ⟨calls, hconnection, htells.extend ds'⟩, fun h => by injection ha.ok h⟩
  · rw [hrun] at ha
    rcases ha.calls with ⟨calls, hconnection, htells⟩
    have hrest := hb r' ha.discarding ⟨calls, hconnection⟩
    rcases hrest.calls with ⟨calls', hconnection', htells'⟩
    refine ⟨ha.discarding.trans hrest.discarding, ⟨calls ++ calls', ?_, htells.append htells'⟩, ?_⟩
    · rw [Connection.after_append, ← hconnection]
      exact hconnection'
    · intro hsound
      refine hrest.ok (hsound.discarding ha.discarding ?_)
      rw [hconnection]
      rfl

/-! ### Hooks -/

theorem callEveryHook_unaltered (h : r.interruptions = []) (call : HookCall) (hooks : List Hook)
    (hharmless : ∀ hook ∈ hooks, hook.Harmless) :
    Unaltered (∀ hook ∈ hooks, hook.Observes) r
      ((Connection.callEveryHook (surroundings t) call hooks).runFrom r) := by
  induction hooks generalizing r with
  | nil => exact Unaltered.pure _ r
  | cons hook rest ih =>
      have hfirst := callHook_unaltered (t := t) h call (hharmless hook List.mem_cons_self)
      rw [Connection.callEveryHook, Act.runFrom_bind_ok (Act.runFrom_attempt _ _),
        Act.runFrom_bind_ok (Act.runFrom_attempt _ _)]
      rcases hrun : (Connection.callHook (surroundings t) call hook).runFrom r with ⟨res, r'⟩
      rw [hrun] at hfirst
      have hrest := ih (hfirst.discarding.interruptions.trans h) fun x hx =>
        hharmless x (List.mem_cons_of_mem hook hx)
      rcases hrun' : (Connection.callEveryHook (surroundings t) call rest).runFrom r' with
        ⟨res', r''⟩
      rw [hrun'] at hrest
      have hdiscarding : Discarding [] r r'' := hfirst.discarding.trans hrest.discarding
      have hconnection : r''.connection = r.connection :=
        hrest.connection.trans hfirst.connection
      -- The other hooks have been called by now, whatever became of the first one.
      cases res with
      | error f => exact ⟨hdiscarding, hconnection, fun hall => by
          injection hfirst.ok (hall hook List.mem_cons_self)⟩
      | ok _ =>
          cases res' with
          | ok _ => exact ⟨hdiscarding, hconnection, fun _ => rfl⟩
          | error f => exact ⟨hdiscarding, hconnection, fun hall => by
              injection hrest.ok fun x hx => hall x (List.mem_cons_of_mem hook hx)⟩

/-- Calling the hooks for one purpose is one deed, whether they fail or not. -/
theorem announced_does (h : r.interruptions = []) (call : HookCall) {a : Act Rehearsal Unit}
    (ha : ∀ r', r'.interruptions = [] → r'.connection.hooks = r.connection.hooks →
      Unaltered (∀ hook ∈ r.connection.hooks, hook.Observes) r' (a.runFrom r')) :
    Does [.hooks call r.connection.received r.connection.mismatch]
      (Call.hooks call r.connection.received r.connection.mismatch).message?.toList.length r
      ((Connection.announced (surroundings t) call a).runFrom r) := by
  rw [Connection.announced, Act.runFrom_bind_ok (current_runFrom h),
    Act.runFrom_bind_ok (record_runFrom _), Act.runFrom_bind_ok (Act.runFrom_attempt _ _)]
  generalize hmade : Call.hooks call r.connection.received r.connection.mismatch = made
  have hdiscarding := Discarding.recording made r
  have hconnection : (r.recording made).connection = r.connection.after [made] :=
    recording_connection (by rw [← hmade]; rfl) r
  generalize r.recording made = r₁ at hdiscarding hconnection ⊢
  have hunaltered := ha r₁ (hdiscarding.interruptions.trans h) (by rw [hconnection]; rfl)
  rcases hrun : a.runFrom r₁ with ⟨f | _, r₂⟩
  · -- A failure is one more call in the history, but the deed is done.
    rw [hrun] at hunaltered
    rw [Act.runFrom_bind_ok (record_runFrom _)]
    change Does _ _ r
      (.error f, recording (.hooksFailed call f) r₂)
    refine ⟨(hdiscarding.trans hunaltered.discarding).trans (Discarding.recording _ r₂),
      ⟨[made] ++ [.hooksFailed call f], ?_, ?_, ?_, ?_⟩,
      fun hsound => by injection hunaltered.ok hsound.hooks⟩
    · rw [Connection.after_append, ← hconnection, ← hunaltered.connection]
      exact recording_connection rfl r₂
    · rw [← hmade]
      exact .hooksFailed f
    · rw [← hmade]
      cases call <;> rfl
    · rw [← hmade]
      exact List.forall_mem_append.mpr
        ⟨List.forall_mem_singleton.mpr trivial, List.forall_mem_singleton.mpr trivial⟩
  · rw [hrun] at hunaltered
    change Does _ _ r (.ok (), r₂)
    refine ⟨hdiscarding.trans hunaltered.discarding,
      ⟨[made], hunaltered.connection.trans hconnection, ?_, ?_, ?_⟩, fun _ => rfl⟩
    · rw [← hmade]
      exact .one rfl
    · rw [← hmade]
      cases call <;> rfl
    · rw [← hmade]
      exact List.forall_mem_singleton.mpr trivial

theorem callOnMessage_does (h : r.interruptions = [])
    (hharmless : ∀ hook ∈ r.connection.hooks, hook.Harmless) (s : MessageStream) :
    Does [.hooks (.onMessage s) r.connection.received r.connection.mismatch] 1 r
      ((Connection.callOnMessage (surroundings t) s).runFrom r) := by
  refine announced_does h (.onMessage s) fun r' h' hhooks => ?_
  rw [Act.runFrom_bind_ok (current_runFrom h'), hhooks]
  exact Unaltered.bind (callHooks_unaltered h' _ _ hharmless) fun r'' _ _ => Unaltered.pure _ r''

theorem callAfterResponse_does (h : r.interruptions = [])
    (hharmless : ∀ hook ∈ r.connection.hooks, hook.Harmless) (response : Bytes) :
    Does [.hooks (.afterResponse response) r.connection.received r.connection.mismatch] 0 r
      ((Connection.callAfterResponse (surroundings t) response).runFrom r) := by
  refine announced_does h (.afterResponse response) fun r' h' hhooks => ?_
  rw [Act.runFrom_bind_ok (current_runFrom h'), hhooks]
  exact callHooks_unaltered h' _ _ hharmless

theorem callOnClose_does (h : r.interruptions = [])
    (hharmless : ∀ hook ∈ r.connection.hooks, hook.Harmless) :
    Does [.hooks .onClose r.connection.received r.connection.mismatch] 0 r
      ((Connection.callOnClose (surroundings t)).runFrom r) := by
  refine announced_does h .onClose fun r' h' hhooks => ?_
  rw [Act.runFrom_bind_ok (current_runFrom h'), hhooks]
  have hunaltered := callEveryHook_unaltered (t := t) h' .onClose _ hharmless
  rw [Act.andFinally, Act.runFrom_bind_ok (Act.runFrom_attempt _ _)]
  exact hunaltered

/-! ### Answers -/

/-- A send takes one entry of the script and shows in the trace only if it succeeds. -/
theorem send_unaltered (data : Bytes) :
    Unaltered (∀ fault ∈ r.sends, fault = none) r
      (((surroundings t).send data).runFrom r) := by
  have htail : Discarding [] r { r with sends := r.sends.tail } :=
    ⟨⟨rfl, List.tail_subset _, rfl, rfl⟩, (List.append_nil _).symm⟩
  change Unaltered _ r ((sendToPeer data).runFrom r)
  rw [sendToPeer, Act.runFrom_bind_ok (Act.runFrom_get r),
    Act.runFrom_bind_ok (Act.runFrom_modify _ r)]
  have hsent : Unaltered (∀ fault ∈ r.sends, fault = none) r
      (.ok (), noting (.send label data) { r with sends := r.sends.tail }) :=
    ⟨htail.trans (Discarding.quiet rfl _), rfl, fun _ => rfl⟩
  rcases hsends : r.sends with _ | ⟨_ | f, later⟩
  · rw [hsends] at hsent
    exact hsent
  · rw [hsends] at hsent
    exact hsent
  · rw [hsends] at htail
    refine ⟨htail, rfl, fun hall => ?_⟩
    have hnone := hall (some f) List.mem_cons_self
    injection hnone

/-- A send leaves one call, which says whether it failed. -/
theorem sendToPeer_runFrom (h : r.interruptions = []) (hsocket : r.connection.hasSocket)
    (data : Bytes) :
    ∃ fault res r', (Connection.sendToPeer (surroundings t) data).runFrom r = (res, r') ∧
      Act.failureOf res = fault ∧ Discarding [] r r' ∧
      r'.connection = r.connection.after [.send data fault] ∧
      ((∀ fault ∈ r.sends, fault = none) → res = .ok ()) := by
  have hunaltered := send_unaltered (t := t) (r := r) data
  rw [Connection.sendToPeer, Act.runFrom_bind_ok (current_runFrom h), if_pos hsocket,
    Act.runFrom_bind_ok (Act.runFrom_attempt _ _)]
  rcases hrun : ((surroundings t).send data).runFrom r with ⟨f | _, r'⟩
  · rw [hrun] at hunaltered
    rw [Act.runFrom_bind_ok (record_runFrom _)]
    refine ⟨some f, .error f, r'.recording (.send data (some f)), rfl, rfl,
      hunaltered.discarding.trans (Discarding.recording _ r'), ?_,
      fun hsends => by injection hunaltered.ok hsends⟩
    rw [← hunaltered.connection]
    exact recording_connection rfl r'
  · rw [hrun] at hunaltered
    refine ⟨none, .ok (), r'.recording (.send data none), rfl, rfl,
      hunaltered.discarding.trans (Discarding.recording _ r'), ?_, fun _ => rfl⟩
    rw [← hunaltered.connection]
    exact recording_connection rfl r'

theorem sendToPeer_does (h : r.interruptions = []) (hsocket : r.connection.hasSocket)
    (data : Bytes) :
    Does [.reply data] 0 r ((Connection.sendToPeer (surroundings t) data).runFrom r) := by
  rcases sendToPeer_runFrom (t := t) h hsocket data with
    ⟨fault, res, r', hrun, hfault, hdiscarding, hconnection, hok⟩
  rw [hrun]
  refine ⟨hdiscarding, ⟨_, hconnection, ?_, rfl, List.forall_mem_singleton.mpr trivial⟩,
    fun hsound => hok hsound.sends⟩
  change Performs _ _ (Act.failureOf res)
  rw [hfault]
  cases fault with
  | none => exact .one rfl
  | some f => exact .sendFailed f

/-- The hooks are called with the message, it is answered, and the hooks are called with the
    answer, unless messages are not to be answered. -/
theorem answer_does (h : r.interruptions = []) (hsocket : r.connection.hasSocket)
    (hharmless : ∀ hook ∈ r.connection.hooks, hook.Harmless) (s : MessageStream)
    (hjudged : r.connection.mismatch = r.connection.behavior.mismatch s.toBytes) :
    Does
      (.hooks (.onMessage s) r.connection.received (r.connection.behavior.mismatch s.toBytes) ::
        r.connection.behavior.answering r.connection.received s.toBytes) 1 r
      ((Connection.answer (surroundings t) s).runFrom r) := by
  have hfirst := callOnMessage_does (t := t) h hharmless s
  rw [hjudged] at hfirst
  refine Does.bind hfirst fun r' hr' hafter => ?_
  have halone : r'.interruptions = [] := hr'.interruptions.trans h
  rcases hafter with ⟨calls, hconnection⟩
  change Does (r.connection.behavior.answering r.connection.received s.toBytes) 0 r' _
  have hresponse : Connection.responseTo r'.connection =
      r.connection.behavior.replyTo s.toBytes := by
    rw [hconnection]
    exact Connection.responseTo_eq hjudged
  rw [Act.runFrom_bind_ok (current_runFrom halone), hresponse]
  by_cases hsilent : r.connection.behavior.noResponse
  · rw [Behavior.answering, if_pos hsilent, hconnection]
    have hskip : (!(r.connection.after calls).behavior.noResponse) = false := by
      rw [Bool.not_eq_false']
      exact hsilent
    rw [hskip]
    exact (Unaltered.pure True r').does
  · rw [Behavior.answering, if_neg hsilent]
    have hanswer : (!r'.connection.behavior.noResponse) = true := by
      rw [hconnection, Bool.not_eq_true']
      exact Bool.eq_false_iff.mpr hsilent
    rw [hanswer]
    have hsend := sendToPeer_does (t := t) halone (by rw [hconnection]; exact hsocket)
      (r.connection.behavior.replyTo s.toBytes)
    refine Does.bind hsend fun r'' hr'' hafter' => ?_
    rcases hafter' with ⟨calls', hconnection'⟩
    have hlast := callAfterResponse_does (t := t) (hr''.interruptions.trans halone)
      (by rw [hconnection', hconnection]; exact hharmless)
      (r.connection.behavior.replyTo s.toBytes)
    rw [hconnection', hconnection] at hlast
    rw [← hjudged]
    exact hlast

/-! ### Deliveries -/

/-- Nothing that deliveries leave in a trace is a warning about discarded bytes. -/
theorem warning?_eq_none_of_isOutbound {o : Occurrence} (h : o.isOutbound) :
    o.warning? (Text.ofString "incomplete_message_discarded") = none := by
  cases o with
  | log e =>
      rcases e with ⟨severity, event, fields⟩
      cases severity with
      | warning =>
          refine if_neg fun heq => ?_
          subst heq
          have hother :
              outboundEvents.contains (Text.ofString "incomplete_message_discarded") = false := by
            decide
          exact Bool.false_ne_true (hother.symm.trans h)
      | _ => rfl
  | _ => rfl

theorem dispatch_runFrom (t : Seconds) (r : Rehearsal) (d : Dispatcher)
    (deliveries : List Delivery) :
    ∃ records r', ((surroundings t).dispatch d deliveries).runFrom r = (.ok records, r') ∧
      Discarding [] r r' ∧ r'.connection = r.connection ∧
      records.map DispatchRecord.delivery = deliveries := by
  rcases ScriptedWorld.dispatchAll_outbound d deliveries r.world with
    ⟨records, world, hrun, hrecords, hgrows⟩
  refine ⟨records, { r with world := world }, ?_, ⟨⟨rfl, List.Subset.refl _, rfl, rfl⟩, ?_⟩, rfl,
    hrecords⟩
  · change (onWorld (d.dispatchAll ScriptedWorld.transport deliveries)).runFrom r = _
    rw [onWorld, Act.runFrom_within, hrun]
  · rw [List.append_nil]
    exact hgrows.filterMap_eq _ fun o ho => warning?_eq_none_of_isOutbound ho

/-- Deliveries never fail, and leave one call with a record each, if there are any. -/
theorem forward_runFrom (h : r.interruptions = []) (s : MessageStream) :
    ∃ calls r', (Connection.forward (surroundings t) s).runFrom r = (.ok (), r') ∧
      Discarding [] r r' ∧ r'.connection = r.connection.after calls ∧
      (calls = [] ∧ r.connection.behavior.deliveriesFor r.connection.registry s.toBytes = [] ∨
        ∃ deliveries records, calls = [.dispatch deliveries records] ∧ deliveries ≠ [] ∧
          r.connection.behavior.deliveriesFor r.connection.registry s.toBytes = deliveries ∧
          records.map DispatchRecord.delivery = deliveries) := by
  rw [Connection.forward, Act.runFrom_bind_ok (current_runFrom h), Connection.deliveriesFor_eq]
  generalize r.connection.behavior.deliveriesFor r.connection.registry s.toBytes = deliveries
  cases deliveries with
  | nil => exact ⟨[], r, rfl, Discarding.refl r, (Connection.after_nil _).symm, .inl ⟨rfl, rfl⟩⟩
  | cons delivery rest =>
      change ∃ calls r', Act.runFrom (_ >>= _) r = (.ok (), r') ∧ _
      rw [Act.runFrom_bind_ok (log_runFrom h _ _ _)]
      rcases dispatch_runFrom t (r.noting _) r.connection.dispatcher (delivery :: rest) with
        ⟨records, r', hrun, hdiscarding, hconnection, hrecords⟩
      rw [Act.runFrom_bind_ok hrun, Act.runFrom_bind_ok (change_runFrom _), record_runFrom]
      have hlogged : ∀ more, Discarding [] r
          (r.noting (r.connection.entry .debug "dispatching_responses" more)) :=
        fun _ => Discarding.quiet (entry_warning?_eq_none (.inl (by decide))) r
      refine ⟨[.dispatch (delivery :: rest) records], _, rfl, (hlogged _).trans
        (hdiscarding.trans ((Discarding.update _ r').trans (Discarding.recording _ _))), ?_,
        .inr ⟨_, records, rfl, List.cons_ne_nil _ _, rfl, hrecords⟩⟩
      simp only [recording, update, hconnection, Connection.after, List.flatMap_cons,
        List.flatMap_nil, List.append_nil]
      rfl

theorem forward_does (h : r.interruptions = []) (s : MessageStream) :
    Does (Behavior.forwarding
        (r.connection.behavior.deliveriesFor r.connection.registry s.toBytes)) 0 r
      ((Connection.forward (surroundings t) s).runFrom r) := by
  rcases forward_runFrom (t := t) h s with ⟨calls, r', hrun, hdiscarding, hconnection,
    ⟨rfl, hnone⟩ | ⟨deliveries, records, rfl, hne, hdeliveries, hrecords⟩⟩
  · rw [hrun, hnone]
    exact ⟨hdiscarding, ⟨[], hconnection, Tells.nil⟩, fun _ => rfl⟩
  · rw [hrun, hdeliveries, Behavior.forwarding, List.isEmpty_eq_false_iff.mpr hne]
    exact ⟨hdiscarding, ⟨_, hconnection, .one rfl, rfl, List.forall_mem_singleton.mpr hrecords⟩,
      fun _ => rfl⟩

end

end Rehearsal

end MockHost
