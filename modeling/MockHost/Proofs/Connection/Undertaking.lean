import MockHost.Proofs.Connection.Asking
import MockHost.Proofs.Connection.Reading

/-!
# The Message Cycle Under Any Hooks

The hooks that are called with a message may close the connection in the midst of its
cycle. The cycle goes on all the same: what is done for the message is a beginning of
what is to be done for it, and all of it unless something fails. The hooks only add
their shutdowns to the history, and no read is among the calls.

Whether the connection is still open after the cycle is what its next step depends on,
and it is decided by two things: whether a hook has asked for the end, which the
shutdown shows, and whether the connection is to close after the message.

## Main definitions

* `Attempts`: Calls that do deeds one after another, as far as they come.
* `Rehearsal.Undertakes`: Steps that do their deeds under any hooks.
* `Rehearsal.Tends`: What the cycle of a message comes to.

## Theorems

* `Rehearsal.Undertakes.bind`: Steps do their deeds one after another.
* `Rehearsal.complete_tends`: What is done for a message is what is to be done for it.
-/

namespace MockHost

/-- Whether a call reads the socket. -/
def Call.isRead : Call → Bool
  | .receive _ => true
  | _ => false

/-- The calls do one deed after another, all of them unless there is a failure. None of them
    reads the socket. -/
structure Attempts (ds : List Deed) (calls : List Call) (end? : Option Failure) : Prop where
  started : calls.filterMap Call.deed? <+: ds
  done : end? = none → calls.filterMap Call.deed? = ds
  unread : ∀ call ∈ calls, call.isRead = false
  records : ∀ call ∈ calls, call.RecordsAll

namespace Attempts

variable {ds ds' : List Deed} {calls calls' : List Call} {end? : Option Failure} {f : Failure}

theorem append (h : Attempts ds calls none) (h' : Attempts ds' calls' end?) :
    Attempts (ds ++ ds') (calls ++ calls') end? where
  started := by
    rw [List.filterMap_append, h.done rfl]
    exact (List.prefix_append_right_inj ds).mpr h'.started
  done hend := by rw [List.filterMap_append, h.done rfl, h'.done hend]
  unread := List.forall_mem_append.mpr ⟨h.unread, h'.unread⟩
  records := List.forall_mem_append.mpr ⟨h.records, h'.records⟩

/-- What remains to be done after a failure makes no difference. -/
theorem extend (h : Attempts ds calls (some f)) (more : List Deed) :
    Attempts (ds ++ more) calls (some f) where
  started := h.started.trans (List.prefix_append ds more)
  done hend := by injection hend
  unread := h.unread
  records := h.records

theorem nil : Attempts [] [] none :=
  ⟨List.prefix_rfl, fun _ => rfl, fun _ h => absurd h List.not_mem_nil,
    fun _ h => absurd h List.not_mem_nil⟩

/-- The hooks are not called with a message unless that is to be done. -/
theorem messages (h : Attempts ds calls end?) (hds : ds.filterMap Deed.message? = []) :
    calls.filterMap Call.message? = [] := by
  rcases h.started with ⟨more, hmore⟩
  rw [← hmore, List.filterMap_append] at hds
  rw [Call.filterMap_message?]
  exact (List.append_eq_nil_iff.mp hds).1

/-- A call that is a deed. -/
theorem one {d : Deed} {call : Call} (h : call.deed? = some d) (hrecords : call.RecordsAll) :
    Attempts [d] [call] none := by
  have hdone : [call].filterMap Call.deed? = [d] := by
    rw [List.filterMap_cons_some h]
    rfl
  refine ⟨by rw [hdone], fun _ => hdone, List.forall_mem_singleton.mpr ?_,
    List.forall_mem_singleton.mpr hrecords⟩
  cases call with
  | receive fault => injection h
  | _ => rfl

/-- Calls that close the connection are no deeds. -/
theorem of_ending (h : ∀ call ∈ calls, call.isEnding) : Attempts [] calls none := by
  have hnone : calls.filterMap Call.deed? = [] := by
    rw [List.filterMap_eq_nil_iff]
    intro call hcall
    have hending := h call hcall
    cases call with
    | shutdown => rfl
    | close => rfl
    | _ => injection hending
  refine ⟨by rw [hnone], fun _ => hnone, fun call hcall => ?_, fun call hcall => ?_⟩
  · have hending := h call hcall
    cases call with
    | receive fault => injection hending
    | _ => rfl
  · have hending := h call hcall
    cases call with
    | dispatch deliveries records => injection hending
    | _ => trivial

/-- Nor is the failure of the hooks, though it ends what is done. -/
theorem hooksFailed (call : HookCall) (f : Failure) :
    Attempts [] [.hooksFailed call f] (some f) :=
  ⟨List.prefix_rfl, fun h => by injection h, List.forall_mem_singleton.mpr rfl,
    List.forall_mem_singleton.mpr trivial⟩

/-- Nothing has been sent by a send that fails. -/
theorem sendFailed (data : Bytes) (f : Failure) :
    Attempts [.reply data] [.send data (some f)] (some f) :=
  ⟨List.nil_prefix, fun h => by injection h, List.forall_mem_singleton.mpr rfl,
    List.forall_mem_singleton.mpr trivial⟩

end Attempts

namespace Rehearsal

/-- What a step does are these deeds, up to a failure. The hooks may ask for the end of the
    connection in the midst of it. -/
structure Undertakes (ds : List Deed) (r : Rehearsal) (out : Except Failure Unit × Rehearsal) :
    Prop where
  abides : Abides r out.2
  calls : ∃ calls, r.connection.Takes out.2.connection calls ∧
    Attempts ds calls (Act.failureOf out.1)
  ok : r.Assured → out.1 = .ok () ∧ out.2.connection.hasSocket

section

variable {t : Seconds} {r : Rehearsal}

/-- Steps do their deeds one after another. -/
theorem Undertakes.bind {ds ds' : List Deed} {s : Rehearsal} {a b : Act Rehearsal Unit}
    (ha : Undertakes ds r (a.runFrom s))
    (hb : ∀ r' calls, Abides r r' → r.connection.Takes r'.connection calls →
      Undertakes ds' r' (b.runFrom r')) :
    Undertakes (ds ++ ds') r ((a >>= fun _ => b).runFrom s) := by
  rcases ha.calls with ⟨calls, htakes, hattempts⟩
  rw [Act.runFrom_bind]
  rcases hrun : a.runFrom s with ⟨f | _, r'⟩
  · rw [hrun] at ha htakes hattempts
    exact ⟨ha.abides, ⟨calls, htakes, hattempts.extend ds'⟩, fun h => by injection (ha.ok h).1⟩
  · rw [hrun] at ha htakes hattempts
    have hrest := hb r' calls ha.abides htakes
    rcases hrest.calls with ⟨calls', htakes', hattempts'⟩
    refine ⟨abides_path.trans ha.abides hrest.abides, ⟨calls ++ calls', htakes.trans htakes',
      hattempts.append hattempts'⟩, fun h => hrest.ok ?_⟩
    exact h.of_takes ha.abides htakes (ha.ok h).2

/-- A step that leaves the connection alone, and does not fail. -/
theorem Undertakes.of_unaltered {r' : Rehearsal} (h : Abides r r')
    (hconnection : r'.connection = r.connection) : Undertakes [] r (.ok (), r') :=
  ⟨h, ⟨[], by rw [hconnection]; exact .refl _, Attempts.nil⟩, fun h => ⟨rfl, by
    rw [hconnection]
    exact h.hasSocket⟩⟩

/-- A call that is a deed, before others. -/
theorem Undertakes.of_recording {ds : List Deed} {d : Deed} {call : Call}
    {out : Except Failure Unit × Rehearsal} (hdeed : call.deed? = some d)
    (hrecords : call.records = []) (hall : call.RecordsAll)
    (h : Undertakes ds (r.recording call) out) : Undertakes (d :: ds) r out := by
  have hending : call.isEnding = false := by
    cases call with
    | shutdown => injection hdeed
    | close => injection hdeed
    | _ => rfl
  have htakes : r.connection.Takes (r.recording call).connection [call] := by
    rw [recording_connection hrecords]
    exact .one _ hending
  have habides : Abides r (r.recording call) := ⟨rfl, List.Subset.refl _, rfl, rfl⟩
  rcases h.calls with ⟨calls, htakes', hattempts⟩
  exact ⟨abides_path.trans habides h.abides,
    ⟨_, htakes.trans htakes', (Attempts.one hdeed hall).append hattempts⟩,
    fun hassured => h.ok (hassured.of_takes habides htakes hassured.hasSocket)⟩

/-! ### Calling the hooks -/

/-- When the hooks have been called, they only ask for the end of the connection, or fail. -/
theorem announced_attempts (h : r.interruptions = []) (call : HookCall) {a : Act Rehearsal Unit}
    (ha : Act.Moves Asks a) :
    let r₁ := r.recording (.hooks call r.connection.received r.connection.mismatch)
    ∃ res r₂ calls, (Connection.announced (surroundings t) call a).runFrom r = (res, r₂) ∧
      Abides r₁ r₂ ∧ r₁.connection.Takes r₂.connection calls ∧
      Attempts [] calls (Act.failureOf res) ∧ (a.runFrom r₁).1 = res ∧
      (res = .ok () → (a.runFrom r₁).2 = r₂) := by
  dsimp only
  rw [Connection.announced, Act.runFrom_bind_ok (current_runFrom h),
    Act.runFrom_bind_ok (record_runFrom _), Act.runFrom_bind_ok (Act.runFrom_attempt _ _)]
  generalize hr₁ : r.recording (.hooks call r.connection.received r.connection.mismatch) = r₁
  have hasked := ha r₁ (by rw [← hr₁]; exact h)
  rcases hasked.calls with ⟨calls, htakes, hending⟩
  rcases hrun : a.runFrom r₁ with ⟨f | _, r₂⟩
  · -- That they fail is one more call, and no deed.
    rw [hrun] at hasked htakes
    have hfailed : r₂.connection.Takes (r₂.recording (.hooksFailed call f)).connection
        [.hooksFailed call f] := by
      rw [recording_connection rfl]
      exact .one _ rfl
    exact ⟨.error f, r₂.recording (.hooksFailed call f), _, rfl,
      abides_path.trans hasked.abides ⟨rfl, List.Subset.refl _, rfl, rfl⟩, htakes.trans hfailed,
      (Attempts.of_ending hending).append (Attempts.hooksFailed call f), rfl,
      fun hok => by injection hok⟩
  · rw [hrun] at hasked htakes
    exact ⟨.ok (), r₂, calls, rfl, hasked.abides, htakes, Attempts.of_ending hending, rfl,
      fun _ => rfl⟩

/-- They do not fail where nothing is going to. -/
theorem announced_undertakes (h : r.interruptions = []) (call : HookCall) {a : Act Rehearsal Unit}
    (ha : Act.Moves Asks a) (hok : ∀ r', r'.interruptions = [] → r'.Assured →
      ∃ r'', a.runFrom r' = (.ok (), r'') ∧ r''.connection.hasSocket) :
    Undertakes [] (r.recording (.hooks call r.connection.received r.connection.mismatch))
      ((Connection.announced (surroundings t) call a).runFrom r) := by
  rcases announced_attempts (t := t) h call ha with
    ⟨res, r₂, calls, hrun, habides, htakes, hattempts, hres, hr₂⟩
  rw [hrun]
  refine ⟨habides, ⟨calls, htakes, hattempts⟩, fun hassured => ?_⟩
  have halone : (r.recording (.hooks call r.connection.received r.connection.mismatch)
    ).interruptions = [] := h
  rcases hok _ halone hassured with ⟨r'', hr'', hsocket⟩
  rw [hr''] at hres hr₂
  refine ⟨hres.symm, ?_⟩
  rw [← hr₂ hres.symm]
  exact hsocket

theorem callOnMessage_undertakes (h : r.interruptions = []) (s : MessageStream) :
    Undertakes [] (r.recording (.hooks (.onMessage s) r.connection.received r.connection.mismatch))
      ((Connection.callOnMessage (surroundings t) s).runFrom r) := by
  refine announced_undertakes h (.onMessage s) (fun r' h' => ?_) fun r' h' hassured => ?_
  · rw [Act.runFrom_bind_ok (current_runFrom h')]
    exact Act.Moves.bind asks_path ((hooking_asks t).callHooks _ _)
      (fun _ => Act.Moves.pure asks_path _) r' h'
  · rcases callHooks_assured t h' hassured (.onMessage s) with ⟨r'', hrun, hsocket⟩
    rw [Act.runFrom_bind_ok (current_runFrom h'), Act.runFrom_bind_ok hrun]
    exact ⟨r'', rfl, hsocket⟩

theorem callAfterResponse_undertakes (h : r.interruptions = []) (response : Bytes) :
    Undertakes [.hooks (.afterResponse response) r.connection.received r.connection.mismatch] r
      ((Connection.callAfterResponse (surroundings t) response).runFrom r) := by
  refine Undertakes.of_recording rfl rfl ?_
    (announced_undertakes h (.afterResponse response) (fun r' h' => ?_) fun r' h' hassured => ?_)
  · trivial
  · rw [Act.runFrom_bind_ok (current_runFrom h')]
    exact (hooking_asks t).callHooks _ _ r' h'
  · rw [Act.runFrom_bind_ok (current_runFrom h')]
    exact callHooks_assured t h' hassured (.afterResponse response)

/-! ### Answers and deliveries -/

/-- A send fails if the script says so, or if there is no socket any more. -/
theorem sendToPeer_undertakes (h : r.interruptions = []) (data : Bytes) :
    Undertakes [.reply data] r ((Connection.sendToPeer (surroundings t) data).runFrom r) := by
  by_cases hsocket : r.connection.hasSocket
  · rcases sendToPeer_runFrom (t := t) h hsocket data with
      ⟨fault, res, r', hrun, hfault, hdiscarding, hconnection, hok⟩
    rw [hrun]
    refine ⟨hdiscarding.toAbides, ⟨[.send data fault], ?_, ?_⟩,
      fun hassured => ⟨hok hassured.sends, ?_⟩⟩
    · rw [hconnection]
      exact .one _ rfl
    · rw [hfault]
      cases fault with
      | none => exact Attempts.one rfl trivial
      | some f => exact Attempts.sendFailed data f
    · rw [hconnection]
      exact hassured.hasSocket
  · rw [Connection.sendToPeer, Act.runFrom_bind_ok (current_runFrom h), if_neg hsocket]
    refine ⟨abides_path.refl r, ⟨[], .refl _, List.nil_prefix, fun hend => by injection hend,
      fun _ hx => absurd hx List.not_mem_nil, fun _ hx => absurd hx List.not_mem_nil⟩,
      fun hassured => absurd hassured.hasSocket hsocket⟩

/-- The answer to a message that has been judged, and the hooks that are called with it. -/
theorem respond_undertakes (h : r.interruptions = []) {m : Bytes}
    (hjudged : r.connection.mismatch = r.connection.behavior.mismatch m) :
    Undertakes (r.connection.behavior.answering r.connection.received m) r
      ((Connection.respond (surroundings t)).runFrom r) := by
  rw [Connection.respond, Act.runFrom_bind_ok (current_runFrom h)]
  by_cases hsilent : r.connection.behavior.noResponse
  · rw [Behavior.answering, if_pos hsilent, hsilent]
    exact Undertakes.of_unaltered (abides_path.refl r) rfl
  · rw [Behavior.answering, if_neg hsilent, Bool.eq_false_iff.mpr hsilent]
    have hreply : Connection.responseTo r.connection = r.connection.behavior.replyTo m :=
      Connection.responseTo_eq hjudged
    dsimp only
    rw [hreply, ← hjudged]
    refine Undertakes.bind (sendToPeer_undertakes h _) fun r' calls habides htakes => ?_
    have hlast := callAfterResponse_undertakes (t := t) (habides.interruptions.trans h)
      (r.connection.behavior.replyTo m)
    rwa [show r'.connection.received = r.connection.received from
        (congrArg Connection.received htakes.eq :),
      show r'.connection.mismatch = r.connection.mismatch from
        (congrArg Connection.mismatch htakes.eq :)] at hlast

theorem forward_undertakes (h : r.interruptions = []) (s : MessageStream) :
    Undertakes (Behavior.forwarding
        (r.connection.behavior.deliveriesFor r.connection.registry s.toBytes)) r
      ((Connection.forward (surroundings t) s).runFrom r) := by
  rcases forward_runFrom (t := t) h s with ⟨calls, r', hrun, hdiscarding, hconnection,
    ⟨rfl, hnone⟩ | ⟨deliveries, records, rfl, hne, hdeliveries, hrecords⟩⟩
  · rw [hrun, hnone]
    exact Undertakes.of_unaltered hdiscarding.toAbides (hconnection.trans (Connection.after_nil _))
  · rw [hrun, hdeliveries, Behavior.forwarding, List.isEmpty_eq_false_iff.mpr hne]
    have hall : (Call.dispatch deliveries records).RecordsAll := hrecords
    refine ⟨hdiscarding.toAbides, ⟨_, ?_, Attempts.one rfl hall⟩,
      fun hassured => ⟨rfl, ?_⟩⟩
    · rw [hconnection]
      exact .one _ rfl
    · rw [hconnection]
      exact hassured.hasSocket

/-! ### The cycle -/

/-- What is done for a message when the hooks have been called with it. -/
theorem attend_undertakes (h : r.interruptions = []) (s : MessageStream)
    (hjudged : r.connection.mismatch = r.connection.behavior.mismatch s.toBytes) :
    Undertakes
      (r.connection.behavior.answering r.connection.received s.toBytes ++
        Behavior.forwarding (r.connection.behavior.deliveriesFor r.connection.registry s.toBytes))
      (r.recording (.hooks (.onMessage s) r.connection.received r.connection.mismatch))
      ((Connection.callOnMessage (surroundings t) s >>= fun _ =>
        Connection.respond (surroundings t) >>= fun _ =>
          Connection.forward (surroundings t) s).runFrom r) := by
  -- The steps that follow find what the hooks have left of the connection as it was judged.
  rw [← List.nil_append (_ ++ _)]
  refine Undertakes.bind (callOnMessage_undertakes h s) fun r₁ calls₁ habides₁ htakes₁ => ?_
  have hbehavior₁ : r₁.connection.behavior = r.connection.behavior :=
    (congrArg Connection.behavior htakes₁.eq :)
  have hregistry₁ : r₁.connection.registry = r.connection.registry :=
    (congrArg Connection.registry htakes₁.eq :)
  have hreceived₁ : r₁.connection.received = r.connection.received :=
    (congrArg Connection.received htakes₁.eq :)
  have hmismatch₁ : r₁.connection.mismatch = r.connection.mismatch :=
    (congrArg Connection.mismatch htakes₁.eq :)
  have h₁ : r₁.interruptions = [] := habides₁.interruptions.trans h
  rw [← hbehavior₁, ← hregistry₁, ← hreceived₁]
  refine Undertakes.bind (respond_undertakes h₁ ?_) fun r₂ calls₂ habides₂ htakes₂ => ?_
  · rw [hmismatch₁, hbehavior₁, hjudged]
  · have hforward := forward_undertakes (t := t) (habides₂.interruptions.trans h₁) s
    rwa [show r₂.connection.behavior = r₁.connection.behavior from
        (congrArg Connection.behavior htakes₂.eq :),
      show r₂.connection.registry = r₁.connection.registry from
        (congrArg Connection.registry htakes₂.eq :)] at hforward

theorem closeAfter_runFrom (h : r.interruptions = []) :
    ∃ r', (Connection.closeAfter (surroundings t)).runFrom r = (.ok (), r') ∧ Abides r r' ∧
      r'.connection = { r.connection with
        status := if r.connection.behavior.closeAfterNext then .closed else r.connection.status } := by
  rw [Connection.closeAfter, Act.runFrom_bind_ok (current_runFrom h)]
  by_cases hclose : r.connection.behavior.closeAfterNext
  · rw [if_pos hclose, if_pos hclose, Act.runFrom_bind_ok (log_runFrom h _ _ _)]
    exact ⟨_, rfl, ⟨rfl, List.Subset.refl _, rfl, rfl⟩, rfl⟩
  · rw [if_neg hclose, if_neg hclose]
    exact ⟨r, rfl, abides_path.refl r, rfl⟩

end

end Rehearsal

/-- The hooks are called with a message before anything else is done for it. -/
theorem Behavior.messages_attending (b : Behavior) (registry : Option Registry) (n : Nat)
    (m : Bytes) :
    (b.answering n m ++ forwarding (b.deliveriesFor registry m)).filterMap Deed.message? = [] := by
  rw [List.filterMap_append, messages_answering, messages_forwarding]
  rfl

/-- What serving a peer does not change in a connection, whatever its hooks do. -/
def Connection.core (c : Connection) : Connection :=
  { c with
    status := .opened
    closeRequested := false
    hasSocket := false
    pending := []
    received := 0
    mismatch := none
    dispatches := []
    lastMessage := none
    calls := [] }

/-- The connection has made some calls, and counted the messages that its hooks were called
    with and the records of its dispatches. -/
structure Connection.Passes (c c' : Connection) (calls : List Call) : Prop where
  core : c'.core = c.core
  history : c'.calls = c.calls ++ calls
  received : c'.received = c.received + (calls.filterMap Call.message?).length
  dispatches : c'.dispatches = c.dispatches ++ calls.flatMap Call.records

/-- The hooks are called with the `n`-th message, and then the rest of what is to be done for it
    is done as far as it comes. -/
def Tended (b : Behavior) (registry : Option Registry) (n : Nat) (m : Bytes) (calls : List Call)
    (end? : Option Failure) : Prop :=
  ∃ rest, calls = .hooks (.onMessage (.holding b.terminator.length m)) n (b.mismatch m) :: rest ∧
    Attempts (b.answering n m ++ Behavior.forwarding (b.deliveriesFor registry m)) rest end?

theorem Tended.attempts {b : Behavior} {registry : Option Registry} {n : Nat} {m : Bytes}
    {calls : List Call} {end? : Option Failure} (h : Tended b registry n m calls end?) :
    Attempts (b.cycle registry n m) calls end? := by
  rcases h with ⟨rest, rfl, hrest⟩
  refine (Attempts.one rfl ?_).append hrest
  trivial

/-- The hooks are called with the message once. -/
theorem Tended.messages {b : Behavior} {registry : Option Registry} {n : Nat} {m : Bytes}
    {calls : List Call} {end? : Option Failure} (h : Tended b registry n m calls end?) :
    calls.filterMap Call.message? = [.holding b.terminator.length m] := by
  rcases h with ⟨rest, rfl, hrest⟩
  exact congrArg (_ :: ·) (hrest.messages (b.messages_attending registry n m))

namespace Rehearsal

/-- A connection that is open and serves its peer, while no other thread has a hand in it. -/
structure Working (r : Rehearsal) : Prop where
  alone : r.interruptions = []
  wanted : r.connection.closeRequested = false
  hasSocket : r.connection.hasSocket
  isOpen : r.connection.isOpen
  terminated : r.connection.behavior.terminator ≠ []
  judges : ∀ s, (r.connection.expectation.bind fun e => e.check s) =
    r.connection.behavior.mismatch s.toBytes

/-- What the cycle of a message comes to. The connection is open after it only if nobody has
    asked for its end. -/
structure Tends (m : Bytes) (r : Rehearsal) (out : Except Failure Unit × Rehearsal) : Prop where
  abides : Abides r out.2
  calls : ∃ calls, r.connection.Passes out.2.connection calls ∧
    Tended r.connection.behavior r.connection.registry (r.connection.received + 1) m calls
      (Act.failureOf out.1) ∧
    (out.2.connection.closeRequested ↔ Call.shutdown ∈ calls) ∧
    (out.2.connection.isOpen → out.2.connection.closeRequested = false ∧
      out.2.connection.hasSocket)
  ok : r.Assured → out.1 = .ok () ∧ out.2.Assured

section

variable {t : Seconds} {r : Rehearsal}

/-- A message is counted and judged, the hooks are called with it and the rest of its cycle is
    done, and the connection may close then. -/
theorem complete_runFrom_attend (h : r.Working) (s : MessageStream) :
    ∃ r', Abides r r' ∧ r'.connection = r.connection.counting s ∧
      (Connection.complete (surroundings t) s).runFrom r =
        ((Connection.callOnMessage (surroundings t) s >>= fun _ =>
          Connection.respond (surroundings t) >>= fun _ =>
            Connection.forward (surroundings t) s) >>= fun _ =>
          Connection.closeAfter (surroundings t)).runFrom r' := by
  rcases counted_runFrom (t := t) h.alone (h.judges s)
    ((Connection.callOnMessage (surroundings t) s >>= fun _ =>
      Connection.respond (surroundings t) >>= fun _ => Connection.forward (surroundings t) s) >>=
        fun _ => Connection.closeAfter (surroundings t)) with ⟨r', hdiscarding, hconnection, hrun⟩
  refine ⟨r', hdiscarding.toAbides, hconnection, ?_⟩
  rw [← hrun]
  simp only [Connection.complete_eq, Connection.greet, bind_assoc]

/-- What the calls of a cycle leave in the connection, however its status comes to be. -/
theorem passes_of_takes {c c' : Connection} {s : MessageStream} {n : Nat}
    {mismatch : Option Mismatch} {calls : List Call} {ds : List Deed} {end? : Option Failure}
    (htakes : (Connection.after (c.counting s) [.hooks (.onMessage s) n mismatch]).Takes c' calls)
    (hattempts : Attempts ds calls end?) (hds : ds.filterMap Deed.message? = [])
    (status : ConnectionStatus) :
    c.Passes { c' with status := status } (.hooks (.onMessage s) n mismatch :: calls) := by
  have hone : (Call.hooks (.onMessage s) n mismatch :: calls).filterMap Call.message? = [s] :=
    congrArg (s :: ·) (hattempts.messages hds)
  refine ⟨(congrArg Connection.core htakes.eq :), ?_, ?_, ?_⟩
  · refine (congrArg Connection.calls htakes.eq :).trans ?_
    exact List.append_assoc _ _ _
  · refine (congrArg Connection.received htakes.eq :).trans ?_
    rw [hone]
    rfl
  · refine (congrArg Connection.dispatches htakes.eq :).trans ?_
    exact List.append_assoc _ _ _

/-- Whatever the hooks do, what is done for a message is what is to be done for it, as far as
    nothing fails. -/
theorem complete_tends (h : r.Working) (m : Bytes) :
    Tends m r ((Connection.complete (surroundings t)
      (.holding r.connection.behavior.terminator.length m)).runFrom r) := by
  generalize hs : MessageStream.holding r.connection.behavior.terminator.length m = s
  have hm : s.toBytes = m := by rw [← hs, MessageStream.toBytes_holding]
  rcases complete_runFrom_attend (t := t) h s with ⟨r₁, habides₁, hconnection₁, hcomplete⟩
  have h₁ : r₁.interruptions = [] := habides₁.interruptions.trans h.alone
  have hattend := attend_undertakes (t := t) h₁ s (by rw [hconnection₁]; rfl)
  rw [hconnection₁] at hattend
  -- The hooks are called with the message as it has been counted and judged.
  generalize hcalled : Call.hooks (.onMessage s) (r.connection.counting s).received
    (r.connection.counting s).mismatch = called at hattend
  have hconnection : (r₁.recording called).connection =
      Connection.after (r.connection.counting s) [called] := by
    rw [← hcalled, recording_connection rfl, hconnection₁]
  have habides : Abides r (r₁.recording called) :=
    abides_path.trans habides₁ ⟨rfl, List.Subset.refl _, rfl, rfl⟩
  rw [hcomplete, Act.runFrom_bind]
  rcases hrun : (Connection.callOnMessage (surroundings t) s >>= fun _ =>
    Connection.respond (surroundings t) >>= fun _ =>
      Connection.forward (surroundings t) s).runFrom r₁ with ⟨res, r₂⟩
  rw [hrun] at hattend
  rcases hattend.calls with ⟨calls, htakes, hattempts⟩
  rw [hconnection] at htakes
  change Attempts (r.connection.behavior.answering (r.connection.received + 1) s.toBytes ++
    Behavior.forwarding (r.connection.behavior.deliveriesFor r.connection.registry s.toBytes))
      calls (Act.failureOf res) at hattempts
  rw [hm] at hattempts
  have hds := r.connection.behavior.messages_attending r.connection.registry
    (r.connection.received + 1) m
  have htended : Tended r.connection.behavior r.connection.registry (r.connection.received + 1) m
      (called :: calls) (Act.failureOf res) := by
    refine ⟨calls, ?_, hattempts⟩
    rw [← hcalled, hs, ← hm]
    rfl
  have hrequested := htakes.requested_iff h.wanted h.hasSocket
  have hcalled' : called ≠ .shutdown := by
    rw [← hcalled]
    exact Call.noConfusion
  have hshutdown : Call.shutdown ∈ called :: calls ↔ Call.shutdown ∈ calls :=
    ⟨fun hmem => (List.mem_cons.mp hmem).resolve_left hcalled'.symm, List.mem_cons_of_mem called⟩
  have hassured : r.Assured → res = .ok () ∧ r₂.Assured := by
    intro hassured
    have hcounted : (r₁.recording called).Assured :=
      hassured.of_abides habides (by rw [hconnection]; rfl) (by rw [hconnection]; rfl)
        (by rw [hconnection]; exact hassured.hasSocket)
    rw [← hconnection] at htakes
    exact ⟨(hattend.ok hcounted).1, hcounted.of_takes hattend.abides htakes (hattend.ok hcounted).2⟩
  rw [← hcalled] at htakes htended hshutdown
  cases res with
  | error f =>
      refine ⟨abides_path.trans habides hattend.abides, ⟨_, passes_of_takes htakes hattempts hds _,
        htended, ?_, hrequested.2⟩, fun hr => by injection (hassured hr).1⟩
      rw [hshutdown]
      exact hrequested.1
  | ok _ =>
      rcases closeAfter_runFrom (t := t) (hattend.abides.interruptions.trans habides.interruptions
        |>.trans h.alone) with ⟨r₃, hclose, habides₃, hconnection₃⟩
      dsimp only
      rw [hclose]
      refine ⟨abides_path.trans habides (abides_path.trans hattend.abides habides₃),
        ⟨_, ?_, htended, ?_, ?_⟩, fun hr => ⟨rfl, ?_⟩⟩
      · rw [hconnection₃]
        exact passes_of_takes htakes hattempts hds _
      · rw [hshutdown, hconnection₃]
        exact hrequested.1
      · rw [hconnection₃]
        intro hopen
        refine hrequested.2 ?_
        -- A connection that is open after this step was open before.
        by_cases hcloses : r₂.connection.behavior.closeAfterNext
        · rw [if_pos hcloses] at hopen
          exact absurd hopen Bool.false_ne_true
        · rwa [if_neg hcloses] at hopen
      · exact (hassured hr).2.of_abides habides₃ (by rw [hconnection₃]) (by rw [hconnection₃])
          (by rw [hconnection₃]; exact (hassured hr).2.hasSocket)

end

end Rehearsal

end MockHost
