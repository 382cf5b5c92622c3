import MockHost.Proofs.Connection.Reading

/-!
# Whole Runs

A run reads its peer to the end, releases the socket and calls the hooks for the
last time. Three things are said of it here, of runs that are not disturbed by
other threads.

Where nothing fails, the messages that the hooks are called with are those that the
bytes of the peer are cut into, and all that is to be done for them is done. Where
something fails, what is done before the socket is released is a beginning of what
would have been done without the failure. The two are the same argument: a run
performs what is to be done for its messages up to a failure, and the only question
is whether there is one.

## Main definitions

* `Connection.beforeRelease`, `Connection.deeds`, `Connection.framed`: What the history of a
  connection shows.
* `Rehearsal.served`: The outcome of a run.
* `Rehearsal.Ran`: What a run comes to.

## Theorems

* `Rehearsal.conclude_ends`: The end of a run.
* `Rehearsal.served_ran`: A run performs what is to be done for its messages.
* `Rehearsal.served_frames`: The messages of a run, however its bytes are cut up.
* `Rehearsal.served_cycles`: What a run does for its messages.
* `Rehearsal.served_prefix`: A failure only cuts a run short.
-/

namespace MockHost

namespace Connection

/-- The calls that were made before the socket was released. -/
def beforeRelease (c : Connection) : List Call := c.calls.takeWhile fun call => !call.isClose

/-- What was to be seen of a connection before its socket was released. -/
def deeds (c : Connection) : List Deed := c.beforeRelease.filterMap Call.deed?

/-- The messages that the hooks were called with. -/
def framed (c : Connection) : List Bytes :=
  (c.calls.filterMap Call.message?).map MessageStream.toBytes

end Connection

/-- A hook that leaves a mark at every call. -/
def Hook.recording : Hook where
  onConnect := .always [.record]
  onMessage := .always [.record]
  afterResponse := .always [.record]
  onClose := .always [.record]

theorem Hook.recording_observes : Hook.recording.Observes := by
  intro peer received call a ha
  have hrecord : a = .record := by
    cases call with
    | _ => exact List.mem_singleton.mp ha
  rw [hrecord]
  rfl

/-- A hook that fails with one of the messages. -/
def Hook.failingAt (n : Nat) (f : Failure) : Hook where
  onMessage := fun _ received => if received = n then [.fail f] else []

theorem Hook.failingAt_harmless (n : Nat) (f : Failure) : (Hook.failingAt n f).Harmless := by
  intro peer received call a ha
  cases call with
  | onMessage m =>
      have hplan : a ∈ if received = n then [HookAction.fail f] else [] := ha
      by_cases hn : received = n
      · rw [if_pos hn] at hplan
        rw [List.mem_singleton.mp hplan]
        rfl
      · rw [if_neg hn] at hplan
        exact absurd hplan List.not_mem_nil
  | _ => exact absurd ha List.not_mem_nil

/-- The deliveries that a deed makes. -/
def Deed.deliveries : Deed → List Delivery
  | .dispatch deliveries => deliveries
  | _ => []

/-- The records that calls leave are those of the deliveries that they make. -/
theorem Call.deliveries_records {calls : List Call} (h : ∀ call ∈ calls, call.RecordsAll) :
    (calls.flatMap Call.records).map DispatchRecord.delivery =
      (calls.filterMap Call.deed?).flatMap Deed.deliveries := by
  induction calls with
  | nil => rfl
  | cons call calls ih =>
      have hrest := ih fun x hx => h x (List.mem_cons_of_mem call hx)
      have hcall := h call List.mem_cons_self
      rw [List.flatMap_cons, List.map_append, hrest]
      cases call with
      | dispatch deliveries records =>
          have hrecords : records.map DispatchRecord.delivery = deliveries := hcall
          rw [Call.records, hrecords]
          rfl
      | send data fault => cases fault <;> rfl
      | _ => rfl

namespace Rehearsal

section

variable {t : Seconds} {r : Rehearsal}

/-! ### The end of a run -/

theorem reportEnd_unaltered (h : r.interruptions = []) (res : Except Failure Unit) :
    Unaltered True r ((Connection.reportEnd (surroundings t) res).runFrom r) := by
  cases res with
  | ok _ => exact Unaltered.pure True r
  | error f =>
      cases f with
      | system e =>
          rw [Connection.reportEnd, Act.runFrom_bind_ok (current_runFrom h)]
          split
          · exact log_unaltered h (.inr (by decide)) _
          · exact log_unaltered h (.inl (by decide)) _
      | _ => exact log_unaltered h (.inl (by decide)) _

/-- The socket is released even if closing it fails. -/
theorem releaseSocket_runFrom (h : r.interruptions = []) (hsocket : r.connection.hasSocket) :
    ∃ res r', (Connection.releaseSocket (surroundings t)).runFrom r = (res, r') ∧
      Discarding [] r r' ∧
      r'.connection = Connection.after { r.connection with hasSocket := false } [.close] := by
  generalize hreleased : (update (fun c => { c with hasSocket := false }) r).recording .close = r₁
  have hdiscarding : Discarding [] r (r₁.noting (.close label)) := by
    rw [← hreleased]
    exact ((Discarding.update (fun c => { c with hasSocket := false }) r).trans
      (Discarding.recording .close _)).trans (Discarding.quiet rfl _)
  have hconnection : (r₁.noting (.close label)).connection =
      Connection.after { r.connection with hasSocket := false } [.close] := by
    rw [← hreleased]
    exact recording_connection rfl _
  have halone : (r₁.noting (.close label)).interruptions = [] := hdiscarding.interruptions.trans h
  have hclose : ((surroundings t).close).runFrom r₁ =
      (ScriptedWorld.failing r₁.closing).runFrom (r₁.noting (.close label)) := rfl
  rw [Connection.releaseSocket, Act.runFrom_bind_ok (current_runFrom h), if_pos hsocket,
    Act.runFrom_bind_ok (change_runFrom _), Act.runFrom_bind_ok (record_runFrom _), hreleased,
    Act.runFrom_bind_ok (Act.runFrom_attempt _ _), hclose]
  -- The socket is gone before it is closed, so no failure can bring it back.
  rcases r₁.closing with _ | f
  · exact ⟨_, _, rfl, hdiscarding, hconnection⟩
  · cases f with
    | system e =>
        refine ⟨_, _, log_runFrom halone _ _ _, ?_, hconnection⟩
        exact hdiscarding.trans (Discarding.quiet (entry_warning?_eq_none (.inr (by decide))) _)
    | _ => exact ⟨_, _, rfl, hdiscarding, hconnection⟩

/-- Calling the hooks for the last time leaves nothing but these calls. -/
theorem notifyClosed_runFrom (h : r.interruptions = [])
    (hharmless : ∀ hook ∈ r.connection.hooks, hook.Harmless) :
    ∃ r' calls, (Connection.notifyClosed (surroundings t)).runFrom r = (.ok (), r') ∧
      Discarding [] r r' ∧ r'.connection = r.connection.after calls ∧
      calls.filterMap Call.deed? <+:
        [.hooks .onClose r.connection.received r.connection.mismatch] ∧
      calls.flatMap Call.records = [] := by
  have hdoes := callOnClose_does (t := t) h hharmless
  rw [Connection.notifyClosed, Act.runFrom_bind_ok (Act.runFrom_attempt _ _)]
  rcases hrun : (Connection.callOnClose (surroundings t)).runFrom r with ⟨res, r'⟩
  rw [hrun] at hdoes
  rcases hdoes.calls with ⟨calls, hconnection, htells⟩
  have hprefix := htells.performs.deeds_prefix
  have hrecords : calls.flatMap Call.records = [] := by
    have hdeliveries := Call.deliveries_records htells.records
    rcases hprefix with ⟨more, hmore⟩
    -- Calling the hooks is no delivery, so there are no records either.
    have hnone : (calls.filterMap Call.deed? ++ more).flatMap Deed.deliveries = [] := by
      rw [hmore]
      rfl
    rw [List.flatMap_append] at hnone
    rw [(List.append_eq_nil_iff.mp hnone).1] at hdeliveries
    exact List.map_eq_nil_iff.mp hdeliveries
  cases res with
  | ok _ => exact ⟨r', calls, rfl, hdoes.discarding, hconnection, hprefix, hrecords⟩
  | error f =>
      have halone : r'.interruptions = [] := hdoes.discarding.interruptions.trans h
      refine ⟨_, calls, log_runFrom halone _ _ _, ?_, hconnection, hprefix, hrecords⟩
      exact hdoes.discarding.trans (Discarding.quiet (entry_warning?_eq_none (.inl (by decide))) _)

/-- The end of a run: the socket is released, and all that is to be seen after that is the last
    call of the hooks. -/
structure Ends (r r' : Rehearsal) : Prop where
  history : ∃ later, r'.connection.calls = r.connection.calls ++ .close :: later ∧
    later.filterMap Call.deed? <+:
      [.hooks .onClose r'.connection.received r'.connection.mismatch]
  received : r'.connection.received = r.connection.received
  dispatches : r'.connection.dispatches = r.connection.dispatches
  discards : r'.world.trace.discards = r.world.trace.discards

theorem conclude_ends (h : r.Serving) (res : Except Failure Unit) :
    Ends r ((Connection.conclude (surroundings t) res).runFrom r).2 := by
  have hreport := reportEnd_unaltered (t := t) h.alone res
  rcases hrun : (Connection.reportEnd (surroundings t) res).runFrom r with ⟨res₁, r₁⟩
  rw [hrun] at hreport
  have hok : res₁ = .ok () := hreport.ok trivial
  subst hok
  have hclosed : Discarding [] r (update (fun c => { c with status := .closed }) r₁) :=
    hreport.discarding.trans (Discarding.update _ r₁)
  have hconnection : (update (fun c => { c with status := .closed }) r₁).connection =
      { r.connection with status := .closed } := by
    rw [← hreport.connection]
    rfl
  generalize hr₂ : update (fun c => { c with status := .closed }) r₁ = r₂ at hclosed hconnection
  have halone₂ : r₂.interruptions = [] := hclosed.interruptions.trans h.alone
  rcases releaseSocket_runFrom (t := t) halone₂ (by rw [hconnection]; exact h.hasSocket) with
    ⟨res₃, r₃, hrelease, hdiscarding₃, hconnection₃⟩
  have hdiscarding : Discarding [] r r₃ := hclosed.trans hdiscarding₃
  rw [Connection.conclude, Act.runFrom_bind_ok hrun, Act.runFrom_bind_ok (change_runFrom _), hr₂,
    Act.runFrom_bind, hrelease]
  cases res₃ with
  | error f =>
      -- Closing failed in an unusual way, and the hooks are not called any more.
      have hsame : r₃.world.trace.discards = r.world.trace.discards := by
        rw [hdiscarding.discards, List.append_nil]
      refine ⟨⟨[], ?_, List.nil_prefix⟩, ?_, ?_, hsame⟩
      · change r₃.connection.calls = _
        rw [hconnection₃, hconnection]
        rfl
      · change r₃.connection.received = _
        rw [hconnection₃, hconnection]
        rfl
      · change r₃.connection.dispatches = _
        rw [hconnection₃, hconnection]
        exact List.append_nil _
  | ok _ =>
      rcases notifyClosed_runFrom (t := t) (hdiscarding.interruptions.trans h.alone)
        (by rw [hconnection₃, hconnection]; exact h.harmless) with
        ⟨r₄, calls, hnotify, hdiscarding₄, hconnection₄, hprefix, hrecords⟩
      dsimp only
      rw [hnotify]
      refine ⟨⟨calls, ?_, ?_⟩, ?_, ?_, ?_⟩
      · rw [hconnection₄, hconnection₃, hconnection]
        exact List.append_assoc _ _ _
      · rw [hconnection₄]
        exact hprefix
      · rw [hconnection₄, hconnection₃, hconnection]
        rfl
      · rw [hconnection₄, Connection.after, hrecords, List.append_nil, hconnection₃, hconnection]
        exact List.append_nil _
      · rw [hdiscarding₄.discards, hdiscarding.discards, List.append_nil, List.append_nil]

/-! ### Runs -/

/-- A connection that starts to read has nothing pending. -/
theorem read_readsAll {allowed : Failure → Prop} {bytes : Bytes} (h : r.Serving)
    (hopen : r.connection.isOpen) (hpending : r.connection.pending = [])
    (hgives : Script.Gives allowed r.unread bytes) :
    ReadsAll allowed (Framing.split r.connection.behavior.terminator [] bytes).1
      (Framing.split r.connection.behavior.terminator [] bytes).2 r
      ((read (surroundings t) false).runFrom r) := by
  have hfirst : Proceeds [] [] r (update (fun c => { c with pending := [] }) r) none :=
    Proceeds.of_unchanged (Discarding.update _ r) rfl rfl rfl rfl
  have hbegin : (Connection.begin (surroundings t) false).runFrom r =
      (.ok (some (.holding r.connection.behavior.terminator.length [])),
        update (fun c => { c with pending := [] }) r) := by
    rw [Connection.begin, Act.runFrom_bind_ok (current_runFrom h.alone), hopen, hpending]
    exact proceed_runFrom (h.proceeds hfirst) _
  rw [read, Act.runFrom_bind_ok hbegin]
  refine ReadsAll.after (fun _ => rfl) hfirst ?_
  exact readOn_readsAll hgives (h.proceeds hfirst) hopen []

end

/-- The outcome of a run. -/
def served (t : Seconds) (c : Connection) (s : Script) (world : ScriptedWorld) (size : Nat) :
    Rehearsal :=
  ((run (surroundings t)).runFrom (Rehearsal.of c s world size)).2

/-- What a run comes to. It performs its deeds up to a failure, if there is one, before the
    socket is released. -/
structure Ran (ds : List Deed) (end? : Option Failure) (c : Connection) : Prop where
  history : ∃ later, c.calls = c.beforeRelease ++ .close :: later ∧
    later.filterMap Call.deed? <+: [.hooks .onClose c.received c.mismatch]
  performs : Performs ds c.beforeRelease end?
  records : ∀ call ∈ c.beforeRelease, call.RecordsAll
  received : c.received = (c.calls.filterMap Call.message?).length
  dispatches : c.dispatches = c.beforeRelease.flatMap Call.records

/-- The hooks are not called with a message when they are called for the last time. -/
theorem messages_eq_nil_of_prefix {calls : List Call} {n : Nat} {mismatch : Option Mismatch}
    (h : calls.filterMap Call.deed? <+: [.hooks .onClose n mismatch]) :
    calls.filterMap Call.message? = [] := by
  rcases h with ⟨more, hmore⟩
  have hnone : (calls.filterMap Call.deed? ++ more).filterMap Deed.message? = [] := by
    rw [hmore]
    rfl
  rw [List.filterMap_append] at hnone
  rw [Call.filterMap_message?]
  exact (List.append_eq_nil_iff.mp hnone).1

/-- The socket is not released before everything that is performed has been. -/
theorem beforeRelease_eq {ds : List Deed} {end? : Option Failure} {c : Connection}
    {calls later : List Call} (h : Performs ds calls end?)
    (hcalls : c.calls = calls ++ .close :: later) : c.beforeRelease = calls := by
  rw [Connection.beforeRelease, hcalls, List.takeWhile_append_of_pos fun call hcall => by
    rw [h.isClose_eq_false hcall]
    rfl]
  exact List.append_nil calls

section

variable {peer : Peer} {serverPort : Port} {b : Behavior} {registry : Option Registry}
  {dispatcher : Dispatcher} {hooks : List Hook} {readTimeout : Seconds} {c : Connection}

/-- A connection that has been accepted is ready to be served. -/
theorem accept_serving
    (accepted : Connection.accept peer serverPort b registry dispatcher hooks readTimeout = .ok c)
    (terminated : b.terminator ≠ []) (harmless : ∀ h ∈ hooks, h.Harmless) (s : Script)
    (world : ScriptedWorld) (size : Nat) : (Rehearsal.of c s world size).Serving := by
  have hjudges := Connection.accept_mismatch accepted
  rcases Connection.accept_eq accepted with ⟨expectation, rfl⟩
  exact ⟨rfl, rfl, rfl, harmless, terminated, hjudges⟩

/-- Setting the timeout of the socket is all that shows in the trace before a run. -/
theorem of_discards (c : Connection) (s : Script) (world : ScriptedWorld) (size : Nat) :
    (Rehearsal.of c s world size).world.trace.discards = world.trace.discards := by
  rw [Rehearsal.of, Trace.discards, Array.toList_push, List.filterMap_append]
  exact List.append_nil _

/-- A run performs what is to be done for the messages that the bytes of its peer are cut into,
    up to a failure; and nothing fails unless something may. -/
theorem served_ran
    (accepted : Connection.accept peer serverPort b registry dispatcher hooks readTimeout = .ok c)
    (terminated : b.terminator ≠ []) (harmless : ∀ h ∈ hooks, h.Harmless)
    {allowed : Failure → Prop} {s : Script} {bytes : Bytes}
    (carries : Script.Carries allowed s.received bytes) {size : Nat} (hsize : 1 ≤ size)
    (t : Seconds) (world : ScriptedWorld) :
    ∃ end?, Ran (b.cycles registry 0 (b.attended (Framing.split b.terminator [] bytes).1)) end?
        (served t c s world size).connection ∧
      ((∀ h ∈ hooks, h.Observes) → (∀ fault ∈ s.sends, fault = none) →
        (∀ f, allowed f → f.isTimeout) → end? = none ∧
          (b.closeAfterNext = false → (served t c s world size).world.trace.discards =
            world.trace.discards ++ c.discarded (Framing.split b.terminator [] bytes).2)) := by
  have hserving := accept_serving accepted terminated harmless s world size
  rcases Connection.accept_eq accepted with ⟨expectation, hc⟩
  have hbehavior : b = c.behavior := by rw [hc]
  have hregistry : registry = c.registry := by rw [hc]
  have hhooks : hooks = c.hooks := by rw [hc]
  have hfresh : c.calls = [] ∧ c.received = 0 ∧ c.dispatches = [] := by
    rw [hc]
    exact ⟨rfl, rfl, rfl⟩
  have hread := read_readsAll (t := t) hserving (by rw [hc]; rfl) (by rw [hc]; rfl)
    (carries.gives hsize)
  subst hbehavior hregistry hhooks
  rcases hrun : (read (surroundings t) false).runFrom (Rehearsal.of c s world size) with ⟨res, r⟩
  rw [hrun] at hread
  rcases hread.proceeds with ⟨found, hproceeds, hfound⟩
  rcases hproceeds.calls with ⟨calls, hfollows, hperforms⟩
  -- The end of the run adds nothing to what has been counted.
  have hends := conclude_ends (t := t) (hserving.proceeds hproceeds) res
  have hserved : served t c s world size =
      ((Connection.conclude (surroundings t) res).runFrom r).2 := by
    rw [served, run, Act.runFrom_bind_ok (Act.runFrom_attempt _ _), hrun]
  rw [hserved]
  rcases hends.history with ⟨later, hlater, hprefix⟩
  have hmessages := messages_eq_nil_of_prefix hprefix
  -- An accepted connection starts with no calls, so those of the reading are all of them.
  have hcalls : r.connection.calls = calls := hfollows.history.trans (by
    change c.calls ++ calls = calls
    rw [hfresh.1, List.nil_append])
  rw [hcalls] at hlater
  have hbefore := beforeRelease_eq hperforms hlater
  have hcycles : Performs (c.behavior.cycles c.registry 0 (c.behavior.attended
      (Framing.split c.behavior.terminator [] bytes).1)) calls (Act.failureOf res) := by
    rw [← hfresh.2.1]
    exact hperforms
  refine ⟨Act.failureOf res, ⟨⟨later, ?_, hprefix⟩, ?_, ?_, ?_, ?_⟩, ?_⟩
  · rw [hbefore]
    exact hlater
  · rw [hbefore]
    exact hcycles
  · rw [hbefore]
    exact hfollows.records
  · rw [hends.received, hfollows.received, hlater, List.filterMap_append,
      List.filterMap_cons_none rfl, hmessages, List.append_nil]
    change c.received + _ = _
    rw [hfresh.2.1, Nat.zero_add]
  · rw [hbefore, hends.dispatches, hfollows.dispatches]
    change c.dispatches ++ _ = _
    rw [hfresh.2.2, List.nil_append]
  · intro hobserves hsends htimeouts
    have hok := hread.ok ⟨hobserves, hsends⟩ htimeouts
    refine ⟨by rw [show res = .ok () from hok]; rfl, fun hstays => ?_⟩
    rw [hends.discards, hproceeds.discarding.discards, of_discards, hfound hok hstays]
    rfl

/-- What a run has counted and called the hooks with, if nothing has failed. -/
theorem Ran.framed {ms : List Bytes} (h : Ran (b.cycles registry 0 ms) none c) :
    c.framed = ms ∧ c.received = ms.length := by
  rcases h.history with ⟨later, hcalls, hprefix⟩
  have hlater := messages_eq_nil_of_prefix hprefix
  have hmessages : c.calls.filterMap Call.message? =
      ms.map (MessageStream.holding b.terminator.length) := by
    rw [hcalls, List.filterMap_append, List.filterMap_cons_none rfl, hlater, List.append_nil,
      Call.filterMap_message?, h.performs.deeds_eq, Behavior.messages_cycles]
  have hbytes : (MessageStream.toBytes ∘ MessageStream.holding b.terminator.length) = id := by
    funext m
    exact MessageStream.toBytes_holding _ m
  refine ⟨?_, ?_⟩
  · rw [Connection.framed, hmessages, List.map_map, hbytes, List.map_id]
  · rw [h.received, hmessages, List.length_map]

/-- Whatever the peer sends is cut into messages in one way only. The hooks are called with
    these messages, in order, and what is left over is discarded with one warning that states
    its size, if anything is left over. It does not matter in what pieces the bytes are read,
    nor between which of them reads time out. -/
theorem served_frames
    (accepted : Connection.accept peer serverPort b registry dispatcher hooks readTimeout = .ok c)
    (terminated : b.terminator ≠ []) (stays : b.closeAfterNext = false)
    (observing : ∀ h ∈ hooks, h.Observes) (bytes : Bytes) (t : Seconds) :
    ∃ messages rest, Framing.IsSplit b.terminator bytes messages rest ∧
      (∀ messages' rest', Framing.IsSplit b.terminator bytes messages' rest' →
        messages' = messages ∧ rest' = rest) ∧
      ∀ (s : Script) (world : ScriptedWorld) (size : Nat), 1 ≤ size →
        (∀ fault ∈ s.sends, fault = none) →
        Script.Carries (fun f => f.isTimeout) s.received bytes →
        let r := served t c s world size
        r.connection.framed = messages ∧ r.connection.received = messages.length ∧
          r.world.trace.discards = world.trace.discards ++ c.discarded rest := by
  have hsplit := Framing.isSplit_split terminated (Framing.not_infix_nil terminated) bytes
  rw [List.nil_append] at hsplit
  refine ⟨_, _, hsplit, fun _ _ hother => hother.unique hsplit, ?_⟩
  intro s world size hsize sending carries
  have harmless : ∀ h ∈ hooks, h.Harmless := fun h hh => (observing h hh).harmless
  rcases served_ran accepted terminated harmless carries hsize t world with
    ⟨end?, hran, hsound⟩
  rcases hsound observing sending fun f hf => hf with ⟨rfl, hdiscards⟩
  rw [Behavior.attended_of_stays stays] at hran
  rcases hran.framed with ⟨hframed, hreceived⟩
  exact ⟨hframed, hreceived, hdiscards stays⟩

/-- A terminator that overlaps itself, cut up by reads of one byte and a timeout. -/
theorem served_frames_overlapping :
    ∃ c, Connection.accept ⟨"192.0.2.1", 5000⟩ 6789 { terminator := [10, 10] } none .idle
        [.recording] ⟨0⟩ = .ok c ∧
      let s : Script :=
        { received := [.data [97, 10], .fault (.system .timedOut), .data [10, 10, 98]] }
      let r := served ⟨0⟩ c s ⟨[], #[], #[]⟩ 1
      r.connection.framed = [[97, 10, 10]] ∧ r.connection.received = 1 ∧
        r.world.trace.discards = c.discarded [10, 98] := by
  have hobs : ∀ h ∈ [Hook.recording], h.Observes :=
    List.forall_mem_singleton.mpr Hook.recording_observes
  have haccept : ∃ c, Connection.accept ⟨"192.0.2.1", 5000⟩ 6789 { terminator := [10, 10] } none
      .idle [.recording] ⟨0⟩ = .ok c := ⟨_, rfl⟩
  rcases haccept with ⟨c, accepted⟩
  refine ⟨c, accepted, ?_⟩
  rcases served_frames accepted (by decide) rfl hobs [97, 10, 10, 10, 98] ⟨0⟩ with
    ⟨messages, rest, -, hunique, hall⟩
  have hsplit : Framing.IsSplit [10, 10] [97, 10, 10, 10, 98] [[97, 10, 10]] [10, 98] :=
    Framing.isSplit_split (by decide) (Framing.not_infix_nil (by decide)) _
  rcases hunique _ _ hsplit with ⟨rfl, rfl⟩
  exact hall _ _ 1 (by decide) (by decide)
    (.data (by decide) (.fault rfl (.data (by decide) .exhausted)))

/-- Every message is dispatched what is registered for it. -/
theorem deliveries_cycles (b : Behavior) (registry : Option Registry) (n : Nat)
    (ms : List Bytes) :
    (b.cycles registry n ms).flatMap Deed.deliveries = ms.flatMap (b.deliveriesFor registry) := by
  induction ms generalizing n with
  | nil => rfl
  | cons m ms ih =>
      have hanswering : (b.answering (n + 1) m).flatMap Deed.deliveries = [] := by
        rw [Behavior.answering]
        split
        · rfl
        · rfl
      have hforwarding : ∀ ds, (Behavior.forwarding ds).flatMap Deed.deliveries = ds := by
        intro ds
        cases ds with
        | nil => rfl
        | cons d ds => exact List.append_nil _
      rw [Behavior.cycles, List.flatMap_append, ih, Behavior.cycle, List.flatMap_cons,
        List.flatMap_append, hanswering, hforwarding]
      rfl

/-- What is done for the messages of a run is what the behaviour and the registry say, one
    message after another: the first one only if the connection is to close after it. When the
    socket has been released only the end is announced. The dispatch records are those of the
    deliveries made. -/
theorem served_cycles
    (accepted : Connection.accept peer serverPort b registry dispatcher hooks readTimeout = .ok c)
    (terminated : b.terminator ≠ []) (observing : ∀ h ∈ hooks, h.Observes) {s : Script}
    (sending : ∀ fault ∈ s.sends, fault = none) {bytes : Bytes}
    (carries : Script.Carries (fun f => f.isTimeout) s.received bytes) {size : Nat}
    (hsize : 1 ≤ size) (t : Seconds) (world : ScriptedWorld) :
    ∃ messages rest, Framing.IsSplit b.terminator bytes messages rest ∧
      let ended := (served t c s world size).connection
      ended.deeds = b.cycles registry 0 (b.attended messages) ∧
        (∃ later, ended.calls = ended.beforeRelease ++ .close :: later ∧
          later.filterMap Call.deed? <+: [.hooks .onClose ended.received ended.mismatch]) ∧
        ended.dispatches = ended.beforeRelease.flatMap Call.records ∧
        ended.dispatches.map DispatchRecord.delivery =
          (b.attended messages).flatMap (b.deliveriesFor registry) := by
  have hsplit := Framing.isSplit_split terminated (Framing.not_infix_nil terminated) bytes
  rw [List.nil_append] at hsplit
  have harmless : ∀ h ∈ hooks, h.Harmless := fun h hh => (observing h hh).harmless
  rcases served_ran accepted terminated harmless carries hsize t world with
    ⟨end?, hran, hsound⟩
  rcases hsound observing sending fun f hf => hf with ⟨rfl, -⟩
  refine ⟨_, _, hsplit, hran.performs.deeds_eq, hran.history, hran.dispatches, ?_⟩
  rw [hran.dispatches, Call.deliveries_records hran.records, hran.performs.deeds_eq,
    deliveries_cycles]

/-- One of two messages is registered, and neither is answered. -/
theorem served_cycles_forwarding :
    ∃ c, Connection.accept ⟨"192.0.2.1", 5000⟩ 6789 { terminator := [10], noResponse := true }
        (some { entries := [([97], [⟨"192.0.2.2", 7000, "p"⟩])] }) .idle [.recording] ⟨0⟩ = .ok c ∧
      let s : Script := { received := [.data [98, 10, 97], .data [10]] }
      let ended := (served ⟨0⟩ c s ⟨[], #[], #[]⟩ 4).connection
      ended.deeds =
          [.hooks (.onMessage (.holding 1 [98, 10])) 1 none,
            .hooks (.onMessage (.holding 1 [97, 10])) 2 none,
            .dispatch [⟨"192.0.2.2", 7000, "p"⟩]] ∧
        ended.dispatches.map DispatchRecord.delivery = [⟨"192.0.2.2", 7000, "p"⟩] := by
  have hobs : ∀ h ∈ [Hook.recording], h.Observes :=
    List.forall_mem_singleton.mpr Hook.recording_observes
  have haccept : ∃ c, Connection.accept ⟨"192.0.2.1", 5000⟩ 6789
      { terminator := [10], noResponse := true }
      (some { entries := [([97], [⟨"192.0.2.2", 7000, "p"⟩])] }) .idle [.recording] ⟨0⟩ = .ok c :=
    ⟨_, rfl⟩
  rcases haccept with ⟨c, accepted⟩
  refine ⟨c, accepted, ?_⟩
  have hcarries : Script.Carries (fun f => f.isTimeout)
      [.data [98, 10, 97], .data [10]] [98, 10, 97, 10] :=
    .data (by decide) (.data (by decide) .exhausted)
  have hsize : 1 ≤ 4 := by decide
  rcases served_cycles (s := { received := [.data [98, 10, 97], .data [10]] }) accepted (by decide)
    hobs (by decide) hcarries hsize ⟨0⟩ ⟨[], #[], #[]⟩ with
    ⟨messages, rest, hmessages, hdeeds, -, -, hdispatches⟩
  have hsplit : Framing.IsSplit [10] [98, 10, 97, 10] [[98, 10], [97, 10]] [] :=
    Framing.isSplit_split (by decide) (Framing.not_infix_nil (by decide)) _
  rcases hmessages.unique hsplit with ⟨rfl, rfl⟩
  exact ⟨hdeeds, hdispatches⟩

/-- A failure only cuts a run short: what is done before the socket is released is a beginning
    of what is done where nothing fails, the call that fails is the last one, and every message
    that has been counted has been given to the hooks. -/
theorem served_prefix {hooks₀ : List Hook} {c₀ : Connection}
    (accepted : Connection.accept peer serverPort b registry dispatcher hooks readTimeout = .ok c)
    (accepted₀ :
      Connection.accept peer serverPort b registry dispatcher hooks₀ readTimeout = .ok c₀)
    (terminated : b.terminator ≠ []) (harmless : ∀ h ∈ hooks, h.Harmless)
    (observing : ∀ h ∈ hooks₀, h.Observes) {s s₀ : Script} {bytes : Bytes}
    (faulty : Script.Carries (fun _ => True) s.received bytes)
    (sound : Script.Carries (fun f => f.isTimeout) s₀.received bytes)
    (sending : ∀ fault ∈ s₀.sends, fault = none) {size size₀ : Nat} (hsize : 1 ≤ size)
    (hsize₀ : 1 ≤ size₀) (t : Seconds) (world world₀ : ScriptedWorld) :
    let ended := (served t c s world size).connection
    ended.deeds <+: (served t c₀ s₀ world₀ size₀).connection.deeds ∧
      (∀ before call after, ended.beforeRelease = before ++ call :: after → call.fails →
        after = []) ∧
      ended.received = (ended.calls.filterMap Call.message?).length := by
  have harmless₀ : ∀ h ∈ hooks₀, h.Harmless := fun h hh => (observing h hh).harmless
  rcases served_ran accepted terminated harmless faulty hsize t world with ⟨end?, hran, -⟩
  rcases served_ran accepted₀ terminated harmless₀ sound hsize₀ t world₀ with
    ⟨end₀, hran₀, hsound⟩
  rcases hsound observing sending fun f hf => hf with ⟨rfl, -⟩
  refine ⟨?_, fun before call after heq hfails => hran.performs.fails_last heq hfails,
    hran.received⟩
  rw [Connection.deeds, Connection.deeds, hran₀.performs.deeds_eq]
  exact hran.performs.deeds_prefix

/-- The hook fails with the second of two messages, of which the peer sends the last byte in
    vain: reading fails as well. -/
theorem served_prefix_failing :
    ∃ c c₀, Connection.accept ⟨"192.0.2.1", 5000⟩ 6789 { terminator := [10] } none .idle
        [.failingAt 2 (.raised "second")] ⟨0⟩ = .ok c ∧
      Connection.accept ⟨"192.0.2.1", 5000⟩ 6789 { terminator := [10] } none .idle
        [.recording] ⟨0⟩ = .ok c₀ ∧
      let s : Script := { received := [.data [97, 10, 98], .fault .released, .data [10]] }
      let s₀ : Script := { received := [.data [97, 10, 98, 10]] }
      let ended := (served ⟨0⟩ c s ⟨[], #[], #[]⟩ 2).connection
      ended.deeds <+: (served ⟨0⟩ c₀ s₀ ⟨[], #[], #[]⟩ 8).connection.deeds ∧
        (∀ before call after, ended.beforeRelease = before ++ call :: after → call.fails →
          after = []) ∧
        ended.received = (ended.calls.filterMap Call.message?).length := by
  have hobs : ∀ h ∈ [Hook.recording], h.Observes :=
    List.forall_mem_singleton.mpr Hook.recording_observes
  have hharmless : ∀ h ∈ [Hook.failingAt 2 (.raised "second")], h.Harmless :=
    List.forall_mem_singleton.mpr (Hook.failingAt_harmless 2 _)
  have haccept : ∃ c, Connection.accept ⟨"192.0.2.1", 5000⟩ 6789 { terminator := [10] } none .idle
      [.failingAt 2 (.raised "second")] ⟨0⟩ = .ok c :=
    ⟨_, rfl⟩
  have haccept₀ : ∃ c, Connection.accept ⟨"192.0.2.1", 5000⟩ 6789 { terminator := [10] } none .idle
      [.recording] ⟨0⟩ = .ok c := ⟨_, rfl⟩
  rcases haccept with ⟨c, accepted⟩
  rcases haccept₀ with ⟨c₀, accepted₀⟩
  have hfaulty : Script.Carries (fun _ => True)
      [.data [97, 10, 98], .fault .released, .data [10]] [97, 10, 98, 10] :=
    .data (by decide) (.fault trivial (.data (by decide) .exhausted))
  have hsound : Script.Carries (fun f => f.isTimeout) [.data [97, 10, 98, 10]] [97, 10, 98, 10] :=
    .data (by decide) .exhausted
  have hsize : 1 ≤ 2 := by decide
  have hsize₀ : 1 ≤ 8 := by decide
  refine ⟨c, c₀, accepted, accepted₀, ?_⟩
  exact served_prefix (s := { received := [.data [97, 10, 98], .fault .released, .data [10]] })
    accepted accepted₀ (by decide) hharmless hobs hfaulty hsound (by decide) hsize hsize₀ ⟨0⟩ _ _

end

end Rehearsal

end MockHost
