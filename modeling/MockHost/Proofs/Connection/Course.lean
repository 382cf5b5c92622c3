import MockHost.Proofs.Connection.Undertaking

/-!
# The Course of a Run

What the history of a connection looks like when it has read its peer, whatever the
peer has sent, whatever its hooks have done and whatever has failed. It consists of
reads and of the cycles of messages, one after another, and it comes to its end with
the first cycle that does not leave the connection open, with a read that fails or that
somebody has closed the connection during, or with the end of the stream. So a shutdown
stands in the last part of it only, and nothing is begun after one.

The messages are those that the bytes of the peer are cut into, up to the last one that
was attended to.

## Main definitions

* `Progress`: How far reading has come.
* `Course`: The history of reading a peer.
* `Script.arriving`: The bytes that reads give until reading comes to an end of itself.
* `Rehearsal.Reads`: What reading comes to.

## Theorems

* `Course.append`: Reading goes on from where it has come to.
* `Course.messages`: The hooks are called with the messages, one after another.
* `Course.deeds_prefix`, `Course.deeds_eq`: What is done for them.
* `Rehearsal.work_worksThrough`: Working off the bytes of one read.
* `Rehearsal.readOn_reads`, `Rehearsal.read_reads`: Reading to the end.
-/

namespace MockHost

/-- How far reading has come. -/
inductive Progress where
  /-- There is something to wait for. -/
  | underway
  | over (end? : Option Failure)

/-- The history of reading a peer that has sent `n` messages before. -/
inductive Course (b : Behavior) (registry : Option Registry) :
    Nat → List Bytes → List Call → Progress → Prop where
  | idle {n : Nat} : Course b registry n [] [] .underway
  | read {n ms calls p} (fault : Option Failure) (rest : Course b registry n ms calls p) :
      Course b registry n ms (.receive fault :: calls) p
  | message {n m cycle ms calls p} (tended : Tended b registry (n + 1) m cycle none)
      (calm : Call.shutdown ∉ cycle) (rest : Course b registry (n + 1) ms calls p) :
      Course b registry n (m :: ms) (cycle ++ calls) p
  /-- The peer has finished. -/
  | finished {n : Nat} : Course b registry n [] [] (.over none)
  /-- The connection is not open after this message, or something has failed. -/
  | last {n m cycle end?} (tended : Tended b registry (n + 1) m cycle end?) :
      Course b registry n [m] cycle (.over end?)
  | readFailed {n : Nat} (f : Failure) :
      Course b registry n [] [.receive (some f)] (.over (some f))
  /-- The connection was closed during this read. -/
  | closing {n fault calls end?} (ending : ∀ call ∈ calls, call.isEnding) :
      Course b registry n [] (.receive fault :: calls) (.over end?)

namespace Course

variable {b : Behavior} {registry : Option Registry} {n : Nat} {ms ms' : List Bytes}
  {calls calls' : List Call} {p : Progress}

/-- Reading goes on from where it has come to. -/
theorem append (h : Course b registry n ms calls .underway)
    (h' : Course b registry (n + ms.length) ms' calls' p) :
    Course b registry n (ms ++ ms') (calls ++ calls') p := by
  generalize hp : Progress.underway = q at h
  induction h with
  | idle => exact h'
  | read fault _ ih => exact .read fault (ih h' hp)
  | @message n m cycle ms calls _ tended calm _ ih =>
      rw [List.append_assoc, List.cons_append]
      rw [List.length_cons, Nat.add_comm ms.length 1, ← Nat.add_assoc] at h'
      exact .message tended calm (ih h' hp)
  | finished => injection hp
  | last _ => injection hp
  | readFailed f => injection hp
  | closing _ => injection hp

theorem attempts_ending (h : ∀ call ∈ calls, call.isEnding) (fault : Option Failure) :
    (Call.receive fault :: calls).filterMap Call.deed? = [] := by
  rw [List.filterMap_cons_none rfl]
  exact (Attempts.of_ending h).done rfl

/-- Whatever happens, a beginning of what is to be done for the messages is done. -/
theorem deeds_prefix (h : Course b registry n ms calls p) :
    calls.filterMap Call.deed? <+: b.cycles registry n ms := by
  induction h with
  | idle => exact List.prefix_rfl
  | read fault _ ih => exact ih
  | message tended _ _ ih =>
      rw [List.filterMap_append, tended.attempts.done rfl, Behavior.cycles]
      exact (List.prefix_append_right_inj _).mpr ih
  | finished => exact List.prefix_rfl
  | last tended =>
      rw [Behavior.cycles, Behavior.cycles, List.append_nil]
      exact tended.attempts.started
  | readFailed f => exact List.prefix_rfl
  | closing ending =>
      rw [attempts_ending ending]
      exact List.nil_prefix

/-- Without a failure all of it is done. -/
theorem deeds_eq (h : Course b registry n ms calls p) (hp : ∀ f, p ≠ .over (some f)) :
    calls.filterMap Call.deed? = b.cycles registry n ms := by
  induction h with
  | idle => rfl
  | read fault _ ih => exact ih hp
  | message tended _ _ ih =>
      rw [List.filterMap_append, tended.attempts.done rfl, Behavior.cycles, ih hp]
  | finished => rfl
  | @last n m cycle end? tended =>
      rw [Behavior.cycles, Behavior.cycles, List.append_nil]
      cases end? with
      | none => exact tended.attempts.done rfl
      | some f => exact absurd rfl (hp f)
  | readFailed f => exact absurd rfl (hp f)
  | closing ending => exact attempts_ending ending _

/-- The hooks are called with the messages, one after another. -/
theorem messages (h : Course b registry n ms calls p) :
    calls.filterMap Call.message? = ms.map (MessageStream.holding b.terminator.length) := by
  induction h with
  | idle => rfl
  | read fault _ ih => exact ih
  | message tended _ _ ih => rw [List.filterMap_append, tended.messages, ih]; rfl
  | finished => rfl
  | last tended => exact tended.messages
  | readFailed f => rfl
  | closing ending =>
      rw [Call.filterMap_message?, attempts_ending ending]
      rfl

/-- Every delivery leaves a record. -/
theorem records (h : Course b registry n ms calls p) : ∀ call ∈ calls, call.RecordsAll := by
  induction h with
  | idle => exact fun _ h => absurd h List.not_mem_nil
  | read fault _ ih => exact List.forall_mem_cons.mpr ⟨trivial, ih⟩
  | message tended _ _ ih => exact List.forall_mem_append.mpr ⟨tended.attempts.records, ih⟩
  | finished => exact fun _ h => absurd h List.not_mem_nil
  | last tended => exact tended.attempts.records
  | readFailed f => exact List.forall_mem_singleton.mpr trivial
  | closing ending =>
      exact List.forall_mem_cons.mpr ⟨trivial, (Attempts.of_ending ending).records⟩

end Course

/-- What working off some bytes has come to. -/
def Progress.of : Except Failure (Option MessageStream) → Progress
  | .ok (some _) => .underway
  | .ok none => .over none
  | .error f => .over (some f)

namespace Connection.Passes

variable {c c' c'' : Connection} {calls calls' : List Call}

theorem trans (h : c.Passes c' calls) (h' : c'.Passes c'' calls') :
    c.Passes c'' (calls ++ calls') where
  core := h'.core.trans h.core
  history := by rw [h'.history, h.history, List.append_assoc]
  received := by
    rw [h'.received, h.received, List.filterMap_append, List.length_append, Nat.add_assoc]
  dispatches := by rw [h'.dispatches, h.dispatches, List.flatMap_append, List.append_assoc]

/-- Changes that no call makes. -/
theorem of_unchanged (hcore : c'.core = c.core) (hcalls : c'.calls = c.calls)
    (hreceived : c'.received = c.received) (hdispatches : c'.dispatches = c.dispatches) :
    c.Passes c' [] where
  core := hcore
  history := by rw [hcalls, List.append_nil]
  received := hreceived
  dispatches := by rw [hdispatches, List.flatMap_nil, List.append_nil]

theorem behavior (h : c.Passes c' calls) : c'.behavior = c.behavior :=
  (congrArg Connection.behavior h.core :)

theorem registry (h : c.Passes c' calls) : c'.registry = c.registry :=
  (congrArg Connection.registry h.core :)

theorem of_takes (h : c.Takes c' calls) (hmessages : calls.filterMap Call.message? = []) :
    c.Passes c' calls where
  core := (congrArg Connection.core h.eq :)
  history := (congrArg Connection.calls h.eq :)
  received := by
    rw [hmessages]
    exact (congrArg Connection.received h.eq :)
  dispatches := (congrArg Connection.dispatches h.eq :)

end Connection.Passes

namespace Script

/-- The bytes that reads give until reading comes to an end of itself: at the end of the stream,
    with a read that fails, or with one during which the connection is closed. -/
def arriving : List Piece → Bytes
  | [] => []
  | p :: rest =>
    match p.reception with
    | .data [] => []
    | .data bs => bs ++ arriving rest
    | .fault f => if f.isTimeout then arriving rest else []
    | .closing _ => []

theorem arriving_cons_data (b : UInt8) (bs : Bytes) (starts : Bool) (rest : List Piece) :
    arriving (⟨.data (b :: bs), starts⟩ :: rest) = (b :: bs) ++ arriving rest := rfl

theorem arriving_cons_fault (f : Failure) (starts : Bool) (rest : List Piece) :
    arriving (⟨.fault f, starts⟩ :: rest) = if f.isTimeout then arriving rest else [] := rfl

/-- No read fails but for timeouts, and none of them is interrupted. -/
def Faultless (pieces : List Piece) : Prop := ∃ bytes, Gives (fun f => f.isTimeout) pieces bytes

theorem Faultless.of_data {b : UInt8} {bs : Bytes} {starts : Bool} {rest : List Piece}
    (h : Faultless (⟨.data (b :: bs), starts⟩ :: rest)) : Faultless rest := by
  rcases h with ⟨_, hgives⟩
  cases hgives with
  | data rest => exact ⟨_, rest⟩

theorem Faultless.of_fault {f : Failure} {starts : Bool} {rest : List Piece}
    (h : Faultless (⟨.fault f, starts⟩ :: rest)) : f.isTimeout ∧ Faultless rest := by
  rcases h with ⟨_, hgives⟩
  cases hgives with
  | fault hf rest => exact ⟨hf, _, rest⟩

theorem not_faultless_closing {fault : Option Failure} {starts : Bool} {rest : List Piece} :
    ¬ Faultless (⟨.closing fault, starts⟩ :: rest) := by
  rintro ⟨_, hgives⟩
  cases hgives

/-- All that is given arrives then. -/
theorem Gives.arriving {pieces : List Piece} {bytes : Bytes}
    (h : Gives (fun f => f.isTimeout) pieces bytes) : arriving pieces = bytes := by
  induction h with
  | exhausted => rfl
  | finished starts later => rfl
  | data _ ih => rw [arriving_cons_data, ih]
  | fault hf _ ih => rw [arriving_cons_fault, if_pos hf, ih]

end Script

namespace Rehearsal

/-- What reading comes to: the messages are attended to one after another, all of them unless one
    of them is the last. -/
structure Reads (sure : Prop) (messages : List Bytes) (r : Rehearsal) (p : Progress)
    (r' : Rehearsal) : Prop where
  abides : Abides r r'
  course : ∃ ms calls,
    Course r.connection.behavior r.connection.registry r.connection.received ms calls p ∧
    r.connection.Passes r'.connection calls ∧
    (r'.connection.closeRequested ↔ Call.shutdown ∈ calls) ∧ ms <+: messages ∧
    (ms = messages ∨ ms ≠ [] ∧ p ≠ .underway)
  working : p = .underway → r'.Working
  assured : sure → r.Assured → (p = .underway → r'.Assured) ∧ ∀ f, p ≠ .over (some f)

section

variable {t : Seconds} {r : Rehearsal} {sure : Prop}

/-- Reading goes on from where it has come to. -/
theorem Reads.trans {ms ms' : List Bytes} {s u : Rehearsal} {p : Progress}
    (h : Reads sure ms r .underway s) (h' : Reads sure ms' s p u) :
    Reads sure (ms ++ ms') r p u := by
  rcases h.course with ⟨done, calls, hcourse, hpasses, hrequested, -, hall⟩
  rcases h'.course with ⟨done', calls', hcourse', hpasses', hrequested', hprefix', hall'⟩
  have hdone : done = ms := hall.resolve_right fun hnot => hnot.2 rfl
  subst hdone
  -- Nobody has asked for the end as long as reading is under way.
  have hcalm : Call.shutdown ∉ calls := by
    intro hmem
    have hwanted := (h.working rfl).wanted
    rw [hrequested.mpr hmem] at hwanted
    injection hwanted
  have hreceived : s.connection.received = r.connection.received + done.length := by
    rw [hpasses.received, hcourse.messages, List.length_map]
  rw [hpasses.behavior, hpasses.registry, hreceived] at hcourse'
  refine ⟨abides_path.trans h.abides h'.abides, ⟨done ++ done', calls ++ calls',
    hcourse.append hcourse', hpasses.trans hpasses', ?_, ?_, ?_⟩, h'.working, ?_⟩
  · rw [hrequested', List.mem_append]
    exact ⟨.inr, fun hmem => hmem.resolve_left hcalm⟩
  · exact (List.prefix_append_right_inj done).mpr hprefix'
  · rcases hall' with hall' | ⟨hne, hover⟩
    · exact .inl (by rw [hall'])
    · exact .inr ⟨List.append_ne_nil_of_right_ne_nil done hne, hover⟩
  · exact fun hsure hassured => h'.assured hsure ((h.assured hsure hassured).1 rfl)

theorem Reads.behavior {ms : List Bytes} {s : Rehearsal} {p : Progress} (h : Reads sure ms r p s) :
    s.connection.behavior = r.connection.behavior := by
  rcases h.course with ⟨_, calls, _, hpasses, _⟩
  exact hpasses.behavior

/-- A step before reading that leaves the connection as it is. -/
theorem Reads.of_same {ms : List Bytes} {s u : Rehearsal} {p : Progress} (h : Reads sure ms s p u)
    (habides : Abides r s) (hconnection : s.connection = r.connection) : Reads sure ms r p u := by
  rcases h with ⟨habides', hcourse, hworking, hassured⟩
  rw [hconnection] at hcourse
  refine ⟨abides_path.trans habides habides', hcourse, hworking, fun hsure h => hassured hsure ?_⟩
  exact h.of_abides habides (by rw [hconnection]) (by rw [hconnection])
    (by rw [hconnection]; exact h.hasSocket)

/-- Nothing has been done, and there is something to wait for. -/
theorem Reads.of_unchanged {r' : Rehearsal} (h : r.Working) (habides : Abides r r')
    (hpasses : r.connection.Passes r'.connection [])
    (hwanted : r'.connection.closeRequested = r.connection.closeRequested)
    (hsocket : r'.connection.hasSocket = r.connection.hasSocket)
    (hstatus : r'.connection.status = r.connection.status) : Reads sure [] r .underway r' where
  abides := habides
  course := ⟨[], [], .idle, hpasses, ⟨fun hr => by
    rw [hwanted, h.wanted] at hr
    injection hr, fun hmem => absurd hmem List.not_mem_nil⟩, List.nil_prefix, .inl rfl⟩
  working _ := by
    refine ⟨habides.interruptions.trans h.alone, hwanted.trans h.wanted, hsocket.trans h.hasSocket,
      ?_, ?_, ?_⟩
    · rw [Connection.isOpen, hstatus]
      exact h.isOpen
    · rw [hpasses.behavior]
      exact h.terminated
    · rw [hpasses.behavior,
        show r'.connection.expectation = r.connection.expectation from
          (congrArg Connection.expectation hpasses.core :)]
      exact h.judges
  assured _ hassured := ⟨fun _ => hassured.of_abides habides
    (congrArg Connection.hooks hpasses.core :) (congrArg Connection.worker hpasses.core :)
    (hsocket.trans h.hasSocket), fun _ hp => by injection hp⟩

theorem Reads.of_pending (h : r.Working) (rest : Bytes) :
    Reads sure [] r .underway (update (fun c => { c with pending := rest }) r) :=
  Reads.of_unchanged h ⟨rfl, List.Subset.refl _, rfl, rfl⟩
    (Connection.Passes.of_unchanged rfl rfl rfl rfl) rfl rfl rfl

/-- What working off the bytes of one read comes to. If reading does not go on it has stopped at
    a message, and it does not matter what would have come after it. -/
structure WorksThrough (messages : List Bytes) (rest : Bytes) (r : Rehearsal)
    (out : Except Failure (Option MessageStream) × Rehearsal) : Prop where
  goesOn : ∀ s, out.1 = .ok (some s) →
    s = .holding r.connection.behavior.terminator.length rest ∧
      Reads True messages r .underway out.2
  stops : ∀ end?, Progress.of out.1 = .over end? → ∀ more,
    Reads True (messages ++ more) r (.over end?) out.2

/-- One message after which there is something to wait for, before others. -/
theorem WorksThrough.after {ms ms' : List Bytes} {rest : Bytes} {s : Rehearsal}
    {out : Except Failure (Option MessageStream) × Rehearsal} (hfirst : Reads True ms r .underway s)
    (hbehavior : s.connection.behavior = r.connection.behavior) (h : WorksThrough ms' rest s out) :
    WorksThrough (ms ++ ms') rest r out := by
  refine ⟨fun x hx => ?_, fun end? hend more => ?_⟩
  · rcases h.goesOn x hx with ⟨hx, hreads⟩
    rw [hbehavior] at hx
    exact ⟨hx, hfirst.trans hreads⟩
  · rw [List.append_assoc]
    exact hfirst.trans (h.stops end? hend more)

/-- A message after which the connection is not open any more, or at which something fails. -/
theorem Tends.stops {m : Bytes} {res : Except Failure Unit} {r' : Rehearsal}
    (h : Tends m r (res, r')) {p : Except Failure (Option MessageStream)}
    (hp : Progress.of p = .over (Act.failureOf res)) (ms : List Bytes) (rest : Bytes) :
    WorksThrough (m :: ms) rest r (p, r') := by
  rcases h.calls with ⟨calls, hpasses, htended, hrequested, -⟩
  refine ⟨fun x hx => ?_, fun end? hend more => ⟨h.abides, ⟨[m], calls, ?_, hpasses, hrequested,
    ?_, .inr ⟨List.cons_ne_nil _ _, fun hnot => by injection hnot⟩⟩, fun hnot => by injection hnot,
    fun _ hassured => ⟨fun hnot => by injection hnot, fun f hf => ?_⟩⟩⟩
  · rw [show p = .ok (some x) from hx] at hp
    injection hp
  · rw [show Progress.of p = .over end? from hend] at hp
    rw [hp]
    exact .last htended
  · exact (List.prefix_cons_inj m).mpr List.nil_prefix
  · have hok : res = .ok () := (h.ok hassured).1
    rw [show Progress.of p = .over end? from hend, hf, hok] at hp
    injection hp with hp
    injection hp

/-- A message after which the connection is still open. -/
theorem Tends.reads {m : Bytes} {r' : Rehearsal} (hr : r.Working) (h : Tends m r (.ok (), r'))
    (hopen : r'.connection.isOpen) : Reads True [m] r .underway r' := by
  rcases h.calls with ⟨calls, hpasses, htended, hrequested, hlive⟩
  rcases hlive hopen with ⟨hwanted, hsocket⟩
  have hcalm : Call.shutdown ∉ calls := by
    intro hmem
    have hr := hrequested.mpr hmem
    rw [hwanted] at hr
    injection hr
  refine ⟨h.abides, ⟨[m], calls, ?_, hpasses, hrequested, List.prefix_rfl, .inl rfl⟩, fun _ => ?_,
    fun _ hassured => ⟨fun _ => (h.ok hassured).2, fun _ hp => by injection hp⟩⟩
  · rw [← List.append_nil calls]
    exact .message htended hcalm .idle
  · refine ⟨h.abides.interruptions.trans hr.alone, hwanted, hsocket, hopen, ?_, ?_⟩
    · rw [hpasses.behavior]
      exact hr.terminated
    · rw [hpasses.behavior,
        show r'.connection.expectation = r.connection.expectation from
          (congrArg Connection.expectation hpasses.core :)]
      exact hr.judges

/-- A complete message goes through its cycle before the next byte is taken. -/
theorem message_worksThrough (h : r.Working) (m rest : Bytes) {ms : List Bytes} {left : Bytes}
    (hlater : ∀ r', r'.Working → r'.connection.behavior = r.connection.behavior →
      WorksThrough ms left r' ((Connection.work (surroundings t) false
        (.holding r.connection.behavior.terminator.length []) rest).runFrom r')) :
    WorksThrough (m :: ms) left r ((do
      Connection.change (surroundings t) fun c => { c with pending := rest }
      Connection.complete (surroundings t)
        (.holding r.connection.behavior.terminator.length m)
      let c ← Connection.current (surroundings t)
      if false || !c.isOpen then return none
      else Connection.work (surroundings t) false c.freshStream rest).runFrom r) := by
  have hpending : Reads True [] r .underway (update (fun c => { c with pending := rest }) r) :=
    Reads.of_pending h rest
  have hcycle := complete_tends (t := t) (hpending.working rfl) m
  rw [Act.runFrom_bind_ok (change_runFrom _)]
  rw [← List.nil_append (m :: ms)]
  refine WorksThrough.after hpending rfl ?_
  rw [Act.runFrom_bind]
  rcases hrun : (Connection.complete (surroundings t)
    (.holding r.connection.behavior.terminator.length m)).runFrom
      (update (fun c => { c with pending := rest }) r) with ⟨res, r'⟩
  have htends : Tends m (update (fun c => { c with pending := rest }) r) (res, r') := hrun ▸ hcycle
  cases res with
  | error f => exact htends.stops (p := .error f) rfl ms left
  | ok _ =>
      dsimp only
      rw [Act.runFrom_bind_ok (current_runFrom (htends.abides.interruptions.trans h.alone))]
      by_cases hopen : r'.connection.isOpen
      · rw [hopen]
        have hreads := htends.reads (hpending.working rfl) hopen
        have hbehavior : r'.connection.behavior = r.connection.behavior := by
          rcases htends.calls with ⟨calls, hpasses, -⟩
          exact hpasses.behavior
        refine WorksThrough.after hreads hbehavior ?_
        have hlater' := hlater r' (hreads.working rfl) hbehavior
        rw [← hbehavior] at hlater'
        exact hlater'
      · rw [Bool.eq_false_iff.mpr hopen]
        exact htends.stops (p := .ok none) rfl ms left

/-- Bytes are worked off as the pass over them says. -/
theorem work_worksThrough (h : r.Working) (begun bytes : Bytes) :
    WorksThrough (Framing.split r.connection.behavior.terminator begun bytes).1
      (Framing.split r.connection.behavior.terminator begun bytes).2 r
      ((Connection.work (surroundings t) false
        (.holding r.connection.behavior.terminator.length begun) bytes).runFrom r) := by
  induction bytes generalizing r begun with
  | nil =>
      have hreads : Reads True [] r .underway (update (fun c => { c with pending := [] }) r) :=
        Reads.of_pending h []
      have hworking := hreads.working rfl
      rw [Connection.work, Act.runFrom_bind_ok (change_runFrom _),
        proceed_live hworking.alone hworking.wanted hworking.hasSocket, Framing.split_nil]
      refine ⟨fun s hs => ?_, fun end? hend => by injection hend⟩
      injection hs with hs
      injection hs with hs
      exact ⟨hs.symm, hreads⟩
  | cons b rest ih =>
      have hends := MessageStream.isTerminated_holding h.terminated (begun ++ [b])
      rw [Connection.work, MessageStream.push_holding, Act.runFrom_bind_ok (current_runFrom h.alone)]
      by_cases hmessage : r.connection.behavior.terminator <:+ begun ++ [b]
      · rw [Framing.split_cons_of_suffix hmessage, if_pos (hends.mpr hmessage)]
        refine message_worksThrough h (begun ++ [b]) rest fun r' h' hbehavior => ?_
        have hrest := ih h' []
        rwa [hbehavior] at hrest
      · -- The byte is only added to the part begun, which is no change of the connection.
        rw [Framing.split_cons_of_not_suffix hmessage]
        rw [if_neg fun hterminated => hmessage (hends.mp hterminated)]
        exact ih h (begun ++ [b])

/-! ### One read after another -/

theorem Reads.mono {sure' : Prop} {ms : List Bytes} {r' : Rehearsal} {p : Progress}
    (h : Reads sure ms r p r') (himp : sure' → sure) : Reads sure' ms r p r' :=
  ⟨h.abides, h.course, h.working, fun hsure => h.assured (himp hsure)⟩

theorem receive_passes (r : Rehearsal) (fault : Option Failure) :
    r.connection.Passes (r.recording (.receive fault)).connection [.receive fault] :=
  Connection.Passes.of_takes (by rw [recording_connection rfl]; exact .one _ rfl) rfl

/-- Nobody has asked for the end of a connection that works. -/
theorem Working.requested_iff (h : r.Working) {calls : List Call} (hcalls : Call.shutdown ∉ calls) :
    r.connection.closeRequested ↔ Call.shutdown ∈ calls := by
  refine ⟨fun hr => ?_, fun hmem => absurd hmem hcalls⟩
  rw [h.wanted] at hr
  injection hr

theorem shutdown_notMem_receive (fault : Option Failure) : Call.shutdown ∉ [Call.receive fault] :=
  fun hmem => absurd (List.mem_singleton.mp hmem) Call.noConfusion

/-- A read as such does nothing for any message. -/
theorem Reads.of_receive (h : r.Working) (fault : Option Failure) :
    Reads sure [] r .underway (r.recording (.receive fault)) where
  abides := ⟨rfl, List.Subset.refl _, rfl, rfl⟩
  course := ⟨[], _, .read fault .idle, receive_passes r fault,
    h.requested_iff (shutdown_notMem_receive fault), List.nil_prefix, .inl rfl⟩
  working _ := ⟨h.alone, h.wanted, h.hasSocket, h.isOpen, h.terminated, h.judges⟩
  assured _ hassured := ⟨fun _ => hassured.of_abides ⟨rfl, List.Subset.refl _, rfl, rfl⟩ rfl rfl
    h.hasSocket, fun _ hp => by injection hp⟩

/-- A read that fails ends the reading. -/
theorem Reads.of_failed (h : r.Working) (f : Failure) (hsure : ¬ sure) :
    Reads sure [] r (.over (some f)) (r.recording (.receive (some f))) where
  abides := ⟨rfl, List.Subset.refl _, rfl, rfl⟩
  course := ⟨[], _, .readFailed f, receive_passes r (some f),
    h.requested_iff (shutdown_notMem_receive (some f)), List.nil_prefix, .inl rfl⟩
  working hp := by injection hp
  assured hs := absurd hs hsure

/-- The peer has finished, or reading ends as if it had. -/
theorem finish_runFrom (h : r.interruptions = []) (begun : MessageStream) :
    ∃ r', (Connection.finish (surroundings t) begun).runFrom r = (.ok (), r') ∧ Abides r r' ∧
      r'.connection = { r.connection with status := .closed } := by
  rw [Connection.finish]
  split
  · exact ⟨_, Act.runFrom_bind_ok (log_runFrom h _ _ _) _, ⟨rfl, List.Subset.refl _, rfl, rfl⟩, rfl⟩
  · exact ⟨_, Act.runFrom_bind_ok (log_runFrom h _ _ _) _, ⟨rfl, List.Subset.refl _, rfl, rfl⟩, rfl⟩

theorem Reads.of_finished {r' : Rehearsal} (h : r.Working) (habides : Abides r r')
    (hconnection : r'.connection = { r.connection with status := .closed }) :
    Reads sure [] r (.over none) r' where
  abides := habides
  course := by
    refine ⟨[], [], .finished, ?_, ?_, List.nil_prefix, .inl rfl⟩
    · rw [hconnection]
      exact Connection.Passes.of_unchanged rfl rfl rfl rfl
    · rw [hconnection]
      exact h.requested_iff List.not_mem_nil
  working hp := by injection hp
  assured _ _ := ⟨fun hp => by injection hp, fun f hp => by injection hp with hp; injection hp⟩

/-- The connection has been closed during a read, and reading ends somehow. -/
theorem Reads.of_closing (h : r.Working) {fault : Option Failure} {r₁ r' : Rehearsal}
    (hasked : Asked (r.recording (.receive fault)) r₁) (habides : Abides r₁ r')
    {status : ConnectionStatus}
    (hconnection : r'.connection = { r₁.connection with status := status })
    (end? : Option Failure) (hsure : ¬ sure) : Reads sure [] r (.over end?) r' := by
  rcases hasked.calls with ⟨calls, htakes, hending⟩
  have hmessages : calls.filterMap Call.message? = [] := (Attempts.of_ending hending).messages rfl
  have hpasses := (receive_passes r fault).trans (Connection.Passes.of_takes htakes hmessages)
  have hread : Abides r (r.recording (.receive fault)) := ⟨rfl, List.Subset.refl _, rfl, rfl⟩
  refine ⟨abides_path.trans hread (abides_path.trans hasked.abides habides),
    ⟨[], .receive fault :: calls, .closing hending, ?_, ?_, List.nil_prefix, .inl rfl⟩,
    fun hp => by injection hp, fun hs => absurd hs hsure⟩
  · rw [hconnection]
    exact ⟨hpasses.core, hpasses.history, hpasses.received, hpasses.dispatches⟩
  · rw [hconnection, List.mem_cons]
    refine (htakes.requested_iff h.wanted h.hasSocket).1.trans ⟨.inr, fun hmem => ?_⟩
    exact hmem.resolve_left Call.noConfusion

/-- Somebody closes the connection during a read, which then gives nothing or fails. -/
theorem closing_reads (h : r.Working) (begun : MessageStream) (fault : Option Failure)
    (hsure : ¬ sure) :
    ∃ res r', (Connection.receive (surroundings t) false begun (.closing fault)).runFrom r =
        (res, r') ∧ (∀ s, res ≠ .ok (some s)) ∧ Reads sure [] r (Progress.of res) r' := by
  have hasked := close_asks t (r.recording (.receive fault)) h.alone
  rw [receive_runFrom, Reception.fault?, Connection.takeIn]
  rcases hclose : (Connection.close (surroundings t)).runFrom (r.recording (.receive fault)) with
    ⟨f | _, r₁⟩
  · rw [hclose] at hasked
    rw [Act.runFrom_bind_error hclose]
    exact ⟨_, r₁, rfl, fun s hs => by injection hs,
      Reads.of_closing h hasked (abides_path.refl r₁) rfl _ hsure⟩
  · rw [hclose] at hasked
    rw [Act.runFrom_bind_ok hclose]
    rcases finish_runFrom (t := t) (hasked.abides.interruptions.trans h.alone) begun with
      ⟨r₂, hfinish, habides, hconnection⟩
    have hfinished : Reads sure [] r (.over none) r₂ :=
      Reads.of_closing h hasked habides hconnection _ hsure
    -- A read that times out or gives nothing ends as at the end of the stream.
    cases fault with
    | none =>
        refine ⟨.ok none, r₂, Act.runFrom_bind_ok hfinish _, fun s hs => ?_, hfinished⟩
        injection hs with hs
        injection hs
    | some f =>
        dsimp only
        by_cases htimeout : f.isTimeout
        · rw [if_pos htimeout]
          refine ⟨.ok none, r₂, Act.runFrom_bind_ok hfinish _, fun s hs => ?_, hfinished⟩
          injection hs with hs
          injection hs
        · rw [if_neg htimeout]
          exact ⟨.error f, r₁, rfl, fun s hs => by injection hs,
            Reads.of_closing h hasked (abides_path.refl r₁) rfl _ hsure⟩

/-- The read that finds the end of the stream is the last one. -/
theorem end_reads (h : r.Working) (begun : MessageStream) :
    ∃ r', (Connection.receive (surroundings t) false begun (.data [])).runFrom r = (.ok none, r') ∧
      Reads sure [] r (.over none) r' := by
  have hread : Reads sure [] r .underway (r.recording (.receive none)) := Reads.of_receive h none
  rcases finish_runFrom (t := t) (hread.working rfl).alone begun with
    ⟨r', hfinish, habides, hconnection⟩
  refine ⟨r', ?_, hread.trans (Reads.of_finished (hread.working rfl) habides hconnection)⟩
  rw [receive_runFrom]
  exact Act.runFrom_bind_ok hfinish _

/-- A read that timed out is only logged. -/
theorem timeout_reads (sure : Prop) (h : r.Working) (begun : MessageStream) {f : Failure}
    (hf : f.isTimeout) :
    ∃ r', (Connection.receive (surroundings t) false begun (.fault f)).runFrom r =
        (.ok (some begun), r') ∧ r'.connection.behavior = r.connection.behavior ∧
      Reads sure [] r .underway r' := by
  have hread : Reads sure [] r .underway (r.recording (.receive (some f))) :=
    Reads.of_receive h (some f)
  generalize hr₁ : r.recording (.receive (some f)) = r₁ at hread
  have h₁ := hread.working rfl
  have hlogged : ∀ o, Reads sure [] r₁ .underway (r₁.noting o) := fun o =>
    Reads.of_unchanged h₁ (note_abides o r₁) (Connection.Passes.of_unchanged rfl rfl rfl rfl)
      rfl rfl rfl
  rw [receive_runFrom, Reception.fault?, hr₁, Connection.takeIn, if_pos hf]
  refine ⟨r₁.noting (r₁.connection.entry .warning "connection_read_timeout"
    [.seconds "timeout_sec" r₁.connection.readTimeout]),
    (Act.runFrom_bind_ok (current_runFrom h₁.alone) _).trans ?_, ?_, hread.trans (hlogged _)⟩
  · have h₂ := (hlogged (r₁.connection.entry .warning "connection_read_timeout"
      [.seconds "timeout_sec" r₁.connection.readTimeout])).working rfl
    rw [h₁.wanted]
    exact (Act.runFrom_bind_ok (log_runFrom h₁.alone _ _ _) _).trans
      (proceed_live h₂.alone h₂.wanted h₂.hasSocket begun)
  · rw [← hr₁]
    rfl

/-- Taking a piece of the script is nothing that reading does. -/
theorem Working.taking (h : r.Working) (later : List Script.Piece) :
    ({ r with unread := later } : Rehearsal).Working :=
  ⟨h.alone, h.wanted, h.hasSocket, h.isOpen, h.terminated, h.judges⟩

theorem Reads.of_taking {later : List Script.Piece} {ms : List Bytes} {p : Progress}
    {r' : Rehearsal} (h : Reads sure ms { r with unread := later } p r') : Reads sure ms r p r' :=
  h.of_same ⟨rfl, List.Subset.refl _, rfl, rfl⟩ rfl

/-- What reading to the end comes to. -/
def ReadsOut (sure : Prop) (messages : List Bytes) (r : Rehearsal)
    (out : Except Failure Unit × Rehearsal) : Prop :=
  Reads sure messages r (.over (Act.failureOf out.1)) out.2

/-- All that is read is worked off as the pass over it says, up to the last message. -/
theorem readOn_reads (h : r.Working) (begun : Bytes) (pieces : List Script.Piece) :
    ReadsOut (Script.Faultless pieces)
      (Framing.split r.connection.behavior.terminator begun (Script.arriving pieces)).1 r
      ((readOn (surroundings t) false
        (.holding r.connection.behavior.terminator.length begun) pieces).runFrom r) := by
  induction pieces generalizing r begun with
  | nil =>
      rcases end_reads (t := t) h (.holding r.connection.behavior.terminator.length begun) with
        ⟨r', hreceive, hreads⟩
      rw [readOn, Act.runFrom_bind_ok hreceive]
      exact hreads
  | cons p rest ih =>
      rcases p with ⟨reception, starts⟩
      have htaken := h.taking rest
      rw [readOn, Act.runFrom_bind_ok (Act.runFrom_modify _ r)]
      cases reception with
      | data bs =>
          cases bs with
          | nil =>
              rcases end_reads (t := t) htaken
                (.holding r.connection.behavior.terminator.length begun) with ⟨r', hreceive, hreads⟩
              rw [Act.runFrom_bind_ok hreceive]
              exact hreads.of_taking
          | cons b bs =>
              have hread : Reads (Script.Faultless (⟨.data (b :: bs), starts⟩ :: rest)) [] r .underway
                  (({ r with unread := rest } : Rehearsal).recording (.receive none)) :=
                (Reads.of_receive htaken none).of_taking
              have hworks := work_worksThrough (t := t) (hread.working rfl) begun (b :: bs)
              rw [Act.runFrom_bind, Script.arriving_cons_data, Framing.split_append]
              rcases hrun : (Connection.receive (surroundings t) false
                (.holding r.connection.behavior.terminator.length begun) (.data (b :: bs))).runFrom
                  { r with unread := rest } with ⟨res, r'⟩
              have hout : WorksThrough
                  (Framing.split r.connection.behavior.terminator begun (b :: bs)).1
                  (Framing.split r.connection.behavior.terminator begun (b :: bs)).2 _ (res, r') :=
                ((receive_runFrom _ _).symm.trans hrun) ▸ hworks
              generalize Framing.split r.connection.behavior.terminator begun (b :: bs) = done
                at hout ⊢
              -- A read comes to a failure, to a connection that has closed, or to more reads.
              rcases res with f | _ | s
              · exact hread.trans ((hout.stops _ rfl _).mono fun _ => trivial)
              · exact hread.trans ((hout.stops _ rfl _).mono fun _ => trivial)
              · rcases hout.goesOn s rfl with ⟨rfl, hreads⟩
                have hlater := ih (hreads.working rfl) done.2
                rw [hreads.behavior] at hlater
                exact hread.trans ((hreads.mono fun _ => trivial).trans
                  (hlater.mono Script.Faultless.of_data))
      | fault f =>
          by_cases hf : f.isTimeout
          · -- Reading goes on part way through the same message.
            rcases timeout_reads (t := t) (Script.Faultless rest) htaken
              (.holding r.connection.behavior.terminator.length begun) hf with
              ⟨r', hreceive, hbehavior, hreads⟩
            have hlater := ih (hreads.working rfl) begun
            rw [hbehavior] at hlater
            rw [Act.runFrom_bind_ok hreceive, Script.arriving_cons_fault, if_pos hf]
            exact (hreads.trans hlater).of_taking.mono fun hsure => hsure.of_fault.2
          · rw [Act.runFrom_bind_error (receive_failed _ hf), Script.arriving_cons_fault, if_neg hf]
            exact (Reads.of_failed htaken f fun hsure => hf hsure.of_fault.1).of_taking
      | closing fault =>
          rcases closing_reads (t := t) htaken
            (.holding r.connection.behavior.terminator.length begun) fault
            Script.not_faultless_closing with ⟨res, r', hreceive, hends, hreads⟩
          rw [Act.runFrom_bind, hreceive]
          rcases res with f | _ | s
          · exact hreads.of_taking
          · exact hreads.of_taking
          · exact absurd rfl (hends s)

/-- A connection that starts to read has nothing pending. -/
theorem read_reads (h : r.Working) (hpending : r.connection.pending = []) :
    ReadsOut (Script.Faultless r.unread)
      (Framing.split r.connection.behavior.terminator [] (Script.arriving r.unread)).1 r
      ((read (surroundings t) false).runFrom r) := by
  have hfirst : Reads (Script.Faultless r.unread) [] r .underway
      (update (fun c => { c with pending := [] }) r) := Reads.of_pending h []
  have hworking := hfirst.working rfl
  have hbegin : (Connection.begin (surroundings t) false).runFrom r =
      (.ok (some (.holding r.connection.behavior.terminator.length [])),
        update (fun c => { c with pending := [] }) r) := by
    rw [Connection.begin, Act.runFrom_bind_ok (current_runFrom h.alone), h.isOpen, hpending]
    exact proceed_live hworking.alone hworking.wanted hworking.hasSocket _
  rw [read, Act.runFrom_bind_ok hbegin]
  exact hfirst.trans (readOn_reads hworking [] r.unread)

end

end Rehearsal

end MockHost
