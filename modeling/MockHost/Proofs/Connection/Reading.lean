import MockHost.Proofs.Connection.Serving
import MockHost.Proofs.Scripted.Bytes

/-!
# Reading a Peer to the End

A connection works off the bytes of its peer one read after another. Between two
reads it is part way through a message, and all it keeps of what it has read is the
part begun. This part is the invariant of the whole run: it is what the pass over
all the bytes has begun where the reads have come to so far, and the deeds done are
those for the messages that the pass has cut off.

So a read adds the messages that the pass cuts off its bytes, a timeout adds
nothing, and the end of the stream leaves the remainder. How the bytes are cut into
reads never enters.

## Main definitions

* `Connection.discarded`: What is logged of the remainder at the end of the stream.
* `Rehearsal.WorksOff`: What working off the bytes of one read comes to.
* `Rehearsal.ReadsAll`: What reading to the end comes to.

## Theorems

* `Rehearsal.Proceeds.received`: What is counted are the messages attended to.
* `Rehearsal.work_worksOff`: Bytes are worked off as the pass over them says.
* `Rehearsal.readOn_readsAll`: So is all that is read.
-/

namespace MockHost

/-- What is logged of the bytes that the peer has begun a message with when it finishes. -/
def Connection.discarded (c : Connection) (rest : Bytes) : List (List LogField) :=
  if rest = [] then []
  else
    [[.int "server_port" c.serverPort, .text "peer" c.peer.shown, .nat "size" rest.length,
      .text "preview" (Bytes.hex (rest.take previewLength))]]

/-- The message that a deed calls the hooks with. -/
def Deed.message? : Deed → Option MessageStream
  | .hooks (.onMessage m) _ _ => some m
  | _ => none

theorem Call.message?_eq_bind (call : Call) : call.message? = call.deed?.bind Deed.message? := by
  cases call with
  | hooks call n m => cases call <;> rfl
  | send data fault => cases fault <;> rfl
  | _ => rfl

theorem Call.filterMap_message? (calls : List Call) :
    calls.filterMap Call.message? = (calls.filterMap Call.deed?).filterMap Deed.message? := by
  rw [List.filterMap_filterMap]
  exact List.filterMap_congr fun call _ => call.message?_eq_bind

namespace Behavior

theorem attended_nil (b : Behavior) : b.attended [] = [] := by
  rw [attended, List.take_nil, ite_self]

theorem attended_cons (b : Behavior) (m : Bytes) (ms : List Bytes) :
    b.attended (m :: ms) = m :: if b.closeAfterNext then [] else ms := by
  by_cases hclose : b.closeAfterNext
  · rw [attended, if_pos hclose, if_pos hclose]
    rfl
  · rw [attended, if_neg hclose, if_neg hclose]

theorem attended_of_stays {b : Behavior} (h : b.closeAfterNext = false) (ms : List Bytes) :
    b.attended ms = ms := by
  rw [attended, h]
  rfl

/-- While the connection has not closed, later messages are attended to as if there had been
    no earlier ones. -/
theorem attended_append {b : Behavior} {ms : List Bytes} (h : b.closeAfterNext → ms = [])
    (ms' : List Bytes) : b.attended (ms ++ ms') = ms ++ b.attended ms' := by
  by_cases hclose : b.closeAfterNext
  · rw [h hclose]
    rfl
  · rw [attended_of_stays (Bool.eq_false_iff.mpr hclose),
      attended_of_stays (Bool.eq_false_iff.mpr hclose)]

/-- Once it has closed, no later message is attended to. -/
theorem attended_append_of_closed {b : Behavior} {ms : List Bytes} (h : b.closeAfterNext)
    (hne : ms ≠ []) (ms' : List Bytes) : b.attended (ms ++ ms') = b.attended ms := by
  rcases List.exists_cons_of_ne_nil hne with ⟨m, more, rfl⟩
  rw [List.cons_append, attended_cons, attended_cons, if_pos h, if_pos h]

/-- More messages only add to those that are attended to. -/
theorem attended_prefix (b : Behavior) (ms ms' : List Bytes) :
    ∃ more, b.attended (ms ++ ms') = b.attended ms ++ more := by
  by_cases hclose : b.closeAfterNext
  · cases ms with
    | nil => exact ⟨b.attended ms', by rw [attended_nil]; rfl⟩
    | cons m ms =>
        refine ⟨[], ?_⟩
        rw [attended_append_of_closed hclose (List.cons_ne_nil m ms), List.append_nil]
  · have hstays := Bool.eq_false_iff.mpr hclose
    exact ⟨ms', by rw [attended_of_stays hstays, attended_of_stays hstays]⟩

theorem attended_self {b : Behavior} {ms : List Bytes} (h : b.closeAfterNext → ms = []) :
    b.attended ms = ms := by
  have happend := attended_append h []
  rwa [attended_nil, List.append_nil] at happend

theorem messages_answering (b : Behavior) (count : Nat) (m : Bytes) :
    (b.answering count m).filterMap Deed.message? = [] := by
  rw [answering]
  split
  · rfl
  · rfl

theorem messages_forwarding (deliveries : List Delivery) :
    (forwarding deliveries).filterMap Deed.message? = [] := by
  rw [forwarding]
  split
  · rfl
  · rfl

/-- The hooks are called with each message once, in order. -/
theorem messages_cycles (b : Behavior) (registry : Option Registry) (count : Nat)
    (ms : List Bytes) :
    (b.cycles registry count ms).filterMap Deed.message? =
      ms.map (MessageStream.holding b.terminator.length) := by
  induction ms generalizing count with
  | nil => rfl
  | cons m ms ih =>
      have hrest : (b.answering (count + 1) m ++
          forwarding (b.deliveriesFor registry m)).filterMap Deed.message? = [] := by
        rw [List.filterMap_append, messages_answering, messages_forwarding]
        rfl
      rw [cycles, List.filterMap_append, ih, cycle, List.filterMap_cons, hrest]
      rfl

end Behavior

namespace Rehearsal

/-- What is counted are the messages attended to, if nothing has failed. -/
theorem Proceeds.received {found : List (List LogField)} {r s : Rehearsal} {ms : List Bytes}
    {b : Behavior} {registry : Option Registry} {n : Nat}
    (h : Proceeds found (b.cycles registry n ms) r s none) :
    s.connection.received = r.connection.received + ms.length := by
  rcases h.calls with ⟨calls, hfollows, hperforms⟩
  rw [hfollows.received, Call.filterMap_message?, hperforms.deeds_eq, Behavior.messages_cycles,
    List.length_map]

/-- What working off the bytes of one read comes to: the messages that the bytes complete are
    attended to, and unless the connection closes reading goes on from what is left over. -/
structure WorksOff (messages : List Bytes) (rest : Bytes) (r : Rehearsal)
    (out : Except Failure (Option MessageStream) × Rehearsal) : Prop where
  proceeds : Proceeds [] (r.connection.behavior.cycles r.connection.registry
    r.connection.received (r.connection.behavior.attended messages)) r out.2
    (Act.failureOf out.1)
  goesOn : ∀ s, out.1 = .ok (some s) →
    s = .holding r.connection.behavior.terminator.length rest ∧
      (r.connection.behavior.closeAfterNext → messages = []) ∧ out.2.connection.isOpen
  stops : out.1 = .ok none → r.connection.behavior.closeAfterNext ∧ messages ≠ []
  ok : r.Sound → ∃ x, out.1 = .ok x

section

variable {t : Seconds} {r : Rehearsal}

/-- There is something to wait for unless somebody has closed the connection. -/
theorem proceed_live (h : r.interruptions = []) (hwanted : r.connection.closeRequested = false)
    (hsocket : r.connection.hasSocket) (begun : MessageStream) :
    (Connection.proceed (surroundings t) begun).runFrom r = (.ok (some begun), r) := by
  have hlive : (r.connection.closeRequested || !r.connection.hasSocket) = false := by
    rw [hwanted, hsocket]
    rfl
  rw [Connection.proceed, Act.runFrom_bind_ok (current_runFrom h), hlive]
  rfl

theorem proceed_runFrom (h : r.Serving) (begun : MessageStream) :
    (Connection.proceed (surroundings t) begun).runFrom r = (.ok (some begun), r) :=
  proceed_live h.alone h.wanted h.hasSocket begun

/-- One more message before those that were worked off. -/
theorem WorksOff.cons {m rest : Bytes} {ms : List Bytes} {r' : Rehearsal}
    {out : Except Failure (Option MessageStream) × Rehearsal}
    (hstays : r.connection.behavior.closeAfterNext = false)
    (hfirst : Proceeds [] (r.connection.behavior.cycle r.connection.registry
      (r.connection.received + 1) m) r r' none)
    (hreceived : r'.connection.received = r.connection.received + 1)
    (h : WorksOff ms rest r' out) : WorksOff (m :: ms) rest r out := by
  rcases h with ⟨hproceeds, hgoesOn, hstops, hok⟩
  rw [hfirst.behavior] at hproceeds hgoesOn hstops
  rw [hfirst.registry, hreceived, Behavior.attended_of_stays hstays] at hproceeds
  have hnot : ¬ r.connection.behavior.closeAfterNext = true := Bool.eq_false_iff.mp hstays
  refine ⟨?_, fun s hs => ?_, fun hnone => absurd (hstops hnone).1 hnot,
    fun hsound => hok (hfirst.sound hsound)⟩
  · rw [Behavior.attended_of_stays hstays, Behavior.cycles]
    exact hfirst.trans hproceeds
  · rcases hgoesOn s hs with ⟨hrest, -, hopen⟩
    exact ⟨hrest, fun hclose => absurd hclose hnot, hopen⟩

/-- The connection has closed after its message, or the message has failed. -/
theorem WorksOff.of_last {m rest : Bytes} {ms : List Bytes} {r' : Rehearsal}
    {res : Except Failure (Option MessageStream)}
    (hfirst : Proceeds [] (r.connection.behavior.cycle r.connection.registry
      (r.connection.received + 1) m) r r' (Act.failureOf res))
    (hres : (∃ f, res = .error f) ∨ res = .ok none ∧ r.connection.behavior.closeAfterNext)
    (hok : r.Sound → ∃ x, res = .ok x) : WorksOff (m :: ms) rest r (res, r') := by
  rcases hres with ⟨f, rfl⟩ | ⟨rfl, hclose⟩
  · refine ⟨?_, fun s hs => by injection hs, fun hs => by injection hs, hok⟩
    rw [Behavior.attended_cons, Behavior.cycles]
    exact hfirst.extend _
  · refine ⟨?_, fun s hs => by injection hs with hs; injection hs,
      fun _ => ⟨hclose, List.cons_ne_nil m ms⟩, hok⟩
    rw [Behavior.attended_cons, if_pos hclose, Behavior.cycles, Behavior.cycles, List.append_nil]
    exact hfirst

/-- A complete message goes through its cycle before the next byte is taken. -/
theorem message_worksOff (h : r.Serving) (hopen : r.connection.isOpen) (m rest : Bytes)
    {ms : List Bytes} {left : Bytes}
    (hlater : ∀ r', r'.Serving → r'.connection.isOpen →
      r'.connection.behavior = r.connection.behavior →
      WorksOff ms left r' ((Connection.work (surroundings t) false
        (.holding r.connection.behavior.terminator.length []) rest).runFrom r')) :
    WorksOff (m :: ms) left r ((do
      Connection.change (surroundings t) fun c => { c with pending := rest }
      Connection.complete (surroundings t)
        (.holding r.connection.behavior.terminator.length m)
      let c ← Connection.current (surroundings t)
      if false || !c.isOpen then return none
      else Connection.work (surroundings t) false c.freshStream rest).runFrom r) := by
  have hpending : Proceeds [] [] r (update (fun c => { c with pending := rest }) r) none :=
    Proceeds.of_unchanged (Discarding.update _ r) rfl rfl rfl rfl
  have hcycle := complete_completes (t := t) (h.proceeds hpending) m
  rw [Act.runFrom_bind_ok (change_runFrom _), Act.runFrom_bind]
  rcases hrun : (Connection.complete (surroundings t)
    (.holding r.connection.behavior.terminator.length m)).runFrom
      (update (fun c => { c with pending := rest }) r) with ⟨res, r'⟩
  have hdone : Completes m (update (fun c => { c with pending := rest }) r) (res, r') :=
    hrun ▸ hcycle
  have hfirst : Proceeds [] (r.connection.behavior.cycle r.connection.registry
      (r.connection.received + 1) m) r r' (Act.failureOf res) :=
    hpending.trans hdone.proceeds
  have hsound : r.Sound → res = .ok () := fun hsound => hdone.ok (hpending.sound hsound)
  cases res with
  | error f =>
      exact WorksOff.of_last hfirst (.inl ⟨f, rfl⟩) fun hs => by injection hsound hs
  | ok _ =>
      have halone : r'.interruptions = [] := hfirst.discarding.interruptions.trans h.alone
      have hopen' : r'.connection.isOpen = !r.connection.behavior.closeAfterNext := by
        rw [hdone.isOpen rfl]
        change (r.connection.isOpen && _) = _
        rw [hopen, Bool.true_and]
        rfl
      dsimp only
      rw [Act.runFrom_bind_ok (current_runFrom halone), hopen', Bool.false_or, Bool.not_not]
      by_cases hclose : r.connection.behavior.closeAfterNext
      · rw [if_pos hclose]
        exact WorksOff.of_last hfirst (.inr ⟨rfl, hclose⟩) fun _ => ⟨_, rfl⟩
      · rw [if_neg hclose]
        have hstays := Bool.eq_false_iff.mpr hclose
        -- What has been counted is read off the deeds, of which this message is the only one.
        have hone : Proceeds [] (r.connection.behavior.cycles r.connection.registry
            r.connection.received [m]) r r' none := by
          rw [Behavior.cycles, Behavior.cycles, List.append_nil]
          exact hfirst
        have hreceived : r'.connection.received = r.connection.received + 1 := hone.received
        refine WorksOff.cons hstays hfirst hreceived ?_
        rw [Connection.freshStream, hfirst.behavior]
        exact hlater r' (h.proceeds hfirst) (by rw [hopen', hstays]; rfl) hfirst.behavior

/-- Bytes are worked off as the pass over them says. -/
theorem work_worksOff (h : r.Serving) (hopen : r.connection.isOpen) (begun bytes : Bytes) :
    WorksOff (Framing.split r.connection.behavior.terminator begun bytes).1
      (Framing.split r.connection.behavior.terminator begun bytes).2 r
      ((Connection.work (surroundings t) false
        (.holding r.connection.behavior.terminator.length begun) bytes).runFrom r) := by
  induction bytes generalizing r begun with
  | nil =>
      have hproceeds : Proceeds [] [] r (update (fun c => { c with pending := [] }) r) none :=
        Proceeds.of_unchanged (Discarding.update _ r) rfl rfl rfl rfl
      rw [Connection.work, Act.runFrom_bind_ok (change_runFrom _),
        proceed_runFrom (h.proceeds hproceeds), Framing.split_nil]
      refine ⟨?_, fun s hs => ?_, fun hnone => by injection hnone with hnone; injection hnone,
        fun _ => ⟨_, rfl⟩⟩
      · rw [Behavior.attended_nil]
        exact hproceeds
      · injection hs with hs
        injection hs with hs
        exact ⟨hs.symm, fun _ => rfl, hopen⟩
  | cons b rest ih =>
      have hends := MessageStream.isTerminated_holding h.terminated (begun ++ [b])
      rw [Connection.work, MessageStream.push_holding, Act.runFrom_bind_ok (current_runFrom h.alone)]
      by_cases hmessage : r.connection.behavior.terminator <:+ begun ++ [b]
      · rw [Framing.split_cons_of_suffix hmessage, if_pos (hends.mpr hmessage)]
        refine message_worksOff h hopen (begun ++ [b]) rest fun r' h' hopen' hbehavior => ?_
        have hrest := ih h' hopen' []
        rw [hbehavior] at hrest
        exact hrest
      · -- The byte is only added to the part begun, which is no change of the connection.
        rw [Framing.split_cons_of_not_suffix hmessage]
        rw [if_neg fun hterminated => hmessage (hends.mp hterminated)]
        exact ih h hopen (begun ++ [b])

/-! ### One read after another -/

/-- What reading to the end comes to: the messages are attended to up to a failure, and the
    remainder is discarded if the connection stays open to the end of the stream. -/
structure ReadsAll (allowed : Failure → Prop) (messages : List Bytes) (rest : Bytes)
    (r : Rehearsal) (out : Except Failure Unit × Rehearsal) : Prop where
  proceeds : ∃ found, Proceeds found (r.connection.behavior.cycles r.connection.registry
      r.connection.received (r.connection.behavior.attended messages)) r out.2
      (Act.failureOf out.1) ∧
    (out.1 = .ok () → r.connection.behavior.closeAfterNext = false →
      found = r.connection.discarded rest)
  ok : r.Sound → (∀ f, allowed f → f.isTimeout) → out.1 = .ok ()

theorem Proceeds.discarded {found : List (List LogField)} {ds : List Deed} {s : Rehearsal}
    {end? : Option Failure} (h : Proceeds found ds r s end?) (rest : Bytes) :
    s.connection.discarded rest = r.connection.discarded rest := by
  have hport : s.connection.serverPort = r.connection.serverPort :=
    (congrArg Connection.serverPort h.frame :)
  have hpeer : s.connection.peer = r.connection.peer := (congrArg Connection.peer h.frame :)
  rw [Connection.discarded, hport, hpeer]
  rfl

/-- Reading on after some messages that have not closed the connection. -/
theorem ReadsAll.after {allowed : Failure → Prop} {ms ms' : List Bytes} {rest : Bytes}
    {r' : Rehearsal} {out : Except Failure Unit × Rehearsal}
    (hstays : r.connection.behavior.closeAfterNext → ms = [])
    (hfirst : Proceeds [] (r.connection.behavior.cycles r.connection.registry
      r.connection.received ms) r r' none)
    (h : ReadsAll allowed ms' rest r' out) : ReadsAll allowed (ms ++ ms') rest r out := by
  rcases h.proceeds with ⟨found, hproceeds, hfound⟩
  rw [hfirst.behavior, hfirst.registry, hfirst.received] at hproceeds
  rw [hfirst.behavior, hfirst.discarded] at hfound
  refine ⟨⟨found, ?_, hfound⟩, fun hsound => h.ok (hfirst.sound hsound)⟩
  rw [Behavior.attended_append hstays, Behavior.cycles_append]
  exact hfirst.trans hproceeds

/-- Closing the connection is not one of its calls. -/
theorem Proceeds.closed {found : List (List LogField)} {r' : Rehearsal} (h : Discarding found r r')
    (hconnection : r'.connection = r.connection) :
    Proceeds found [] r (update (fun c => { c with status := .closed }) r') none := by
  have habides : Abides r (update (fun c => { c with status := .closed }) r') :=
    abides_path.trans h.toAbides ⟨rfl, List.Subset.refl _, rfl, rfl⟩
  refine Proceeds.of_unchanged ⟨habides, h.discards⟩ ?_ ?_ ?_ ?_
  · rw [← hconnection]
    rfl
  · rw [← hconnection]
    rfl
  · rw [← hconnection]
    rfl
  · rw [← hconnection]
    rfl

/-- At the end of the stream the remainder is logged, if there is one. -/
theorem finish_proceeds (h : r.Serving) (n : Nat) (begun : Bytes) :
    ∃ r', (Connection.finish (surroundings t) (.holding n begun)).runFrom r = (.ok (), r') ∧
      Proceeds (r.connection.discarded begun) [] r r' none := by
  rw [Connection.finish, MessageStream.size_holding, MessageStream.toBytes_holding,
    Connection.discarded]
  by_cases hempty : begun = []
  · have hlogged : Discarding [] r
        (r.noting (r.connection.entry .debug "connection_end_of_stream" [])) :=
      Discarding.quiet (entry_warning?_eq_none (.inl (by decide))) r
    rw [if_pos hempty, if_pos (List.length_eq_zero_iff.mpr hempty)]
    refine ⟨_, ?_, Proceeds.closed hlogged rfl⟩
    rw [Act.runFrom_bind_ok (log_runFrom h.alone _ _ _), change_runFrom]
  · have hlength : ¬ begun.length = 0 := fun hzero => hempty (List.length_eq_zero_iff.mp hzero)
    rw [if_neg hempty, if_neg hlength]
    refine ⟨_, Act.runFrom_bind_ok (log_runFrom h.alone _ _ _) _, ?_⟩
    refine Proceeds.closed (Discarding.noting ?_ r) rfl
    rw [Connection.entry, Occurrence.logged, Occurrence.warning?, if_pos rfl]
    rfl

theorem receive_runFrom (begun : MessageStream) (x : Reception) :
    (Connection.receive (surroundings t) false begun x).runFrom r =
      (Connection.takeIn (surroundings t) false begun x).runFrom
        (r.recording (.receive x.fault?)) := by
  rw [Connection.receive, Act.runFrom_bind_ok (record_runFrom _)]

/-- The read that finds the end of the stream is the last one. -/
theorem receive_end (h : r.Serving) (n : Nat) (begun : Bytes) :
    ∃ r', (Connection.receive (surroundings t) false (.holding n begun) (.data [])).runFrom r =
        (.ok none, r') ∧
      Proceeds (r.connection.discarded begun) [] r r' none := by
  have hread : Proceeds [] [] r (r.recording (.receive none)) none :=
    Proceeds.of_reading (.read rfl .done) r
  rcases finish_proceeds (t := t) (h.proceeds hread) n begun with ⟨r', hfinish, hproceeds⟩
  refine ⟨r', ?_, hread.trans hproceeds⟩
  rw [receive_runFrom]
  exact Act.runFrom_bind_ok hfinish _

theorem ReadsAll.of_end {allowed : Failure → Prop} {begun : Bytes} {r' : Rehearsal}
    (h : Proceeds (r.connection.discarded begun) [] r r' none) :
    ReadsAll allowed [] begun r (.ok (), r') := by
  refine ⟨⟨_, ?_, fun _ _ => rfl⟩, fun _ _ => rfl⟩
  rw [Behavior.attended_nil]
  exact h

/-- A read that timed out is only logged. -/
theorem receive_timeout (h : r.Serving) (begun : MessageStream) {f : Failure}
    (hf : f.isTimeout) :
    ∃ r', (Connection.receive (surroundings t) false begun (.fault f)).runFrom r =
        (.ok (some begun), r') ∧
      Proceeds [] [] r r' none ∧ r'.connection.isOpen = r.connection.isOpen := by
  have hread : Proceeds [] [] r (r.recording (.receive (some f))) none :=
    Proceeds.of_reading (.read (by rw [Call.fails, hf]; rfl) .done) r
  have hserving := h.proceeds hread
  have hlog := log_runFrom (t := t) hserving.alone .warning "connection_read_timeout"
    [.seconds "timeout_sec" (r.recording (.receive (some f))).connection.readTimeout]
  have hunaltered : Unaltered True (r.recording (.receive (some f)))
      ((Connection.log (surroundings t) .warning "connection_read_timeout"
        [.seconds "timeout_sec" (r.recording (.receive (some f))).connection.readTimeout]).runFrom
        (r.recording (.receive (some f)))) :=
    log_unaltered hserving.alone (.inr (by decide)) _
  rw [hlog] at hunaltered
  have hlogged := hread.trans (Proceeds.of_unaltered hunaltered)
  refine ⟨_, ?_, hlogged, rfl⟩
  have hlive : (!(r.recording (.receive (some f))).connection.closeRequested) = true := by
    rw [hserving.wanted]
    rfl
  rw [receive_runFrom, Connection.takeIn, if_pos hf]
  refine (Act.runFrom_bind_ok (current_runFrom hserving.alone) _).trans ?_
  rw [if_pos hlive]
  exact (Act.runFrom_bind_ok hlog _).trans (proceed_runFrom (h.proceeds hlogged) begun)

/-- Any other failure of a read ends the reading. -/
theorem receive_failed (begun : MessageStream) {f : Failure} (hf : ¬ f.isTimeout) :
    (Connection.receive (surroundings t) false begun (.fault f)).runFrom r =
      (.error f, r.recording (.receive (some f))) := by
  rw [receive_runFrom, Connection.takeIn, if_neg hf]
  rfl

/-- Taking a piece of the script is not one of the calls either. -/
theorem taking_proceeds (later : List Script.Piece) :
    Proceeds [] [] r { r with unread := later } none :=
  Proceeds.of_unchanged ⟨⟨rfl, List.Subset.refl _, rfl, rfl⟩, (List.append_nil _).symm⟩
    rfl rfl rfl rfl

/-- What has been done before a read does not matter for what its bytes come to. -/
theorem WorksOff.after {messages : List Bytes} {rest : Bytes} {r' : Rehearsal}
    {out : Except Failure (Option MessageStream) × Rehearsal} (hread : Proceeds [] [] r r' none)
    (h : WorksOff messages rest r' out) : WorksOff messages rest r out := by
  have hnone : Proceeds [] (r.connection.behavior.cycles none 0 []) r r' none := hread
  have hreceived : r'.connection.received = r.connection.received := hnone.received
  rcases h with ⟨hproceeds, hgoesOn, hstops, hok⟩
  rw [hread.behavior] at hproceeds hgoesOn hstops
  rw [hread.registry, hreceived] at hproceeds
  exact ⟨hread.trans hproceeds, hgoesOn, hstops, fun hsound => hok (hread.sound hsound)⟩

/-- A failure ends the reading, whatever is still to come. -/
theorem ReadsAll.of_failed {allowed : Failure → Prop} {ms : List Bytes} {rest : Bytes}
    {f : Failure} {r' : Rehearsal} (h : WorksOff ms rest r (.error f, r')) (ms' : List Bytes)
    (rest' : Bytes) : ReadsAll allowed (ms ++ ms') rest' r (.error f, r') := by
  rcases Behavior.attended_prefix r.connection.behavior ms ms' with ⟨others, hothers⟩
  refine ⟨⟨[], ?_, fun hok => by injection hok⟩, fun hsound => ?_⟩
  · rw [hothers, Behavior.cycles_append]
    exact h.proceeds.extend _
  · rcases h.ok hsound with ⟨x, hx⟩
    injection hx

/-- So does a message that the connection closes after. -/
theorem ReadsAll.of_closed {allowed : Failure → Prop} {ms : List Bytes} {rest : Bytes}
    {r' : Rehearsal} (h : WorksOff ms rest r (.ok none, r')) (ms' : List Bytes) (rest' : Bytes) :
    ReadsAll allowed (ms ++ ms') rest' r (.ok (), r') := by
  rcases h.stops rfl with ⟨hclose, hne⟩
  refine ⟨⟨[], ?_, fun _ hstays => ?_⟩, fun _ _ => rfl⟩
  · rw [Behavior.attended_append_of_closed hclose hne]
    exact h.proceeds
  · exact absurd hclose (Bool.eq_false_iff.mp hstays)

/-- Otherwise reading goes on from what is left over. -/
theorem ReadsAll.of_further {allowed : Failure → Prop} {ms ms' : List Bytes} {rest rest' : Bytes}
    {begun : MessageStream} {r' : Rehearsal} {out : Except Failure Unit × Rehearsal}
    (h : WorksOff ms rest r (.ok (some begun), r')) (hrest : ReadsAll allowed ms' rest' r' out) :
    ReadsAll allowed (ms ++ ms') rest' r out := by
  rcases h.goesOn begun rfl with ⟨-, hstays, -⟩
  have hproceeds := h.proceeds
  rw [Behavior.attended_self hstays] at hproceeds
  exact ReadsAll.after hstays hproceeds hrest

/-- All that is read is worked off as the pass over it says. -/
theorem readOn_readsAll {allowed : Failure → Prop} {pieces : List Script.Piece} {bytes : Bytes}
    (hgives : Script.Gives allowed pieces bytes) (h : r.Serving)
    (hopen : r.connection.isOpen) (begun : Bytes) :
    ReadsAll allowed (Framing.split r.connection.behavior.terminator begun bytes).1
      (Framing.split r.connection.behavior.terminator begun bytes).2 r
      ((readOn (surroundings t) false
        (.holding r.connection.behavior.terminator.length begun) pieces).runFrom r) := by
  induction hgives generalizing r begun with
  | exhausted =>
      rcases receive_end (t := t) h r.connection.behavior.terminator.length begun with
        ⟨r', hreceive, hproceeds⟩
      rw [readOn, Act.runFrom_bind_ok hreceive]
      exact ReadsAll.of_end hproceeds
  | finished starts later =>
      have htake := taking_proceeds (r := r) later
      rcases receive_end (t := t) (h.proceeds htake) r.connection.behavior.terminator.length
        begun with ⟨r', hreceive, hproceeds⟩
      rw [readOn, Act.runFrom_bind_ok (Act.runFrom_modify _ r), Act.runFrom_bind_ok hreceive]
      exact ReadsAll.of_end (htake.trans hproceeds)
  | @data b bs starts later more _ ih =>
      have hread : Proceeds [] [] r (({ r with unread := later } : Rehearsal).recording
          (.receive none)) none :=
        (taking_proceeds later).trans (Proceeds.of_reading (.read rfl .done) _)
      have hwork := work_worksOff (t := t) (h.proceeds hread) hopen begun (b :: bs)
      have hreceive := receive_runFrom (t := t) (r := { r with unread := later })
        (.holding r.connection.behavior.terminator.length begun) (.data (b :: bs))
      rw [readOn, Act.runFrom_bind_ok (Act.runFrom_modify _ r), Act.runFrom_bind,
        Framing.split_append]
      rcases hrun : (Connection.receive (surroundings t) false
        (.holding r.connection.behavior.terminator.length begun) (.data (b :: bs))).runFrom
          { r with unread := later } with ⟨res, r'⟩
      have hout : WorksOff (Framing.split r.connection.behavior.terminator begun (b :: bs)).1
          (Framing.split r.connection.behavior.terminator begun (b :: bs)).2 r (res, r') :=
        WorksOff.after hread ((hreceive.symm.trans hrun) ▸ hwork)
      generalize Framing.split r.connection.behavior.terminator begun (b :: bs) = done at hout ⊢
      -- A read comes to a failure, to a connection that has closed, or to more reads.
      rcases res with f | _ | s
      · exact ReadsAll.of_failed hout _ _
      · exact ReadsAll.of_closed hout _ _
      · rcases hout.goesOn s rfl with ⟨rfl, -, hopen'⟩
        have hrest := ih (h.proceeds hout.proceeds) hopen' done.2
        rw [hout.proceeds.behavior] at hrest
        exact ReadsAll.of_further hout hrest
  | @fault f starts later more hf _ ih =>
      by_cases htimeout : f.isTimeout
      · -- Reading goes on part way through the same message.
        have htake := taking_proceeds (r := r) later
        rcases receive_timeout (t := t) (h.proceeds htake)
          (.holding r.connection.behavior.terminator.length begun) htimeout with
          ⟨r', hreceive, hproceeds, hopen'⟩
        have hfirst : Proceeds [] [] r r' none := htake.trans hproceeds
        have hrest := ih (h.proceeds hfirst) (hopen'.trans hopen) begun
        rw [hfirst.behavior] at hrest
        rw [readOn, Act.runFrom_bind_ok (Act.runFrom_modify _ r), Act.runFrom_bind_ok hreceive]
        exact ReadsAll.after (fun _ => rfl) hfirst hrest
      · have hfails : (Call.receive (some f)).fails := by
          rw [Call.fails, Bool.eq_false_iff.mpr htimeout]
          rfl
        -- All that the pass would have cut off from here on remains undone.
        have hperforms : Performs (r.connection.behavior.cycles r.connection.registry
            r.connection.received (r.connection.behavior.attended
              (Framing.split r.connection.behavior.terminator begun more).1))
            [.receive (some f)] (some f) := .readFailed hfails
        have hread := (taking_proceeds later).trans
          (Proceeds.of_reading hperforms { r with unread := later })
        rw [readOn, Act.runFrom_bind_ok (Act.runFrom_modify _ r),
          Act.runFrom_bind_error (receive_failed _ htimeout)]
        exact ⟨⟨[], hread, fun hok => by injection hok⟩,
          fun _ hall => absurd (hall f hf) htimeout⟩

end

end Rehearsal

end MockHost
