import MockHost.Proofs.Client.Sending
import MockHost.Proofs.Dispatch.Isolation

/-!
# What an Attempt Comes To

An attempt to deliver ends in one of two ways. The endpoint takes the connection and the
payload, and then the answer decides, if one is waited for. Or the endpoint does not take
them, and the attempt has failed. Whatever has gone wrong is recorded, and the client is
closed in the end.

A record says that the payload was delivered if the attempt has not failed. That is less than
that the payload was sent: an attempt that waits in vain for an acknowledgement has failed too.

## Main definitions

* `Delivery.Taken`: An endpoint takes the connection and the payload.
* `Dispatcher.verdict`: What is recorded of an answer.
* `Dispatcher.exchanged`: What an exchange comes to once the payload has been taken.
* `Dispatcher.concluded`: The record that is made of it.

## Theorems

* `Dispatcher.verdict_read`: The reply that the answer begins with decides.
* `Dispatcher.dispatch_taken`, `Dispatcher.dispatch_untaken`: The two ends of an attempt.
* `Dispatcher.dispatch_delivers`: What it takes for a payload to count as delivered.
* `Dispatcher.dispatch_unacknowledged`: A payload that was sent and does not count.
-/

namespace MockHost

open ScriptedWorld (transport takeScript)

/-! ### Dispatching -/

/-- The endpoint of a delivery takes the connection and the payload, and goes on by a script. -/
structure Delivery.Taken (delivery : Delivery) (w : ScriptedWorld) (script : Script)
    (data : Bytes) : Prop where
  encoded : delivery.payloadBytes = .ok data
  found : ∃ endpoints, takeScript delivery.endpoint w.endpoints = some (script, endpoints)
  connects : script.connecting = none
  sends : ∀ f, script.sends.head? ≠ some (some f)

/-- The bytes that the endpoint of a delivery answers with. -/
def Delivery.reply (delivery : Delivery) (w : ScriptedWorld) : Bytes :=
  match takeScript delivery.endpoint w.endpoints with
  | some (script, _) => Arrival.incoming script.arrivals
  | none => []

/-- A socket that follows the script can be closed, or this fails with an error of the system. -/
def Script.Closes (script : Script) : Prop :=
  ∀ f, script.closing = some f → ∃ e, f = .system e

namespace Dispatcher

/-- What is recorded of a whole answer. -/
def judged (d : Dispatcher) (reply : Bytes) : DispatchOutcome :=
  if reply = d.ack then .acknowledged else if reply = d.nak then .rejected else .failed

/-- What is recorded of an answer that has been read. An answer that is none that could be
    expected is not looked at, nor is the part of one that was read before a failure. -/
def verdict (d : Dispatcher) : ReplyEnd → DispatchOutcome
  | .complete s => d.judged s.toBytes
  | .finished s => if s.size = 0 then .failed else d.judged s.toBytes
  | .unexpected _ => .failed
  | .fault _ _ => .failed

/-- The rule by which answers are read. -/
def rule (d : Dispatcher) : ReplyRule := ⟨d.ack, d.nak, none⟩

/-- The outcome of an exchange, of which a failure is one. -/
def outcome : Except Failure DispatchOutcome → DispatchOutcome
  | .ok o => o
  | .error _ => .failed

/-- What an exchange makes of an answer. -/
def assessed (d : Dispatcher) (reply : Option MessageStream) : Except Failure DispatchOutcome :=
  match d.classify (reply.map MessageStream.toBytes) with
  | .ok o => .ok o
  | .error e => .error (.reported e)

/-- What an exchange comes to once the payload has been taken. -/
def exchanged (d : Dispatcher) (delivery : Delivery) (script : Script) :
    Except Failure DispatchOutcome :=
  (d.client delivery).answered d.waitForAck script >>= d.assessed

/-- What a dispatch makes of an exchange. -/
def concluded (delivery : Delivery) : Except Failure DispatchOutcome → Except Failure DispatchRecord
  | .ok o => .ok ⟨delivery, o, none⟩
  | .error f => if isRecorded f then .ok (failedRecord delivery f) else .error f

section

variable {d : Dispatcher} {delivery : Delivery} {w : ScriptedWorld} {script : Script}
  {data : Bytes} {res : Except Failure DispatchOutcome} {record : DispatchRecord}

theorem outcome_of_concluded (h : concluded delivery res = .ok record) :
    record.outcome = outcome res := by
  rcases res with f | o
  · rw [concluded] at h
    split at h
    · injection h with h
      exact h ▸ rfl
    · injection h
  · injection h with h
    exact h ▸ rfl

theorem outcome_assessed (d : Dispatcher) (s : MessageStream) :
    outcome (d.assessed (some s)) = d.judged s.toBytes := by
  rw [assessed, judged, Option.map_some, classify]
  by_cases hack : s.toBytes = d.ack
  · rw [if_pos hack, if_pos hack]
    rfl
  · rw [if_neg hack, if_neg hack]
    by_cases hnak : s.toBytes = d.nak
    · rw [if_pos hnak, if_pos hnak]
      rfl
    · rw [if_neg hnak, if_neg hnak]
      rfl

/-- Of an answer that is waited for the verdict is recorded. -/
theorem outcome_exchanged (d : Dispatcher) (delivery : Delivery) (script : Script) :
    outcome (d.exchanged delivery script) =
      if d.waitForAck then d.verdict (d.rule.read script.arrivals).1 else .sent := by
  rw [exchanged, Client.answered]
  by_cases hwaits : d.waitForAck = true
  · rw [if_pos hwaits, if_pos hwaits]
    change outcome (((d.client delivery).made (d.rule.read _).1).map some >>= d.assessed) = _
    rcases (d.rule.read script.arrivals).1 with s | s | s | ⟨s, f⟩
    · exact outcome_assessed d s
    · rw [Client.made, verdict]
      by_cases hempty : s.size = 0
      · rw [if_pos hempty, if_pos hempty]
        rfl
      · rw [if_neg hempty, if_neg hempty]
        exact outcome_assessed d s
    · rfl
    · cases f <;> rfl
  · rw [if_neg hwaits, if_neg hwaits]
    rfl

/-- The reply that the answer begins with decides, and an answer that begins with none has
    failed. -/
theorem verdict_read (d : Dispatcher) (as : List Arrival) :
    d.verdict (d.rule.read as).1 =
      match d.rule.first? (Arrival.incoming as) with
      | some p => d.judged p
      | none => .failed := by
  have hreads := d.rule.read_reads as
  generalize d.rule.read as = found at hreads
  cases hreads with
  | complete p later hp has =>
      have hincoming : Arrival.incoming as = p ++ Arrival.incoming later :=
        has ▸ Arrival.incoming_append p later
      rw [ReplyRule.first?_eq_some.mpr ⟨⟨_, hincoming.symm⟩, hp⟩, verdict,
        MessageStream.toBytes_holding]
  | unexpected bs later hnone hterm hlength has => rw [hnone, verdict]
  | fault f n hall hend hn => rw [hall.1, verdict]
  | finished n hall hend hn =>
      rw [hall.1, verdict, MessageStream.size_holding, MessageStream.toBytes_holding]
      by_cases hnil : (Arrival.incoming as).length = 0
      · rw [if_pos hnil]
      · -- The whole answer is none of the acknowledgements, or it would be a reply.
        have hne : Arrival.incoming as ≠ [] := fun h => hnil (List.length_eq_zero_iff.mpr h)
        have hnot := ReplyRule.first?_eq_none.mp hall.1 _ hne List.prefix_rfl
        have hack : ¬ Arrival.incoming as = d.ack := fun h => hnot (.inl h)
        have hnak : ¬ Arrival.incoming as = d.nak := fun h => hnot (.inr (.inl h))
        rw [if_neg hnil, judged, if_neg hack, if_neg hnak]

theorem isRecorded_of_assessed {reply : Option MessageStream} {f : Failure}
    (h : d.assessed reply = .error f) : isRecorded f = true := by
  rcases reply with _ | s
  · injection h
  · rw [assessed, Option.map_some, classify] at h
    by_cases hack : s.toBytes = d.ack
    · rw [if_pos hack] at h
      injection h
    · rw [if_neg hack] at h
      by_cases hnak : s.toBytes = d.nak
      · rw [if_pos hnak] at h
        injection h
      · rw [if_neg hnak] at h
        injection h with h
        exact h ▸ rfl

/-- Whatever an exchange fails with is recorded, unless reading has failed in a way that sockets
    do not fail in. -/
theorem isRecorded_of_exchanged {f : Failure} (h : d.exchanged delivery script = .error f)
    (hends : ∀ g, Arrival.failure? script.arrivals = some g → ∃ e, g = .system e) :
    isRecorded f = true := by
  rw [exchanged, Client.answered] at h
  by_cases hwaits : d.waitForAck = true
  · rw [if_pos hwaits] at h
    change ((d.client delivery).made (d.rule.read _).1).map some >>= d.assessed = _ at h
    have hreads := d.rule.read_reads script.arrivals
    generalize d.rule.read script.arrivals = found at h hreads
    cases hreads with
    | complete p later hp has => exact isRecorded_of_assessed h
    | unexpected bs later hnone hterm hlength has =>
        injection h with h
        exact h ▸ rfl
    | finished n hall hend hn =>
        rw [Client.made_finished] at h
        split at h
        · injection h with h
          exact h ▸ rfl
        · exact isRecorded_of_assessed h
    | fault g n hall hend hn =>
        rcases hends g hend with ⟨e, rfl⟩
        injection h with h
        rw [← h, isRecorded, Client.receiveReport]
        split <;> rfl
  · rw [if_neg hwaits] at h
    injection h

/-! ### The end of an attempt -/

/-- What a dispatch does once its exchange has ended. -/
def conclude {σ : Type} (t : Transport σ) (delivery : Delivery)
    (res : Except Failure DispatchOutcome) : ClientAct σ DispatchRecord :=
  Act.andFinally (settle t delivery res) (Client.close t) >>= report t delivery

theorem deliver_runFrom {σ : Type} (t : Transport σ) (d : Dispatcher) (delivery : Delivery)
    (p : Client × σ) :
    (d.deliver t delivery).runFrom p =
      (conclude t delivery ((d.exchange t delivery).runFrom p).1).runFrom
        ((d.exchange t delivery).runFrom p).2 := by
  have houtcome : (d.outcomeOrRecord t delivery).runFrom p =
      (settle t delivery ((d.exchange t delivery).runFrom p).1).runFrom
        ((d.exchange t delivery).runFrom p).2 := by
    rw [outcomeOrRecord_eq, Act.runFrom_bind_ok (Act.runFrom_attempt _ _)]
  rw [deliver_eq, conclude, Act.runFrom_bind, Act.runFrom_bind, Act.andFinally, Act.andFinally,
    Act.runFrom_bind_ok (Act.runFrom_attempt _ _), Act.runFrom_bind_ok (Act.runFrom_attempt _ _),
    houtcome]

theorem settle_returns {σ : Type} (t : Transport σ) (delivery : Delivery)
    (res : Except Failure DispatchOutcome) :
    Act.Returns (fun x =>
      concluded delivery res = .ok (x.elim (⟨delivery, ·, none⟩) fun record => record))
      (settle t delivery res) := by
  rcases res with f | o
  · rw [settle, concluded]
    split
    · exact Act.Returns.bind (Act.Returns.trivial _) fun _ _ => Act.Returns.pure rfl
    · exact Act.Returns.throw _ _
  · exact Act.Returns.pure rfl

/-- A dispatch gives no record but that of its exchange. -/
theorem conclude_returns {σ : Type} (t : Transport σ) (delivery : Delivery)
    (res : Except Failure DispatchOutcome) :
    Act.Returns (fun record => concluded delivery res = .ok record) (conclude t delivery res) := by
  refine Act.Returns.bind (settle_returns t delivery res).andFinally fun x hx => ?_
  rcases x with o | record
  · exact Act.Returns.bind (Act.Returns.trivial _) fun _ _ => Act.Returns.pure hx
  · exact Act.Returns.pure hx

theorem conclude_moves {σ : Type} {t : Transport σ} {R : σ → σ → Prop} (h : t.Moves R)
    (delivery : Delivery) (res : Except Failure DispatchOutcome) :
    Act.Moves (Client.Along R) (conclude t delivery res) := by
  have path := Client.along_path h.path
  have hlast := Act.Moves.andFinally path (settle_moves h delivery res) (Client.close_moves h)
  exact Act.Moves.bind path hlast (report_moves h delivery)

theorem close_scripted {c : Client} {id : SocketId} {k : ScriptedSocket} (hid : c.socket = some id)
    (hk : w.sockets[id]? = some k) (hcloses : ∀ f, k.closing = some f → ∃ e, f = .system e) :
    ∃ q, (Client.close transport).runFrom (c, w) = (.ok (), q) := by
  have hclose : ∃ r w', (transport.close id).runFrom w = (r, w') ∧
      (r = .ok () ∨ ∃ e, r = .error (.system e)) := by
    change ∃ r w', (ScriptedWorld.onSocket id _).runFrom w = _ ∧ _
    rw [ScriptedWorld.onSocket_runFrom, hk]
    dsimp only
    rw [Act.runFrom_bind_ok (ScriptedWorld.note_runFrom _ w)]
    rcases hclosing : k.closing with _ | f
    · exact ⟨_, _, rfl, .inl rfl⟩
    · -- An error of the system in closing is only logged.
      rcases hcloses f hclosing with ⟨e, rfl⟩
      exact ⟨_, _, rfl, .inr ⟨e, rfl⟩⟩
  rcases hclose with ⟨r, w', hclose, hr⟩
  rw [Client.close, Act.runFrom_bind_ok (Act.runFrom_get _)]
  dsimp only
  rw [hid]
  dsimp only
  rw [Act.runFrom_bind_ok (Client.attempt_onWorld c hclose)]
  rcases hr with rfl | ⟨e, rfl⟩
  · exact ⟨_, rfl⟩
  · exact ⟨_, rfl⟩

/-- Where the client can be closed, a dispatch gives the record of its exchange. -/
theorem conclude_closed {c : Client} {id : SocketId} {k : ScriptedSocket} (hid : c.socket = some id)
    (hk : w.sockets[id]? = some k) (hcloses : ∀ f, k.closing = some f → ∃ e, f = .system e) :
    ∃ q, (conclude transport delivery res).runFrom (c, w) = (concluded delivery res, q) := by
  have hsettle : ∃ r w', (settle transport delivery res).runFrom (c, w) = (r, (c, w')) ∧
      w'.sockets = w.sockets ∧
      concluded delivery res = r.map (Sum.elim (⟨delivery, ·, none⟩) fun record => record) := by
    rcases res with f | o
    · rw [settle, concluded]
      split
      · exact ⟨_, _, rfl, rfl, rfl⟩
      · exact ⟨_, _, rfl, rfl, rfl⟩
    · exact ⟨_, _, rfl, rfl, rfl⟩
  rcases hsettle with ⟨r, w', hsettle, hsockets, hconcluded⟩
  rw [← hsockets] at hk
  rcases close_scripted hid hk hcloses with ⟨q, hclose⟩
  have hattempt := Act.runFrom_attempt (settle transport delivery res) (c, w)
  rw [hsettle] at hattempt
  have hlast : (Act.andFinally (settle transport delivery res) (Client.close transport)).runFrom
      (c, w) = (r, q) := by
    rw [Act.andFinally, Act.runFrom_bind_ok hattempt, Act.runFrom_bind_ok hclose]
    rfl
  rw [conclude, Act.runFrom_bind, hlast, hconcluded]
  rcases r with f | o | record
  · exact ⟨_, rfl⟩
  · exact ⟨_, rfl⟩
  · exact ⟨_, rfl⟩

/-- What a dispatch comes to, once its exchange has come to something. -/
theorem dispatch_of_exchange {q : Client × ScriptedWorld}
    (hexchange : (d.exchange transport delivery).runFrom (d.client delivery, w) = (res, q)) :
    ∃ last w', (d.dispatch transport delivery).runFrom w = (last, w') ∧
      w'.trace.sent = q.2.trace.sent ∧
      (∀ record, last = .ok record → record.outcome = outcome res) ∧
      ((conclude transport delivery res).runFrom q).1 = last := by
  have hdeliver := deliver_runFrom transport d delivery (d.client delivery, w)
  rw [hexchange] at hdeliver
  have hrun := dispatch_runFrom transport d delivery w
  rw [hdeliver] at hrun
  exact ⟨_, _, hrun, conclude_moves ScriptedWorld.transport_silent delivery res q,
    fun record h => outcome_of_concluded (conclude_returns transport delivery res q record h), rfl⟩

theorem exchange_taken (h : delivery.Taken w script data) (d : Dispatcher) :
    ∃ c k w', (d.exchange transport delivery).runFrom (d.client delivery, w) =
        (d.exchanged delivery script, (c, w')) ∧
      c.socket = some w.sockets.size ∧ w'.sockets[w.sockets.size]? = some k ∧
      k.closing = script.closing ∧
      w'.trace.sent = w.trace.sent ++ [(delivery.endpoint, data)] := by
  rcases h.found with ⟨endpoints, htake⟩
  rcases Client.sendBytes_taken (c := d.client delivery) rfl htake h.connects h.sends data
    d.waitForAck (some d.ackTimeout) with ⟨k, w', hsend, hk, hclosing, hsent⟩
  refine ⟨{ d.client delivery with socket := some w.sockets.size }, k, w', ?_, rfl, hk, hclosing,
    hsent⟩
  rw [exchange, h.encoded, exchanged]
  dsimp only
  rw [Act.runFrom_bind, hsend]
  rcases (d.client delivery).answered d.waitForAck script with f | reply
  · rfl
  · change _ = (d.assessed reply, _)
    rw [assessed]
    dsimp only
    rcases d.classify (reply.map MessageStream.toBytes) with e | o <;> rfl

theorem exchange_untaken (h : ∀ script data, ¬ delivery.Taken w script data) (d : Dispatcher) :
    ∃ f q, (d.exchange transport delivery).runFrom (d.client delivery, w) = (.error f, q) ∧
      q.2.trace.sent = w.trace.sent := by
  rcases hdata : delivery.payloadBytes with e | data
  · rw [exchange, hdata]
    exact ⟨_, _, rfl, rfl⟩
  · -- Everything else that it takes is there, so the endpoint is what has refused.
    have hrefused : ∀ script endpoints,
        takeScript delivery.endpoint w.endpoints = some (script, endpoints) →
        script.connecting = none → ∃ f, script.sends.head? = some (some f) := by
      intro script endpoints htake hconnects
      by_contra hsends
      exact h script data ⟨hdata, ⟨endpoints, htake⟩, hconnects, fun f hf => hsends ⟨f, hf⟩⟩
    rcases Client.sendBytes_untaken (c := d.client delivery) rfl hrefused data d.waitForAck
      (some d.ackTimeout) with ⟨f, q, hsend, hsent⟩
    refine ⟨f, q, ?_, hsent⟩
    rw [exchange, hdata]
    exact Act.runFrom_bind_error hsend _

/-- A delivery that the endpoint has taken has been sent, and its answer decides. -/
theorem dispatch_taken (h : delivery.Taken w script data) (d : Dispatcher) :
    ∃ res w', (d.dispatch transport delivery).runFrom w = (res, w') ∧
      w'.trace.sent = w.trace.sent ++ [(delivery.endpoint, data)] ∧
      (∀ record, res = .ok record → record.outcome = outcome (d.exchanged delivery script)) ∧
      (script.Closes → res = concluded delivery (d.exchanged delivery script)) := by
  rcases exchange_taken h d with ⟨c, k, w₁, hexchange, hid, hk, hclosing, hsent⟩
  rcases dispatch_of_exchange hexchange with ⟨res, w', hrun, hsilent, hrecord, hlast⟩
  refine ⟨res, w', hrun, hsilent.trans hsent, hrecord, fun hcloses => ?_⟩
  rcases conclude_closed hid hk fun f hf => hcloses f (hclosing ▸ hf) with ⟨q, hq⟩
  rw [← hlast, hq]

/-- Alone, it is recorded as what its exchange has come to. -/
theorem recordAlone_taken (h : delivery.Taken w script data) (hcloses : script.Closes)
    (d : Dispatcher) :
    (d.recordAlone delivery w).outcome = outcome (d.exchanged delivery script) := by
  rcases dispatch_taken h d with ⟨res, w', hrun, -, -, hres⟩
  rw [recordAlone, hrun, hres hcloses]
  rcases d.exchanged delivery script with f | o
  · rw [concluded]
    by_cases hrecorded : isRecorded f = true
    · rw [if_pos hrecorded]
      rfl
    · rw [if_neg hrecorded]
      rfl
  · rfl

/-- A delivery that the endpoint has not taken has not been sent, and has failed. -/
theorem dispatch_untaken (h : ∀ script data, ¬ delivery.Taken w script data) (d : Dispatcher) :
    ∃ res w', (d.dispatch transport delivery).runFrom w = (res, w') ∧
      w'.trace.sent = w.trace.sent ∧ ∀ record, res = .ok record → record.outcome = .failed := by
  rcases exchange_untaken h d with ⟨f, q, hexchange, hsent⟩
  rcases dispatch_of_exchange hexchange with ⟨res, w', hrun, hsilent, hrecord, -⟩
  exact ⟨res, w', hrun, hsilent.trans hsent, hrecord⟩

/-! ### What counts as delivered -/

/-- An answer has failed exactly if it begins with no acknowledgement. -/
theorem verdict_eq_failed (d : Dispatcher) (as : List Arrival) :
    d.verdict (d.rule.read as).1 = .failed ↔
      ∀ p, p = d.ack ∨ p = d.nak → p ≠ [] → ¬ p <+: Arrival.incoming as := by
  rw [verdict_read]
  rcases hfirst : d.rule.first? (Arrival.incoming as) with _ | p
  · refine ⟨fun _ p hp hne hpre => ?_, fun _ => rfl⟩
    exact ReplyRule.first?_eq_none.mp hfirst p hne hpre ((ReplyRule.completes_iff rfl).mpr hp)
  · rcases ReplyRule.first?_eq_some.mp hfirst with ⟨hpre, hp⟩
    have hack : p = d.ack ∨ p = d.nak := (ReplyRule.completes_iff rfl).mp hp.complete
    refine ⟨fun h => ?_, fun h => (h p hack hp.nonempty hpre).elim⟩
    change d.judged p = _ at h
    rw [judged] at h
    split at h
    · injection h
    · rename_i hne
      rw [if_pos (hack.resolve_left hne)] at h
      injection h

/-- A payload counts as delivered if it has been sent and, where an acknowledgement is waited for,
    one of the two has come. Nothing but the payload is ever sent. -/
theorem dispatch_delivers {w' : ScriptedWorld}
    (hrun : (d.dispatch transport delivery).runFrom w = (.ok record, w')) :
    (w'.trace.sent = w.trace.sent ∨ ∃ data, delivery.payloadBytes = .ok data ∧
      w'.trace.sent = w.trace.sent ++ [(delivery.endpoint, data)]) ∧
    (record.delivered = true ↔ w'.trace.sent ≠ w.trace.sent ∧
      (d.waitForAck = true → ∃ p, (p = d.ack ∨ p = d.nak) ∧ p ≠ [] ∧ p <+: delivery.reply w)) := by
  rw [DispatchRecord.delivered, bne_iff_ne]
  -- Whether the endpoint has taken the payload is just whether something has been sent.
  by_cases htaken : ∃ script data, delivery.Taken w script data
  · rcases htaken with ⟨script, data, htaken⟩
    rcases dispatch_taken htaken d with ⟨res, w'', hrun', hsent, hrecord, -⟩
    cases hrun.symm.trans hrun'
    have hreply : delivery.reply w = Arrival.incoming script.arrivals := by
      rcases htaken.found with ⟨endpoints, htake⟩
      rw [Delivery.reply, htake]
    have hne : w'.trace.sent ≠ w.trace.sent := by
      rw [hsent]
      exact fun h => List.cons_ne_nil _ _ (List.append_right_eq_self.mp h)
    refine ⟨.inr ⟨data, htaken.encoded, hsent⟩, ?_⟩
    rw [hrecord record rfl, outcome_exchanged, hreply]
    by_cases hwaits : d.waitForAck = true
    · rw [if_pos hwaits, ne_eq, verdict_eq_failed]
      push Not
      exact ⟨fun h => ⟨hne, fun _ => h⟩, fun h => h.2 hwaits⟩
    · rw [if_neg hwaits]
      exact ⟨fun _ => ⟨hne, fun h => (hwaits h).elim⟩, fun _ h => nomatch h⟩
  · push Not at htaken
    rcases dispatch_untaken htaken d with ⟨res, w'', hrun', hsent, hrecord⟩
    cases hrun.symm.trans hrun'
    exact ⟨.inl hsent, fun h => (h (hrecord record rfl)).elim, fun h => (h.1 hsent).elim⟩

/-- A payload that is refused counts as delivered. -/
theorem dispatch_delivers_refused :
    let d : Dispatcher := ⟨⟨0⟩, true, ⟨0⟩, [65], [78]⟩
    let delivery : Delivery := ⟨"127.0.0.1", 7002, "m"⟩
    let w : ScriptedWorld := { endpoints := [(delivery.endpoint, [{ received := [.data [78]] }])] }
    ∃ record w', (d.dispatch transport delivery).runFrom w = (.ok record, w') ∧
      (record.delivered = true ↔ w'.trace.sent ≠ w.trace.sent ∧
        (d.waitForAck = true →
          ∃ p, (p = d.ack ∨ p = d.nak) ∧ p ≠ [] ∧ p <+: delivery.reply w)) ∧
      record.delivered = true :=
  ⟨_, _, rfl, (dispatch_delivers rfl).2, rfl⟩

/-- A payload that was sent does not count as delivered if the wait for an acknowledgement ends
    without one. -/
theorem dispatch_unacknowledged :
    let d : Dispatcher := ⟨⟨0⟩, true, ⟨0⟩, [65], [78]⟩
    let delivery : Delivery := ⟨"127.0.0.1", 7002, "m"⟩
    let w : ScriptedWorld := {
      endpoints := [(delivery.endpoint, [{ received := [.fault (.system .timedOut)] }])] }
    ∃ record w', (d.dispatch transport delivery).runFrom w = (.ok record, w') ∧
      w'.trace.sent = w.trace.sent ++ [(delivery.endpoint, [109])] ∧ record.delivered = false :=
  ⟨_, _, rfl, rfl, rfl⟩

end

end Dispatcher

end MockHost
