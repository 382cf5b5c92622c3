import MockHost.Proofs.Dispatch.Attempt

/-!
# Which Acknowledgement It Is

A dispatcher that waits for an acknowledgement reads until the bytes are one of the two, and
then decides which. So if one of them begins with the other, the longer one is never read to
its end, and what is recorded is the shorter one. Only if neither begins with the other does
an endpoint that sends one of them have it recorded.

## Main definitions

* `Delivery.answered`: A world in which a delivery is answered.
* `Delivery.Receives`: A delivery is answered with these bytes.
* `Dispatcher.Records`: What is recorded of a delivery.

## Theorems

* `ReplyRule.isReply_iff`: An acknowledgement is read to its end unless it begins with the other.
* `Dispatcher.recordAlone_answered`: What is recorded is the verdict on the answer.
* `Dispatcher.dispatch_acknowledges`: Which answer is recorded as what.
-/

namespace MockHost

open ScriptedWorld (transport takeScript)

namespace ReplyRule

variable {r : ReplyRule}

/-- Without a terminator, an acknowledgement is read to its end unless it begins with the other. -/
theorem isReply_iff (hterm : r.terminator = none) {x y : Bytes}
    (hxy : x = r.ack ∧ y = r.nak ∨ x = r.nak ∧ y = r.ack) (hx : x ≠ []) (hy : y ≠ []) :
    r.IsReply x ↔ ¬ (y <+: x ∧ y ≠ x) := by
  have hdone : ∀ bs, r.Completes bs ↔ bs = x ∨ bs = y := by
    intro bs
    rw [completes_iff hterm]
    rcases hxy with ⟨rfl, rfl⟩ | ⟨rfl, rfl⟩
    · exact Iff.rfl
    · exact or_comm
  refine ⟨fun h ⟨hpre, hshort⟩ => ?_, fun h => ⟨hx, (hdone x).mpr (.inl rfl), ?_⟩⟩
  · exact h.first y hy hpre hshort ((hdone y).mpr (.inr rfl))
  · intro p hp hpre hshort hcomplete
    rcases (hdone p).mp hcomplete with rfl | rfl
    · exact hshort rfl
    · exact h ⟨hpre, hshort⟩

end ReplyRule

/-- A world whose only endpoint is that of a delivery, which is answered with these events. -/
def Delivery.answered (delivery : Delivery) (events : List Script.Event) : ScriptedWorld where
  endpoints := [(delivery.endpoint, [{ received := events }])]

/-- What is recorded of a delivery. -/
def Dispatcher.Records (d : Dispatcher) (delivery : Delivery) (w : ScriptedWorld)
    (o : DispatchOutcome) : Prop :=
  ∃ record w', (d.dispatch transport delivery).runFrom w = (.ok record, w') ∧ record.outcome = o

/-- The endpoint of a delivery takes the payload and answers with these bytes. Then it stays
    silent until the wait ends, or it finishes, or its connection fails. -/
def Delivery.Receives (delivery : Delivery) (w : ScriptedWorld) (reply : Bytes) : Prop :=
  ∃ script data, delivery.Taken w script data ∧ Arrival.incoming script.arrivals = reply ∧
    (∀ f, Arrival.failure? script.arrivals = some f → ∃ e, f = .system e) ∧ script.Closes

namespace Delivery

variable {delivery : Delivery} {data : Bytes}

theorem taken_answered (hdata : delivery.payloadBytes = .ok data) (events : List Script.Event) :
    delivery.Taken (delivery.answered events) { received := events } data where
  encoded := hdata
  found := ⟨[(delivery.endpoint, [])], if_pos rfl⟩
  connects := rfl
  sends _ h := nomatch h

/-- What is recorded of a delivery is the verdict on its answer. -/
theorem recordAlone_answered {d : Dispatcher} (events : List Script.Event) (hwaits : d.waitForAck)
    (hdata : delivery.payloadBytes = .ok data) :
    (d.recordAlone delivery (delivery.answered events)).outcome =
      d.verdict (d.rule.read (events.flatMap Script.Event.arrivals)).1 := by
  rw [Dispatcher.recordAlone_taken (taken_answered hdata events) (fun f hf => nomatch hf),
    Dispatcher.outcome_exchanged, if_pos hwaits]
  rfl

theorem receives_answered (hdata : delivery.payloadBytes = .ok data) (reply : Bytes) :
    delivery.Receives (delivery.answered [.data reply]) reply := by
  have harrivals : Arrival.incoming (Script.Event.data reply).arrivals = reply ∧
      Arrival.failure? (Script.Event.data reply).arrivals = none := by
    cases reply with
    | nil => exact ⟨rfl, rfl⟩
    | cons b bs =>
        have hincoming := Arrival.incoming_append (b :: bs) []
        have hfailure := Arrival.failure?_append (b :: bs) []
        rw [List.append_nil] at hincoming hfailure
        exact ⟨hincoming.trans (List.append_nil _), hfailure⟩
  rw [← List.flatMap_singleton Script.Event.arrivals] at harrivals
  refine ⟨_, data, taken_answered hdata _, harrivals.1, fun f hf => ?_, fun f hf => nomatch hf⟩
  cases harrivals.2.symm.trans hf

end Delivery

namespace Dispatcher

variable {d : Dispatcher} {delivery : Delivery} {w : ScriptedWorld} {as : List Arrival}
  {reply : Bytes}

theorem eq_ack_of_judged (h : d.judged reply = .acknowledged) : reply = d.ack := by
  by_contra hne
  rw [judged, if_neg hne] at h
  split at h
  · injection h
  · injection h

theorem eq_nak_of_judged (h : d.judged reply = .rejected) : reply = d.nak := by
  by_contra hne
  rw [judged, if_neg hne] at h
  split at h
  · injection h
  · injection h

/-- An attempt is acknowledged if the answer begins with the one acknowledgement, and reading
    does not stop before its end. -/
theorem verdict_acknowledged (d : Dispatcher) (as : List Arrival) :
    d.verdict (d.rule.read as).1 = .acknowledged ↔
      d.ack <+: Arrival.incoming as ∧ d.rule.IsReply d.ack := by
  rw [verdict_read, ← ReplyRule.first?_eq_some]
  rcases d.rule.first? (Arrival.incoming as) with _ | p
  · exact ⟨(fun h => nomatch h), fun h => nomatch h⟩
  · refine ⟨fun h => congrArg some (eq_ack_of_judged h), fun h => ?_⟩
    rw [Option.some_inj] at h
    exact if_pos h

theorem verdict_rejected (d : Dispatcher) (as : List Arrival) :
    d.verdict (d.rule.read as).1 = .rejected ↔
      d.nak <+: Arrival.incoming as ∧ d.nak ≠ d.ack ∧ d.rule.IsReply d.nak := by
  rw [verdict_read, and_left_comm, ← ReplyRule.first?_eq_some]
  rcases d.rule.first? (Arrival.incoming as) with _ | p
  · exact ⟨(fun h => nomatch h), fun ⟨_, h⟩ => nomatch h⟩
  · refine ⟨fun h => ?_, fun ⟨hne, h⟩ => ?_⟩
    · cases eq_nak_of_judged h
      refine ⟨fun heq => ?_, rfl⟩
      change d.judged d.nak = _ at h
      rw [judged, if_pos heq] at h
      injection h
    · rw [Option.some_inj] at h
      subst h
      exact (if_neg hne).trans (if_pos rfl)

theorem judged_ne_sent (d : Dispatcher) (reply : Bytes) : d.judged reply ≠ .sent := by
  rw [judged]
  by_cases hack : reply = d.ack
  · rw [if_pos hack]
    decide
  · rw [if_neg hack]
    by_cases hnak : reply = d.nak
    · rw [if_pos hnak]
      decide
    · rw [if_neg hnak]
      decide

/-- There is nothing else that the verdict could be. -/
theorem verdict_failed (d : Dispatcher) (as : List Arrival) :
    d.verdict (d.rule.read as).1 = .failed ↔
      d.verdict (d.rule.read as).1 ≠ .acknowledged ∧ d.verdict (d.rule.read as).1 ≠ .rejected := by
  have hnot : d.verdict (d.rule.read as).1 ≠ .sent := by
    rw [verdict_read]
    rcases d.rule.first? (Arrival.incoming as) with _ | p
    · exact DispatchOutcome.noConfusion
    · exact judged_ne_sent d p
  generalize d.verdict (d.rule.read as).1 = o at hnot
  cases o with
  | sent => exact (hnot rfl).elim
  | acknowledged => decide
  | rejected => decide
  | failed => decide

theorem Records.unique {o o' : DispatchOutcome} (h : d.Records delivery w o)
    (h' : d.Records delivery w o') : o = o' := by
  rcases h with ⟨record, w₁, hrun, rfl⟩
  rcases h' with ⟨record', w₂, hrun', rfl⟩
  cases hrun.symm.trans hrun'
  rfl

/-- A delivery that is answered is recorded, with the verdict on the answer. -/
theorem records_verdict (hwaits : d.waitForAck) (h : delivery.Receives w reply) :
    ∃ as, Arrival.incoming as = reply ∧
      d.Records delivery w (d.verdict (d.rule.read as).1) := by
  rcases h with ⟨script, data, htaken, hincoming, hends, hcloses⟩
  rcases dispatch_taken htaken d with ⟨res, w', hrun, -, hrecord, hres⟩
  have hsome : ∃ record, res = .ok record := by
    rw [hres hcloses]
    rcases hexchanged : d.exchanged delivery script with f | o
    · rw [concluded, if_pos (isRecorded_of_exchanged hexchanged hends)]
      exact ⟨_, rfl⟩
    · exact ⟨_, rfl⟩
  rcases hsome with ⟨record, rfl⟩
  refine ⟨script.arrivals, hincoming, record, w', hrun, ?_⟩
  rw [hrecord record rfl, outcome_exchanged, if_pos hwaits]

end Dispatcher

end MockHost
