import MockHost.Scripted.World
import MockHost.Dispatcher

/-!
# What Deliveries Leave Behind

A dispatcher makes its deliveries over sockets of its own. Whatever becomes of
them, it comes back with one record for every delivery, in order, and what it
adds to the trace are its own log entries, those of its clients, and calls on
outbound sockets. Whoever reads a trace for something else can therefore skip
over a dispatch.

The sockets are a `Transport`, so the argument is made for any relation that the
operations of the transport move the world along. The relation that matters is
the one that lets a trace grow by outbound occurrences only.

## Main definitions

* `Occurrence.isOutbound`: What a delivery may leave in a trace.
* `Trace.GrowsBy`: A trace that has grown by occurrences of some kind.
* `Transport.Moves`: A transport whose operations move the world along a relation.
* `Dispatcher.settle`, `Dispatcher.report`: What a dispatch does after its exchange, before and
  after it closes the client.

## Theorems

* `Dispatcher.dispatchAll_moves`: So do deliveries.
* `Dispatcher.dispatchAll_records`: Deliveries end with a record for each of them.
* `ScriptedWorld.dispatchAll_outbound`: Both, for scripted endpoints.
-/

namespace MockHost

/-- The events that dispatchers and their clients log. -/
def outboundEvents : List Text :=
  ["tcp_client_connected", "tcp_client_sending", "tcp_client_partial_response",
    "tcp_client_close_error", "tcp_client_closed", "dispatch_sent", "dispatch_failed",
    "dispatch_crashed"]

/-- Whether a delivery may leave an occurrence in the trace. -/
def Occurrence.isOutbound : Occurrence → Bool
  | .log e => outboundEvents.contains e.event
  | .setTimeout _ _ | .send _ _ | .close _ | .connect _ _ => true
  | _ => false

/-- A trace that has grown by occurrences that satisfy `P`, if at all. -/
def Trace.GrowsBy (P : Occurrence → Prop) (t t' : Trace) : Prop :=
  ∃ more : List Occurrence, t'.toList = t.toList ++ more ∧ ∀ o ∈ more, P o

namespace Trace

variable {P : Occurrence → Prop}

theorem GrowsBy.refl (t : Trace) : GrowsBy P t t := ⟨[], by simp, by simp⟩

theorem GrowsBy.trans {t u v : Trace} (h : GrowsBy P t u) (h' : GrowsBy P u v) :
    GrowsBy P t v := by
  rcases h with ⟨more, hu, hP⟩
  rcases h' with ⟨more', hv, hP'⟩
  exact ⟨more ++ more', by rw [hv, hu, List.append_assoc], List.forall_mem_append.mpr ⟨hP, hP'⟩⟩

theorem growsBy_push {o : Occurrence} (h : P o) (t : Trace) : GrowsBy P t (t.push o) :=
  ⟨[o], by simp, by simpa using h⟩

/-- A reading of traces that sees nothing in the occurrences added finds what it found
    before. -/
theorem GrowsBy.filterMap_eq {β : Type} {t t' : Trace} (h : GrowsBy P t t')
    (f : Occurrence → Option β) (hf : ∀ o, P o → f o = none) :
    t'.toList.filterMap f = t.toList.filterMap f := by
  rcases h with ⟨more, ht, hP⟩
  rw [ht, List.filterMap_append, List.filterMap_eq_nil_iff.mpr (fun o ho => hf o (hP o ho)),
    List.append_nil]

end Trace

/-- A transport whose operations move the world along `R`. What is noted over it are log
    entries of dispatchers and clients. -/
structure Transport.Moves {σ : Type} (t : Transport σ) (R : σ → σ → Prop) : Prop where
  path : Act.Path R
  note : ∀ e : LogEntry, outboundEvents.contains e.event → Act.Moves R (t.note (.log e))
  connect : ∀ host port span, Act.Moves R (t.connect host port span)
  setTimeout : ∀ id span, Act.Moves R (t.setTimeout id span)
  send : ∀ id data, Act.Moves R (t.send id data)
  consume : ∀ id n, Act.Moves R (t.consume id n)
  close : ∀ id, Act.Moves R (t.close id)

/-- The relation on the world of a client that leaves the client itself free. -/
def Client.Along {σ : Type} (R : σ → σ → Prop) (p q : Client × σ) : Prop := R p.2 q.2

theorem Client.along_path {σ : Type} {R : σ → σ → Prop} (path : Act.Path R) :
    Act.Path (Client.Along R) where
  refl p := path.refl p.2
  trans h h' := path.trans h h'

section

variable {σ : Type} {t : Transport σ} {R : σ → σ → Prop}

namespace Client

open Act (Moves)

theorem onWorld_moves {α : Type} {a : Act σ α} (ha : Moves R a) :
    Moves (Along R) (onWorld a) :=
  Moves.within ha fun _ _ hR => hR

theorem setSocket_moves (h : t.Moves R) (socket : Option SocketId) :
    Moves (Along R) (setSocket socket : ClientAct σ Unit) :=
  Moves.modify fun p => h.path.refl p.2

theorem log_moves (h : t.Moves R) (severity : Severity) {event : String}
    (hevent : outboundEvents.contains (Text.ofString event)) (more : List LogField) :
    Moves (Along R) (log t severity event more) :=
  Moves.bind (along_path h.path) (Moves.get (along_path h.path)) fun _ =>
    onWorld_moves (h.note ⟨severity, Text.ofString event, _⟩ hevent)

theorem connect_moves (h : t.Moves R) : Moves (Along R) (connect t) := by
  have path := along_path h.path
  refine Moves.bind path (Moves.get path) fun p => ?_
  dsimp only
  split
  · exact Moves.pure path _
  · refine Moves.bind path (Moves.attempt (onWorld_moves (h.connect _ _ _))) fun r => ?_
    split
    · exact Moves.bind path (setSocket_moves h _) fun _ => log_moves h _ (by decide) _
    · exact Moves.throw path _
    · exact Moves.throw path _

theorem close_moves (h : t.Moves R) : Moves (Along R) (close t) := by
  have path := along_path h.path
  refine Moves.bind path (Moves.get path) fun p => ?_
  dsimp only
  split
  · exact Moves.pure path _
  · -- The socket is forgotten whether or not closing it failed.
    have hend : Moves (Along R)
        (do setSocket none; log t .debug "tcp_client_closed" [] : ClientAct σ Unit) :=
      Moves.bind path (setSocket_moves h _) fun _ => log_moves h _ (by decide) _
    refine Moves.bind path (Moves.attempt (onWorld_moves (h.close _))) fun r => ?_
    split
    · exact hend
    · exact Moves.bind path (log_moves h _ (by decide) _) fun _ => hend
    · exact Moves.bind path (Moves.throw path _) fun _ => hend

theorem readReply_moves (h : t.Moves R) (span : Option Seconds) :
    Moves (Along R) (readReply t span) := by
  have path := along_path h.path
  refine Moves.bind path (Moves.get path) fun p => ?_
  dsimp only
  split
  · exact Moves.throw path _
  · refine Moves.bind path (onWorld_moves (h.setTimeout _ _)) fun _ => ?_
    refine Moves.bind path (Moves.get path) fun q => ?_
    refine Moves.bind path (onWorld_moves (h.consume _ _)) fun _ => ?_
    split
    · exact Moves.pure path _
    · split
      · exact Moves.bind path (Moves.throw path _) fun _ =>
          Moves.bind path (log_moves h _ (by decide) _) fun _ => Moves.pure path _
      · exact Moves.bind path (log_moves h _ (by decide) _) fun _ => Moves.pure path _
    · exact Moves.throw path _
    · exact Moves.throw path _
    · exact Moves.throw path _

theorem sendBytes_moves (h : t.Moves R) (data : Bytes) (wait : Bool) (span : Option Seconds) :
    Moves (Along R) (sendBytes t data wait span) := by
  have path := along_path h.path
  refine Moves.bind path (connect_moves h) fun _ => ?_
  refine Moves.bind path (log_moves h _ (by decide) _) fun _ => ?_
  refine Moves.bind path (Moves.get path) fun p => ?_
  refine Moves.bind path (Moves.attempt (onWorld_moves (h.send _ _))) fun r => ?_
  have hend : Moves (Along R) (if wait then (do return some (← readReply t span))
      else return none : ClientAct σ (Option MessageStream)) := by
    split
    · exact Moves.bind path (readReply_moves h span) fun _ => Moves.pure path _
    · exact Moves.pure path _
  dsimp only
  split
  · exact hend
  · exact Moves.bind path (close_moves h) fun _ =>
      Moves.bind path (Moves.throw path _) fun _ => hend
  · exact Moves.bind path (Moves.throw path _) fun _ => hend

end Client

namespace Dispatcher

open Client
open Act (Moves Returns)

theorem exchange_moves (h : t.Moves R) (d : Dispatcher) (delivery : Delivery) :
    Moves (Along R) (exchange t d delivery) := by
  have path := along_path h.path
  unfold exchange
  split
  · exact Moves.throw path _
  · refine Moves.bind path (sendBytes_moves h _ _ _) fun reply => ?_
    split
    · exact Moves.pure path _
    · exact Moves.throw path _

/-- What a dispatch makes of the end of an exchange before it closes the client. -/
def settle (t : Transport σ) (delivery : Delivery) :
    Except Failure DispatchOutcome → ClientAct σ (DispatchOutcome ⊕ DispatchRecord)
  | .ok outcome => return .inl outcome
  | .error f => do
    if isRecorded f then
      Client.log t .error "dispatch_failed" [.text "error" f.message, .text "error_type" f.label]
      return .inr (failedRecord delivery f)
    else throw f

/-- What a dispatch makes of it afterwards. -/
def report (t : Transport σ) (delivery : Delivery) :
    DispatchOutcome ⊕ DispatchRecord → ClientAct σ DispatchRecord
  | .inr record => return record
  | .inl outcome => do
    Client.log t .info "dispatch_sent"
      [.nat "size" (Utf8.encode delivery.payload).length, .text "outcome" outcome.label]
    return ⟨delivery, outcome, none⟩

theorem outcomeOrRecord_eq (d : Dispatcher) (delivery : Delivery) :
    outcomeOrRecord t d delivery = Act.attempt (exchange t d delivery) >>= settle t delivery := by
  refine congrArg (Act.attempt (exchange t d delivery) >>= ·) (funext fun r => ?_)
  cases r <;> rfl

theorem deliver_eq (d : Dispatcher) (delivery : Delivery) :
    deliver t d delivery =
      Act.andFinally (outcomeOrRecord t d delivery) (close t) >>= report t delivery := by
  refine congrArg (Act.andFinally (outcomeOrRecord t d delivery) (close t) >>= ·)
    (funext fun x => ?_)
  cases x <;> rfl

theorem settle_moves (h : t.Moves R) (delivery : Delivery) (res : Except Failure DispatchOutcome) :
    Moves (Along R) (settle t delivery res) := by
  have path := along_path h.path
  rcases res with f | o
  · rw [settle]
    split
    · exact Moves.bind path (log_moves h _ (by decide) _) fun _ => Moves.pure path _
    · exact Moves.throw path _
  · exact Moves.pure path _

theorem report_moves (h : t.Moves R) (delivery : Delivery) (x : DispatchOutcome ⊕ DispatchRecord) :
    Moves (Along R) (report t delivery x) := by
  have path := along_path h.path
  rcases x with o | record
  · exact Moves.bind path (log_moves h _ (by decide) _) fun _ => Moves.pure path _
  · exact Moves.pure path _

theorem outcomeOrRecord_moves (h : t.Moves R) (d : Dispatcher) (delivery : Delivery) :
    Moves (Along R) (outcomeOrRecord t d delivery) := by
  rw [outcomeOrRecord_eq]
  exact Moves.bind (along_path h.path) (Moves.attempt (exchange_moves h d delivery))
    (settle_moves h delivery)

theorem deliver_moves (h : t.Moves R) (d : Dispatcher) (delivery : Delivery) :
    Moves (Along R) (deliver t d delivery) := by
  have path := along_path h.path
  rw [deliver_eq]
  exact Moves.bind path (Moves.andFinally path (outcomeOrRecord_moves h d delivery)
    (close_moves h)) (report_moves h delivery)

theorem dispatchSafely_moves (h : t.Moves R) (d : Dispatcher) (delivery : Delivery) :
    Moves R (dispatchSafely t d delivery) := by
  have hone : Moves R (dispatch t d delivery) := fun s =>
    deliver_moves h d delivery (d.client delivery, s)
  refine Moves.bind h.path hone.attempt fun r => ?_
  split
  · exact Moves.pure h.path _
  · have hcrashed : outboundEvents.contains (Text.ofString "dispatch_crashed") := by decide
    exact Moves.bind h.path (h.note ⟨.error, Text.ofString "dispatch_crashed", _⟩ hcrashed) fun _ =>
      Moves.pure h.path _

theorem dispatchAll_moves (h : t.Moves R) (d : Dispatcher) (ds : List Delivery) :
    Moves R (dispatchAll t d ds) := by
  induction ds with
  | nil => exact Moves.pure h.path _
  | cons delivery rest ih =>
      refine Moves.bind h.path (dispatchSafely_moves h d delivery) fun record => ?_
      exact Moves.bind h.path ih fun _ => Moves.pure h.path _

/-! ### The records -/

/-- An outcome, or a record of this delivery. -/
def Concerns (delivery : Delivery) : DispatchOutcome ⊕ DispatchRecord → Prop
  | .inl _ => True
  | .inr record => record.delivery = delivery

theorem outcomeOrRecord_concerns (d : Dispatcher) (delivery : Delivery) :
    Returns (Concerns delivery) (outcomeOrRecord t d delivery) := by
  refine Returns.bind (Returns.trivial _) fun r _ => ?_
  split
  · exact Returns.pure trivial
  · split
    · exact Returns.bind (Returns.trivial _) fun _ _ => Returns.pure rfl
    · exact Returns.throw _ _

theorem deliver_concerns (d : Dispatcher) (delivery : Delivery) :
    Returns (fun record => record.delivery = delivery) (deliver t d delivery) := by
  refine Returns.bind (outcomeOrRecord_concerns d delivery).andFinally fun x hx => ?_
  split
  · exact Returns.pure hx
  · exact Returns.bind (Returns.trivial _) fun _ _ => Returns.pure rfl

theorem dispatchSafely_record (hnote : ∀ o s, ((t.note o).runFrom s).1 = .ok ())
    (d : Dispatcher) (delivery : Delivery) (s : σ) :
    ∃ record, ((dispatchSafely t d delivery).runFrom s).1 = .ok record ∧
      record.delivery = delivery := by
  rw [dispatchSafely, Act.runFrom_bind, Act.runFrom_attempt]
  rcases hone : (dispatch t d delivery).runFrom s with ⟨f | record, s'⟩
  · -- What goes wrong with a delivery ends in its record, once that has been logged.
    refine ⟨failedRecord delivery f, ?_, rfl⟩
    simp only [Act.runFrom_bind]
    have hok := hnote (.logged .error "dispatch_crashed"
      [.text "host" delivery.host, .int "port" delivery.port, .withPlace]) s'
    rcases hrun : (t.note (.logged .error "dispatch_crashed"
      [.text "host" delivery.host, .int "port" delivery.port, .withPlace])).runFrom s' with ⟨_ | _, _⟩
    · rw [hrun] at hok
      injection hok
    · rfl
  · have hdeliver : ((deliver t d delivery).runFrom (d.client delivery, s)).1 = .ok record :=
      congrArg Prod.fst hone
    exact ⟨record, rfl, deliver_concerns d delivery _ _ hdeliver⟩

/-- Deliveries never fail as a whole: they end with one record for each delivery, in order. -/
theorem dispatchAll_records (hnote : ∀ o s, ((t.note o).runFrom s).1 = .ok ())
    (d : Dispatcher) (ds : List Delivery) (s : σ) :
    ∃ records, ((dispatchAll t d ds).runFrom s).1 = .ok records ∧
      records.map DispatchRecord.delivery = ds := by
  induction ds generalizing s with
  | nil => exact ⟨[], rfl, rfl⟩
  | cons delivery rest ih =>
      rcases dispatchSafely_record hnote d delivery s with ⟨record, hrecord, hdelivery⟩
      rcases hrun : (dispatchSafely t d delivery).runFrom s with ⟨res, s'⟩
      rw [hrun] at hrecord
      rcases ih s' with ⟨records, hrecords, hdeliveries⟩
      rcases hrest : (dispatchAll t d rest).runFrom s' with ⟨res', s''⟩
      rw [hrest] at hrecords
      refine ⟨record :: records, ?_, by rw [List.map_cons, hdelivery, hdeliveries]⟩
      simp only at hrecord hrecords
      subst hrecord hrecords
      rw [dispatchAll, Act.runFrom_bind_ok hrun, Act.runFrom_bind_ok hrest, Act.runFrom_pure]

end Dispatcher

end

namespace ScriptedWorld

open Act (Moves)

/-- A scripted world whose trace has grown by outbound occurrences, if at all. -/
def Outbound (w w' : ScriptedWorld) : Prop :=
  Trace.GrowsBy (fun o => o.isOutbound) w.trace w'.trace

theorem outbound_path : Act.Path Outbound where
  refl w := Trace.GrowsBy.refl w.trace
  trans h h' := h.trans h'

theorem note_outbound (o : Occurrence) (h : o.isOutbound) : Moves Outbound (note o) :=
  fun w => Trace.growsBy_push h w.trace

theorem onSocket_outbound (id : SocketId) (a : ScriptedSocket → Act ScriptedWorld Unit)
    (ha : ∀ s, Moves Outbound (a s)) : Moves Outbound (onSocket id a) := by
  refine Moves.bind outbound_path (Moves.get outbound_path) fun w => ?_
  split
  · exact ha _
  · exact Moves.pure outbound_path _

theorem failing_moves {σ : Type} {R : σ → σ → Prop} (path : Act.Path R) (f : Option Failure) :
    Moves R (failing f : Act σ Unit) := by
  cases f with
  | none => exact Moves.pure path _
  | some f => exact Moves.throw path f

/-- No operation on an outbound socket shows in the trace as anything else. -/
theorem transport_moves : transport.Moves Outbound where
  path := outbound_path
  note _ h := note_outbound _ h
  connect host port span := by
    refine Moves.bind outbound_path (note_outbound _ rfl) fun _ => ?_
    refine Moves.bind outbound_path (Moves.get outbound_path) fun w => ?_
    split
    · exact Moves.throw outbound_path _
    · refine Moves.bind outbound_path (Moves.modify fun w => outbound_path.refl w) fun _ => ?_
      refine Moves.bind outbound_path (failing_moves outbound_path _) fun _ => ?_
      refine Moves.bind outbound_path (Moves.get outbound_path) fun w => ?_
      refine Moves.bind outbound_path (Moves.modify fun w => outbound_path.refl w) fun _ => ?_
      exact Moves.pure outbound_path _
  setTimeout id span := onSocket_outbound id _ fun _ => note_outbound _ rfl
  send id data := by
    refine onSocket_outbound id _ fun s => ?_
    refine Moves.bind outbound_path (Moves.modify fun w => outbound_path.refl w) fun _ => ?_
    split
    · exact Moves.throw outbound_path _
    · exact note_outbound _ rfl
  consume id n := onSocket_outbound id _ fun _ => Moves.modify fun w => outbound_path.refl w
  close id := onSocket_outbound id _ fun _ =>
    Moves.bind outbound_path (note_outbound _ rfl) fun _ => failing_moves outbound_path _

/-- Deliveries made in a scripted world end with their records, and add nothing but
    outbound occurrences to the trace. -/
theorem dispatchAll_outbound (d : Dispatcher) (ds : List Delivery) (w : ScriptedWorld) :
    ∃ records w', (d.dispatchAll transport ds).runFrom w = (.ok records, w') ∧
      records.map DispatchRecord.delivery = ds ∧ Outbound w w' := by
  rcases Dispatcher.dispatchAll_records (t := transport) (fun _ _ => rfl) d ds w with
    ⟨records, hrecords, hdeliveries⟩
  have hworld := Dispatcher.dispatchAll_moves transport_moves d ds w
  rcases hrun : (d.dispatchAll transport ds).runFrom w with ⟨res, w'⟩
  rw [hrun] at hrecords hworld
  simp only at hrecords
  exact ⟨records, w', by rw [hrecords], hdeliveries, hworld⟩

end ScriptedWorld

/-- A dispatcher that waits for nothing. -/
def Dispatcher.idle : Dispatcher where
  connectTimeout := ⟨0⟩
  waitForAck := false
  ackTimeout := ⟨0⟩
  ack := [65]
  nak := [78]

end MockHost
