import MockHost.Connection.Basic
import MockHost.Proofs.Stream.Framing
import MockHost.Proofs.Stream.Window

/-!
# What a Connection Does for Its Messages

A reference for the message cycle that knows nothing of threads, sockets or
failures. It reads off the behaviour and the registry what is to be seen of a
connection for each message: which hooks are called and what they find, what the
peer is sent, and which deliveries are made.

A run that goes wrong does not do all of that. What it does do is a beginning:
the calls of a connection *perform* a list of deeds if they do one after the
other and stop at the first call that fails. Only two kinds of failing calls
count as deeds themselves or not: hooks that fail have been called all the same,
whereas nothing has been sent by a send that fails.

## Main definitions

* `Deed`: What can be seen of a connection.
* `Behavior.cycle`, `Behavior.cycles`: What is to be done for one message, and for several.
* `Call.deed?`, `Call.fails`: What a call shows, and whether it failed.
* `Performs`: Calls that do what is to be done, up to a failure.

## Theorems

* `Connection.accept_mismatch`: A connection judges messages as its behaviour states.
* `Behavior.cycles_append`: Deeds for some messages and then for others.
* `Performs.append`: Deeds done one after another.
* `Performs.deeds_eq`: Without a failure everything is done.
* `Performs.deeds_prefix`: In any case a beginning is.
* `Performs.fails_last`: Nothing is called after a failure.
-/

namespace MockHost

/-- One thing that can be seen of a connection while it serves its peer. -/
inductive Deed where
  /-- The hooks are called, and find this number of messages and this record of the last of
      them. -/
  | hooks (call : HookCall) (messages : Nat) (mismatch : Option Mismatch)
  /-- The peer is sent an answer. -/
  | reply (data : Bytes)
  /-- Deliveries are dispatched. -/
  | dispatch (deliveries : List Delivery)

namespace Behavior

/-- Whether a message is expected: no pattern is set, or all of the message, its terminator
    included, matches it. -/
def welcomes (b : Behavior) (m : Bytes) : Bool :=
  match b.expected with
  | none => true
  | some source =>
    match Pattern.compile source with
    | .ok p => p.accepts (Utf8.decode m)
    | .error _ => false

/-- The record of a message that is not expected. -/
def mismatch (b : Behavior) (m : Bytes) : Option Mismatch :=
  if b.welcomes m then none else b.expected.map fun source => ⟨source, Utf8.decode m⟩

/-- The answer to a message. -/
def replyTo (b : Behavior) (m : Bytes) : Bytes :=
  if !b.alwaysNak && b.welcomes m then b.ack else b.nak

/-- The deliveries that a message triggers. -/
def deliveriesFor (b : Behavior) (registry : Option Registry) (m : Bytes) : List Delivery :=
  match registry with
  | some r =>
    if b.sendResponses then
      r.lookup (Utf8.decode (MessageStream.withoutTerminator b.terminator m))
    else []
  | none => []

/-- What is done to answer a message, the `count`-th one. -/
def answering (b : Behavior) (count : Nat) (m : Bytes) : List Deed :=
  if b.noResponse then []
  else [.reply (b.replyTo m), .hooks (.afterResponse (b.replyTo m)) count (b.mismatch m)]

/-- What is done to forward deliveries. -/
def forwarding (deliveries : List Delivery) : List Deed :=
  if deliveries.isEmpty then [] else [.dispatch deliveries]

/-- What is done for the `count`-th message. -/
def cycle (b : Behavior) (registry : Option Registry) (count : Nat) (m : Bytes) : List Deed :=
  .hooks (.onMessage (MessageStream.holding b.terminator.length m)) count (b.mismatch m) ::
    (b.answering count m ++ forwarding (b.deliveriesFor registry m))

/-- What is done for messages that follow `count` others. -/
def cycles (b : Behavior) (registry : Option Registry) (count : Nat) : List Bytes → List Deed
  | [] => []
  | m :: ms => b.cycle registry (count + 1) m ++ b.cycles registry (count + 1) ms

/-- The messages that are attended to: the first one only, if the connection is to close
    after it. -/
def attended (b : Behavior) (messages : List Bytes) : List Bytes :=
  if b.closeAfterNext then messages.take 1 else messages

theorem cycles_append (b : Behavior) (registry : Option Registry) (count : Nat)
    (ms ms' : List Bytes) :
    b.cycles registry count (ms ++ ms') =
      b.cycles registry count ms ++ b.cycles registry (count + ms.length) ms' := by
  induction ms generalizing count with
  | nil => rfl
  | cons m ms ih =>
      rw [List.cons_append, cycles, cycles, ih, List.append_assoc, List.length_cons,
        show count + 1 + ms.length = count + (ms.length + 1) by omega]

end Behavior

/-- A connection that has been accepted has done nothing yet. -/
theorem Connection.accept_eq {peer : Peer} {serverPort : Port} {b : Behavior}
    {registry : Option Registry} {dispatcher : Dispatcher} {hooks : List Hook}
    {readTimeout : Seconds} {c : Connection}
    (accepted : Connection.accept peer serverPort b registry dispatcher hooks readTimeout = .ok c) :
    ∃ expectation, c = { peer, serverPort, behavior := b, registry, dispatcher, hooks,
                         readTimeout, expectation } := by
  rw [Connection.accept] at accepted
  cases hexpectation : Connection.expectationOf b with
  | error f =>
      rw [hexpectation] at accepted
      injection accepted
  | ok e =>
      rw [hexpectation] at accepted
      injection accepted with accepted
      exact ⟨e, accepted.symm⟩

/-- A connection judges messages as the behaviour that it was accepted with states. -/
theorem Connection.accept_mismatch {peer : Peer} {serverPort : Port} {b : Behavior}
    {registry : Option Registry} {dispatcher : Dispatcher} {hooks : List Hook}
    {readTimeout : Seconds} {c : Connection}
    (h : Connection.accept peer serverPort b registry dispatcher hooks readTimeout = .ok c)
    (s : MessageStream) : (c.expectation.bind fun e => e.check s) = b.mismatch s.toBytes := by
  simp only [Connection.accept, Connection.expectationOf] at h
  cases hexpected : b.expected with
  | none =>
      rw [hexpected] at h
      injection h with h
      subst h
      simp only [Option.bind_none, Behavior.mismatch, Behavior.welcomes, hexpected, if_true]
  | some source =>
      simp only [hexpected, Expectation.compile] at h
      cases hpattern : Pattern.compile source with
      | error e =>
          rw [hpattern] at h
          injection h
      | ok p =>
          rw [hpattern] at h
          injection h with h
          subst h
          simp only [Option.bind_some, Behavior.mismatch, Behavior.welcomes, hexpected, hpattern,
            Option.map_some]
          rfl

namespace Call

/-- What a call shows of the connection. -/
def deed? : Call → Option Deed
  | .hooks call messages mismatch => some (.hooks call messages mismatch)
  | .send data none => some (.reply data)
  | .dispatch deliveries _ => some (.dispatch deliveries)
  | _ => none

/-- Whether a call failed. A read that only timed out did not. -/
def fails : Call → Bool
  | .receive (some f) => !f.isTimeout
  | .send _ fault => fault.isSome
  | .hooksFailed _ _ => true
  | _ => false

/-- The message that the hooks are called with. -/
def message? : Call → Option MessageStream
  | .hooks (.onMessage m) _ _ => some m
  | _ => none

/-- Whether a call releases the socket. -/
def isClose : Call → Bool
  | .close => true
  | _ => false

/-- The records that a call leaves. -/
def records : Call → List DispatchRecord
  | .dispatch _ records => records
  | _ => []

/-- Whether a call leaves a record for each delivery that it makes, if it makes any. -/
def RecordsAll : Call → Prop
  | .dispatch deliveries records => records.map DispatchRecord.delivery = deliveries
  | _ => True

end Call

/-- The calls do one deed after another, up to the failure of one of them. Reads of the
    socket may come in between. -/
inductive Performs : List Deed → List Call → Option Failure → Prop where
  | done : Performs [] [] none
  | read {ds calls end? fault} (hok : (Call.receive fault).fails = false)
      (rest : Performs ds calls end?) : Performs ds (.receive fault :: calls) end?
  | deed {d ds call calls end?} (hdeed : call.deed? = some d) (rest : Performs ds calls end?) :
      Performs (d :: ds) (call :: calls) end?
  | readFailed {ds f} (hfails : (Call.receive (some f)).fails) :
      Performs ds [.receive (some f)] (some f)
  | hooksFailed {ds call n m} (f : Failure) :
      Performs (.hooks call n m :: ds) [.hooks call n m, .hooksFailed call f] (some f)
  | sendFailed {ds data} (f : Failure) :
      Performs (.reply data :: ds) [.send data (some f)] (some f)

namespace Performs

variable {ds ds' : List Deed} {calls calls' : List Call} {end? : Option Failure} {f : Failure}

/-- What is done without a failure can be gone on with. -/
theorem append (h : Performs ds calls none) (h' : Performs ds' calls' end?) :
    Performs (ds ++ ds') (calls ++ calls') end? := by
  generalize hnone : none = e at h
  induction h with
  | done => exact h'
  | read hok _ ih => exact .read hok (ih hnone)
  | deed hdeed _ ih => exact .deed hdeed (ih hnone)
  | readFailed _ => injection hnone
  | hooksFailed _ => injection hnone
  | sendFailed _ => injection hnone

/-- What remains to be done after a failure makes no difference. -/
theorem extend (h : Performs ds calls (some f)) (more : List Deed) :
    Performs (ds ++ more) calls (some f) := by
  generalize hsome : some f = e at h
  induction h with
  | done => injection hsome
  | read hok _ ih => exact .read hok (ih hsome)
  | deed hdeed _ ih => exact .deed hdeed (ih hsome)
  | readFailed hfails => exact .readFailed hfails
  | hooksFailed f => exact .hooksFailed f
  | sendFailed f => exact .sendFailed f

theorem one {d : Deed} {call : Call} (h : call.deed? = some d) : Performs [d] [call] none :=
  .deed h .done

/-- Without a failure everything is done. -/
theorem deeds_eq (h : Performs ds calls none) : calls.filterMap Call.deed? = ds := by
  generalize hnone : none = e at h
  induction h with
  | done => rfl
  | read _ _ ih => exact ih hnone
  | deed hdeed _ ih => rw [List.filterMap_cons_some hdeed, ih hnone]
  | readFailed _ => injection hnone
  | hooksFailed _ => injection hnone
  | sendFailed _ => injection hnone

/-- Whatever happens, a beginning of it is done. -/
theorem deeds_prefix (h : Performs ds calls end?) : calls.filterMap Call.deed? <+: ds := by
  induction h with
  | done => exact List.prefix_rfl
  | read _ _ ih => exact ih
  | deed hdeed _ ih =>
      rw [List.filterMap_cons_some hdeed]
      exact (List.prefix_cons_inj _).mpr ih
  | readFailed _ => exact List.nil_prefix
  | hooksFailed _ => exact (List.prefix_cons_inj _).mpr List.nil_prefix
  | sendFailed _ => exact List.nil_prefix

theorem fails_eq_false_of_deed? {call : Call} {d : Deed} (h : call.deed? = some d) :
    call.fails = false := by
  cases call with
  | send data fault =>
      cases fault with
      | none => rfl
      | some f => injection h
  | hooks call n m => rfl
  | dispatch deliveries records => rfl
  | receive fault => injection h
  | shutdown => injection h
  | close => injection h
  | hooksFailed call f => injection h

/-- Nothing is called after a call that failed. -/
theorem fails_last (h : Performs ds calls end?) {before after : List Call} {call : Call}
    (heq : calls = before ++ call :: after) (hfails : call.fails) : after = [] := by
  induction h generalizing before with
  | done =>
      exact absurd heq.symm (List.append_ne_nil_of_right_ne_nil _ (List.cons_ne_nil _ _))
  | read hok _ ih =>
      cases before with
      | nil =>
          injection heq with hcall _
          rw [← hcall, hok] at hfails
          exact absurd hfails Bool.false_ne_true
      | cons x before =>
          injection heq with _ hrest
          exact ih hrest
  | deed hdeed _ ih =>
      cases before with
      | nil =>
          injection heq with hcall _
          rw [← hcall, fails_eq_false_of_deed? hdeed] at hfails
          exact absurd hfails Bool.false_ne_true
      | cons x before =>
          injection heq with _ hrest
          exact ih hrest
  | readFailed _ =>
      rcases List.append_eq_singleton_iff.mp heq.symm with ⟨-, h⟩ | ⟨-, h⟩
      · injection h
      · exact absurd h (List.cons_ne_nil _ _)
  | sendFailed _ =>
      rcases List.append_eq_singleton_iff.mp heq.symm with ⟨-, h⟩ | ⟨-, h⟩
      · injection h
      · exact absurd h (List.cons_ne_nil _ _)
  | hooksFailed _ =>
      cases before with
      | nil =>
          -- Hooks have been called, whether they fail or not.
          injection heq with hcall _
          rw [← hcall] at hfails
          exact absurd hfails Bool.false_ne_true
      | cons x before =>
          injection heq with _ hrest
          rcases List.append_eq_singleton_iff.mp hrest.symm with ⟨-, h⟩ | ⟨-, h⟩
          · injection h
          · exact absurd h (List.cons_ne_nil _ _)

/-- The socket is not released on the way. -/
theorem isClose_eq_false (h : Performs ds calls end?) {call : Call} (hmem : call ∈ calls) :
    call.isClose = false := by
  induction h with
  | done => exact absurd hmem List.not_mem_nil
  | read _ _ ih =>
      rcases List.mem_cons.mp hmem with rfl | hmem
      · rfl
      · exact ih hmem
  | @deed _ _ made _ _ hdeed _ ih =>
      rcases List.mem_cons.mp hmem with rfl | hmem
      · cases call with
        | close => injection hdeed
        | _ => rfl
      · exact ih hmem
  | readFailed _ =>
      rw [List.mem_singleton.mp hmem]
      rfl
  | sendFailed _ =>
      rw [List.mem_singleton.mp hmem]
      rfl
  | hooksFailed _ =>
      rcases List.mem_cons.mp hmem with rfl | hmem
      · rfl
      · rw [List.mem_singleton.mp hmem]
        rfl

end Performs

end MockHost
