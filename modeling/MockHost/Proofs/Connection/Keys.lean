import MockHost.Proofs.Connection.Halting
import MockHost.Proofs.Text.Utf8

/-!
# Reaching a Key

A key of a registry is a text, and what a peer sends are bytes. A key is reached by its
bytes with a terminator after them, provided that the terminator does not occur earlier:
these bytes are one message, and what is left of it without the terminator is read back
as the key. How they are cut into reads does not matter, so a character may well be
divided between two of them.

Nothing else is ever looked up: the body of a message never holds the terminator.

## Theorems

* `Framing.IsMessage.exists_body`: A message is a body and a terminator.
* `Framing.isSplit_singleton`: Bytes that are one message.
* `Rehearsal.Runs.deliveries`: The deliveries made in a run.
* `Rehearsal.run_reachesKey`: A key is reached, and only keys without a terminator are.
-/

namespace MockHost

namespace MessageStream

@[simp] theorem withoutTerminator_append (terminator body : Bytes) :
    withoutTerminator terminator (body ++ terminator) = body := by
  have hends : terminator.isSuffixOf (body ++ terminator) :=
    List.isSuffixOf_iff_suffix.mpr (List.suffix_append body terminator)
  rw [withoutTerminator, if_pos hends, List.length_append, Nat.add_sub_cancel, List.take_left]

end MessageStream

namespace Framing

variable {terminator m : Bytes}

/-- A message is a body and a terminator, which the body does not hold. -/
theorem IsMessage.exists_body (hne : terminator ≠ []) (h : IsMessage terminator m) :
    ∃ body, m = body ++ terminator ∧ ¬ terminator <:+: body := by
  rcases h.ends with ⟨body, rfl⟩
  refine ⟨body, rfl, ?_⟩
  rintro ⟨before, after, rfl⟩
  -- The last terminator would come after another one.
  have hnil := h.first before (after ++ terminator) (by rw [← List.append_assoc])
  exact hne (List.append_eq_nil_iff.mp hnil).2

/-- Bytes that are one message are cut into this one. -/
theorem isSplit_singleton (hne : terminator ≠ []) (h : IsMessage terminator m) :
    IsSplit terminator m [m] [] where
  whole := by rw [List.flatten_singleton, List.append_nil]
  closed := List.forall_mem_singleton.mpr h
  unfinished := not_infix_nil hne

end Framing

/-- What a message triggers are the deliveries that are registered for its body. -/
theorem Behavior.deliveriesFor_holding {b : Behavior} (hresponds : b.sendResponses)
    (registry : Registry) (n : Nat) (m : Bytes) :
    b.deliveriesFor (some registry) m =
      registry.lookup ((MessageStream.holding n m).body b.terminator) := by
  rw [MessageStream.body, MessageStream.toBytes_holding]
  exact if_pos hresponds

namespace Rehearsal

section

variable {r : Rehearsal} {ended : Connection} {messages ms : List Bytes} {calls last : List Call}
  {end? : Option Failure}

/-- The deliveries of a run are made for its messages. -/
theorem Runs.deliveries (h : Runs r ended messages ms calls last end?)
    (hfresh : r.connection.dispatches = []) :
    ended.dispatches.map DispatchRecord.delivery =
      (calls.filterMap Call.deed?).flatMap Deed.deliveries := by
  rcases h.last with ⟨_, hlast⟩
  have hrecords : ∀ call ∈ calls ++ last, call.RecordsAll :=
    List.forall_mem_append.mpr ⟨h.course.records, hlast.records⟩
  have hnone : (last.filterMap Call.deed?).flatMap Deed.deliveries = [] := by
    rcases hlast.started with ⟨more, hmore⟩
    have hall : (last.filterMap Call.deed? ++ more).flatMap Deed.deliveries = [] := by
      rw [hmore]
      rfl
    rw [List.flatMap_append] at hall
    exact (List.append_eq_nil_iff.mp hall).1
  rw [h.dispatches, hfresh, List.nil_append, Call.deliveries_records hrecords,
    List.filterMap_append, List.flatMap_append, hnone, List.append_nil]

theorem Runs.deliveries_prefix (h : Runs r ended messages ms calls last end?)
    (hfresh : r.connection.dispatches = []) :
    ended.dispatches.map DispatchRecord.delivery <+:
      ms.flatMap (r.connection.behavior.deliveriesFor r.connection.registry) := by
  rcases h.course.deeds_prefix with ⟨more, hmore⟩
  rw [h.deliveries hfresh, ← deliveries_cycles _ _ r.connection.received, ← hmore,
    List.flatMap_append]
  exact List.prefix_append _ _

theorem Runs.deliveries_eq (h : Runs r ended messages ms calls last none)
    (hfresh : r.connection.dispatches = []) :
    ended.dispatches.map DispatchRecord.delivery =
      ms.flatMap (r.connection.behavior.deliveriesFor r.connection.registry) := by
  have hall := h.course.deeds_eq fun f hf => by
    injection hf with hf
    injection hf
  rw [h.deliveries hfresh, hall, deliveries_cycles]

end

section

variable {peer : Peer} {serverPort : Port} {b : Behavior} {registry : Registry}
  {dispatcher : Dispatcher} {hooks : List Hook} {readTimeout : Seconds} {c : Connection}

/-- A connection that has been accepted runs, whether a thread serves it or not. -/
theorem accept_runs {registry : Option Registry}
    (accepted : Connection.accept peer serverPort b registry dispatcher hooks readTimeout = .ok c)
    (terminated : b.terminator ≠ []) (worker : Worker) (s : Script) (world : ScriptedWorld)
    (size : Nat) (t : Seconds) :
    ∃ ms calls last end?,
      Runs (Rehearsal.of (c.withWorker worker) s world size)
        (served t (c.withWorker worker) s world size).connection
        (Framing.split b.terminator []
          (Script.arriving (s.received.flatMap (Script.Event.pieces size)))).1
        ms calls last end? ∧
      (served t (c.withWorker worker) s world size).connection.calls.filterMap Call.message? =
        ms.map (MessageStream.holding b.terminator.length) := by
  have hworking := accept_working accepted terminated worker s world size
  rcases Connection.accept_eq accepted with ⟨expectation, rfl⟩
  rcases run_runs (t := t) hworking rfl with ⟨ms, calls, last, end?, hruns, -, -⟩
  refine ⟨ms, calls, last, end?, hruns, ?_⟩
  rw [served, hruns.history]
  exact hruns.messages

/-- Bytes that are one message are attended to as this message, and nothing fails where nothing
    may. -/
theorem Runs.one {r : Rehearsal} {ended : Connection} {m : Bytes} {ms : List Bytes}
    {calls last : List Call} {end? : Option Failure} (h : Runs r ended [m] ms calls last end?) :
    ms = [m] := by
  rcases h.finished with hall | hne
  · exact hall
  · rcases List.exists_cons_of_ne_nil hne with ⟨m', ms', rfl⟩
    rcases List.cons_prefix_cons.mp h.started with ⟨rfl, hrest⟩
    rw [List.prefix_nil.mp hrest]

/-- The bytes of a key and a terminator are one message, which is dispatched what is registered
    for the key. -/
theorem served_key
    (accepted : Connection.accept peer serverPort b (some registry) dispatcher hooks readTimeout =
      .ok c)
    (terminated : b.terminator ≠ []) (responds : b.sendResponses) {worker : Worker} {key : Text}
    (hscalar : ∀ x ∈ key, x.IsScalar)
    (hmessage : Framing.IsMessage b.terminator (Utf8.encode key ++ b.terminator)) {s : Script}
    {world : ScriptedWorld} {size : Nat} (hsize : 1 ≤ size)
    (hcarries :
      Script.Carries (fun f => f.isTimeout) s.received (Utf8.encode key ++ b.terminator))
    (hassured : (Rehearsal.of (c.withWorker worker) s world size).Assured) (t : Seconds) :
    let ended := (served t (c.withWorker worker) s world size).connection
    (∃ m, ended.calls.filterMap Call.message? = [m] ∧ m.body b.terminator = key) ∧
      ended.received = 1 ∧ ended.dispatches.map DispatchRecord.delivery = registry.lookup key := by
  rcases accept_runs accepted terminated worker s world size t with
    ⟨ms, calls, last, end?, hruns, hmessages⟩
  rcases Connection.accept_eq accepted with ⟨expectation, rfl⟩
  have hgives := hcarries.gives hsize
  have hend : end? = none := hruns.faultless ⟨_, hgives⟩ hassured
  -- The pass over the bytes finds the only way to cut them.
  have hsplit := Framing.isSplit_split terminated (Framing.not_infix_nil terminated)
    (Utf8.encode key ++ b.terminator)
  rw [List.nil_append] at hsplit
  rw [hgives.arriving, (hsplit.unique (Framing.isSplit_singleton terminated hmessage)).1] at hruns
  have hms : ms = [Utf8.encode key ++ b.terminator] := hruns.one
  subst hms hend
  have hkey : (MessageStream.holding b.terminator.length (Utf8.encode key ++ b.terminator)).body
      b.terminator = key := by
    rw [MessageStream.body, MessageStream.toBytes_holding, MessageStream.withoutTerminator_append,
      Utf8.decode_encode hscalar]
  refine ⟨⟨_, hmessages, hkey⟩, hruns.received, (hruns.deliveries_eq rfl).trans ?_⟩
  rw [List.flatMap_singleton]
  refine (Behavior.deliveriesFor_holding responds registry b.terminator.length _).trans ?_
  rw [hkey]

/-- Whatever is sent, keys are taken from bodies that do not hold the terminator. -/
theorem served_bodies
    (accepted : Connection.accept peer serverPort b (some registry) dispatcher hooks readTimeout =
      .ok c)
    (terminated : b.terminator ≠ []) (responds : b.sendResponses) (worker : Worker) (s : Script)
    (world : ScriptedWorld) (size : Nat) (t : Seconds) :
    let ended := (served t (c.withWorker worker) s world size).connection
    (∀ m ∈ ended.calls.filterMap Call.message?, ∃ body, m.toBytes = body ++ b.terminator ∧
      ¬ b.terminator <:+: body ∧ m.body b.terminator = Utf8.decode body) ∧
      ended.dispatches.map DispatchRecord.delivery <+:
        (ended.calls.filterMap Call.message?).flatMap
          fun m => registry.lookup (m.body b.terminator) := by
  rcases accept_runs accepted terminated worker s world size t with
    ⟨ms, calls, last, end?, hruns, hmessages⟩
  rcases Connection.accept_eq accepted with ⟨expectation, rfl⟩
  have hsplit := Framing.isSplit_split terminated (Framing.not_infix_nil terminated)
    (Script.arriving (s.received.flatMap (Script.Event.pieces size)))
  dsimp only
  rw [hmessages]
  refine ⟨fun m hm => ?_, ?_⟩
  · rcases List.mem_map.mp hm with ⟨bytes, hbytes, rfl⟩
    rcases (hsplit.closed bytes (hruns.started.mem hbytes)).exists_body terminated with
      ⟨body, rfl, hbody⟩
    refine ⟨body, MessageStream.toBytes_holding _ _, hbody, ?_⟩
    rw [MessageStream.body, MessageStream.toBytes_holding, MessageStream.withoutTerminator_append]
  · have hlookup : b.deliveriesFor (some registry) = fun m =>
        registry.lookup ((MessageStream.holding b.terminator.length m).body b.terminator) := by
      funext m
      exact Behavior.deliveriesFor_holding responds registry _ m
    rw [List.flatMap_map, ← hlookup]
    exact hruns.deliveries_prefix rfl

/-- Every key is reached from the wire: a peer that sends its bytes and then a terminator, which
    does not occur before, sends one message, the key of this message is the one that was encoded,
    and what is dispatched are the deliveries registered for it. It does not matter how the bytes
    are cut into reads.

    Conversely, whatever a peer sends, and whatever hooks, sends and reads come to, no key is taken
    from a body that holds the terminator, and all that is dispatched is registered for the keys
    that were taken, one message after another. -/
theorem run_reachesKey
    (accepted : Connection.accept peer serverPort b (some registry) dispatcher hooks readTimeout =
      .ok c)
    (terminated : b.terminator ≠ []) (responds : b.sendResponses) (worker : Worker) (t : Seconds)
    (world : ScriptedWorld) :
    (∀ key : Text, (∀ x ∈ key, x.IsScalar) →
      (∀ before after, before ++ b.terminator ++ after = Utf8.encode key ++ b.terminator →
        after = []) →
      (∀ h ∈ hooks, h.Unfailing) → (worker = .notStarted → ∀ h ∈ hooks, h.Harmless) →
      ∀ (s : Script) (size : Nat), 1 ≤ size → (∀ fault ∈ s.sends, fault = none) →
        (Rehearsal.of (c.withWorker worker) s world size).SystemErrorsAtClosing →
        Script.Carries (fun f => f.isTimeout) s.received (Utf8.encode key ++ b.terminator) →
        let ended := (served t (c.withWorker worker) s world size).connection
        (∃ m, ended.calls.filterMap Call.message? = [m] ∧ m.body b.terminator = key) ∧
          ended.received = 1 ∧
          ended.dispatches.map DispatchRecord.delivery = registry.lookup key) ∧
    ∀ (s : Script) (size : Nat),
      let ended := (served t (c.withWorker worker) s world size).connection
      (∀ m ∈ ended.calls.filterMap Call.message?, ∃ body, m.toBytes = body ++ b.terminator ∧
        ¬ b.terminator <:+: body ∧ m.body b.terminator = Utf8.decode body) ∧
        ended.dispatches.map DispatchRecord.delivery <+:
          (ended.calls.filterMap Call.message?).flatMap
            fun m => registry.lookup (m.body b.terminator) := by
  refine ⟨fun key hscalar hfirst hhooks hserved s size hsize hsends hsystem hcarries => ?_,
    fun s size => served_bodies accepted terminated responds worker s world size t⟩
  refine served_key accepted terminated responds hscalar ⟨List.suffix_append _ _, hfirst⟩ hsize
    hcarries ?_ t
  rcases Connection.accept_eq accepted with ⟨expectation, rfl⟩
  exact ⟨hhooks, hsends, hsystem, rfl, hserved⟩

/-- The first byte of the terminator also stands in the middle of a character, whose three bytes
    come in two reads, and the hook closes the connection before the delivery is made. -/
theorem run_reachesKey_divided :
    ∃ c, Connection.accept ⟨"192.0.2.1", 5000⟩ 6789 { terminator := [0x82, 10] }
        (some { entries := [([0x20AC], [⟨"192.0.2.2", 7000, "p"⟩])] }) .idle [.closing] ⟨0⟩ = .ok c ∧
      let s : Script := { received := [.data [0xE2, 0x82], .data [0xAC, 0x82], .data [10]] }
      let ended := (served ⟨0⟩ (c.withWorker .running) s ⟨[], #[], #[]⟩ 4).connection
      (∃ m, ended.calls.filterMap Call.message? = [m] ∧ m.body [0x82, 10] = [0x20AC]) ∧
        ended.received = 1 ∧
        ended.dispatches.map DispatchRecord.delivery = [⟨"192.0.2.2", 7000, "p"⟩] := by
  have haccept : ∃ c, Connection.accept ⟨"192.0.2.1", 5000⟩ 6789 { terminator := [0x82, 10] }
      (some { entries := [([0x20AC], [⟨"192.0.2.2", 7000, "p"⟩])] }) .idle [.closing] ⟨0⟩ = .ok c :=
    ⟨_, rfl⟩
  rcases haccept with ⟨c, accepted⟩
  refine ⟨c, accepted, ?_⟩
  have hsplit : Framing.IsSplit [0x82, 10] [0xE2, 0x82, 0xAC, 0x82, 10]
      [[0xE2, 0x82, 0xAC, 0x82, 10]] [] :=
    Framing.isSplit_split (by decide) (Framing.not_infix_nil (by decide)) _
  have hfirst := (hsplit.closed _ List.mem_cons_self).first
  have hcarries : Script.Carries (fun f => f.isTimeout)
      [.data [0xE2, 0x82], .data [0xAC, 0x82], .data [10]] [0xE2, 0x82, 0xAC, 0x82, 10] :=
    .data (by decide) (.data (by decide) (.data (by decide) .exhausted))
  exact (run_reachesKey accepted (by decide) rfl .running ⟨0⟩ ⟨[], #[], #[]⟩).1 [0x20AC] (by decide)
    hfirst (List.forall_mem_singleton.mpr Hook.closing_unfailing) (fun h => by injection h)
    { received := [.data [0xE2, 0x82], .data [0xAC, 0x82], .data [10]] } 4 (by decide) (by decide)
    ⟨fun _ _ h => by injection h, fun _ h => by injection h⟩ hcarries

end

end Rehearsal

end MockHost
