import MockHost.Proofs.Connection.Keys
import MockHost.Proofs.Text.Boundary

/-!
# What a Message Is Compared With and Looked Up As

A message is read as text twice. Its whole text, with the terminator, is what a pattern is tried
on. The text of what comes before the terminator is what a registry is asked for. The one is the
other with the text of the terminator after it, whatever bytes there are before the terminator,
unless the terminator begins with a byte that may go on with a character: then the last character
of a message may be read out of both together.

So a pattern that is to say something of a key has to say it of the key with the terminator, and
nothing else about the message can make a difference to it.

## Theorems

* `MessageStream.text_eq_body_append`: The text of a message, from that of its body.
* `Connection.text_eq_key_append`: The same, of the key that a registry is asked for.
* `Behavior.mem_cycles_onMessage`, `Rehearsal.Runs.hooks_onMessage`: A message of a run, and how it
  has been judged.
* `Rehearsal.served_keyed`: Both texts of the messages of a connection.
-/

namespace MockHost

namespace MessageStream

variable {terminator : Bytes} {s : MessageStream}

/-- The text of a message is that of its body and then that of the terminator. -/
theorem text_eq_body_append (hfirst : ∀ b, terminator.head? = some b → ¬ Utf8.Continues b)
    (hends : terminator <:+ s.toBytes) :
    s.text = s.body terminator ++ Utf8.decode terminator := by
  rcases hends with ⟨body, hbody⟩
  rw [text, MessageStream.body, ← hbody, withoutTerminator_append]
  exact Utf8.decode_append hfirst body

end MessageStream

namespace Connection

/-- The key of a message is the text of its body, whatever is registered. -/
theorem deliveriesFor_fst (c : Connection) (s : MessageStream) :
    (c.deliveriesFor s).1 = s.body c.behavior.terminator := by
  rw [deliveriesFor]
  cases c.registry with
  | none => rfl
  | some r => exact (apply_ite Prod.fst _ _ _).trans (ite_self _)

/-- The text that a pattern is tried on, from the key that a registry is asked for. -/
theorem text_eq_key_append {c : Connection} {s : MessageStream}
    (hfirst : ∀ b, c.behavior.terminator.head? = some b → ¬ Utf8.Continues b)
    (hends : c.behavior.terminator <:+ s.toBytes) :
    s.text = (c.deliveriesFor s).1 ++ Utf8.decode c.behavior.terminator := by
  rw [deliveriesFor_fst]
  exact MessageStream.text_eq_body_append hfirst hends

end Connection

/-- The hooks are called with messages only, and find what was made of them. -/
theorem Behavior.mem_cycles_onMessage {b : Behavior} {registry : Option Registry}
    {count n : Nat} {ms : List Bytes} {s : MessageStream} {mismatch : Option Mismatch}
    (hmem : Deed.hooks (.onMessage s) n mismatch ∈ b.cycles registry count ms) :
    ∃ m ∈ ms, s = .holding b.terminator.length m ∧ mismatch = b.mismatch m := by
  induction ms generalizing count with
  | nil => exact absurd hmem List.not_mem_nil
  | cons m ms ih =>
      rw [cycles, cycle, List.cons_append, List.mem_cons, List.mem_append] at hmem
      rcases hmem with hfirst | hattending | hlater
      · injection hfirst with hcall _ hmismatch
        injection hcall with hs
        exact ⟨m, List.mem_cons_self, hs, hmismatch⟩
      · -- What is done after that for a message is not to call the hooks with one.
        have hmessage : s ∈ (b.answering (count + 1) m ++
            forwarding (b.deliveriesFor registry m)).filterMap Deed.message? :=
          List.mem_filterMap.mpr ⟨_, hattending, rfl⟩
        rw [b.messages_attending] at hmessage
        exact absurd hmessage List.not_mem_nil
      · rcases ih hlater with ⟨m', hm', heq⟩
        exact ⟨m', List.mem_cons_of_mem m hm', heq⟩

namespace Rehearsal

theorem Runs.hooks_onMessage {r : Rehearsal} {ended : Connection} {messages ms : List Bytes}
    {calls last : List Call} {end? : Option Failure}
    (h : Runs r ended messages ms calls last end?) {s : MessageStream} {n : Nat}
    {mismatch : Option Mismatch} (hmem : Call.hooks (.onMessage s) n mismatch ∈ calls ++ last) :
    ∃ m ∈ ms, s = .holding r.connection.behavior.terminator.length m ∧
      mismatch = r.connection.behavior.mismatch m := by
  rcases List.mem_append.mp hmem with hcalls | hlast
  · have hdeed : Deed.hooks (.onMessage s) n mismatch ∈ calls.filterMap Call.deed? :=
      List.mem_filterMap.mpr ⟨_, hcalls, rfl⟩
    exact Behavior.mem_cycles_onMessage (h.course.deeds_prefix.mem hdeed)
  · rcases h.last with ⟨_, hattempts⟩
    have hmessage : s ∈ last.filterMap Call.message? := List.mem_filterMap.mpr ⟨_, hlast, rfl⟩
    rw [hattempts.messages rfl] at hmessage
    exact absurd hmessage List.not_mem_nil

section

variable {peer : Peer} {serverPort : Port} {b : Behavior} {registry : Option Registry}
  {dispatcher : Dispatcher} {hooks : List Hook} {readTimeout : Seconds} {c : Connection}

/-- Whatever a peer sends, every message has been judged by its key and the text of the
    terminator. -/
theorem served_keyed
    (accepted : Connection.accept peer serverPort b registry dispatcher hooks readTimeout = .ok c)
    (terminated : b.terminator ≠ [])
    (hfirst : ∀ x, b.terminator.head? = some x → ¬ Utf8.Continues x) (worker : Worker) (s : Script)
    (world : ScriptedWorld) (size : Nat) (t : Seconds) {m : MessageStream} {n : Nat}
    {mismatch : Option Mismatch}
    (hmem : Call.hooks (.onMessage m) n mismatch ∈
      (served t (c.withWorker worker) s world size).connection.calls) :
    m.text = (c.deliveriesFor m).1 ++ Utf8.decode b.terminator ∧
      mismatch = c.expectation.bind fun e => e.check m := by
  have hjudges := Connection.accept_mismatch accepted
  rcases accept_runs accepted terminated worker s world size t with
    ⟨ms, calls, last, end?, hruns, -⟩
  rcases Connection.accept_eq accepted with ⟨expectation, rfl⟩
  rw [hruns.history] at hmem
  rcases hruns.hooks_onMessage hmem with ⟨bytes, hbytes, rfl, hmismatch⟩
  have hsplit := Framing.isSplit_split terminated (Framing.not_infix_nil terminated)
    (Script.arriving (s.received.flatMap (Script.Event.pieces size)))
  have hends : b.terminator <:+ bytes := (hsplit.closed bytes (hruns.started.mem hbytes)).ends
  refine ⟨Connection.text_eq_key_append hfirst ?_, ?_⟩
  · rw [MessageStream.toBytes_holding]
    exact hends
  · rw [hjudges, MessageStream.toBytes_holding]
    exact hmismatch

end

end Rehearsal

section

variable {first : UInt8} {rest : Bytes}

/-- The text that a message is compared with is its key and then the text of the terminator, for
    every content that ends with a terminator whose first byte does not go on with a character. So
    it is for the pattern of a connection, which accepts a message if and only if it accepts the
    key with the text of the terminator after it, and for all messages that a connection is sent,
    whatever its peer, its hooks and the world do. -/
theorem Connection.check_keyed (hfirst : ¬ Utf8.Continues first) :
    (∀ s : MessageStream, first :: rest <:+ s.toBytes →
      s.text = s.body (first :: rest) ++ Utf8.decode (first :: rest)) ∧
    (∀ (c : Connection) (e : Expectation) (s : MessageStream),
      c.behavior.terminator = first :: rest → first :: rest <:+ s.toBytes →
      let text := (c.deliveriesFor s).1 ++ Utf8.decode (first :: rest)
      e.accepts s = e.pattern.accepts text ∧
        e.check s = if e.pattern.accepts text then none else some ⟨e.source, text⟩) ∧
    ∀ (peer : Peer) (serverPort : Port) (b : Behavior) (registry : Option Registry)
      (dispatcher : Dispatcher) (hooks : List Hook) (readTimeout : Seconds) (c : Connection),
      Connection.accept peer serverPort b registry dispatcher hooks readTimeout = .ok c →
      b.terminator = first :: rest →
      ∀ (worker : Worker) (script : Script) (world : ScriptedWorld) (size : Nat) (t : Seconds) s n
        mismatch,
        Call.hooks (.onMessage s) n mismatch ∈
          (Rehearsal.served t (c.withWorker worker) script world size).connection.calls →
        let text := (c.deliveriesFor s).1 ++ Utf8.decode (first :: rest)
        s.text = text ∧ mismatch = c.expectation.bind fun e =>
          if e.pattern.accepts text then none else some ⟨e.source, text⟩ := by
  have hhead : ∀ b, (first :: rest).head? = some b → ¬ Utf8.Continues b := by
    intro b hb
    injection hb with hb
    exact hb ▸ hfirst
  refine ⟨fun s hends => MessageStream.text_eq_body_append hhead hends, ?_, ?_⟩
  · intro c e s hterminator hends text
    rw [← hterminator] at hhead hends
    have htext : s.text = text := by
      rw [text_eq_key_append hhead hends, hterminator]
    rw [Expectation.check, Expectation.accepts, htext]
    exact ⟨rfl, rfl⟩
  · intro peer serverPort b registry dispatcher hooks readTimeout c accepted hterminator worker
      script world size t s n mismatch hmem text
    rw [← hterminator] at hhead
    have hne : b.terminator ≠ [] := hterminator ▸ List.cons_ne_nil first rest
    rcases Rehearsal.served_keyed accepted hne hhead worker script world size t hmem with
      ⟨htext, hmismatch⟩
    rw [hterminator] at htext
    refine ⟨htext, hmismatch.trans (congrArg _ (funext fun e => ?_))⟩
    rw [Expectation.check, Expectation.accepts, htext]

/-- A message of a connection that ends in the middle of a character. -/
theorem Connection.check_keyed_truncated :
    ∃ c, Connection.accept ⟨"192.0.2.1", 5000⟩ 6789 { terminator := [10] } none .idle [] ⟨0⟩ =
        .ok c ∧
      let s : MessageStream := .holding 1 [0x61, 0xF0, 0x9F, 10]
      let script : Script := { received := [.data [0x61, 0xF0], .data [0x9F, 10]] }
      let ended := (Rehearsal.served ⟨0⟩ (c.withWorker .running) script ⟨[], #[], #[]⟩ 4).connection
      ended.calls.filterMap Call.message? = [s] ∧
        s.body [10] = [0x61, Utf8.replacement] ∧ s.text = s.body [10] ++ Utf8.decode [10] ∧
        ∀ s n mismatch, Call.hooks (.onMessage s) n mismatch ∈ ended.calls →
          s.text = (c.deliveriesFor s).1 ++ Utf8.decode [10] ∧
            mismatch = c.expectation.bind fun e =>
              if e.pattern.accepts ((c.deliveriesFor s).1 ++ Utf8.decode [10]) then none
              else some ⟨e.source, (c.deliveriesFor s).1 ++ Utf8.decode [10]⟩ := by
  have hall := @Connection.check_keyed 10 [] (by decide)
  refine ⟨_, rfl, by decide +kernel, by decide, hall.1 _ (by decide), ?_⟩
  exact hall.2.2 ⟨"192.0.2.1", 5000⟩ 6789 { terminator := [10] } none .idle [] ⟨0⟩ _ rfl rfl .running
    _ _ 4 ⟨0⟩

end

end MockHost
