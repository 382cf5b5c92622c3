import MockHost.Proofs.Connection.Keys
import MockHost.Proofs.Pattern.Literal

/-!
# Which Messages Are Answered How

A connection answers its messages one after another, each as its behaviour states. What has been
sent when a run is over are the first of these answers, and it is all of them but for the last:
the run is over with the first answer that could not be given. So the answers of a run are known
from its messages, and for a pattern that is a literal with anything after it they are known from
how the messages begin.

## Main definitions

* `Call.reply?`, `Deed.reply?`: An answer that has been sent.
* `Behavior.answers`: The answers that are due.

## Theorems

* `Behavior.replies_cycles`: What is due for messages is among what is done for them.
* `Course.replies`, `Rehearsal.Runs.replies`: It is what is sent, up to the last message.
* `Behavior.replyTo_literal`: The answer to a message that may begin with a literal.
* `Behavior.answers_literal`: What a literal pattern means, for messages and for a connection.
-/

namespace MockHost

/-- The answer that a deed is. -/
def Deed.reply? : Deed → Option Bytes
  | .reply data => some data
  | _ => none

namespace Call

/-- The answer that a call has sent. -/
def reply? : Call → Option Bytes
  | .send data none => some data
  | _ => none

theorem filterMap_reply? (calls : List Call) :
    calls.filterMap reply? = (calls.filterMap deed?).filterMap Deed.reply? := by
  rw [List.filterMap_filterMap]
  refine List.filterMap_congr fun call _ => ?_
  cases call with
  | send data fault => cases fault <;> rfl
  | _ => rfl

end Call

namespace Behavior

variable {b : Behavior} {registry : Option Registry} {n : Nat} {m : Bytes} {ms : List Bytes}

/-- The answers that messages are due. -/
def answers (b : Behavior) (ms : List Bytes) : List Bytes :=
  if b.noResponse then [] else ms.map b.replyTo

theorem answers_nil : b.answers [] = [] := ite_self _

theorem answers_cons : b.answers (m :: ms) = b.answers [m] ++ b.answers ms := by
  rw [answers, answers, answers]
  by_cases h : b.noResponse
  · rw [if_pos h, if_pos h, if_pos h]
    rfl
  · rw [if_neg h, if_neg h, if_neg h]
    rfl

theorem length_answers_le : (b.answers [m]).length ≤ 1 := by
  rw [answers]
  by_cases h : b.noResponse
  · rw [if_pos h]
    exact Nat.zero_le 1
  · rw [if_neg h]
    exact Nat.le_refl 1

theorem replies_cycle : (b.cycle registry n m).filterMap Deed.reply? = b.answers [m] := by
  have hforwarding : (forwarding (b.deliveriesFor registry m)).filterMap Deed.reply? = [] := by
    rw [forwarding]
    split <;> rfl
  rw [cycle, List.filterMap_cons_none rfl, List.filterMap_append, hforwarding, List.append_nil,
    answering, answers]
  by_cases h : b.noResponse
  · rw [if_pos h, if_pos h]
    rfl
  · rw [if_neg h, if_neg h]
    rfl

theorem replies_cycles : (b.cycles registry n ms).filterMap Deed.reply? = b.answers ms := by
  induction ms generalizing n with
  | nil => exact answers_nil.symm
  | cons m ms ih => rw [cycles, List.filterMap_append, replies_cycle, ih, ← answers_cons]

end Behavior

namespace Course

variable {b : Behavior} {registry : Option Registry} {n : Nat} {ms : List Bytes}
  {calls : List Call} {p : Progress}

theorem replies_prefix (h : Course b registry n ms calls p) :
    calls.filterMap Call.reply? <+: b.answers ms := by
  rw [Call.filterMap_reply?, ← Behavior.replies_cycles]
  exact h.deeds_prefix.filterMap _

theorem replies_eq (h : Course b registry n ms calls p) (hp : ∀ f, p ≠ .over (some f)) :
    calls.filterMap Call.reply? = b.answers ms := by
  rw [Call.filterMap_reply?, h.deeds_eq hp, Behavior.replies_cycles]

/-- Only the last message may be without its answer. -/
theorem length_replies (h : Course b registry n ms calls p) :
    (b.answers ms).length ≤ (calls.filterMap Call.reply?).length + 1 := by
  induction h with
  | read fault _ ih => exact ih
  | message tended _ _ ih =>
      rw [List.filterMap_append, Call.filterMap_reply? _, tended.attempts.done rfl,
        Behavior.replies_cycle, Behavior.answers_cons, List.length_append, List.length_append]
      omega
  | last _ => exact Behavior.length_answers_le.trans (Nat.le_add_left 1 _)
  | _ =>
      rw [Behavior.answers_nil]
      exact Nat.zero_le _

end Course

namespace Rehearsal

/-- The end of a run answers nothing. -/
theorem Runs.replies {r : Rehearsal} {ended : Connection} {messages ms : List Bytes}
    {calls last : List Call} {end? : Option Failure}
    (h : Runs r ended messages ms calls last end?) :
    (calls ++ last).filterMap Call.reply? = calls.filterMap Call.reply? := by
  rcases h.last with ⟨_, hlast⟩
  have hnone : last.filterMap Call.reply? <+: [] := by
    rw [Call.filterMap_reply?]
    exact hlast.started.filterMap Deed.reply?
  rw [List.filterMap_append, List.prefix_nil.mp hnone, List.append_nil]

section

variable {peer : Peer} {serverPort : Port} {b : Behavior} {registry : Option Registry}
  {dispatcher : Dispatcher} {hooks : List Hook} {readTimeout : Seconds} {c : Connection}

/-- What a connection has answered to the messages that its hooks were called with. -/
theorem served_answers
    (accepted : Connection.accept peer serverPort b registry dispatcher hooks readTimeout = .ok c)
    (terminated : b.terminator ≠ []) (worker : Worker) (s : Script) (world : ScriptedWorld)
    (size : Nat) (t : Seconds) :
    let start := Rehearsal.of (c.withWorker worker) s world size
    let ended := (served t (c.withWorker worker) s world size).connection
    let due := b.answers ((ended.calls.filterMap Call.message?).map MessageStream.toBytes)
    let answers := ended.calls.filterMap Call.reply?
    answers <+: due ∧ due.length ≤ answers.length + 1 ∧
      (Script.Faultless start.unread → start.Assured → answers = due) := by
  intro start ended due answers
  rcases accept_runs accepted terminated worker s world size t with
    ⟨ms, calls, last, end?, hruns, hmessages⟩
  have hanswers : answers = calls.filterMap Call.reply? := by
    rcases Connection.accept_eq accepted with ⟨expectation, rfl⟩
    rw [← hruns.replies]
    exact congrArg (List.filterMap Call.reply?) hruns.history
  have hdue : due = b.answers ms := by
    refine congrArg b.answers ?_
    rw [hmessages, List.map_map]
    refine (List.map_congr_left fun m _ => ?_).trans (List.map_id ms)
    exact MessageStream.toBytes_holding _ m
  have hcourse : Course b registry 0 ms calls (.over end?) := by
    rcases Connection.accept_eq accepted with ⟨expectation, rfl⟩
    exact hruns.course
  rw [hanswers, hdue]
  refine ⟨hcourse.replies_prefix, hcourse.length_replies, fun hfaultless hassured => ?_⟩
  refine hcourse.replies_eq fun f hf => ?_
  rw [hruns.faultless hfaultless hassured] at hf
  injection hf with hf
  injection hf

end

end Rehearsal

namespace Behavior

variable {b : Behavior} {w : Text}

/-- A message is answered by how it begins. -/
theorem replyTo_literal (hw : Pattern.IsLiteral w) (hexpected : b.expected = some (w ++ ".*"))
    (hnak : b.alwaysNak = false) (m : Bytes) :
    b.replyTo m = if w <+: Utf8.decode m then b.ack else b.nak := by
  have hwelcomes : b.welcomes m = true ↔ w <+: Utf8.decode m := by
    simp only [welcomes, hexpected, Pattern.compile_literal_anything hw]
    exact Pattern.accepts_literal_anything
  rw [replyTo, hnak, Bool.not_false, Bool.true_and]
  exact if_congr hwelcomes rfl rfl

/-- A connection can be set up that expects messages to begin with a literal. -/
theorem accept_literal (hw : Pattern.IsLiteral w) (hexpected : b.expected = some (w ++ ".*"))
    (peer : Peer) (serverPort : Port) (registry : Option Registry) (dispatcher : Dispatcher)
    (hooks : List Hook) (readTimeout : Seconds) :
    Connection.accept peer serverPort b registry dispatcher hooks readTimeout =
      .ok { peer, serverPort, behavior := b, registry, dispatcher, hooks, readTimeout,
            expectation := some (.beginning w) } := by
  have hexpectation : Connection.expectationOf b = .ok (some (.beginning w)) := by
    simp only [Connection.expectationOf, hexpected, Expectation.compile_beginning hw]
  rw [Connection.accept, hexpectation]
  rfl

/-- What a literal means as a pattern. With a dot and a star after it, it is matched by the
    messages whose text, terminator included, begins with it, and alone by those whose text it is.

    A connection that expects messages to begin with a literal can be set up, and whatever it is
    sent, and whatever hooks, sends and reads come to, the answers that it gives to its messages,
    one after another, are an acknowledgement for every message that begins with the literal and a
    refusal for every other one, as far as it answers at all. Only the last message may be without
    its answer, and only if something has failed. -/
theorem answers_literal (hw : Pattern.IsLiteral w) :
    (∃ e, Expectation.compile (w ++ ".*") = .ok e ∧ ∀ s, e.accepts s = true ↔ w <+: s.text) ∧
    (∃ e, Expectation.compile w = .ok e ∧ ∀ s, e.accepts s = true ↔ s.text = w) ∧
    ∀ b : Behavior, b.expected = some (w ++ ".*") → b.alwaysNak = false → b.terminator ≠ [] →
      ∀ (peer : Peer) (serverPort : Port) (registry : Option Registry) (dispatcher : Dispatcher)
        (hooks : List Hook) (readTimeout : Seconds), ∃ c,
        Connection.accept peer serverPort b registry dispatcher hooks readTimeout = .ok c ∧
        ∀ (worker : Worker) (script : Script) (world : ScriptedWorld) (size : Nat) (t : Seconds),
          let start := Rehearsal.of (c.withWorker worker) script world size
          let ended := (Rehearsal.served t (c.withWorker worker) script world size).connection
          let due := if b.noResponse then [] else (ended.calls.filterMap Call.message?).map
            fun s => if w <+: s.text then b.ack else b.nak
          let answers := ended.calls.filterMap Call.reply?
          answers <+: due ∧ due.length ≤ answers.length + 1 ∧
            (Script.Faultless start.unread → start.Assured → answers = due) := by
  refine ⟨⟨_, Expectation.compile_beginning hw, Expectation.accepts_beginning⟩,
    ⟨_, Expectation.compile_exactly hw, Expectation.accepts_exactly⟩, ?_⟩
  intro b hexpected hnak terminated peer serverPort registry dispatcher hooks readTimeout
  have accepted := accept_literal hw hexpected peer serverPort registry dispatcher hooks readTimeout
  refine ⟨_, accepted, fun worker script world size t => ?_⟩
  intro start ended due answers
  have hanswers := Rehearsal.served_answers accepted terminated worker script world size t
  have hdue : b.answers ((ended.calls.filterMap Call.message?).map MessageStream.toBytes) = due := by
    rw [Behavior.answers, List.map_map]
    refine if_congr Iff.rfl rfl (List.map_congr_left fun s _ => ?_)
    exact replyTo_literal hw hexpected hnak s.toBytes
  rw [← hdue]
  exact hanswers

/-- Two messages, of which one begins as it is expected to and then has a line break in it. -/
theorem answers_literal_greeting :
    let b : Behavior := { terminator := [33], ack := [6], nak := [21], expected := some ("hi" ++ ".*") }
    (∃ e, Expectation.compile ("hi" ++ ".*") = .ok e ∧ ∀ s, e.accepts s = true ↔ "hi" <+: s.text) ∧
    (∃ e, Expectation.compile "hi" = .ok e ∧ ∀ s, e.accepts s = true ↔ s.text = "hi") ∧
    ∃ c, Connection.accept ⟨"192.0.2.1", 5000⟩ 6789 b none .idle [] ⟨0⟩ = .ok c ∧
      let script : Script := { received := [.data [104, 105, 10], .data [97, 33, 111, 104, 33]] }
      let ended := (Rehearsal.served ⟨0⟩ (c.withWorker .running) script ⟨[], #[], #[]⟩ 8).connection
      ended.calls.filterMap Call.message? =
          [.holding 1 [104, 105, 10, 97, 33], .holding 1 [111, 104, 33]] ∧
        ended.calls.filterMap Call.reply? = [[6], [21]] := by
  intro b
  have hall := answers_literal (w := "hi") (by decide)
  refine ⟨hall.1, hall.2.1, ?_⟩
  rcases hall.2.2 b rfl rfl (by decide) ⟨"192.0.2.1", 5000⟩ 6789 none .idle [] ⟨0⟩ with
    ⟨c, accepted, hserved⟩
  refine ⟨c, accepted, ?_⟩
  intro script ended
  have hmessages : ended.calls.filterMap Call.message? =
      [.holding 1 [104, 105, 10, 97, 33], .holding 1 [111, 104, 33]] := by
    have hc := Except.ok.inj (accepted.symm.trans
      (accept_literal (w := "hi") (by decide) rfl ⟨"192.0.2.1", 5000⟩ 6789 none .idle [] ⟨0⟩))
    subst hc
    decide +kernel
  refine ⟨hmessages, ?_⟩
  have hcarries : Script.Carries (fun f => f.isTimeout) script.received
      [104, 105, 10, 97, 33, 111, 104, 33] :=
    .data (by decide) (.data (by decide) .exhausted)
  rcases hserved .running script ⟨[], #[], #[]⟩ 8 ⟨0⟩ with ⟨-, -, hanswers⟩
  refine (hanswers ⟨_, hcarries.gives (by decide)⟩ ?_).trans ?_
  · rcases Connection.accept_eq accepted with ⟨expectation, rfl⟩
    exact ⟨fun _ h => absurd h List.not_mem_nil, fun _ h => absurd h List.not_mem_nil,
      ⟨fun _ _ h => by injection h, fun _ h => by injection h⟩, rfl, fun h => by injection h⟩
  · rw [hmessages]
    decide +kernel

end Behavior

end MockHost
