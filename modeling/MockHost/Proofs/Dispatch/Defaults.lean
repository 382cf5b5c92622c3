import MockHost.Network.Basic
import MockHost.Proofs.Connection.Deed
import MockHost.Proofs.Dispatch.Acknowledgement

/-!
# Dispatchers That Nobody Has Chosen

Servers and connections that are not told how to make deliveries do so in the way that
the settings state. They differ in the acknowledgements they wait for: a connection
takes those of its own behaviour, and a server the letters that a behaviour without
further words has. Every connection of a server uses the dispatcher of the server.

So a delivery from one server to another of the same behaviour is judged by the first
byte of the answer, whatever the acknowledgements of this behaviour are. The two agree
for the two letters only.

## Theorems

* `Dispatcher.verdict_letters`: Where there are letters, the first byte decides.
* `Dispatcher.acknowledges`: The acknowledgements are recorded as what they are.
* `Server.usual_agrees`: When the two ways agree.
* `Server.usual_disagrees`: What comes of it between two servers that answer with words.
-/

namespace MockHost

namespace Dispatcher

variable {d : Dispatcher} {delivery : Delivery} {events : List Script.Event}

/-- Acknowledgements that cannot be mistaken for each other are read as a whole. -/
theorem verdict_of_isReply {reply : Bytes} (h : d.rule.IsReply reply) (more : List Arrival) :
    d.verdict (d.rule.read (reply.map .byte ++ more)).1 = d.judged reply := by
  rw [h.read, verdict, MessageStream.toBytes_holding]

/-- Of a single byte nothing but this byte can be recorded. -/
theorem verdict_byte (d : Dispatcher) (x : UInt8) :
    d.verdict (d.rule.read [.byte x]).1 = .failed ∨
      d.verdict (d.rule.read [.byte x]).1 = d.judged [x] := by
  rw [verdict_read]
  rcases hfirst : d.rule.first? (Arrival.incoming [.byte x]) with _ | p
  · exact .inl rfl
  · rcases ReplyRule.first?_eq_some.mp hfirst with ⟨hpre, hp⟩
    exact .inr (congrArg d.judged (ReplyRule.eq_singleton hp.nonempty hpre))

/-- Where each acknowledgement is a single letter, the first byte of the answer decides. -/
theorem verdict_letters {ack nak : UInt8} (hack : d.ack = [ack]) (hnak : d.nak = [nak]) (x : UInt8)
    (more : List Arrival) : d.verdict (d.rule.read (.byte x :: more)).1 = d.judged [x] := by
  by_cases hdone : d.rule.Completes [x]
  · exact verdict_of_isReply (ReplyRule.isReply_singleton hdone) more
  · have hack' : ¬ [x] = d.ack := fun h => hdone (.inl h)
    have hnak' : ¬ [x] = d.nak := fun h => hdone (.inr (.inl h))
    rw [judged, if_neg hack', if_neg hnak', verdict_eq_failed]
    -- An answer that begins with a letter begins with this very byte.
    rintro p (rfl | rfl) - hpre
    · rw [hack] at hpre hack'
      exact hack' (congrArg (· :: []) (List.cons_prefix_cons.mp hpre).1.symm)
    · rw [hnak] at hpre hnak'
      exact hnak' (congrArg (· :: []) (List.cons_prefix_cons.mp hpre).1.symm)

/-- Acknowledgements that cannot be mistaken for each other are recorded as what they are. -/
theorem acknowledges (hwaits : d.waitForAck) (hclear : d.rule.Clear) {data : Bytes}
    (hdata : delivery.payloadBytes = .ok data) (more : List Arrival) :
    (events.flatMap Script.Event.arrivals = d.ack.map .byte ++ more →
      (d.recordAlone delivery (delivery.answered events)).outcome = .acknowledged) ∧
    (events.flatMap Script.Event.arrivals = d.nak.map .byte ++ more →
      (d.recordAlone delivery (delivery.answered events)).outcome = .rejected) := by
  rw [Delivery.recordAlone_answered _ hwaits hdata]
  refine ⟨fun h => ?_, fun h => ?_⟩
  · have hreply : d.rule.IsReply d.ack := hclear.isReply (.inl rfl)
    rw [h, verdict_of_isReply hreply, judged, if_pos rfl]
  · have hreply : d.rule.IsReply d.nak := hclear.isReply (.inr rfl)
    have hne : d.nak ≠ d.ack := fun heq =>
      hclear.nak_ack (show d.nak <+: d.ack from heq ▸ List.prefix_rfl)
    rw [h, verdict_of_isReply hreply, judged, if_neg hne, if_pos rfl]

end Dispatcher

/-! ### The two ways -/

/-- If letters are recorded in the same way, the acknowledgements are these letters. -/
theorem Dispatcher.usual_inj {settings : Settings} (waits : settings.dispatchWaitForAck)
    {ack nak : Bytes} {a k : UInt8} (hne : k ≠ a)
    (h : ∀ delivery w, (usual settings [a] [k]).recordAlone delivery w =
      (usual settings ack nak).recordAlone delivery w) : ack = [a] ∧ nak = [k] := by
  let delivery : Delivery := ⟨"localhost", 7001, "m"⟩
  have hdata : delivery.payloadBytes = .ok [109] := rfl
  -- A single byte is answered, and both take it for the same.
  have hbyte : ∀ x, (usual settings [a] [k]).judged [x] = .failed ∨
      (usual settings [a] [k]).judged [x] = (usual settings ack nak).judged [x] := by
    intro x
    have hsame := congrArg DispatchRecord.outcome (h delivery (delivery.answered [.data [x]]))
    rw [Delivery.recordAlone_answered _ waits hdata, Delivery.recordAlone_answered _ waits hdata]
      at hsame
    change (usual settings [a] [k]).verdict (ReplyRule.read _ [.byte x]).1 =
      (usual settings ack nak).verdict (ReplyRule.read _ [.byte x]).1 at hsame
    rw [verdict_letters rfl rfl] at hsame
    exact (verdict_byte (usual settings ack nak) x).imp hsame.trans hsame.trans
  have hack : (usual settings [a] [k]).judged [a] = .acknowledged := if_pos rfl
  have hnak : (usual settings [a] [k]).judged [k] = .rejected :=
    (if_neg fun heq => hne (List.singleton_inj.mp heq)).trans (if_pos rfl)
  refine ⟨?_, ?_⟩
  · rcases hbyte a with hfailed | hsame
    · rw [hack] at hfailed
      injection hfailed
    · exact (eq_ack_of_judged (hsame.symm.trans hack)).symm
  · rcases hbyte k with hfailed | hsame
    · rw [hnak] at hfailed
      injection hfailed
    · exact (eq_nak_of_judged (hsame.symm.trans hnak)).symm

/-- Servers and connections that are not told how to make deliveries agree for the two letters
    only. A connection records the acknowledgements of its behaviour as what they are, in whatever
    pieces they come. For a server the first byte of an answer decides, and it decides by these
    letters whatever the behaviour of the server is. -/
theorem Server.usual_agrees {settings : Settings} (waits : settings.dispatchWaitForAck)
    {b : Behavior} {peer : Peer} {serverPort : Port} {registry : Option Registry}
    {hooks : Option (List Hook)} {readTimeout : Option Seconds} {c : Connection}
    (created : Connection.create settings peer serverPort (some b) registry none hooks readTimeout =
      .ok c) (port : Option Port) (host : Option Text) :
    let s := Server.create settings port host (some b) registry hooks none readTimeout
    ((∀ delivery w, s.dispatcher.recordAlone delivery w = c.dispatcher.recordAlone delivery w) ↔
      b.ack = [65] ∧ b.nak = [78]) ∧
    ∀ delivery data, delivery.payloadBytes = .ok data → ∀ (events : List Script.Event),
      (b.ack ≠ [] → b.nak ≠ [] → ¬ b.ack <+: b.nak → ¬ b.nak <+: b.ack → ∀ more,
        (events.flatMap Script.Event.arrivals = b.ack.map .byte ++ more →
          (c.dispatcher.recordAlone delivery (delivery.answered events)).outcome = .acknowledged) ∧
        (events.flatMap Script.Event.arrivals = b.nak.map .byte ++ more →
          (c.dispatcher.recordAlone delivery (delivery.answered events)).outcome = .rejected)) ∧
      ∀ x more, events.flatMap Script.Event.arrivals = .byte x :: more →
        (s.dispatcher.recordAlone delivery (delivery.answered events)).outcome =
          if x = 65 then .acknowledged else if x = 78 then .rejected else .failed := by
  intro s
  have hc : c.dispatcher = Dispatcher.usual settings b.ack b.nak := by
    rcases Connection.accept_eq created with ⟨expectation, rfl⟩
    rfl
  have hs : s.dispatcher = Dispatcher.usual settings [65] [78] := rfl
  rw [hc, hs]
  refine ⟨⟨fun hsame => ?_, fun ⟨hack, hnak⟩ _ _ => by rw [hack, hnak]⟩,
    fun delivery data hdata events =>
      ⟨fun hack hnak hprefix hprefix' more => ?_, fun x more hfirst => ?_⟩⟩
  · exact Dispatcher.usual_inj waits (by decide) hsame
  · have hclear : (Dispatcher.usual settings b.ack b.nak).rule.Clear :=
      ⟨hack, hnak, hprefix, hprefix', fun _ _ _ _ _ _ ht => by injection ht⟩
    exact Dispatcher.acknowledges waits hclear hdata more
  · rw [Delivery.recordAlone_answered _ waits hdata, hfirst, Dispatcher.verdict_letters rfl rfl,
      Dispatcher.judged]
    simp only [Dispatcher.usual, List.cons.injEq, and_true]

/-- A behaviour that answers with OK and NO, and a delivery that is answered so. -/
theorem Server.usual_agrees_words :
    let settings : Settings := { Settings.usual "/srv" with dispatchWaitForAck := true }
    let b : Behavior := { ack := [79, 75], nak := [78, 79] }
    let s := Server.create settings (some 7001) none (some b)
    ∃ c, Connection.create settings ⟨"127.0.0.1", 50001⟩ 7001 (some b) = .ok c ∧
      ((∀ delivery w, s.dispatcher.recordAlone delivery w = c.dispatcher.recordAlone delivery w) ↔
        b.ack = [65] ∧ b.nak = [78]) ∧
      ∀ delivery data, Delivery.payloadBytes delivery = .ok data → ∀ (events : List Script.Event),
        (b.ack ≠ [] → b.nak ≠ [] → ¬ b.ack <+: b.nak → ¬ b.nak <+: b.ack → ∀ more,
          (events.flatMap Script.Event.arrivals = b.ack.map .byte ++ more →
            (c.dispatcher.recordAlone delivery (delivery.answered events)).outcome =
              .acknowledged) ∧
          (events.flatMap Script.Event.arrivals = b.nak.map .byte ++ more →
            (c.dispatcher.recordAlone delivery (delivery.answered events)).outcome = .rejected)) ∧
        ∀ x more, events.flatMap Script.Event.arrivals = .byte x :: more →
          (s.dispatcher.recordAlone delivery (delivery.answered events)).outcome =
            if x = 65 then .acknowledged else if x = 78 then .rejected else .failed :=
  ⟨_, rfl, Server.usual_agrees rfl rfl (some 7001) none⟩

/-- Two servers answer with OK and NO. What the first of them forwards is acknowledged by the
    second one, and the first one records a failure, whereas a connection of its own would record
    that the delivery was acknowledged. -/
theorem Server.usual_disagrees :
    let settings : Settings := { Settings.usual "/srv" with dispatchWaitForAck := true }
    let b : Behavior := { ack := [79, 75], nak := [78, 79] }
    let delivery : Delivery := ⟨"127.0.0.1", 7002, "m"⟩
    let w := delivery.answered [.data b.ack]
    ((Server.create settings (some 7001) none (some b)).dispatcher.recordAlone delivery w).outcome =
        .failed ∧
      ∃ c, Connection.create settings ⟨"127.0.0.1", 50001⟩ 7001 (some b) = .ok c ∧
        (c.dispatcher.recordAlone delivery w).outcome = .acknowledged :=
  ⟨by decide +kernel, _, rfl, by decide +kernel⟩

end MockHost
