import MockHost.Proofs.Network.Operations

/-!
# What a Server Has Counted

A message is counted twice. Its connection counts it when it has come in, and the
server counts it when the hooks have been called with it. The hooks come in between,
and they are called up to the first failure, so a message for which they fail is
counted by the connection only. That is the whole difference: whatever is done with a
network, what a server has counted and the messages for which the hooks failed are
together all the messages that its connections have received.

The difference never concerns a message that is answered. An answer is sent only if the
hooks did not fail, and then the last thing that happened is that the server counted
the very message that is to be answered.

## Main definitions

* `Network.receivedOf`, `Network.refusalsOf`: What the sum is made of.
* `Network.lastOn`: The message that a server has counted last.

## Theorems

* `Network.messagesOn_add_refusals`: What it means that the balance is nothing.
* `Network.greet_cases`: A message has been counted before it is answered.
* `Network.messages_counted`: Both, for everything that is done with a network.
* `Network.messages_uncounted`: A hook that fails keeps a message from being counted.
-/

namespace MockHost

namespace Network

/-- The number of messages that a connection has received. -/
def receivedOf (n : Network) (id : ConnectionId) : Nat :=
  ((n.connections[id]?).map fun x => x.connection.received).getD 0

/-- The number of messages of a connection for which the hooks failed. -/
def refusalsOf (n : Network) (id : ConnectionId) : Nat :=
  ((n.connections[id]?).map fun x => x.connection.refusals).getD 0

/-- The message that a server has counted last. -/
def lastOn (n : Network) (server : ServerId) : Option MessageStream :=
  ((n.servers[server]?).map Server.lastMessage).getD none

section

variable {n n' : Network} {server : ServerId} {id : ConnectionId}

theorem dueOf_add_refusalsOf (n : Network) (id : ConnectionId) :
    n.dueOf id + n.refusalsOf id = n.receivedOf id := by
  rw [dueOf, refusalsOf, receivedOf]
  cases n.connections[id]? with
  | none => rfl
  | some x => exact Int.sub_add_cancel _ _

theorem sum_dueOf (n : Network) (ids : List ConnectionId) :
    (ids.map n.dueOf).sum + (ids.map n.refusalsOf).sum = (ids.map n.receivedOf).sum := by
  induction ids with
  | nil => rfl
  | cons id rest ih =>
      have hid := dueOf_add_refusalsOf n id
      simp only [List.map_cons, List.sum_cons, Int.natCast_add]
      omega

/-- If the balance is nothing, only the messages for which the hooks failed are missing. -/
theorem messagesOn_add_refusals (h : n.balance server = 0) :
    n.messagesOn server + ((n.acceptedOn server).map n.refusalsOf).sum =
      ((n.acceptedOn server).map n.receivedOf).sum := by
  have hsum := sum_dueOf n (n.acceptedOn server)
  rw [balance] at h
  omega

/-! ### Before the answer -/

/-- What a server counts is the message that the connection has at hand. -/
theorem countMessage_last (hserver : server < n.servers.size) (howner : n.ownerOf id = some server) :
    ((countMessage server id).runFrom n).2.lastOn server = n.messageOf id := by
  rcases Option.map_eq_some_iff.mp howner with ⟨x, hx, -⟩
  rw [countMessage, Act.runFrom_bind_ok (Act.runFrom_get n), messageOf]
  simp only [hx]
  rw [modifyServer, Act.runFrom_modify, lastOn]
  simp only [Array.getElem?_modify, if_pos, Array.getElem?_eq_getElem hserver, Option.map_some,
    Option.getD_some]
  rfl

/-- If the hooks are called with a message and do not fail, the server has just counted this
    message, and the balance is what it was before the message came in. -/
theorem greet_cases {sch : Scheduler} (h : sch.KeepsBooks) (t : Seconds) (served : Served)
    (s : MessageStream) (hsound : n.Sound) (hserves : Serves id served.server n) :
    (∃ f n', (Connection.greet (surroundings sch t id served) s).runFrom n = (.error f, n')) ∨
      ∃ m n', (Connection.greet (surroundings sch t id served) s).runFrom n = (.ok (), n') ∧
        (countMessage served.server id).runFrom m = (.ok (), n') ∧
        n'.lastOn served.server = some s ∧ ∀ server, n'.balance server = n.balance server := by
  have hgreet := greet_keeps t id served h s n hsound hserves
  rcases greet_runs t id served h s hsound hserves with ⟨n₁, h₁, hserves₁, hmessage, hrun⟩
  rcases callOnMessage_cases t id served h s h₁.sound with ⟨m, hm, hcount | ⟨f, hfail⟩⟩
  · have howner := (hm.serves hserves₁).owner
    have hlast := countMessage_last (hm.sound.known howner) howner
    rw [hm.atHand hserves₁.toRuns, hmessage] at hlast
    rcases countMessage_ok served.server id m with ⟨n', hn'⟩
    have hok := (hrun.trans hcount).trans hn'
    rw [hok] at hgreet
    rw [hn'] at hlast
    refine .inr ⟨m, n', hok, hn', hlast, fun server => ?_⟩
    rw [hgreet.2.balance, Pi.zero_apply, Int.add_zero]
  · exact .inl ⟨f, _, hrun.trans hfail⟩

end

/-- Whatever has been done with a network, a server has counted all messages that its
    connections have received, but for those for which the hooks failed. And whenever a message
    has come in, either the hooks fail for it and nothing more is done, or what is done from the
    answer on is done when the server has counted this message as its last. -/
theorem messages_counted (k : Nat) :
    (∀ settings ops server,
      let n := ((operateAll (.ofPatience k) ops).runFrom { settings }).2
      n.messagesOn server + ((n.acceptedOn server).map n.refusalsOf).sum =
        ((n.acceptedOn server).map n.receivedOf).sum) ∧
    ∀ t id served s n, n.Sound → Serves id served.server n →
      let w := surroundings (.ofPatience k) t id served
      (∃ f n', (Connection.greet w s).runFrom n = (.error f, n') ∧
        (Connection.complete w s).runFrom n = (.error f, n')) ∨
      ∃ m n', (countMessage served.server id).runFrom m = (.ok (), n') ∧
        n'.lastOn served.server = some s ∧ (∀ server, n'.balance server = n.balance server) ∧
        (Connection.complete w s).runFrom n =
          (do Connection.respond w; Connection.forward w s; Connection.closeAfter w).runFrom n' := by
  constructor
  · intro settings ops server
    refine messagesOn_add_refusals ?_
    rw [(operateAll_conduct settings k ops).balance, balance_empty]
    rfl
  · intro t id served s n hsound hserves w
    have hcomplete : Connection.complete w s = (do
        Connection.greet w s
        Connection.respond w
        Connection.forward w s
        Connection.closeAfter w) := Connection.complete_eq w s
    rw [hcomplete]
    rcases greet_cases (Scheduler.keepsBooks_ofPatience k) t served s hsound hserves with
      ⟨f, n', hfail⟩ | ⟨m, n', hok, hcount, hlast, hbalance⟩
    · exact .inl ⟨f, n', hfail, Act.runFrom_bind_error hfail _⟩
    · exact .inr ⟨m, n', hcount, hlast, hbalance, Act.runFrom_bind_ok hok _⟩

/-- A connection that has just been started is served a message. The hooks do not fail, so the
    server counts the message, and what is left to do is done from there. -/
theorem messages_counted_answered :
    let settings : Settings := .usual ""
    let server : Server := { Server.create settings (some 7001) with status := .opened }
    let c : Connection :=
      { peer := ⟨clientHost, 50001⟩, serverPort := 7001, behavior := {}, registry := none,
        dispatcher := server.dispatcher, readTimeout := ⟨0⟩, expectation := none, hooks := [{}] }
    let n : Network := modifyConnection 0 (Connection.withWorker .running)
      ({ settings, servers := #[server] : Network }.enlist 0 0 c)
    let w := surroundings (.ofPatience 1) ⟨0⟩ 0 ⟨c, 0, 0⟩
    let s : MessageStream := ⟨4, #[120, 13, 10, 10], [120, 13, 10, 10]⟩
    n.Sound ∧ Serves 0 0 n ∧
      ∃ m n', (countMessage 0 0).runFrom m = (.ok (), n') ∧ n'.lastOn 0 = some s ∧
        (∀ server, n'.balance server = n.balance server) ∧
        (Connection.complete w s).runFrom n =
          (do Connection.respond w; Connection.forward w s; Connection.closeAfter w).runFrom n' := by
  intro settings server c n w s
  have hopened : Conduct none 0 { settings } { settings, servers := #[server] } :=
    conduct_addServer (s := server) rfl rfl rfl (sound_empty settings)
  have hlisted : Conduct none 0 _ ({ settings, servers := #[server] : Network }.enlist 0 0 c) :=
    conduct_enlist 0 rfl rfl rfl Nat.zero_lt_one hopened.sound
  have hsound : n.Sound :=
    (conduct_setWorker .running hlisted.sound rfl fun _ h => Worker.noConfusion h).sound
  have hserves : Serves 0 0 n := ⟨⟨rfl, rfl⟩, List.mem_cons_self⟩
  have hok : ((Connection.greet w s).runFrom n).1 = .ok () := rfl
  refine ⟨hsound, hserves, ?_⟩
  rcases (messages_counted 1).2 ⟨0⟩ 0 ⟨c, 0, 0⟩ s n hsound hserves with ⟨f, n', hfail, -⟩ | hcounted
  · rw [hfail] at hok
    injection hok
  · exact hcounted

/-- A hook that fails when it is called with a message keeps the server from counting it. The
    connection has received it, has not answered it, and has come to its end. -/
theorem messages_uncounted :
    let n := ((operateAll (.ofPatience 4)
      [.create (some 7001) none none none
        (some [{ onMessage := .always [.fail (.raised "boom")] }]) none none,
        .start 0, .connect true 7001, .send 0 [120, 13, 10, 10], .hangUp 0]).runFrom
          { settings := .usual "" }).2
    n.workerOf 0 = some .ended ∧ n.messagesOn 0 = 0 ∧
      ((n.acceptedOn 0).map n.receivedOf).sum = 1 := by
  decide +kernel

end Network

end MockHost
