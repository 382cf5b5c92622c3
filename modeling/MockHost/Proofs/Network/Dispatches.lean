import MockHost.Proofs.Network.Operations

/-!
# No Record Is Lost or Shown Twice

What the books say about turns becomes a fact about the records of a server once it
is known that everything in the network is a matter of turns. For operations that is
how threads conduct themselves. For the end of a connection it is worth a look of its
own: the hooks may do what they like and fail, but whatever comes of them, the
connection is forgotten while it is announced that it has ended.

Whoever reads the records of a server, with any turns of others between any two steps
of the reading, then finds every record that was there in the beginning once, none
twice, and those of each connection in order. And a connection that has been forgotten
stays away, while its records stay where the server keeps them.

## Main definitions

* `Network.Accounted`: What is certain about the delivery records of a server.

## Theorems

* `Network.callOnClose_releases`: The end of a connection includes that it is forgotten.
* `Network.accounted`: Whatever turns a network has taken, all this is certain.
-/

namespace MockHost

open Act (Moves)

namespace Network

/-- Whatever the hooks do when a connection has ended, and whether or not they fail, it is
    forgotten in the midst of it. -/
theorem callOnClose_releases {sch : Scheduler} (h : sch.KeepsBooks) (t : Seconds)
    (id : ConnectionId)
    (served : Served) {n : Network} (hsound : n.Sound) (hserves : Serves id served.server n) :
    ∃ m, Turns served.server n m ∧ id ∈ m.liveOn served.server ∧
      Turns served.server ((forget served.server id).runFrom m).2
        ((Connection.callOnClose (surroundings sch t id served)).runFrom n).2 := by
  have calling := h.calling t id served
  generalize hn₁ : modifyConnection id (fun c => { c with calls := c.calls ++
    [.hooks .onClose ((surroundings sch t id served).connection n).received
      ((surroundings sch t id served).connection n).mismatch] }) n = n₁
  have h₁ : Conduct none 0 n n₁ := by
    rw [← hn₁]
    exact (quiet_record rfl id).conduct hsound
  rcases hhooks : (Connection.callEveryHook (surroundings sch t id served) .onClose
    ((surroundings sch t id served).connection n₁).hooks).runFrom n₁ with ⟨res, m⟩
  have h₂ : Conduct none 0 n₁ m :=
    ((calling.callEveryHook _ _).reaches hhooks).conduct h₁.sound
  have hm := h₂.serves (h₁.serves hserves)
  refine ⟨m, (h₂.after h₁).turns served.server, hm.live, ?_⟩
  rcases forget_of_mem hm.live with ⟨m', hm', -⟩
  have hforgets := (keeps_forget h₂.sound hm.toRuns).2.sound
  rw [hm'] at hforgets ⊢
  have hforget : ((surroundings sch t id served).forget).runFrom m = (.ok (), m') := hm'
  rw [Connection.callOnClose, Connection.announced,
    Act.runFrom_bind_ok (current_runFrom t id served n),
    Act.runFrom_bind_ok (record_runFrom t id served _ n), hn₁,
    Act.runFrom_bind_ok (Act.runFrom_attempt _ _),
    Act.runFrom_bind_ok (current_runFrom t id served n₁), Act.andFinally,
    Act.runFrom_bind_ok (Act.runFrom_attempt _ _), hhooks, Act.runFrom_bind_ok hforget]
  -- Only now does it matter whether one of the hooks has failed.
  cases res with
  | ok _ => exact .refl
  | error f => exact ((quiet_record rfl id).conduct hforgets).turns served.server

/-- What is certain about the delivery records of a server. -/
structure Accounted (server : ServerId) (n : Network) : Prop where
  /-- A reader that begins now, and lets others take their turns between any two of its steps,
      finds every record that there is now once, none twice, and all in order. -/
  read : ∀ {s n' r}, n.servers[server]? = some s →
    Relation.ReflTransGen (Reader.Reads server) (n, Reader.begin s) (n', r) → r.unread = [] →
    Collated server n n' r.found
  /-- A live connection that is forgotten now is not live ever after. The records that it has
      are all that it will ever have, and stay among those that the server keeps. -/
  released : ∀ {id n'}, id ∈ n.liveOn server →
    Turns server ((forget server id).runFrom n).2 n' →
    id ∉ n'.liveOn server ∧ n'.recordsOf id = n.recordsOf id ∧
      n.finishedOn server ++ n.recordsOf id <+: n'.finishedOn server
  /-- That a connection has ended is announced to its hooks in turns, and whatever these do one
      of the turns forgets the connection. -/
  announced : ∀ {id served}, n.Sound → served.server = server → Serves id served.server n →
    ∀ k t, ∃ m, Turns server n m ∧ id ∈ m.liveOn server ∧
      Turns server ((forget server id).runFrom m).2
        ((Connection.callOnClose (surroundings (.ofPatience k) t id served)).runFrom n).2
  /-- All that is done from outside comes down to turns, too. -/
  operated : n.Sound → ∀ k ops,
    Turns server n ((operateAll (.ofPatience k) ops).runFrom n).2 ∧
      ((operateAll (.ofPatience k) ops).runFrom n).2.Sound

/-- Whatever turns have been taken since there was no server, the records of each server are
    accounted for. -/
theorem accounted {settings : Settings} {server : ServerId} {n : Network}
    (history : Turns server { settings } n) : Accounted server n := by
  rcases turns_books history (books_empty settings server) with ⟨gone, hadvances⟩
  have hbooks : Books server gone n := hadvances.books
  refine ⟨fun hs hreads hend => hbooks.collated hs hreads hend,
    fun hmem hturns => hbooks.released hmem hturns, ?_, fun hsound k ops => ?_⟩
  · rintro id served hsound rfl hserves k t
    exact callOnClose_releases (Scheduler.keepsBooks_ofPatience k) t id served hsound hserves
  · have hconduct := (operateAll_booksKept (Scheduler.keepsBooks_ofPatience k) ops n).conduct hsound
    exact ⟨hconduct.turns server, hconduct.sound⟩

/-- A reader begins while the only connection is live, and asks it only when it has been
    forgotten. The hooks of the connection fail when they are told of the end. -/
theorem accounted_released :
    let settings : Settings := .usual ""
    let server : Server := { Server.create settings (some 7001) with status := .opened }
    let c : Connection :=
      { peer := ⟨clientHost, 50001⟩, serverPort := 7001, behavior := {}, registry := none,
        dispatcher := server.dispatcher, readTimeout := ⟨0⟩, expectation := none,
        hooks := [{ onClose := .always [.fail (.raised "late")] }] }
    let record : DispatchRecord := ⟨⟨"192.0.2.1", 9000, "x"⟩, .sent, none⟩
    let opened : Network := { settings, servers := #[server] }
    let n : Network := modifyConnection 0 (Connection.withRecords [record])
      (modifyConnection 0 (Connection.withWorker .running) (opened.enlist 0 0 c))
    let n' : Network := ((forget 0 0).runFrom n).2
    Turns 0 { settings } n ∧ Collated 0 n n' [record] ∧
      (0 ∉ n'.liveOn 0 ∧ n'.recordsOf 0 = [record] ∧ [record] <+: n'.finishedOn 0) ∧
      ∃ served, n.connections[0]? = some served ∧
        ((Connection.callOnClose (surroundings (.ofPatience 1) ⟨0⟩ 0 served)).runFrom n).1 =
          .error (.raised "late") ∧
        ∃ m, Turns 0 n m ∧ 0 ∈ m.liveOn 0 ∧
          Turns 0 ((forget 0 0).runFrom m).2
            ((Connection.callOnClose (surroundings (.ofPatience 1) ⟨0⟩ 0 served)).runFrom n).2 := by
  intro settings server c record opened n n'
  have hopened : Conduct none 0 { settings } opened :=
    conduct_addServer (s := server) rfl rfl rfl (sound_empty settings)
  have hlisted : Conduct none 0 opened (opened.enlist 0 0 c) :=
    conduct_enlist 0 rfl rfl rfl Nat.zero_lt_one hopened.sound
  have hstarted : Conduct (some 0) 0 (opened.enlist 0 0 c) _ :=
    conduct_setWorker .running hlisted.sound rfl fun _ h => Worker.noConfusion h
  have hserves : Serves 0 0 (modifyConnection 0 (Connection.withWorker .running)
      (opened.enlist 0 0 c)) := ⟨⟨rfl, rfl⟩, List.mem_cons_self⟩
  rcases keeps_withRecords [record] hstarted.sound hserves with ⟨hserves', hrecords⟩
  have history : Turns 0 { settings } n :=
    (((hopened.turns 0).trans (hlisted.turns 0)).trans (hstarted.turns 0)).trans (hrecords.turns 0)
  have haccounted := accounted history
  -- The reader takes down the one live connection, and finds its records with it later.
  let begun : Reader := Reader.begin { server with live := [0], accepted := 1 }
  have hreads : Relation.ReflTransGen (Reader.Reads 0) (n, begun) (n', begun.next n') :=
    .tail (.single (.turn begun (.release n 0))) (.ask n' begun)
  refine ⟨history, haccounted.read rfl hreads rfl, haccounted.released hserves'.live .refl, _, rfl,
    rfl, haccounted.announced hrecords.sound rfl hserves' 1 ⟨0⟩⟩

end Network

end MockHost
