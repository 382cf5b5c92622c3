import Mathlib.Data.List.Nodup
import Mathlib.Data.List.Perm.Subperm
import Mathlib.Logic.Relation
import MockHost.Network.Threads

/-!
# Taking Turns With a Reader

A server keeps its delivery records in two places: those of a live connection are
with the connection, and when the connection has ended they move to the server. A
reader of all of them takes several steps, with other threads in between. What these
threads do to the records comes down to three things: a connection is accepted, a
live one adds records, one is forgotten. Everything else spares them.

The books of a server balance at every moment: there is a list of the connections
forgotten so far, in order, such that the server keeps exactly their records and none
of them is live. Records are only ever added at the end. From that alone a reader is
right. The first step finds what the forgotten connections have and who is live, and
whatever happens to a live connection before it is asked, its records are still with
it, because being forgotten takes nothing from it. So every connection is found once,
with the records it had when the reader began and perhaps some of those it got later.

## Main definitions

* `Network.liveOn`, `Network.finishedOn`, `Network.ownerOf`: What a reader can see.
* `Network.Spares`: Steps that leave the records of a server alone.
* `Network.Turn`: One step of other threads, as far as the records are concerned.
* `Network.Books`: The books of a server, with the connections forgotten so far.
* `Reader.Reads`: The steps of a reader and of other threads in any order.
* `Network.Collated`: What a reader has found who began and finished at given moments.

## Theorems

* `Network.Turn.books`, `Network.turns_books`: Turns keep the books balanced.
* `Network.Turn.grows`: Records are only added at the end.
* `Reader.Reads.collected`: What a reader has found so far.
* `Network.Books.collated`: What a reader finds.
* `Network.Books.released`: A forgotten connection stays away, and its records stay.
-/

namespace MockHost

namespace Network

/-- The live connections of a server. -/
def liveOn (n : Network) (server : ServerId) : List ConnectionId :=
  ((n.servers[server]?).map Server.live).getD []

/-- The records that a server keeps of connections that have ended. -/
def finishedOn (n : Network) (server : ServerId) : List DispatchRecord :=
  ((n.servers[server]?).map Server.finishedDispatches).getD []

/-- The number of messages that a server has counted. -/
def messagesOn (n : Network) (server : ServerId) : Nat :=
  ((n.servers[server]?).map Server.messages).getD 0

/-- The server that a connection belongs to. -/
def ownerOf (n : Network) (id : ConnectionId) : Option ServerId :=
  (n.connections[id]?).map Served.server

/-- All connections that have ever belonged to a server, in the order of acceptance. -/
def acceptedOn (n : Network) (server : ServerId) : List ConnectionId :=
  (List.range n.connections.size).filter fun id => n.ownerOf id = some server

/-- The records of all connections that have ever belonged to a server. -/
def recordsOn (n : Network) (server : ServerId) : List DispatchRecord :=
  (n.acceptedOn server).flatMap n.recordsOf

/-- A step that leaves the records of a server and its live connections alone. -/
structure Spares (server : ServerId) (n n' : Network) : Prop where
  live : n'.liveOn server = n.liveOn server
  finished : n'.finishedOn server = n.finishedOn server
  owner : ∀ id, n'.ownerOf id = some server ↔ n.ownerOf id = some server
  records : ∀ id, n.ownerOf id = some server → n'.recordsOf id = n.recordsOf id

/-- One step of other threads, as far as the records of a server are concerned. -/
inductive Turn (server : ServerId) : Network → Network → Prop where
  /-- A connection is accepted. -/
  | accept (n : Network) (link : LinkId) {c : Connection} (h : c.dispatches = []) :
    Turn server n (n.enlist server link c)
  /-- A live connection adds the records of one dispatch. -/
  | dispatch (n : Network) {id : ConnectionId} (records : List DispatchRecord)
    (h : id ∈ n.liveOn server) :
    Turn server n (modifyConnection id (Connection.withRecords records) n)
  /-- A connection is forgotten. -/
  | release (n : Network) (id : ConnectionId) : Turn server n ((forget server id).runFrom n).2
  /-- Anything else. -/
  | other {n n' : Network} (h : Spares server n n') : Turn server n n'

/-- Any number of steps of other threads. -/
abbrev Turns (server : ServerId) : Network → Network → Prop :=
  Relation.ReflTransGen (Turn server)

/-! ### What the steps change -/

theorem mem_acceptedOn {n : Network} {server : ServerId} {id : ConnectionId} :
    id ∈ n.acceptedOn server ↔ n.ownerOf id = some server := by
  simp only [acceptedOn, List.mem_filter, List.mem_range, decide_eq_true_eq, and_iff_right_iff_imp,
    ownerOf, Option.map_eq_some_iff]
  rintro ⟨served, hserved, -⟩
  exact (Array.getElem?_eq_some_iff.mp hserved).1

theorem acceptedOn_nodup (n : Network) (server : ServerId) : (n.acceptedOn server).Nodup :=
  List.nodup_range.filter _

section

variable {n : Network} {server : ServerId} {id : ConnectionId}

theorem recordsOf_of_ownerOf_eq_none (h : n.ownerOf id = none) : n.recordsOf id = [] := by
  have hnone : n.connections[id]? = none := by simpa only [ownerOf, Option.map_eq_none_iff] using h
  rw [recordsOf, hnone]
  rfl

theorem ownerOf_modifyConnection (f : Connection → Connection) (i : ConnectionId) :
    (modifyConnection id f n).ownerOf i = n.ownerOf i := by
  simp only [ownerOf, modifyConnection, Array.getElem?_modify]
  split
  · rw [Option.map_map]
    rfl
  · rfl

theorem recordsOf_withRecords (records : List DispatchRecord) (h : n.ownerOf id = some server) :
    (modifyConnection id (Connection.withRecords records) n).recordsOf id =
      n.recordsOf id ++ records := by
  rcases Option.map_eq_some_iff.mp h with ⟨served, hserved, -⟩
  simp only [recordsOf, modifyConnection, Array.getElem?_modify, hserved, if_pos]
  rfl

theorem recordsOf_modifyConnection_of_ne (f : Connection → Connection) {i : ConnectionId}
    (h : id ≠ i) : (modifyConnection id f n).recordsOf i = n.recordsOf i := by
  simp only [recordsOf, modifyConnection, Array.getElem?_modify, if_neg h]

/-- The next connection has the number after the last. -/
theorem ownerOf_enlist (link : LinkId) (c : Connection) (i : ConnectionId) :
    (n.enlist server link c).ownerOf i =
      if i = n.connections.size then some server else n.ownerOf i := by
  simp only [ownerOf, enlist, Array.getElem?_push]
  split
  · rfl
  · rfl

theorem recordsOf_enlist (link : LinkId) {c : Connection} (h : c.dispatches = [])
    (i : ConnectionId) : (n.enlist server link c).recordsOf i = n.recordsOf i := by
  simp only [recordsOf, enlist, Array.getElem?_push]
  split
  · rename_i hi
    rw [hi, Array.getElem?_size]
    exact h
  · rfl

theorem finishedOn_enlist (link : LinkId) (c : Connection) (s : ServerId) :
    (n.enlist server link c).finishedOn s = n.finishedOn s := by
  simp only [finishedOn, enlist, Array.getElem?_modify]
  split
  · rw [Option.map_map]
    cases n.servers[s]? with
    | none => rfl
    | some x =>
        simp only [Option.map_some, Function.comp_apply, Option.getD_some]
        split
        · rfl
        · rfl
  · rfl

/-- An open server has one more live connection, and any other has the same. -/
theorem liveOn_enlist (link : LinkId) (c : Connection) :
    (n.enlist server link c).liveOn server = n.liveOn server ++
      if (n.servers[server]?).any Server.isOpen then [n.connections.size] else [] := by
  simp only [liveOn, enlist, Array.getElem?_modify, if_pos]
  cases n.servers[server]? with
  | none => rfl
  | some s =>
      simp only [Option.map_some, Option.getD_some, Option.any_some]
      split
      · rfl
      · exact (List.append_nil _).symm

theorem liveOn_enlist_of_ne (link : LinkId) (c : Connection) {s : ServerId} (h : server ≠ s) :
    (n.enlist server link c).liveOn s = n.liveOn s := by
  simp only [liveOn, enlist, Array.getElem?_modify, if_neg h]

theorem ownerOf_lt (h : n.ownerOf id = some server) : id < n.connections.size := by
  rcases Option.map_eq_some_iff.mp h with ⟨served, hserved, -⟩
  exact (Array.getElem?_eq_some_iff.mp hserved).1

/-- Forgetting a connection that is not live does nothing. -/
theorem forget_of_notMem (h : id ∉ n.liveOn server) :
    (forget server id).runFrom n = (.ok (), n) := by
  rw [forget, withServer, Act.runFrom_bind_ok (Act.runFrom_get n)]
  cases hs : n.servers[server]? with
  | none => rfl
  | some s =>
      have hlive : s.live.contains id = false := by
        simpa only [liveOn, hs, Option.map_some, Option.getD_some, ← List.contains_iff_mem,
          Bool.not_eq_true] using h
      simp only [hlive, Bool.false_eq_true, if_false]
      rfl

/-- What forgetting a live connection does. -/
structure Forgets (server : ServerId) (id : ConnectionId) (n n' : Network) : Prop where
  connections : n'.connections = n.connections
  live : n'.liveOn server = (n.liveOn server).erase id
  finished : n'.finishedOn server = n.finishedOn server ++ n.recordsOf id
  messages : n'.messagesOn server = n.messagesOn server
  size : n'.servers.size = n.servers.size
  others : ∀ i, server ≠ i → n'.servers[i]? = n.servers[i]?

theorem forget_of_mem (h : id ∈ n.liveOn server) :
    ∃ n', (forget server id).runFrom n = (.ok (), n') ∧ Forgets server id n n' := by
  rw [forget, withServer, Act.runFrom_bind_ok (Act.runFrom_get n)]
  cases hs : n.servers[server]? with
  | none => simp only [liveOn, hs, Option.map_none, Option.getD_none, List.not_mem_nil] at h
  | some s =>
      have hlive : s.live.contains id = true := by
        simpa only [liveOn, hs, Option.map_some, Option.getD_some, ← List.contains_iff_mem] using h
      simp only [hlive, if_true]
      refine ⟨_, rfl, rfl, ?_, ?_, ?_, Array.size_modify, fun i hi => ?_⟩
      · simp only [liveOn, Array.getElem?_modify, if_pos, hs, Option.map_some, Option.getD_some]
      · simp only [finishedOn, Array.getElem?_modify, if_pos, hs, Option.map_some, Option.getD_some]
      · simp only [messagesOn, Array.getElem?_modify, if_pos, hs, Option.map_some, Option.getD_some]
      · simp only [Array.getElem?_modify, if_neg hi]

theorem Forgets.ownerOf {n' : Network} (h : Forgets server id n n') (i : ConnectionId) :
    n'.ownerOf i = n.ownerOf i := by
  rw [Network.ownerOf, h.connections]
  rfl

theorem Forgets.recordsOf {n' : Network} (h : Forgets server id n n') (i : ConnectionId) :
    n'.recordsOf i = n.recordsOf i := by
  rw [Network.recordsOf, h.connections]
  rfl

end

/-! ### Records are only added at the end -/

section

variable {n n' : Network} {server : ServerId}

/-- The connections of a server stay its own, and keep the records that they have. -/
theorem Turn.grows (h : Turn server n n') {id : ConnectionId} (howner : n.ownerOf id = some server) :
    n'.ownerOf id = some server ∧ n.recordsOf id <+: n'.recordsOf id := by
  cases h with
  | accept link hnone =>
      rw [ownerOf_enlist, if_neg (Nat.ne_of_lt (ownerOf_lt howner)), recordsOf_enlist link hnone]
      exact ⟨howner, List.prefix_rfl⟩
  | @dispatch i records _ =>
      rw [ownerOf_modifyConnection]
      refine ⟨howner, ?_⟩
      by_cases hi : i = id
      · subst hi
        rw [recordsOf_withRecords records howner]
        exact List.prefix_append _ _
      · simp only [recordsOf_modifyConnection_of_ne _ hi, List.prefix_rfl]
  | release i =>
      by_cases hmem : i ∈ n.liveOn server
      · rcases forget_of_mem hmem with ⟨m, hm, hforgets⟩
        rw [hm, hforgets.ownerOf, hforgets.recordsOf]
        exact ⟨howner, List.prefix_rfl⟩
      · rw [forget_of_notMem hmem]
        exact ⟨howner, List.prefix_rfl⟩
  | other hspares =>
      rw [hspares.owner, hspares.records id howner]
      exact ⟨howner, List.prefix_rfl⟩

theorem turns_grow (h : Turns server n n') {id : ConnectionId}
    (howner : n.ownerOf id = some server) :
    n'.ownerOf id = some server ∧ n.recordsOf id <+: n'.recordsOf id := by
  induction h with
  | refl => exact ⟨howner, List.prefix_rfl⟩
  | tail _ hturn ih =>
      rcases hturn.grows ih.1 with ⟨howner', hgrows⟩
      exact ⟨howner', ih.2.trans hgrows⟩

/-! ### The books -/

/-- The books of a server balance: the connections forgotten so far are none of the live ones,
    the server keeps their records, in order, and no other connection has any. -/
structure Books (server : ServerId) (gone : List ConnectionId) (n : Network) : Prop where
  nodup : (gone ++ n.liveOn server).Nodup
  owner : ∀ id ∈ gone ++ n.liveOn server, n.ownerOf id = some server
  finished : n.finishedOn server = gone.flatMap n.recordsOf
  others : ∀ id, n.ownerOf id = some server → id ∉ gone ++ n.liveOn server → n.recordsOf id = []

/-- A network without any server. -/
theorem books_empty (settings : Settings) (server : ServerId) : Books server [] { settings } where
  nodup := List.nodup_nil
  owner _ h := absurd h List.not_mem_nil
  finished := rfl
  others _ _ _ := rfl

theorem flatMap_recordsOf_congr {ids : List ConnectionId}
    (h : ∀ id ∈ ids, n'.recordsOf id = n.recordsOf id) :
    ids.flatMap n'.recordsOf = ids.flatMap n.recordsOf := by
  rw [List.flatMap_def, List.flatMap_def, List.map_congr_left h]

/-- What a turn adds to the connections that have been forgotten. Those that were before keep
    the records they have. -/
structure Advances (server : ServerId) (gone : List ConnectionId) (n n' : Network)
    (more : List ConnectionId) : Prop where
  books : Books server (gone ++ more) n'
  records : ∀ id ∈ gone, n'.recordsOf id = n.recordsOf id

variable {gone : List ConnectionId}

theorem Spares.advances (h : Spares server n n') (hbooks : Books server gone n) :
    Advances server gone n n' [] := by
  have hrecords : ∀ id ∈ gone, n'.recordsOf id = n.recordsOf id := fun id hid =>
    h.records id (hbooks.owner id (List.mem_append_left _ hid))
  refine ⟨?_, hrecords⟩
  rw [List.append_nil]
  refine ⟨?_, ?_, ?_, ?_⟩
  · rw [h.live]
    exact hbooks.nodup
  · intro id hid
    rw [h.live] at hid
    exact (h.owner id).mpr (hbooks.owner id hid)
  · rw [h.finished, hbooks.finished, flatMap_recordsOf_congr hrecords]
  · intro id howner hid
    rw [h.live] at hid
    rw [h.owner] at howner
    rw [h.records id howner, hbooks.others id howner hid]

/-- A new connection has a number that no other one has had, and no records. -/
theorem advances_enlist (link : LinkId) {c : Connection} (h : c.dispatches = [])
    (hbooks : Books server gone n) :
    Advances server gone n (n.enlist server link c) [] := by
  have hrecords : ∀ id, (n.enlist server link c).recordsOf id = n.recordsOf id :=
    recordsOf_enlist link h
  have hnew : n.connections.size ∉ gone ++ n.liveOn server := fun hmem =>
    Nat.lt_irrefl _ (ownerOf_lt (hbooks.owner _ hmem))
  have howner : ∀ id ∈ gone ++ n.liveOn server,
      (n.enlist server link c).ownerOf id = some server := by
    intro id hid
    rw [ownerOf_enlist, hbooks.owner id hid]
    exact ite_self _
  have hothers : ∀ id, (n.enlist server link c).ownerOf id = some server →
      id ∉ gone ++ n.liveOn server → n.recordsOf id = [] := by
    intro id hid hmem
    rw [ownerOf_enlist] at hid
    by_cases hi : id = n.connections.size
    · rw [hi]
      exact recordsOf_of_ownerOf_eq_none (by rw [ownerOf, Array.getElem?_size]; rfl)
    · rw [if_neg hi] at hid
      exact hbooks.others id hid hmem
  refine ⟨?_, fun id _ => hrecords id⟩
  rw [List.append_nil]
  have hfinished : (n.enlist server link c).finishedOn server =
      gone.flatMap (n.enlist server link c).recordsOf := by
    rw [finishedOn_enlist, hbooks.finished, flatMap_recordsOf_congr fun id _ => hrecords id]
  -- The connection is among the live ones only if the server is open.
  have hlive : (n.enlist server link c).liveOn server = _ := liveOn_enlist link c
  split at hlive
  · refine ⟨?_, ?_, hfinished, ?_⟩
    · rw [hlive, ← List.append_assoc]
      exact List.nodup_append.mpr ⟨hbooks.nodup, List.nodup_singleton _, fun a ha b hb hab =>
        hnew (List.mem_singleton.mp hb ▸ hab ▸ ha)⟩
    · intro id hid
      rw [hlive, ← List.append_assoc] at hid
      rcases List.mem_append.mp hid with hold | hnew'
      · exact howner id hold
      · rw [List.mem_singleton.mp hnew', ownerOf_enlist, if_pos rfl]
    · intro id hid hmem
      rw [hlive, ← List.append_assoc] at hmem
      rw [hrecords]
      exact hothers id hid fun hold => hmem (List.mem_append_left _ hold)
  · rw [List.append_nil] at hlive
    refine ⟨?_, ?_, hfinished, ?_⟩
    · rw [hlive]
      exact hbooks.nodup
    · rw [hlive]
      exact howner
    · intro id hid hmem
      rw [hlive] at hmem
      rw [hrecords]
      exact hothers id hid hmem

/-- Only live connections add records, and these have not been forgotten. -/
theorem advances_withRecords {id : ConnectionId} (records : List DispatchRecord)
    (h : id ∈ n.liveOn server) (hbooks : Books server gone n) :
    Advances server gone n (modifyConnection id (Connection.withRecords records) n) [] := by
  have hne : ∀ i ∈ gone, id ≠ i := fun i hi hid =>
    (List.nodup_append.mp hbooks.nodup).2.2 i hi id h hid.symm
  have hrecords : ∀ i ∈ gone,
      (modifyConnection id (Connection.withRecords records) n).recordsOf i = n.recordsOf i :=
    fun i hi => recordsOf_modifyConnection_of_ne _ (hne i hi)
  refine ⟨?_, hrecords⟩
  rw [List.append_nil]
  refine ⟨hbooks.nodup, ?_, ?_, ?_⟩
  · intro i hi
    rw [ownerOf_modifyConnection]
    exact hbooks.owner i hi
  · exact hbooks.finished.trans (flatMap_recordsOf_congr hrecords).symm
  · intro i howner hi
    rw [ownerOf_modifyConnection] at howner
    have hid : id ≠ i := by
      rintro rfl
      exact hi (List.mem_append_right _ h)
    rw [recordsOf_modifyConnection_of_ne _ hid]
    exact hbooks.others i howner hi

/-- A connection that is forgotten joins those that were forgotten before. -/
theorem Forgets.advances {id : ConnectionId} (h : Forgets server id n n')
    (hmem : id ∈ n.liveOn server) (hbooks : Books server gone n) :
    Advances server gone n n' [id] := by
  have hperm : (gone ++ n.liveOn server).Perm (gone ++ [id] ++ n'.liveOn server) := by
    rw [h.live, List.append_assoc]
    exact (List.perm_cons_erase hmem).append_left gone
  refine ⟨⟨?_, ?_, ?_, ?_⟩, fun i _ => h.recordsOf i⟩
  · exact hperm.nodup_iff.mp hbooks.nodup
  · intro i hi
    rw [h.ownerOf]
    exact hbooks.owner i (hperm.mem_iff.mpr hi)
  · rw [h.finished, hbooks.finished, flatMap_recordsOf_congr fun i _ => h.recordsOf i,
      List.flatMap_append, List.flatMap_singleton]
  · intro i howner hi
    rw [h.ownerOf] at howner
    rw [h.recordsOf]
    exact hbooks.others i howner fun hold => hi (hperm.mem_iff.mp hold)

/-- Every turn keeps the books balanced. -/
theorem Turn.books (h : Turn server n n') (hbooks : Books server gone n) :
    ∃ more, Advances server gone n n' more := by
  cases h with
  | accept link hnone => exact ⟨[], advances_enlist link hnone hbooks⟩
  | dispatch records hmem => exact ⟨[], advances_withRecords records hmem hbooks⟩
  | release id =>
      by_cases hmem : id ∈ n.liveOn server
      · rcases forget_of_mem hmem with ⟨m, hm, hforgets⟩
        rw [hm]
        exact ⟨[id], hforgets.advances hmem hbooks⟩
      · rw [forget_of_notMem hmem]
        exact ⟨[], ⟨by rwa [List.append_nil], fun _ _ => rfl⟩⟩
  | other hspares => exact ⟨[], hspares.advances hbooks⟩

/-- So does any number of them. -/
theorem turns_books (h : Turns server n n') (hbooks : Books server gone n) :
    ∃ more, Advances server gone n n' more := by
  induction h with
  | refl => exact ⟨[], ⟨by rwa [List.append_nil], fun _ _ => rfl⟩⟩
  | tail _ hturn ih =>
      rcases ih with ⟨more, hmore, hrecords⟩
      rcases hturn.books hmore with ⟨more', hmore', hrecords'⟩
      refine ⟨more ++ more', ⟨by rwa [← List.append_assoc], fun id hid => ?_⟩⟩
      rw [hrecords' id (List.mem_append_left _ hid), hrecords id hid]

/-- A connection that has been forgotten stays away, and so do its records where they are. -/
theorem Books.released {id : ConnectionId} (hbooks : Books server gone n)
    (hmem : id ∈ n.liveOn server) (h : Turns server ((forget server id).runFrom n).2 n') :
    id ∉ n'.liveOn server ∧ n'.recordsOf id = n.recordsOf id ∧
      n.finishedOn server ++ n.recordsOf id <+: n'.finishedOn server := by
  rcases forget_of_mem hmem with ⟨m, hm, hforgets⟩
  rw [hm] at h
  have hm' := hforgets.advances hmem hbooks
  rcases turns_books h hm'.books with ⟨more, hmore, hrecords⟩
  have hid : id ∈ gone ++ [id] := List.mem_append_right _ List.mem_cons_self
  refine ⟨?_, ?_, ?_⟩
  · exact fun hlive => (List.nodup_append.mp hmore.nodup).2.2 id (List.mem_append_left _ hid) id
      hlive rfl
  · rw [hrecords id hid, hforgets.recordsOf]
  · -- What the server keeps are the records of these connections and of later ones.
    rw [hmore.finished, List.flatMap_append, flatMap_recordsOf_congr hrecords,
      ← hm'.books.finished, hforgets.finished]
    exact List.prefix_append _ _

end

/-! ### What a reader finds -/

/-- What a reader has found who began when the network was `n` and finished when it was `n'`:
    some of the records of every connection it asked, one connection after another, and of
    each of them the first ones, as many as there were in the beginning or more. -/
structure Collated (server : ServerId) (n n' : Network) (found : List DispatchRecord) : Prop where
  blocks : ∃ blocks : List (ConnectionId × List DispatchRecord),
    found = blocks.flatMap Prod.snd ∧ (blocks.map Prod.fst).Nodup ∧
    (∀ b ∈ blocks, n.ownerOf b.1 = some server ∧
      n.recordsOf b.1 <+: b.2 ∧ b.2 <+: n'.recordsOf b.1) ∧
    ∀ id, n.ownerOf id = some server → n.recordsOf id ≠ [] → id ∈ blocks.map Prod.fst
  /-- Every record from before the beginning is found as often as there is one. -/
  complete : (n.recordsOn server).Subperm found
  /-- No record is found more often than there is one in the end. -/
  sound : found.Subperm (n'.recordsOn server)

theorem sublist_flatMap {α β : Type} {l : List α} {f g : α → List β}
    (h : ∀ a ∈ l, (f a).Sublist (g a)) : (l.flatMap f).Sublist (l.flatMap g) := by
  induction l with
  | nil => exact List.Sublist.refl _
  | cons a l ih =>
      rw [List.flatMap_cons, List.flatMap_cons]
      exact (h a List.mem_cons_self).append (ih fun b hb => h b (List.mem_cons_of_mem _ hb))

/-- The records of some connections of a server and those of all its others. -/
theorem recordsOn_perm {n : Network} {server : ServerId} {ids : List ConnectionId}
    (hnodup : ids.Nodup) (howner : ∀ id ∈ ids, n.ownerOf id = some server) :
    (n.recordsOn server).Perm (ids.flatMap n.recordsOf ++
      ((n.acceptedOn server).filter fun id => !decide (id ∈ ids)).flatMap n.recordsOf) := by
  have hids : ((n.acceptedOn server).filter fun id => decide (id ∈ ids)).Perm ids := by
    refine (List.perm_ext_iff_of_nodup ((n.acceptedOn_nodup server).filter _) hnodup).mpr ?_
    intro id
    simp only [List.mem_filter, decide_eq_true_eq, mem_acceptedOn, and_iff_right_iff_imp]
    exact howner id
  have hsplit := List.filter_append_perm (fun id => decide (id ∈ ids)) (n.acceptedOn server)
  rw [← List.flatMap_append]
  exact (hsplit.symm.trans (hids.append_right _)).flatMap_right _

end Network

namespace Reader

open Network

/-- The steps of a reader of one server, and those of other threads in between. -/
inductive Reads (server : ServerId) : Network × Reader → Network × Reader → Prop where
  | turn {n n' : Network} (r : Reader) (h : Turn server n n') : Reads server (n, r) (n', r)
  | ask (n : Network) (r : Reader) : Reads server (n, r) (n, r.next n)

/-- What a reader has found so far who began when the network was `n`: of each connection that
    it asked some first records, as many as there were in the beginning or more. -/
structure Collected (server : ServerId) (asked : List ConnectionId) (n : Network)
    (now : Network × Reader) (blocks : List (ConnectionId × List DispatchRecord)) : Prop where
  turns : Turns server n now.1
  found : now.2.found = blocks.flatMap Prod.snd
  parts : ∀ b ∈ blocks, n.recordsOf b.1 <+: b.2 ∧ b.2 <+: now.1.recordsOf b.1
  order : blocks.map Prod.fst ++ now.2.unread = asked

section

variable {server : ServerId} {asked : List ConnectionId} {n : Network}
  {now next : Network × Reader} {blocks : List (ConnectionId × List DispatchRecord)}

/-- A step of another thread does not take away what has been found, and one of the reader
    finds one connection more. -/
theorem Reads.collected (h : Reads server now next)
    (howner : ∀ id ∈ asked, n.ownerOf id = some server)
    (hcollected : Collected server asked n now blocks) :
    ∃ blocks', Collected server asked n next blocks' := by
  cases h with
  | turn r hturn =>
      refine ⟨blocks, hcollected.turns.tail hturn, hcollected.found, fun b hb => ?_,
        hcollected.order⟩
      rcases hcollected.parts b hb with ⟨hbefore, hafter⟩
      have hasked : b.1 ∈ asked := by
        rw [← hcollected.order]
        exact List.mem_append_left _ (List.mem_map_of_mem hb)
      have howner' := (turns_grow hcollected.turns (howner b.1 hasked)).1
      exact ⟨hbefore, hafter.trans (hturn.grows howner').2⟩
  | ask m r =>
      rcases r with ⟨found, unread⟩
      cases unread with
      | nil => exact ⟨blocks, hcollected⟩
      | cons id rest =>
          have hasked : id ∈ asked := by
            rw [← hcollected.order]
            exact List.mem_append_right _ List.mem_cons_self
          -- The connection has its records still, whether or not it has been forgotten.
          have hgrows := (turns_grow hcollected.turns (howner id hasked)).2
          refine ⟨blocks ++ [(id, m.recordsOf id)], hcollected.turns, ?_, ?_, ?_⟩
          · rw [List.flatMap_append, ← hcollected.found, List.flatMap_singleton]
            rfl
          · exact List.forall_mem_append.mpr ⟨hcollected.parts,
              List.forall_mem_singleton.mpr ⟨hgrows, List.prefix_rfl⟩⟩
          · rw [List.map_append, List.append_assoc, ← hcollected.order]
            rfl

/-- So a reader has found something of every connection asked, whatever comes between. -/
theorem reads_collected (h : Relation.ReflTransGen (Reads server) now next)
    (howner : ∀ id ∈ asked, n.ownerOf id = some server)
    (hcollected : Collected server asked n now blocks) :
    ∃ blocks', Collected server asked n next blocks' := by
  induction h with
  | refl => exact ⟨blocks, hcollected⟩
  | tail _ hstep ih =>
      rcases ih with ⟨blocks', hblocks'⟩
      exact hstep.collected howner hblocks'

/-- The first step finds what connections have that were forgotten before. -/
theorem collected_begin {gone : List ConnectionId} {s : Server}
    (hbooks : Books server gone n) (hs : n.servers[server]? = some s) :
    Collected server (gone ++ n.liveOn server) n (n, begin s)
      (gone.map fun id => (id, n.recordsOf id)) := by
  refine ⟨.refl, ?_, ?_, ?_⟩
  · rw [List.flatMap_map]
    have hfinished := hbooks.finished
    rwa [finishedOn, hs] at hfinished
  · intro b hb
    rcases List.mem_map.mp hb with ⟨id, -, rfl⟩
    exact ⟨List.prefix_rfl, List.prefix_rfl⟩
  · rw [List.map_map, liveOn, hs]
    exact congrArg (· ++ s.live) (List.map_id gone)

end

end Reader

namespace Network

/-- A reader that has asked every connection has found every record from before the beginning
    once, and none twice. -/
theorem Books.collated {n n' : Network} {server : ServerId} {gone : List ConnectionId}
    {s : Server} {r : Reader} (hbooks : Books server gone n) (hs : n.servers[server]? = some s)
    (h : Relation.ReflTransGen (Reader.Reads server) (n, Reader.begin s) (n', r))
    (hend : r.unread = []) : Collated server n n' r.found := by
  rcases Reader.reads_collected h hbooks.owner (Reader.collected_begin hbooks hs) with
    ⟨blocks, hturns, hfound, hparts, horder⟩
  simp only [hend, List.append_nil] at horder
  dsimp only at hfound hparts
  have howner : ∀ b ∈ blocks, n.ownerOf b.1 = some server := fun b hb =>
    hbooks.owner b.1 (horder ▸ List.mem_map_of_mem hb)
  have hnodup : (blocks.map Prod.fst).Nodup := horder ▸ hbooks.nodup
  have hall : ∀ id, n.ownerOf id = some server → n.recordsOf id ≠ [] →
      id ∈ blocks.map Prod.fst := by
    intro id hid hrecords
    rw [horder]
    by_contra hmem
    exact hrecords (hbooks.others id hid hmem)
  refine ⟨⟨blocks, hfound, hnodup, fun b hb => ⟨howner b hb, hparts b hb⟩, hall⟩, ?_, ?_⟩
  · -- Connections that were not asked had no records in the beginning.
    have hperm := recordsOn_perm hnodup (List.forall_mem_map.mpr howner)
    have hrest : ((n.acceptedOn server).filter fun id =>
        !decide (id ∈ blocks.map Prod.fst)).flatMap n.recordsOf = [] := by
      refine List.flatMap_eq_nil_iff.mpr fun id hid => ?_
      simp only [List.mem_filter, mem_acceptedOn, Bool.not_eq_true', decide_eq_false_iff_not] at hid
      by_contra hrecords
      exact hid.2 (hall id hid.1 hrecords)
    rw [hrest, List.append_nil, List.flatMap_map] at hperm
    refine hperm.subperm.trans ?_
    rw [hfound]
    exact (sublist_flatMap fun b hb => (hparts b hb).1.sublist).subperm
  · have hperm := recordsOn_perm hnodup
      (List.forall_mem_map.mpr fun b hb => (turns_grow hturns (howner b hb)).1)
    rw [hfound]
    refine (sublist_flatMap fun b hb => (hparts b hb).2.sublist).subperm.trans ?_
    rw [← List.flatMap_map Prod.fst n'.recordsOf]
    exact (List.sublist_append_left _ _).subperm.trans hperm.symm.subperm

end Network

end MockHost
