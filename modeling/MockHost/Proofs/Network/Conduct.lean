import Mathlib
import MockHost.Proofs.Connection.Conduct
import MockHost.Proofs.Network.Turns

/-!
# What Threads Leave of a Network

A thread of a network is never alone: it wakes other threads, which run in the midst
of what it does. What makes it possible to say anything about one of them is that the
others leave alone what is its own. A thread that serves a connection is the only one
that says what this thread is doing, and it is the only one that has its connection
forgotten, unless it waits for its peer, when anybody may wake it.

This is the condition under which threads conduct themselves. With it go two accounts
that every step keeps. One is the delivery records, for which every step comes down to
turns. The other is the number of messages: a server has counted every message that
its connections have received, but for those for which the hooks failed, and but for
the one that a connection has at hand just now.

## Main definitions

* `Network.Sound`: Connections belong to servers, and those that wait are live.
* `Network.Steady`: Steps that leave alone what belongs to other threads.
* `Network.balance`: The messages counted by a server, less those that it had to count.
* `Network.Conduct`: What one thread may do, and how it changes the balance.
* `Network.Keeps`: Steps that keep a property and the balance.
* `Network.Quiet`: Steps that change nothing that any of this is about.

## Theorems

* `Network.Conduct.trans`: What a thread does in several steps.
* `Network.Quiet.conduct`: A quiet step is allowed to everybody.
* `Network.conduct_setWorker`, `Network.keeps_withRecords`, `Network.keeps_forget`: The steps
  that only the thread of a connection takes.
* `Network.conduct_modifyConnection`, `Network.conduct_countMessage`: The steps that change
  the balance.
* `Network.conduct_enlist`: A connection is accepted.
-/

namespace MockHost

/-- The number of messages for which the hooks failed. -/
def Connection.refusals (c : Connection) : Nat := c.calls.countP Call.isRefusal

/-- The number of messages that the server has to count. -/
def Connection.due (c : Connection) : Int := c.received - c.refusals

/-- What the books of a server are about in it. -/
def Server.book (s : Server) : List ConnectionId × List DispatchRecord × Nat :=
  (s.live, s.finishedDispatches, s.messages)

/-- What the books are about in a connection, what its thread is doing and with what message. -/
def Served.book (x : Served) :
    ServerId × Worker × List DispatchRecord × Int × Option MessageStream :=
  (x.server, x.connection.worker, x.connection.dispatches, x.connection.due,
    x.connection.lastMessage)

namespace Network

/-- What the thread of a connection is doing. -/
def workerOf (n : Network) (id : ConnectionId) : Option Worker :=
  (n.connections[id]?).map fun x => x.connection.worker

/-- The message that a connection has at hand. -/
def messageOf (n : Network) (id : ConnectionId) : Option MessageStream :=
  ((n.connections[id]?).map fun x => x.connection.lastMessage).getD none

/-- Whether the thread of a connection waits for its peer. -/
def Waits (n : Network) (id : ConnectionId) : Prop :=
  ∃ begun, n.workerOf id = some (.waiting begun)

/-- The number of messages of a connection that its server has to count. -/
def dueOf (n : Network) (id : ConnectionId) : Int :=
  ((n.connections[id]?).map fun x => x.connection.due).getD 0

/-- The messages that a server has counted, less those that it had to count. -/
def balance (n : Network) (server : ServerId) : Int :=
  n.messagesOn server - ((n.acceptedOn server).map n.dueOf).sum

/-- Every connection belongs to a server, and if it waits for its peer it is live. -/
structure Sound (n : Network) : Prop where
  known : ∀ {id server}, n.ownerOf id = some server → server < n.servers.size
  waiting : ∀ {id server}, n.ownerOf id = some server → n.Waits id → id ∈ n.liveOn server

/-- A step that leaves alone what belongs to the threads of other connections than `own`,
    unless they wait. -/
structure Steady (own : Option ConnectionId) (n n' : Network) : Prop where
  size : n.servers.size ≤ n'.servers.size
  owner : ∀ {id server}, n.ownerOf id = some server → n'.ownerOf id = some server
  others : ∀ {id server}, n.ownerOf id = some server → own ≠ some id → ¬ n.Waits id →
    n'.workerOf id = n.workerOf id ∧ (id ∈ n'.liveOn server ↔ id ∈ n.liveOn server)
  atHand : ∀ {id server}, n.ownerOf id = some server → own ≠ some id → ¬ n.Waits id →
    n'.messageOf id = n.messageOf id

/-- What the thread of a connection may do, if it is one, and how the balances change. -/
structure Conduct (own : Option ConnectionId) (change : ServerId → Int) (n n' : Network) :
    Prop where
  sound : n'.Sound
  steady : Steady own n n'
  turns : ∀ server, Turns server n n'
  balance : ∀ server, n'.balance server = n.balance server + change server

/-- A step of one thread that keeps a property and all balances. -/
def Keeps (own : Option ConnectionId) (P : Network → Prop) (n n' : Network) : Prop :=
  n.Sound → P n → P n' ∧ Conduct own 0 n n'

/-- A step of any thread, seen by the others. -/
abbrev BooksKept : Network → Network → Prop := Keeps none fun _ => True

/-! ### One step after the other -/

section

variable {own : Option ConnectionId} {change change' : ServerId → Int} {n n' n'' : Network}

theorem Steady.refl (own : Option ConnectionId) (n : Network) : Steady own n n :=
  ⟨Nat.le_refl _, id, fun _ _ _ => ⟨rfl, Iff.rfl⟩, fun _ _ _ => rfl⟩

theorem Steady.trans (h : Steady own n n') (h' : Steady own n' n'') : Steady own n n'' := by
  -- Who does not wait before the first step is left alone by it, and so does not wait before
  -- the second.
  have hwaits' : ∀ {id server}, n.ownerOf id = some server → own ≠ some id → ¬ n.Waits id →
      ¬ n'.Waits id := by
    intro id server howner hown hwaits
    rwa [Waits, (h.others howner hown hwaits).1]
  refine ⟨h.size.trans h'.size, fun howner => h'.owner (h.owner howner), ?_, ?_⟩
  · intro id server howner hown hwaits
    rcases h.others howner hown hwaits with ⟨hworker, hlive⟩
    rcases h'.others (h.owner howner) hown (hwaits' howner hown hwaits) with ⟨hworker', hlive'⟩
    exact ⟨hworker'.trans hworker, hlive'.trans hlive⟩
  · intro id server howner hown hwaits
    rw [h'.atHand (h.owner howner) hown (hwaits' howner hown hwaits),
      h.atHand howner hown hwaits]

/-- What concerns nobody's thread concerns none in particular. -/
theorem Steady.as (h : Steady none n n') (own : Option ConnectionId) : Steady own n n' := by
  have hnone : ∀ id : ConnectionId, none ≠ some id := fun id => (Option.some_ne_none id).symm
  exact ⟨h.size, h.owner, fun howner _ => h.others howner (hnone _),
    fun howner _ => h.atHand howner (hnone _)⟩

/-- What a thread does that was not there before, or waited, concerns no other. -/
theorem Steady.seen {id : ConnectionId} (h : Steady (some id) n n')
    (hid : n.ownerOf id = none ∨ n.Waits id) : Steady none n n' := by
  -- A connection that is there and does not wait is another one.
  have hne : ∀ {i server}, n.ownerOf i = some server → ¬ n.Waits i → some id ≠ some i := by
    intro i server howner hwaits heq
    injection heq with heq
    subst heq
    rcases hid with hnone | hwaiting
    · rw [hnone] at howner
      exact absurd howner.symm (Option.some_ne_none _)
    · exact hwaits hwaiting
  exact ⟨h.size, h.owner, fun howner _ hwaits => h.others howner (hne howner hwaits) hwaits,
    fun howner _ hwaits => h.atHand howner (hne howner hwaits) hwaits⟩

theorem Conduct.trans (h : Conduct own change n n') (h' : Conduct own change' n' n'') :
    Conduct own (change + change') n n'' := by
  refine ⟨h'.sound, h.steady.trans h'.steady, fun server => (h.turns server).trans (h'.turns server),
    fun server => ?_⟩
  rw [h'.balance, h.balance, Pi.add_apply, Int.add_assoc]

/-- A step that leaves the balance as it is may come before any other. -/
theorem Conduct.after (h : Conduct own change n' n'') (h' : Conduct own 0 n n') :
    Conduct own change n n'' := by
  rw [← zero_add change]
  exact h'.trans h

theorem Conduct.before (h : Conduct own change n n') (h' : Conduct own 0 n' n'') :
    Conduct own change n n'' := by
  rw [← add_zero change]
  exact h.trans h'

theorem Conduct.refl (h : n.Sound) : Conduct own 0 n n :=
  ⟨h, Steady.refl own n, fun _ => .refl, fun _ => (Int.add_zero _).symm⟩

/-- What anybody may do a thread may do. -/
theorem Conduct.as (h : Conduct none change n n') (own : Option ConnectionId) :
    Conduct own change n n' :=
  ⟨h.sound, h.steady.as own, h.turns, h.balance⟩

theorem Conduct.seen {id : ConnectionId} (h : Conduct (some id) change n n')
    (hid : n.ownerOf id = none ∨ n.Waits id) : Conduct none change n n' :=
  ⟨h.sound, h.steady.seen hid, h.turns, h.balance⟩

theorem keeps_path (own : Option ConnectionId) (P : Network → Prop) : Act.Path (Keeps own P) where
  refl _ hsound hP := ⟨hP, .refl hsound⟩
  trans := by
    intro n n' n'' h h' hsound hP
    rcases h hsound hP with ⟨hP', hconduct⟩
    rcases h' hconduct.sound hP' with ⟨hP'', hconduct'⟩
    exact ⟨hP'', hconduct'.after hconduct⟩

theorem BooksKept.conduct (h : BooksKept n n') (hsound : n.Sound) : Conduct none 0 n n' :=
  (h hsound True.intro).2

/-- A step of other threads keeps whatever they leave alone. -/
theorem BooksKept.keeps {P : Network → Prop} (h : BooksKept n n') (own : Option ConnectionId)
    (hP : ∀ {m m'}, Conduct none 0 m m' → P m → P m') : Keeps own P n n' := by
  intro hsound hn
  have hconduct := h.conduct hsound
  exact ⟨hP hconduct hn, hconduct.as own⟩

/-- A step that is known where it starts. -/
theorem BooksKept.of_conduct (h : n.Sound → Conduct none 0 n n') : BooksKept n n' :=
  fun hsound _ => ⟨True.intro, h hsound⟩

end

/-! ### Quiet steps -/

/-- A step that changes nothing that is in the books, nor what threads are doing. -/
structure Quiet (n n' : Network) : Prop where
  servers : n'.servers.map Server.book = n.servers.map Server.book
  connections : n'.connections.map Served.book = n.connections.map Served.book

theorem map_modify_of {α β : Type} {f : α → β} {g : α → α} (h : ∀ a, f (g a) = f a)
    (xs : Array α) (i : Nat) : (xs.modify i g).map f = xs.map f := by
  refine Array.ext_getElem? fun j => ?_
  simp only [Array.getElem?_map, Array.getElem?_modify]
  split
  · rw [Option.map_map]
    exact congrArg (Option.map · xs[j]?) (funext h)
  · rfl

section

variable {n n' : Network}

theorem quiet_modifyServer {f : Server → Server} (h : ∀ s, (f s).book = s.book) (id : ServerId) :
    Quiet n { n with servers := n.servers.modify id f } :=
  ⟨map_modify_of h _ _, rfl⟩

theorem quiet_modifyConnection {f : Connection → Connection} (hdue : ∀ c, (f c).due = c.due)
    (hworker : ∀ c, (f c).worker = c.worker) (hdispatches : ∀ c, (f c).dispatches = c.dispatches)
    (hmessage : ∀ c, (f c).lastMessage = c.lastMessage) (id : ConnectionId) :
    Quiet n (modifyConnection id f n) := by
  have hbook : ∀ x : Served, Served.book { x with connection := f x.connection } = x.book := by
    intro x
    simp only [Served.book, hworker, hdispatches, hdue, hmessage]
  exact ⟨rfl, map_modify_of hbook _ _⟩

theorem due_of_modest {f : Connection → Connection} (h : Connection.Modest f) (c : Connection) :
    (f c).due = c.due := by
  rw [Connection.due, Connection.refusals, h.received, h.calls]
  rfl

theorem due_record {call : Call} (h : call.isRefusal = false) (c : Connection) :
    Connection.due { c with calls := c.calls ++ [call] } = c.due := by
  simp only [Connection.due, Connection.refusals, List.countP_append, List.countP_singleton, h,
    Bool.false_eq_true, if_false, Nat.add_zero]

/-- A call adds to the history, but only a refusal is counted. -/
theorem quiet_record {call : Call} (h : call.isRefusal = false) (id : ConnectionId) :
    Quiet n (modifyConnection id (fun c => { c with calls := c.calls ++ [call] }) n) :=
  quiet_modifyConnection (due_record h) (fun _ => rfl) (fun _ => rfl) (fun _ => rfl) id

namespace Quiet

theorem server (h : Quiet n n') (server : ServerId) :
    (n'.servers[server]?).map Server.book = (n.servers[server]?).map Server.book := by
  rw [← Array.getElem?_map, h.servers, Array.getElem?_map]

theorem connection (h : Quiet n n') (id : ConnectionId) :
    (n'.connections[id]?).map Served.book = (n.connections[id]?).map Served.book := by
  rw [← Array.getElem?_map, h.connections, Array.getElem?_map]

theorem map_server (h : Quiet n n') {β : Type} (f : List ConnectionId × List DispatchRecord × Nat → β)
    (server : ServerId) :
    (n'.servers[server]?).map (f ∘ Server.book) = (n.servers[server]?).map (f ∘ Server.book) := by
  rw [← Option.map_map, h.server, Option.map_map]

theorem map_connection (h : Quiet n n') {β : Type}
    (f : ServerId × Worker × List DispatchRecord × Int × Option MessageStream → β)
    (id : ConnectionId) :
    (n'.connections[id]?).map (f ∘ Served.book) = (n.connections[id]?).map (f ∘ Served.book) := by
  rw [← Option.map_map, h.connection, Option.map_map]

theorem liveOn (h : Quiet n n') (server : ServerId) : n'.liveOn server = n.liveOn server :=
  congrArg (·.getD []) (h.map_server (·.1) server)

theorem finishedOn (h : Quiet n n') (server : ServerId) :
    n'.finishedOn server = n.finishedOn server :=
  congrArg (·.getD []) (h.map_server (·.2.1) server)

theorem messagesOn (h : Quiet n n') (server : ServerId) :
    n'.messagesOn server = n.messagesOn server :=
  congrArg (·.getD 0) (h.map_server (·.2.2) server)

theorem ownerOf (h : Quiet n n') (id : ConnectionId) : n'.ownerOf id = n.ownerOf id :=
  h.map_connection (·.1) id

theorem workerOf (h : Quiet n n') (id : ConnectionId) : n'.workerOf id = n.workerOf id :=
  h.map_connection (·.2.1) id

theorem recordsOf (h : Quiet n n') (id : ConnectionId) : n'.recordsOf id = n.recordsOf id :=
  congrArg (·.getD []) (h.map_connection (·.2.2.1) id)

theorem dueOf (h : Quiet n n') (id : ConnectionId) : n'.dueOf id = n.dueOf id :=
  congrArg (·.getD 0) (h.map_connection (·.2.2.2.1) id)

theorem messageOf (h : Quiet n n') (id : ConnectionId) : n'.messageOf id = n.messageOf id :=
  congrArg (·.getD none) (h.map_connection (·.2.2.2.2) id)

theorem acceptedOn (h : Quiet n n') (server : ServerId) :
    n'.acceptedOn server = n.acceptedOn server := by
  have hsize : n'.connections.size = n.connections.size := by
    simpa only [Array.size_map] using congrArg Array.size h.connections
  simp only [Network.acceptedOn, hsize, h.ownerOf]

theorem spares (h : Quiet n n') (server : ServerId) : Spares server n n' :=
  ⟨h.liveOn server, h.finishedOn server, fun id => by rw [h.ownerOf], fun id _ => h.recordsOf id⟩

theorem size (h : Quiet n n') : n'.servers.size = n.servers.size := by
  simpa only [Array.size_map] using congrArg Array.size h.servers

theorem sound (h : Quiet n n') (hsound : n.Sound) : n'.Sound where
  known howner := by
    rw [h.ownerOf] at howner
    rw [h.size]
    exact hsound.known howner
  waiting howner hwaits := by
    rw [h.ownerOf] at howner
    rw [Waits, h.workerOf] at hwaits
    rw [h.liveOn]
    exact hsound.waiting howner hwaits

theorem steady (h : Quiet n n') : Steady none n n' where
  size := Nat.le_of_eq h.size.symm
  owner howner := (h.ownerOf _).trans howner
  others _ _ _ := ⟨h.workerOf _, by rw [h.liveOn]⟩
  atHand _ _ _ := h.messageOf _

/-- A quiet step is allowed to everybody. -/
theorem conduct (h : Quiet n n') (hsound : n.Sound) : Conduct none 0 n n' where
  sound := h.sound hsound
  steady := h.steady
  turns server := .single (.other (h.spares server))
  balance server := by
    rw [Network.balance, h.messagesOn, h.acceptedOn, funext h.dueOf, Pi.zero_apply, Int.add_zero]
    rfl

theorem booksKept (h : Quiet n n') : BooksKept n n' := .of_conduct h.conduct

end Quiet

end

/-! ### The steps of the thread of a connection -/

section

variable {n n' : Network} {id : ConnectionId} {server : ServerId}

/-- The thread of a connection of a server is running. -/
structure Runs (id : ConnectionId) (server : ServerId) (n : Network) : Prop where
  owner : n.ownerOf id = some server
  worker : n.workerOf id = some .running

/-- It is running, and the connection has not been forgotten. -/
structure Serves (id : ConnectionId) (server : ServerId) (n : Network) : Prop extends
    Runs id server n where
  live : id ∈ n.liveOn server

theorem Runs.not_waits (h : Runs id server n) : ¬ n.Waits id := by
  rintro ⟨begun, hbegun⟩
  rw [h.worker] at hbegun
  injection hbegun with hbegun
  exact Worker.noConfusion hbegun

theorem Conduct.runs {change : ServerId → Int} (h : Conduct none change n n')
    (hruns : Runs id server n) : Runs id server n' := by
  have hothers := h.steady.others hruns.owner (Option.some_ne_none id).symm hruns.not_waits
  exact ⟨h.steady.owner hruns.owner, hothers.1.trans hruns.worker⟩

theorem Conduct.serves {change : ServerId → Int} (h : Conduct none change n n')
    (hserves : Serves id server n) : Serves id server n' := by
  have hothers := h.steady.others hserves.owner (Option.some_ne_none id).symm hserves.not_waits
  exact ⟨h.runs hserves.toRuns, hothers.2.mpr hserves.live⟩

/-- Nobody else gives a connection another message while its thread runs. -/
theorem Conduct.atHand {change : ServerId → Int} (h : Conduct none change n n')
    (hruns : Runs id server n) : n'.messageOf id = n.messageOf id :=
  h.steady.atHand hruns.owner (Option.some_ne_none id).symm hruns.not_waits

theorem BooksKept.runs (h : BooksKept n n') : Keeps (some id) (Runs id server) n n' :=
  h.keeps (some id) Conduct.runs

theorem BooksKept.serves (h : BooksKept n n') : Keeps (some id) (Serves id server) n n' :=
  h.keeps (some id) Conduct.serves

theorem workerOf_modifyConnection_of_ne (f : Connection → Connection) {i : ConnectionId}
    (h : id ≠ i) : (modifyConnection id f n).workerOf i = n.workerOf i := by
  simp only [workerOf, modifyConnection, Array.getElem?_modify, if_neg h]

theorem dueOf_modifyConnection_of_ne (f : Connection → Connection) {i : ConnectionId}
    (h : id ≠ i) : (modifyConnection id f n).dueOf i = n.dueOf i := by
  simp only [dueOf, modifyConnection, Array.getElem?_modify, if_neg h]

theorem messageOf_modifyConnection_of_ne (f : Connection → Connection) {i : ConnectionId}
    (h : id ≠ i) : (modifyConnection id f n).messageOf i = n.messageOf i := by
  simp only [messageOf, modifyConnection, Array.getElem?_modify, if_neg h]

theorem workerOf_modifyConnection {f : Connection → Connection} {worker : Worker}
    (hf : ∀ c, (f c).worker = worker) (howner : n.ownerOf id = some server) :
    (modifyConnection id f n).workerOf id = some worker := by
  rcases Option.map_eq_some_iff.mp howner with ⟨x, hx, -⟩
  simp only [workerOf, modifyConnection, Array.getElem?_modify, if_pos, hx, Option.map_some, hf]

theorem messageOf_modifyConnection {f : Connection → Connection} {message : Option MessageStream}
    (hf : ∀ c, (f c).lastMessage = message) (howner : n.ownerOf id = some server) :
    (modifyConnection id f n).messageOf id = message := by
  rcases Option.map_eq_some_iff.mp howner with ⟨x, hx, -⟩
  simp only [messageOf, modifyConnection, Array.getElem?_modify, if_pos, hx, Option.map_some, hf,
    Option.getD_some]

theorem workerOf_modifyConnection_self {f : Connection → Connection}
    (hf : ∀ c, (f c).worker = c.worker) :
    (modifyConnection id f n).workerOf id = n.workerOf id := by
  simp only [workerOf, modifyConnection, Array.getElem?_modify, if_pos, Option.map_map]
  exact congrArg (Option.map · n.connections[id]?) (funext fun x => hf x.connection)

theorem acceptedOn_modifyConnection (f : Connection → Connection) (s : ServerId) :
    (modifyConnection id f n).acceptedOn s = n.acceptedOn s := by
  have hsize : (modifyConnection id f n).connections.size = n.connections.size := Array.size_modify
  simp only [acceptedOn, hsize, ownerOf_modifyConnection]

theorem sum_map_of_ne {ids : List ConnectionId} (hnodup : ids.Nodup) {f g : ConnectionId → Int}
    {d : Int} (hid : g id = f id + d) (hne : ∀ i, id ≠ i → g i = f i) :
    (ids.map g).sum = (ids.map f).sum + if id ∈ ids then d else 0 := by
  induction ids with
  | nil => rfl
  | cons i rest ih =>
      rcases List.nodup_cons.mp hnodup with ⟨hi, hrest⟩
      simp only [List.map_cons, List.sum_cons, ih hrest]
      by_cases heq : id = i
      · -- It is not counted a second time in the rest.
        subst heq
        rw [hid, if_neg hi, if_pos List.mem_cons_self]
        omega
      · have hmem : id ∈ i :: rest ↔ id ∈ rest := by
          simp only [List.mem_cons, heq, false_or]
        simp only [hne i heq, hmem]
        omega

/-- How the balance follows a change of one connection. -/
theorem balance_modifyConnection {f : Connection → Connection} {d : Int}
    (howner : n.ownerOf id = some server) (hf : ∀ c, (f c).due = c.due + d) (s : ServerId) :
    (modifyConnection id f n).balance s = n.balance s - if s = server then d else 0 := by
  have hdue : (modifyConnection id f n).dueOf id = n.dueOf id + d := by
    rcases Option.map_eq_some_iff.mp howner with ⟨x, hx, -⟩
    simp only [dueOf, modifyConnection, Array.getElem?_modify, if_pos, hx, Option.map_some, hf,
      Option.getD_some]
  have hmem : id ∈ n.acceptedOn s ↔ s = server := by
    rw [mem_acceptedOn, howner, Option.some.injEq]
    exact eq_comm
  have hmessages : (modifyConnection id f n).messagesOn s = n.messagesOn s := rfl
  rw [balance, hmessages, acceptedOn_modifyConnection, sum_map_of_ne (n.acceptedOn_nodup s) hdue
    fun i hi => dueOf_modifyConnection_of_ne f hi]
  simp only [hmem, balance]
  omega

/-- Others than its own thread see nothing of a change of one connection. -/
theorem steady_modifyConnection (f : Connection → Connection) :
    Steady (some id) n (modifyConnection id f n) := by
  refine ⟨Nat.le_refl _, fun howner => (ownerOf_modifyConnection f _).trans howner, ?_, ?_⟩
  · intro i s _ hne _
    exact ⟨workerOf_modifyConnection_of_ne f fun hid => hne (congrArg some hid), Iff.rfl⟩
  · intro i s _ hne _
    exact messageOf_modifyConnection_of_ne f fun hid => hne (congrArg some hid)

theorem sound_modifyConnection {f : Connection → Connection} (hsound : n.Sound)
    (hlive : (modifyConnection id f n).Waits id → ∀ s, n.ownerOf id = some s → id ∈ n.liveOn s) :
    (modifyConnection id f n).Sound := by
  refine ⟨fun howner => ?_, fun {i} {s} howner hwaits => ?_⟩
  · rw [ownerOf_modifyConnection] at howner
    exact hsound.known howner
  · rw [ownerOf_modifyConnection] at howner
    by_cases heq : id = i
    · subst heq
      exact hlive hwaits s howner
    · refine hsound.waiting howner ?_
      rwa [Waits, workerOf_modifyConnection_of_ne f heq] at hwaits

theorem spares_modifyConnection {f : Connection → Connection}
    (hf : ∀ c, (f c).dispatches = c.dispatches) (s : ServerId) :
    Spares s n (modifyConnection id f n) := by
  refine ⟨rfl, rfl, fun i => by rw [ownerOf_modifyConnection], fun i _ => ?_⟩
  by_cases heq : id = i
  · subst heq
    simp only [recordsOf, modifyConnection, Array.getElem?_modify, if_pos, Option.map_map]
    exact congrArg (fun g => (Option.map g n.connections[id]?).getD [])
      (funext fun x => hf x.connection)
  · exact recordsOf_modifyConnection_of_ne f heq

/-- Only its own thread, or nobody, says what the thread of a connection is doing. It may wait
    as long as the connection has not been forgotten. -/
theorem conduct_setWorker (worker : Worker) (hsound : n.Sound) (howner : n.ownerOf id = some server)
    (hlive : ∀ begun, worker = .waiting begun → id ∈ n.liveOn server) :
    Conduct (some id) 0 n (modifyConnection id (Connection.withWorker worker) n) := by
  have hworker : ∀ c, (Connection.withWorker worker c).worker = worker := fun _ => rfl
  have hdispatches : ∀ c, (Connection.withWorker worker c).dispatches = c.dispatches :=
    fun _ => rfl
  have hdue : ∀ c, (Connection.withWorker worker c).due = c.due + 0 :=
    fun c => (Int.add_zero _).symm
  refine ⟨sound_modifyConnection hsound ?_, steady_modifyConnection _,
    fun s => .single (.other (spares_modifyConnection hdispatches s)), fun s => ?_⟩
  · rintro ⟨begun, hbegun⟩ s hs
    rw [workerOf_modifyConnection hworker howner, Option.some.injEq] at hbegun
    rw [howner, Option.some.injEq] at hs
    exact hs ▸ hlive begun hbegun
  · rw [balance_modifyConnection howner hdue, ite_self, Int.sub_zero, Pi.zero_apply, Int.add_zero]

theorem runs_setWorker (howner : n.ownerOf id = some server) :
    Runs id server (modifyConnection id (Connection.withWorker .running) n) :=
  ⟨(ownerOf_modifyConnection _ _).trans howner,
    workerOf_modifyConnection (f := Connection.withWorker .running) (fun _ => rfl) howner⟩

/-- A thread goes on running when it changes something else of its connection. -/
theorem Serves.modifyConnection {f : Connection → Connection} (hserves : Serves id server n)
    (hworker : ∀ c, (f c).worker = c.worker) : Serves id server (modifyConnection id f n) where
  owner := (ownerOf_modifyConnection _ _).trans hserves.owner
  worker := (workerOf_modifyConnection_self hworker).trans hserves.worker
  live := hserves.live

theorem Serves.sound_modifyConnection {f : Connection → Connection} (hserves : Serves id server n)
    (hworker : ∀ c, (f c).worker = c.worker) (hsound : n.Sound) :
    (Network.modifyConnection id f n).Sound :=
  Network.sound_modifyConnection hsound fun hwaits =>
    absurd hwaits (hserves.modifyConnection hworker).not_waits

/-- A change of a connection by its own thread that changes what is due. -/
theorem conduct_modifyConnection {f : Connection → Connection} {d : Int}
    (hdue : ∀ c, (f c).due = c.due + d) (hworker : ∀ c, (f c).worker = c.worker)
    (hdispatches : ∀ c, (f c).dispatches = c.dispatches) (hsound : n.Sound)
    (hserves : Serves id server n) :
    Serves id server (modifyConnection id f n) ∧
      Conduct (some id) (fun s => if s = server then -d else 0) n (modifyConnection id f n) := by
  refine ⟨hserves.modifyConnection hworker, hserves.sound_modifyConnection hworker hsound,
    steady_modifyConnection _, fun s => .single (.other (spares_modifyConnection hdispatches s)),
    fun s => ?_⟩
  rw [balance_modifyConnection hserves.owner hdue]
  split
  · omega
  · omega

/-- A live connection adds records, which no other server has to do with. -/
theorem keeps_withRecords (records : List DispatchRecord) :
    Keeps (some id) (Serves id server) n
      (modifyConnection id (Connection.withRecords records) n) := by
  intro hsound hserves
  refine ⟨hserves.modifyConnection fun _ => rfl,
    hserves.sound_modifyConnection (fun _ => rfl) hsound, steady_modifyConnection _, fun s => ?_,
    fun s => ?_⟩
  · by_cases heq : s = server
    · subst heq
      exact .single (.dispatch n records hserves.live)
    · refine .single (.other ⟨rfl, rfl, fun i => by rw [ownerOf_modifyConnection], fun i hi => ?_⟩)
      -- A connection of another server is another connection.
      refine recordsOf_modifyConnection_of_ne _ ?_
      rintro rfl
      rw [hserves.owner, Option.some.injEq] at hi
      exact heq hi.symm
  · have hdue : ∀ c : Connection, (Connection.withRecords records c).due = c.due + 0 :=
      fun c => (Int.add_zero _).symm
    rw [balance_modifyConnection hserves.owner hdue, ite_self, Int.sub_zero, Pi.zero_apply,
      Int.add_zero]

/-! ### The end of a connection, and its beginning -/

theorem Forgets.workerOf (h : Forgets server id n n') (i : ConnectionId) :
    n'.workerOf i = n.workerOf i := by
  rw [Network.workerOf, h.connections]
  rfl

theorem Forgets.messageOf (h : Forgets server id n n') (i : ConnectionId) :
    n'.messageOf i = n.messageOf i := by
  rw [Network.messageOf, h.connections]
  rfl

theorem Forgets.balance (h : Forgets server id n n') (s : ServerId) :
    n'.balance s = n.balance s := by
  have hdue : n'.dueOf = n.dueOf := by
    funext i
    rw [dueOf, h.connections]
    rfl
  have haccepted : n'.acceptedOn s = n.acceptedOn s := by
    simp only [acceptedOn, h.connections, h.ownerOf]
  have hmessages : n'.messagesOn s = n.messagesOn s := by
    by_cases hs : server = s
    · subst hs
      exact h.messages
    · rw [messagesOn, h.others s hs]
      rfl
  rw [Network.balance, hdue, haccepted, hmessages]
  rfl

/-- Only the connection itself stops being live, and its thread does not wait. -/
theorem Forgets.mem_liveOn (h : Forgets server id n n') {i : ConnectionId} (hne : i ≠ id)
    (s : ServerId) : i ∈ n'.liveOn s ↔ i ∈ n.liveOn s := by
  by_cases hs : server = s
  · subst hs
    rw [h.live]
    exact List.mem_erase_of_ne hne
  · rw [liveOn, h.others s hs]
    rfl

/-- The connection that is forgotten does not wait, since its thread is running. -/
theorem Forgets.sound (h : Forgets server id n n') (hsound : n.Sound) (hruns : Runs id server n) :
    n'.Sound where
  known howner := by
    rw [h.ownerOf] at howner
    rw [h.size]
    exact hsound.known howner
  waiting {i s} howner hwaits := by
    rw [h.ownerOf] at howner
    rw [Waits, h.workerOf] at hwaits
    have hne : i ≠ id := by
      rintro rfl
      exact hruns.not_waits hwaits
    exact (h.mem_liveOn hne s).mpr (hsound.waiting howner hwaits)

theorem Forgets.steady (h : Forgets server id n n') : Steady (some id) n n' where
  size := Nat.le_of_eq h.size.symm
  owner howner := (h.ownerOf _).trans howner
  others {i s} _ hne _ :=
    ⟨h.workerOf i, h.mem_liveOn (fun hi => hne (congrArg some hi.symm)) s⟩
  atHand _ _ _ := h.messageOf _

theorem Forgets.conduct (h : Forgets server id n n') (hsound : n.Sound)
    (hruns : Runs id server n) (hturn : Turn server n n') : Conduct (some id) 0 n n' where
  sound := h.sound hsound hruns
  steady := h.steady
  turns s := by
    by_cases hs : server = s
    · subst hs
      exact .single hturn
    · refine .single (.other ⟨?_, ?_, fun i => by rw [h.ownerOf], fun i _ => h.recordsOf i⟩)
      · rw [liveOn, h.others s hs]
        rfl
      · rw [finishedOn, h.others s hs]
        rfl
  balance s := by
    rw [h.balance, Pi.zero_apply, Int.add_zero]

/-- A connection whose thread is at its end is forgotten. -/
theorem keeps_forget : Keeps (some id) (Runs id server) n ((forget server id).runFrom n).2 := by
  intro hsound hruns
  by_cases hmem : id ∈ n.liveOn server
  · have hturn : Turn server n ((forget server id).runFrom n).2 := .release n id
    rcases forget_of_mem hmem with ⟨n', hn', hforgets⟩
    rw [hn'] at hturn ⊢
    exact ⟨⟨(hforgets.ownerOf id).trans hruns.owner, (hforgets.workerOf id).trans hruns.worker⟩,
      hforgets.conduct hsound hruns hturn⟩
  · rw [forget_of_notMem hmem]
    exact ⟨hruns, .refl hsound⟩

theorem acceptedOn_enlist (link : LinkId) (c : Connection) (s : ServerId) :
    (n.enlist server link c).acceptedOn s =
      n.acceptedOn s ++ if server = s then [n.connections.size] else [] := by
  have hsize : (n.enlist server link c).connections.size = n.connections.size + 1 :=
    Array.size_push _
  have hold : ∀ i ∈ List.range n.connections.size,
      decide ((n.enlist server link c).ownerOf i = some s) = decide (n.ownerOf i = some s) := by
    intro i hi
    rw [ownerOf_enlist, if_neg (Nat.ne_of_lt (List.mem_range.mp hi))]
  rw [acceptedOn, hsize, List.range_succ, List.filter_append, List.filter_congr hold,
    List.filter_singleton, ownerOf_enlist, if_pos rfl]
  by_cases hs : server = s
  · rw [decide_eq_true (congrArg some hs), if_pos hs]
    rfl
  · rw [decide_eq_false fun heq => hs (Option.some.inj heq), if_neg hs]
    rfl

theorem workerOf_enlist (link : LinkId) (c : Connection) (i : ConnectionId) :
    (n.enlist server link c).workerOf i =
      if i = n.connections.size then some c.worker else n.workerOf i := by
  simp only [workerOf, enlist, Array.getElem?_push]
  split
  · rfl
  · rfl

theorem messageOf_enlist (link : LinkId) (c : Connection) {i : ConnectionId}
    (hi : i ≠ n.connections.size) : (n.enlist server link c).messageOf i = n.messageOf i := by
  simp only [messageOf, enlist, Array.getElem?_push, if_neg hi]

theorem dueOf_enlist (link : LinkId) {c : Connection} (h : c.due = 0) (i : ConnectionId) :
    (n.enlist server link c).dueOf i = n.dueOf i := by
  simp only [dueOf, enlist, Array.getElem?_push]
  split
  · rename_i hi
    rw [hi, Array.getElem?_size]
    exact h
  · rfl

theorem messagesOn_enlist (link : LinkId) (c : Connection) (s : ServerId) :
    (n.enlist server link c).messagesOn s = n.messagesOn s := by
  simp only [messagesOn, enlist, Array.getElem?_modify]
  split
  · rw [Option.map_map]
    refine congrArg (fun g => (Option.map g n.servers[s]?).getD 0) (funext fun x => ?_)
    simp only [Function.comp_apply]
    split
    · rfl
    · rfl
  · rfl

theorem mem_liveOn_enlist (link : LinkId) (c : Connection) {i : ConnectionId}
    (hi : i ≠ n.connections.size) (s : ServerId) :
    i ∈ (n.enlist server link c).liveOn s ↔ i ∈ n.liveOn s := by
  by_cases hs : server = s
  · subst hs
    rw [liveOn_enlist, List.mem_append]
    split
    · rw [List.mem_singleton]
      exact or_iff_left hi
    · exact or_iff_left List.not_mem_nil
  · rw [liveOn_enlist_of_ne link c hs]

theorem balance_enlist (link : LinkId) {c : Connection} (hdue : c.due = 0) (s : ServerId) :
    (n.enlist server link c).balance s = n.balance s := by
  have hzero : n.dueOf n.connections.size = 0 := by
    rw [dueOf, Array.getElem?_size]
    rfl
  rw [balance, messagesOn_enlist, funext (dueOf_enlist link hdue), acceptedOn_enlist,
    List.map_append, List.sum_append]
  split
  · rw [List.map_singleton, List.sum_singleton, hzero, Int.add_zero]
    rfl
  · rw [List.map_nil, List.sum_nil, Int.add_zero]
    rfl

/-- The thread of the new connection has not been started, so it does not wait. -/
theorem sound_enlist (link : LinkId) {c : Connection} (hworker : c.worker = .notStarted)
    (hserver : server < n.servers.size) (hsound : n.Sound) : (n.enlist server link c).Sound where
  known howner := by
    have hsize : (n.enlist server link c).servers.size = n.servers.size := Array.size_modify
    rw [ownerOf_enlist] at howner
    rw [hsize]
    split at howner
    · injection howner with howner
      exact howner ▸ hserver
    · exact hsound.known howner
  waiting {i s} howner hwaits := by
    rw [ownerOf_enlist] at howner
    rw [Waits, workerOf_enlist] at hwaits
    split at howner
    · rename_i hi
      rw [if_pos hi, hworker] at hwaits
      rcases hwaits with ⟨begun, hbegun⟩
      injection hbegun with hbegun
      exact Worker.noConfusion hbegun
    · rename_i hi
      rw [if_neg hi] at hwaits
      exact (mem_liveOn_enlist link c hi s).mpr (hsound.waiting howner hwaits)

/-- Connections that are there already are other ones than the new one. -/
theorem steady_enlist (link : LinkId) (c : Connection) :
    Steady none n (n.enlist server link c) := by
  have hold : ∀ {i s}, n.ownerOf i = some s → i ≠ n.connections.size := fun howner =>
    Nat.ne_of_lt (ownerOf_lt howner)
  have hsize : (n.enlist server link c).servers.size = n.servers.size := Array.size_modify
  refine ⟨Nat.le_of_eq hsize.symm, fun howner => ?_, fun howner _ _ => ⟨?_, ?_⟩,
    fun howner _ _ => messageOf_enlist link c (hold howner)⟩
  · rw [ownerOf_enlist, if_neg (hold howner)]
    exact howner
  · rw [workerOf_enlist, if_neg (hold howner)]
  · exact mem_liveOn_enlist link c (hold howner) _

/-- A connection that has just been accepted is nobody's own yet, and nothing is due for it. -/
theorem conduct_enlist (link : LinkId) {c : Connection} (hworker : c.worker = .notStarted)
    (hdispatches : c.dispatches = []) (hdue : c.due = 0) (hserver : server < n.servers.size)
    (hsound : n.Sound) : Conduct none 0 n (n.enlist server link c) where
  sound := sound_enlist link hworker hserver hsound
  steady := steady_enlist link c
  turns s := by
    by_cases hs : server = s
    · subst hs
      exact .single (.accept n link hdispatches)
    · refine .single (.other ⟨liveOn_enlist_of_ne link c hs, finishedOn_enlist link c s,
        fun i => ?_, fun i _ => recordsOf_enlist link hdispatches i⟩)
      rw [ownerOf_enlist]
      split
      · rename_i hi
        rw [hi, Option.some.injEq]
        exact ⟨fun heq => absurd heq hs, fun howner => absurd (ownerOf_lt howner) (Nat.lt_irrefl _)⟩
      · rfl
  balance s := by
    rw [balance_enlist link hdue, Pi.zero_apply, Int.add_zero]

/-- A step that only concerns servers, and of these only what they have counted. -/
theorem conduct_of_servers {change : ServerId → Int} (hconnections : n'.connections = n.connections)
    (hsize : n.servers.size ≤ n'.servers.size) (hlive : ∀ s, n'.liveOn s = n.liveOn s)
    (hfinished : ∀ s, n'.finishedOn s = n.finishedOn s)
    (hmessages : ∀ s, (n'.messagesOn s : Int) = n.messagesOn s + change s) (hsound : n.Sound) :
    Conduct none change n n' := by
  have howner : ∀ i, n'.ownerOf i = n.ownerOf i := fun i => by
    rw [ownerOf, hconnections]
    rfl
  have hworker : ∀ i, n'.workerOf i = n.workerOf i := fun i => by
    rw [workerOf, hconnections]
    rfl
  have hmessage : ∀ i, n'.messageOf i = n.messageOf i := fun i => by
    rw [messageOf, hconnections]
    rfl
  have hdue : n'.dueOf = n.dueOf := by
    funext i
    rw [dueOf, hconnections]
    rfl
  have hsound' : n'.Sound := by
    refine ⟨fun h => ?_, fun h hwaits => ?_⟩
    · rw [howner] at h
      exact (hsound.known h).trans_le hsize
    · rw [howner] at h
      rw [Waits, hworker] at hwaits
      rw [hlive]
      exact hsound.waiting h hwaits
  have hsteady : Steady none n n' :=
    ⟨hsize, fun h => (howner _).trans h, fun _ _ _ => ⟨hworker _, by rw [hlive]⟩,
      fun _ _ _ => hmessage _⟩
  refine ⟨hsound', hsteady, fun s => .single (.other ?_), fun s => ?_⟩
  · refine ⟨hlive s, hfinished s, fun i => by rw [howner], fun i _ => ?_⟩
    rw [recordsOf, hconnections]
    rfl
  · have haccepted : n'.acceptedOn s = n.acceptedOn s := by
      simp only [acceptedOn, hconnections, howner]
    rw [balance, balance, hdue, haccepted, hmessages]
    omega

/-- A server counts the message that a connection has at hand. -/
theorem conduct_counting (c : Connection) (hserver : server < n.servers.size) (hsound : n.Sound) :
    Conduct none (fun s => if s = server then 1 else 0) n
      { n with servers := n.servers.modify server (Server.counting c) } := by
  have hfield : ∀ {β : Type} (f : Server → β), (∀ s, f (s.counting c) = f s) → ∀ s : ServerId,
      ((n.servers.modify server (Server.counting c))[s]?).map f = (n.servers[s]?).map f := by
    intro β f hf s
    rw [← Array.getElem?_map, ← Array.getElem?_map, map_modify_of hf]
  refine conduct_of_servers rfl (Nat.le_of_eq Array.size_modify.symm)
    (fun s => congrArg (·.getD []) (hfield Server.live (fun _ => rfl) s))
    (fun s => congrArg (·.getD []) (hfield Server.finishedDispatches (fun _ => rfl) s))
    (fun s => ?_) hsound
  simp only [messagesOn, Array.getElem?_modify, @eq_comm _ s server]
  split
  · rename_i hs
    subst hs
    rw [Array.getElem?_eq_getElem hserver]
    rfl
  · exact (Int.add_zero _).symm

/-- A new server keeps no records, and has neither connections nor messages. -/
theorem conduct_addServer {s : Server} (hlive : s.live = []) (hfinished : s.finishedDispatches = [])
    (hmessages : s.messages = 0) (hsound : n.Sound) :
    Conduct none 0 n { n with servers := n.servers.push s } := by
  have hsize : n.servers.size ≤ (n.servers.push s).size := by
    rw [Array.size_push]
    exact Nat.le_succ _
  refine conduct_of_servers rfl hsize (fun i => ?_) (fun i => ?_) (fun i => ?_) hsound
  · simp only [liveOn, Array.getElem?_push]
    split
    · rename_i hi
      rw [hi, Array.getElem?_size]
      exact hlive
    · rfl
  · simp only [finishedOn, Array.getElem?_push]
    split
    · rename_i hi
      rw [hi, Array.getElem?_size]
      exact hfinished
    · rfl
  · rw [Pi.zero_apply, Int.add_zero]
    simp only [messagesOn, Array.getElem?_push]
    split
    · rename_i hi
      rw [hi, Array.getElem?_size]
      exact congrArg _ hmessages
    · rfl

theorem countMessage_ok (server : ServerId) (id : ConnectionId) (n : Network) :
    ∃ n', (countMessage server id).runFrom n = (.ok (), n') := by
  rw [countMessage, Act.runFrom_bind_ok (Act.runFrom_get n)]
  split
  · exact ⟨_, rfl⟩
  · exact ⟨_, rfl⟩

/-- A server counts the message that one of its connections has at hand. -/
theorem conduct_countMessage (hsound : n.Sound) (howner : n.ownerOf id = some server) :
    ∃ n', (countMessage server id).runFrom n = (.ok (), n') ∧
      Conduct none (fun s => if s = server then 1 else 0) n n' := by
  rcases Option.map_eq_some_iff.mp howner with ⟨x, hx, -⟩
  rw [countMessage, Act.runFrom_bind_ok (Act.runFrom_get n)]
  simp only [hx]
  exact ⟨_, rfl, conduct_counting x.connection (hsound.known howner) hsound⟩

end

end Network

end MockHost
