import MockHost.Network.Operation
import MockHost.Proofs.Network.Threads

/-!
# What Operations Leave of a Network

Whoever acts from outside does so through the threads of the network, so operations
keep the books as well. A network starts without servers, and from there any number
of operations, whether they fail or not, is a sequence of turns for every server, at
the end of which all balances are what they were in the beginning: nothing.

## Theorems

* `Network.operate_follows`, `Network.operate_moves`, `Network.operateAll_moves`: Operations
  follow what all threads follow.
* `Network.operateAll_succeeds`: They do not fail together.
* `Network.operate_booksKept`, `Network.operateAll_booksKept`: They keep the books.
* `Network.operateAll_conduct`: What operations make of a network without servers.
-/

namespace MockHost

open Act (Moves Succeeds)

namespace Network

section

variable {sch : Scheduler} {R : Network → Network → Prop}

/-- What has to be shown of a single operation besides: that a server is created, started and
    closed, and that failures to accept clients and to shut down are to happen. -/
theorem operate_follows (h : sch.Follows R)
    (hcreate : ∀ settings port host behavior registry hooks dispatcher readTimeout, Moves R (addServer
      (Server.create settings port host behavior registry hooks dispatcher readTimeout)))
    (hstart : ∀ server, Moves R (startServer sch server))
    (hclose : ∀ server, Moves R (closeServer sch server)) {o : Operation}
    (haccept : ∀ port f, o = .failAccept port f →
      Moves R (modify fun n => { n with acceptFaults := n.acceptFaults ++ [(port, f)] }))
    (hshutdown : ∀ port f, o = .failShutdown port f →
      Moves R (modify fun n => { n with shutdownFaults := n.shutdownFaults ++ [(port, f)] })) :
    Moves R (operate sch o) := by
  cases o with
  | create port host behavior registry hooks dispatcher readTimeout =>
      refine Moves.bind h.path (Moves.get h.path) fun n => ?_
      exact Moves.bind h.path (hcreate _ _ _ _ _ _ _ _) fun _ => Moves.pure h.path _
  | start server => exact hstart server
  | close server => exact hclose server
  | configure server changes =>
      exact Moves.bind h.path (h.configure_moves server changes) fun _ => Moves.pure h.path _
  | closeConnection id => exact h.closeConnection_moves id
  | connect wake port =>
      exact Moves.bind h.path (h.connect_moves wake port) fun _ => Moves.pure h.path _
  | send link data => exact h.send_moves .client link data
  | read link size => exact h.withLink_moves link fun _ => h.setLink_moves link _
  | finish link => exact h.finish_moves link
  | hangUp link => exact h.close_moves .client link
  | inject link receptions => exact h.withLink_moves link fun _ => h.updateLink_moves link _
  | busy link => exact h.withLink_moves link fun _ => h.setLink_moves link _
  | failBind port f => exact h.change_moves (by intro n; exact .of_eq rfl rfl rfl rfl rfl)
  | failShutdown port f => exact hshutdown port f rfl
  | failAccept port f =>
      refine Moves.bind h.path (haccept port f rfl) fun _ => ?_
      refine Moves.bind h.path (Moves.get h.path) fun n => ?_
      split
      · exact h.wakeAcceptor _
      · exact Moves.pure h.path _

/-- Servers may be started and closed, and shutting down may fail, where the relation admits
    that; it is the rest that has to be shown. -/
theorem operate_moves (h : sch.Admits R)
    (hcreate : ∀ settings port host behavior registry hooks dispatcher readTimeout, Moves R (addServer
      (Server.create settings port host behavior registry hooks dispatcher readTimeout)))
    {o : Operation}
    (hfail : ∀ port f, o = .failAccept port f →
      Moves R (modify fun n => { n with acceptFaults := n.acceptFaults ++ [(port, f)] })) :
    Moves R (operate sch o) := by
  refine operate_follows h.toFollows hcreate h.startServer_moves h.closeServer_moves hfail ?_
  rintro port f -
  exact h.modify_moves (by intro n; exact .of_eq rfl rfl rfl rfl)

/-- Any number of operations, of which each does what one may do. -/
theorem operateAll_moves (path : Act.Path R) {ops : List Operation}
    (hops : ∀ o ∈ ops, Moves R (operate sch o)) : Moves R (operateAll sch ops) := by
  induction ops with
  | nil => exact Moves.pure path _
  | cons o rest ih =>
      refine Moves.bind path (hops o List.mem_cons_self).attempt fun _ => ?_
      exact ih fun o' ho' => hops o' (List.mem_cons_of_mem _ ho')

/-- Whatever comes of each, all of them are done. -/
theorem operateAll_succeeds (ops : List Operation) : Succeeds (operateAll sch ops) := by
  induction ops with
  | nil => exact Succeeds.pure _
  | cons o rest ih => exact Succeeds.bind (Succeeds.attempt _) fun _ => ih

/-- A new server keeps no records, and has neither connections nor messages. -/
theorem addServer_booksKept {s : Server} (hlive : s.live = [])
    (hfinished : s.finishedDispatches = [])
    (hmessages : s.messages = 0) : Moves BooksKept (addServer s) := by
  refine Moves.bind booksKept_path (Moves.get booksKept_path) fun n => ?_
  have hpush : Moves BooksKept (modify fun n : Network => { n with servers := n.servers.push s }) :=
    fun n => .of_conduct (conduct_addServer hlive hfinished hmessages)
  exact Moves.bind booksKept_path hpush fun _ => Moves.pure booksKept_path _

theorem operate_booksKept (h : sch.KeepsBooks) (o : Operation) :
    Moves BooksKept (operate sch o) := by
  refine operate_moves h (by intros; exact addServer_booksKept rfl rfl rfl) ?_
  rintro port f - n
  exact Quiet.booksKept ⟨rfl, rfl⟩

theorem operateAll_booksKept (h : sch.KeepsBooks) (ops : List Operation) :
    Moves BooksKept (operateAll sch ops) :=
  operateAll_moves booksKept_path fun o _ => operate_booksKept h o

end

/-- A network without servers, as it is in the beginning. -/
theorem sound_empty (settings : Settings) : Sound { settings } where
  known h := absurd h (by simp only [ownerOf, List.getElem?_toArray, List.getElem?_nil,
    Option.map_none, reduceCtorEq, not_false_eq_true])
  waiting h := absurd h (by simp only [ownerOf, List.getElem?_toArray, List.getElem?_nil,
    Option.map_none, reduceCtorEq, not_false_eq_true])

theorem balance_empty (settings : Settings) (server : ServerId) :
    balance { settings } server = 0 := rfl

/-- Any number of operations on a network, from the beginning. -/
theorem operateAll_conduct (settings : Settings) (k : Nat) (ops : List Operation) :
    Conduct none 0 { settings } ((operateAll (.ofPatience k) ops).runFrom { settings }).2 :=
  (operateAll_booksKept (Scheduler.keepsBooks_ofPatience k) ops _).conduct (sound_empty settings)

end Network

end MockHost
