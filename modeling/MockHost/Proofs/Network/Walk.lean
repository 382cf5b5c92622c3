import MockHost.Proofs.Dispatch.Trace
import MockHost.Proofs.Network.Conduct

/-!
# What Everything in a Network Consists Of

Whoever wants to know something of all that may happen in a network has to look at
every operation on sockets, at everything that the hooks of a connection may do, and
at all that is done with a server. Most of it changes nothing that matters: links,
behaviours, failures that are still to happen, the trace. So it is looked at once, for
a relation on networks that is left open and has to admit a few things only.

What it has to admit are the still steps, which leave alone whose connections there
are and how far their threads and those of the servers have come, and three steps that
are not still: a connection loses its socket, a server is told to stop, a server begins
to listen. As long as no server is started or closed less will do: all that happens to
sockets and connections consists of steps that are slight, which are still and besides
leave servers open or closed as they are. So this is looked at first, and also serves a
relation that is about nothing but how far servers have come.

That threads which are woken follow the relation is assumed here, and what remains to be
shown for the assumption to be discharged is that the two kinds of thread follow it when
the threads that they wake do.

## Main definitions

* `Network.Still`: Steps that change nothing of threads, books and sockets.
* `Network.Slight`: Still steps that change nothing of how far servers have come.
* `Network.Passable`, `Network.Admissible`: What a relation has to admit.
* `Scheduler.Follows`, `Scheduler.Admits`: A relation that all threads follow which are woken.

## Theorems

* `Scheduler.Follows.transport`: Sockets of clients.
* `Scheduler.Follows.calling`: Closing a connection and its hooks.
* `Scheduler.Admits.closeServer_moves`, `Scheduler.Admits.startServer_moves`: Servers.
* `Network.Admissible.ofPatience`: What remains to be shown of the two kinds of thread.
-/

namespace MockHost

open Act (Moves)

/-- What is known of a server besides its books: the thread that accepts clients, and whether
    it is to stop. -/
def Server.stand (s : Server) :
    (List ConnectionId × List DispatchRecord × Nat) × Acceptor × Bool × Port :=
  (s.book, s.acceptor, s.stopping, s.port)

/-- How far a server has come: whether it has been started and closed, whether it listens and on
    which port, and whether somebody is closing it. -/
def Server.phase (s : Server) : ServerStatus × Bool × Port × Bool :=
  (s.status, s.listener.isSome, s.port, s.closeUnderWay)

/-- What is known of a connection besides its books: its link, and whether it has its socket. -/
def Served.stand (x : Served) :
    (ServerId × Worker × List DispatchRecord × Int × Option MessageStream) × LinkId × Bool :=
  (x.book, x.link, x.connection.hasSocket)

namespace Network

/-- A step that changes nothing of threads, books and sockets. Failures to accept clients may
    have happened, and the trace may have grown. -/
structure Still (n n' : Network) : Prop where
  servers : n'.servers.map Server.stand = n.servers.map Server.stand
  connections : n'.connections.map Served.stand = n.connections.map Served.stand
  faults : n'.acceptFaults ⊆ n.acceptFaults
  trace : n.trace.toList <+: n'.trace.toList

/-- A still step that leaves servers open or closed as they are. -/
structure Slight (n n' : Network) : Prop extends Still n n' where
  phases : n'.servers.map Server.phase = n.servers.map Server.phase
  shutdownFaults : n'.shutdownFaults = n.shutdownFaults

/-- What is changed in one place keeps its image if it keeps it there. -/
theorem map_modify_at {α β : Type} {f : α → β} {g : α → α} {xs : Array α} {i : Nat}
    (h : ∀ a, xs[i]? = some a → f (g a) = f a) : (xs.modify i g).map f = xs.map f := by
  refine Array.ext_getElem? fun j => ?_
  simp only [Array.getElem?_map, Array.getElem?_modify]
  split
  · rename_i hij
    subst hij
    cases hx : xs[i]? with
    | none => rfl
    | some a => exact congrArg some (h a hx)
  · rfl

section

variable {n n' : Network}

/-- A step that changes neither servers nor connections, nor failures or the trace. -/
theorem Still.of_eq (hservers : n'.servers = n.servers)
    (hconnections : n'.connections = n.connections) (hfaults : n'.acceptFaults = n.acceptFaults)
    (htrace : n'.trace = n.trace) : Still n n' where
  servers := congrArg (Array.map Server.stand) hservers
  connections := congrArg (Array.map Served.stand) hconnections
  faults := hfaults ▸ List.Subset.refl _
  trace := htrace ▸ List.prefix_refl _

theorem Slight.of_eq (hservers : n'.servers = n.servers)
    (hconnections : n'.connections = n.connections) (hfaults : n'.acceptFaults = n.acceptFaults)
    (htrace : n'.trace = n.trace) (hshutdown : n'.shutdownFaults = n.shutdownFaults) :
    Slight n n' where
  toStill := .of_eq hservers hconnections hfaults htrace
  phases := congrArg (Array.map Server.phase) hservers
  shutdownFaults := hshutdown

theorem slight_note (o : Occurrence) : Slight n { n with trace := n.trace.push o } where
  servers := rfl
  connections := rfl
  faults := List.Subset.refl _
  trace := ⟨[o], (Array.toList_push).symm⟩
  phases := rfl
  shutdownFaults := rfl

theorem still_modifyServer {f : Server → Server} (h : ∀ s, (f s).stand = s.stand) (id : ServerId) :
    Still n { n with servers := n.servers.modify id f } where
  servers := map_modify_of h _ _
  connections := rfl
  faults := List.Subset.refl _
  trace := List.prefix_refl _

theorem slight_modifyServer {f : Server → Server} (hstand : ∀ s, (f s).stand = s.stand)
    {id : ServerId} (hphase : ∀ s, n.servers[id]? = some s → (f s).phase = s.phase) :
    Slight n { n with servers := n.servers.modify id f } where
  toStill := still_modifyServer hstand id
  phases := map_modify_at hphase
  shutdownFaults := rfl

theorem slight_modifyConnection {f : Connection → Connection}
    (h : ∀ x : Served, Served.stand { x with connection := f x.connection } = x.stand)
    (id : ConnectionId) : Slight n (modifyConnection id f n) where
  servers := rfl
  connections := map_modify_of h _ _
  faults := List.Subset.refl _
  trace := List.prefix_refl _
  phases := rfl
  shutdownFaults := rfl

theorem slight_modest {f : Connection → Connection} (h : Connection.Modest f) (id : ConnectionId) :
    Slight n (modifyConnection id f n) := by
  refine slight_modifyConnection (fun x => ?_) id
  simp only [Served.stand, Served.book, h.worker, h.dispatches, due_of_modest h, h.lastMessage,
    h.hasSocket]

/-- A call adds to the history, but only a refusal is counted. -/
theorem slight_record {call : Call} (h : call.isRefusal = false) (id : ConnectionId) :
    Slight n (modifyConnection id (fun c => { c with calls := c.calls ++ [call] }) n) := by
  refine slight_modifyConnection (fun x => ?_) id
  simp only [Served.stand, Served.book, due_record h]

theorem Still.server (h : Still n n') {id : ServerId} {s' : Server}
    (hs' : n'.servers[id]? = some s') : ∃ s, n.servers[id]? = some s ∧ s.stand = s'.stand := by
  have hmap := congrArg (·[id]?) h.servers
  simp only [Array.getElem?_map, hs', Option.map_some] at hmap
  exact Option.map_eq_some_iff.mp hmap.symm

/-- A still step is quiet. -/
theorem Still.quiet (h : Still n n') : Quiet n n' where
  servers := by
    have hmap := congrArg (Array.map Prod.fst) h.servers
    rwa [Array.map_map, Array.map_map] at hmap
  connections := by
    have hmap := congrArg (Array.map Prod.fst) h.connections
    rwa [Array.map_map, Array.map_map] at hmap

/-- A failure that is taken was among those for its port, and the others stay. -/
theorem takeFault_perm {port : Port} {faults rest : PortFaults} {f : Failure}
    (h : takeFault port faults = some (f, rest)) : faults.Perm ((port, f) :: rest) := by
  induction faults generalizing rest with
  | nil => injection h
  | cons x faults ih =>
      rcases x with ⟨p, g⟩
      rw [takeFault] at h
      split at h
      · rename_i hport
        injection h with h
        injection h with hf hrest
        rw [hport, hf, hrest]
      · -- A failure for another port is passed over.
        rcases Option.map_eq_some_iff.mp h with ⟨⟨g', rest'⟩, hrest', heq⟩
        injection heq with hf hrest
        subst hf
        rw [← hrest]
        exact ((ih hrest').cons (p, g)).trans (.swap _ _ _)

/-- A wait for a client takes a client or a failure that was to happen. -/
theorem nextKnock_slight (server : ServerId) (n : Network) :
    Slight n ((nextKnock server).runFrom n).2 := by
  have hrefl : Slight n n := .of_eq rfl rfl rfl rfl rfl
  rw [nextKnock, withServer, Act.runFrom_bind_ok (Act.runFrom_get n)]
  split
  · rename_i s hs
    rw [Act.runFrom_bind_ok (Act.runFrom_get n)]
    split
    · rename_i f rest hfault
      rw [Act.runFrom_bind_ok (Act.runFrom_modify _ n)]
      refine ⟨⟨rfl, rfl, fun x hx => ?_, List.prefix_refl _⟩, rfl, rfl⟩
      exact (takeFault_perm hfault).symm.subset (List.mem_cons_of_mem _ hx)
    · split
      · exact hrefl
      · rename_i link rest shut hlistener
        rw [modifyServer, Act.runFrom_bind_ok (Act.runFrom_modify _ n)]
        refine slight_modifyServer (by intro s; rfl) fun s' hs' => ?_
        -- It listened before as well, for a client was waiting.
        cases hs.symm.trans hs'
        rw [Server.phase, Server.phase, hlistener]
        rfl
      · exact hrefl
      · exact hrefl
  · exact hrefl

end

/-! ### What a relation has to admit -/

/-- What a relation on networks has to admit for all that happens to sockets and connections to
    follow it. -/
structure Passable (R : Network → Network → Prop) : Prop where
  path : Act.Path R
  slight : ∀ {n n'}, Slight n n' → R n n'
  /-- A connection loses its socket. -/
  release : ∀ id n, R n (modifyConnection id (fun c => { c with hasSocket := false }) n)

/-- What a relation on networks has to admit, whatever it is about. -/
structure Admissible (R : Network → Network → Prop) : Prop extends Passable R where
  still : ∀ {n n'}, Still n n' → R n n'
  slight h := still h.toStill
  /-- A server is told to stop. -/
  stop : ∀ server, Moves R (modifyServer server fun s => { s with stopping := true })
  /-- A server begins to listen. -/
  listen : ∀ server port, Moves R (modifyServer server fun s =>
    { s with port := port, status := .opened, listener := some {}, acceptor := .waiting })

namespace Passable

variable {R : Network → Network → Prop} (h : Passable R)

include h

theorem change_moves {f : Network → Network} (hf : ∀ n, Slight n (f n)) : Moves R (modify f) :=
  fun n => h.slight (hf n)

theorem changeServer_moves {f : Server → Server} (hstand : ∀ s, (f s).stand = s.stand)
    (hphase : ∀ s, (f s).phase = s.phase) (id : ServerId) : Moves R (modifyServer id f) :=
  h.change_moves fun _ => slight_modifyServer hstand fun s _ => hphase s

theorem note_moves (o : Occurrence) : Moves R (note o) := h.change_moves fun _ => slight_note o

theorem setLink_moves (id : LinkId) (l : Link) : Moves R (setLink id l) :=
  h.change_moves fun _ => .of_eq rfl rfl rfl rfl rfl

theorem withLink_moves (id : LinkId) {a : Link → Act Network Unit} (ha : ∀ l, Moves R (a l)) :
    Moves R (withLink id a) := by
  refine Moves.bind h.path (Moves.get h.path) fun n => ?_
  split
  · exact ha _
  · exact Moves.pure h.path _

theorem withServer_moves {α : Type} (id : ServerId) (missing : α) {a : Server → Act Network α}
    (ha : ∀ s, Moves R (a s)) : Moves R (withServer id missing a) := by
  refine Moves.bind h.path (Moves.get h.path) fun n => ?_
  split
  · exact ha _
  · exact Moves.pure h.path _

theorem configure_moves (server : ServerId) (changes : List (Text × Value)) :
    Moves R (configure server changes) := by
  refine h.withServer_moves server none fun s => ?_
  split
  · exact Moves.throw h.path _
  · refine Moves.bind h.path ?_ fun _ => Moves.pure h.path _
    exact h.changeServer_moves (by intro s; rfl) (by intro s; rfl) server

theorem nextKnock_moves (server : ServerId) : Moves R (nextKnock server) :=
  fun n => h.slight (nextKnock_slight server n)

theorem bind_moves (port : Port) : Moves R (bind port) := by
  have hquiet : ∀ {f : Network → Network}, (∀ n, Slight n (f n)) → Moves R (modify f) :=
    h.change_moves
  refine Moves.unless h.path (Moves.bind h.path (Moves.get h.path) fun n => ?_)
  split
  · refine Moves.bind h.path (hquiet (by intro n; exact .of_eq rfl rfl rfl rfl rfl)) fun _ => ?_
    exact Moves.throw h.path _
  · split
    · refine Moves.bind h.path (hquiet (by intro n; exact .of_eq rfl rfl rfl rfl rfl)) fun _ => ?_
      exact Moves.bind h.path (Moves.get h.path) fun _ => Moves.pure h.path _
    · refine Moves.bind h.path (Moves.get h.path) fun n => ?_
      split
      · exact Moves.throw h.path _
      · exact Moves.pure h.path _

theorem bindSocket_moves (server : ServerId) (port : Port) : Moves R (bindSocket server port) := by
  have hquiet : ∀ {f : Network → Network}, (∀ n, Slight n (f n)) → Moves R (modify f) :=
    h.change_moves
  refine Moves.bind h.path (hquiet (by intro n; exact .of_eq rfl rfl rfl rfl rfl)) fun _ => ?_
  refine Moves.bind h.path (h.bind_moves port).attempt fun r => ?_
  split
  · refine Moves.bind h.path (hquiet (by intro n; exact .of_eq rfl rfl rfl rfl rfl)) fun _ => ?_
    exact Moves.pure h.path _
  · refine Moves.bind h.path (hquiet (by intro n; exact .of_eq rfl rfl rfl rfl rfl)) fun _ => ?_
    exact Moves.throw h.path _
  · exact Moves.throw h.path _

end Passable

namespace Admissible

variable {R : Network → Network → Prop} (h : Admissible R)

include h

theorem modify_moves {f : Network → Network} (hf : ∀ n, Still n (f n)) : Moves R (modify f) :=
  fun n => h.still (hf n)

theorem modifyServer_moves {f : Server → Server} (hf : ∀ s, (f s).stand = s.stand) (id : ServerId) :
    Moves R (modifyServer id f) :=
  h.modify_moves fun _ => still_modifyServer hf id

end Admissible

end Network

/-- Threads that are woken follow a relation, and so does a server that is closed by a hook. -/
structure Scheduler.Follows (sch : Scheduler) (R : Network → Network → Prop) : Prop extends
    Network.Passable R where
  wakeWorker : ∀ id, Moves R (sch.wakeWorker id)
  wakeAcceptor : ∀ server, Moves R (sch.wakeAcceptor server)
  closeServer : ∀ server, Moves R (sch.closeServer server)

/-- The same for a relation that servers which are started and closed follow as well. -/
structure Scheduler.Admits (sch : Scheduler) (R : Network → Network → Prop) : Prop extends
    Scheduler.Follows sch R, Network.Admissible R

namespace Scheduler.Follows

open Network

variable {sch : Scheduler} {R : Network → Network → Prop} (h : sch.Follows R)

include h

/-! ### Sockets -/

theorem updateLink_moves (id : LinkId) (l : Link) : Moves R (updateLink sch id l) := by
  refine Moves.bind h.path (h.setLink_moves id l) fun _ => ?_
  rw [wakeServing]
  split
  · exact h.wakeWorker _
  · exact Moves.pure h.path _

theorem send_moves (side : Side) (id : LinkId) (data : Bytes) :
    Moves R (send sch side id data) := by
  refine h.withLink_moves id fun l => ?_
  split
  · exact Moves.throw h.path _
  · split
    · exact h.updateLink_moves id _
    · exact h.setLink_moves id _

theorem finish_moves (id : LinkId) : Moves R (finish sch id) := by
  refine h.withLink_moves id fun l => ?_
  split
  · exact Moves.throw h.path _
  · exact h.updateLink_moves id _

theorem shutdown_moves (id : LinkId) : Moves R (shutdown sch id) := by
  refine h.withLink_moves id fun l => ?_
  split
  · exact Moves.throw h.path _
  · split
    · exact h.setLink_moves id _
    · exact h.updateLink_moves id _

theorem close_moves (side : Side) (id : LinkId) : Moves R (close sch side id) :=
  h.withLink_moves id fun _ => h.updateLink_moves id _

theorem connect_moves (wake : Bool) (port : Port) : Moves R (connect sch wake port) := by
  refine Moves.bind h.path (Moves.get h.path) fun n => ?_
  split
  · exact Moves.throw h.path _
  · refine Moves.bind h.path (Moves.get h.path) fun n => ?_
    refine Moves.bind h.path
      (h.change_moves (by intro n; exact .of_eq rfl rfl rfl rfl rfl)) fun _ => ?_
    refine Moves.bind h.path (h.changeServer_moves (by intro s; rfl) ?_ _) fun _ => ?_
    · -- A client waits only where somebody listens.
      intro s
      rw [Server.phase, Option.isSome_map]
      rfl
    exact Moves.ifThen h.path (h.wakeAcceptor _) (fun _ => Moves.pure h.path _)
      (Moves.pure h.path _)

theorem transport : (transport sch).Moves R where
  path := h.path
  note e _ := h.note_moves (.log e)
  connect _ port _ := h.connect_moves true port
  setTimeout _ _ := Moves.pure h.path _
  send id data := h.send_moves .client id data
  consume id _ := h.withLink_moves id fun _ => h.setLink_moves id _
  close id := h.close_moves .client id

/-! ### Connections -/

section

variable (t : Seconds) (id : ConnectionId) (served : Served)

theorem record_moves {call : Call} (hcall : call.isRefusal = false) :
    Moves R (Connection.record (surroundings sch t id served) call) :=
  h.change_moves fun _ => slight_record hcall id

theorem telling : (surroundings sch t id served).Telling R where
  path := h.path
  meanwhile := Moves.pure h.path _
  note o _ := h.note_moves o

theorem sendToPeer_moves (data : Bytes) :
    Moves R (Connection.sendToPeer (surroundings sch t id served) data) :=
  (h.telling t id served).sendToPeer (fun _ => h.record_moves t id served rfl)
    (h.send_moves .server served.link data)

theorem closing : (surroundings sch t id served).Closing R where
  toTelling := h.telling t id served
  change hf := h.change_moves fun _ => slight_modest hf id
  shutdownSocket :=
    (h.telling t id served).shutdownSocket (h.record_moves t id served rfl)
      (h.shutdown_moves served.link)

theorem releaseSocket_moves :
    Moves R (Connection.releaseSocket (surroundings sch t id served)) := by
  have closing := h.closing t id served
  refine Moves.bind h.path closing.current fun c => ?_
  split
  · refine Moves.bind h.path (Moves.modify (h.release id)) fun _ => ?_
    refine Moves.bind h.path (h.record_moves t id served rfl) fun _ => ?_
    exact closing.attempt (h.close_moves .server served.link) .warning
      "connection_socket_close_failed"
  · exact Moves.pure h.path _

theorem calling : (surroundings sch t id served).Calling R where
  toClosing := h.closing t id served
  close := (h.closing t id served).close (h.releaseSocket_moves t id served)
  closeServer := h.closeServer served.server
  configureServer changes := Moves.bind h.path (h.configure_moves served.server changes) fun _ =>
    Moves.pure h.path _

theorem callOnConnect_moves :
    Moves R (Connection.callOnConnect (surroundings sch t id served)) := by
  have calling := h.calling t id served
  refine calling.announced (fun _ _ => h.record_moves t id served rfl)
    (fun _ => h.record_moves t id served rfl) ?_
  exact Moves.bind h.path calling.current fun c => calling.callHooks _ _

end

theorem withConnection_moves (id : ConnectionId)
    {a : Surroundings Network → Served → Act Network Unit}
    (ha : ∀ t served, Moves R (a (surroundings sch t id served) served)) :
    Moves R (withConnection sch id a) := by
  refine Moves.bind h.path (Moves.get h.path) fun n => ?_
  split
  · exact ha _ _
  · exact Moves.pure h.path _

theorem introduce_moves (id : ConnectionId) (port : Port) : Moves R (introduce sch id port) := by
  refine h.withConnection_moves id fun t served => ?_
  refine Moves.bind h.path (Moves.attempt (h.callOnConnect_moves t id served)) fun r => ?_
  split
  · exact Moves.pure h.path _
  · exact h.note_moves _

theorem closeConnection_moves (id : ConnectionId) : Moves R (closeConnection sch id) :=
  h.withConnection_moves id fun t served => (h.calling t id served).close

/-- What a wait for a client gives is answered as clients are welcomed. -/
theorem answerKnock_moves (server : ServerId)
    (hwelcome : ∀ link, Moves R (welcome sch server link)) (k : Knock) :
    Moves R (answerKnock sch server k) := by
  cases k with
  | client link => exact hwelcome link
  | fault f =>
      cases f with
      | system e =>
          rw [answerKnock]
          split
          · exact Moves.pure h.path _
          · refine h.withServer_moves server () fun s => ?_
            split
            · exact h.note_moves _
            · exact Moves.pure h.path _
      | _ => exact Moves.throw h.path _

end Scheduler.Follows

/-! ### Servers -/

namespace Scheduler.Admits

open Network

variable {sch : Scheduler} {R : Network → Network → Prop} (h : sch.Admits R)

include h

theorem closeListener_moves (server : ServerId) : Moves R (closeListener sch server) := by
  refine h.withServer_moves server () fun s => ?_
  split
  · -- The same comes last whether or not the shutdown fails.
    have hend : Moves R (do
        modifyServer server fun s => { s with listener := none }
        sch.wakeAcceptor server) :=
      Moves.bind h.path (h.modifyServer_moves (by intro s; rfl) server) fun _ =>
        h.wakeAcceptor server
    refine Moves.bind h.path (h.modifyServer_moves (by intro s; rfl) server) fun _ => ?_
    refine Moves.bind h.path (h.wakeAcceptor server) fun _ => ?_
    refine Moves.bind h.path (Moves.get h.path) fun n => ?_
    dsimp only
    split
    · exact hend
    · refine Moves.bind h.path (h.modify_moves (by intro n; exact .of_eq rfl rfl rfl rfl))
        fun _ => ?_
      split
      · exact Moves.bind h.path (h.note_moves _) fun _ => hend
      · exact Moves.bind h.path (Moves.throw h.path _) fun _ => hend
  · exact Moves.pure h.path _

theorem closeConnections_moves (ids : List ConnectionId) : Moves R (closeConnections sch ids) := by
  induction ids with
  | nil => exact Moves.pure h.path _
  | cons id rest ih => exact Moves.bind h.path (h.closeConnection_moves id) fun _ => ih

theorem stopServer_moves (server : ServerId) : Moves R (stopServer sch server) := by
  have hstop : ∀ s : Server, Moves R (do
      modifyServer server fun s => { s with status := .closing }
      note (.logged .info "server_closing" [.int "port" s.port])
      modifyServer server fun s => { s with stopping := true }
      closeListener sch server) := by
    intro s
    refine Moves.bind h.path (h.modifyServer_moves (by intro s; rfl) server) fun _ => ?_
    refine Moves.bind h.path (h.note_moves _) fun _ => ?_
    exact Moves.bind h.path (h.stop server) fun _ => h.closeListener_moves server
  refine Moves.bind h.path (h.withServer_moves server () hstop) fun _ => ?_
  refine Moves.bind h.path
    (h.withServer_moves server () fun s => h.closeConnections_moves s.live) fun _ => ?_
  refine h.withServer_moves server () fun s => ?_
  exact Moves.bind h.path (h.modifyServer_moves (by intro s; rfl) server) fun _ => h.note_moves _

theorem closeServer_moves (server : ServerId) : Moves R (Network.closeServer sch server) := by
  refine h.withServer_moves server () fun s => ?_
  split
  · -- That the closing is over is noted even if it fails.
    refine Moves.bind h.path (h.modifyServer_moves (by intro s; rfl) server) fun _ => ?_
    exact Moves.andFinally h.path (h.stopServer_moves server)
      (h.modifyServer_moves (by intro s; rfl) server)
  · exact Moves.pure h.path _

theorem startServer_moves (server : ServerId) : Moves R (startServer sch server) := by
  refine h.withServer_moves server () fun s => Moves.unless h.path ?_
  refine Moves.bind h.path (h.modifyServer_moves (by intro s; rfl) server) fun _ => ?_
  refine Moves.bind h.path (h.bindSocket_moves server s.port).attempt fun r => ?_
  split
  · exact Moves.throw h.path _
  · exact Moves.throw h.path _
  · refine Moves.bind h.path (h.listen server _) fun _ => ?_
    exact Moves.bind h.path (h.wakeAcceptor server) fun _ => h.note_moves _

end Scheduler.Admits

/-- A relation is followed by all threads, however many wakings may follow one another, if the
    two kinds of thread follow it as long as those that they wake do. -/
theorem Network.Admissible.ofPatience {R : Network → Network → Prop} (h : Network.Admissible R)
    (hserve : ∀ {k}, (Scheduler.ofPatience k).Admits R → ∀ id,
      Moves R (Network.serve (.ofPatience k) id))
    (haccept : ∀ {k}, (Scheduler.ofPatience k).Admits R → ∀ server,
      Moves R (Network.acceptNext (.ofPatience k) server)) (k : Nat) :
    (Scheduler.ofPatience k).Admits R := by
  induction k with
  | zero =>
      -- Nothing is woken any more.
      have hpure : Moves R (pure () : Act Network Unit) := Moves.pure h.path ()
      exact { h with wakeWorker _ := hpure, wakeAcceptor _ := hpure, closeServer _ := hpure }
  | succ k ih =>
      exact { h with wakeWorker := hserve ih, wakeAcceptor := haccept ih,
                     closeServer := ih.closeServer_moves }

end MockHost
