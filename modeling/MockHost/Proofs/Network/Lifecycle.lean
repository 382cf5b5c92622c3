import MockHost.Proofs.Network.Attending
import MockHost.Proofs.Network.Operations

/-!
# How Far Servers Have Come

A server is created, started, closed and never anything else after that, and all the
while others act: threads that serve clients, hooks that close servers, whoever starts
and closes other servers. Whatever they do, a server that has been started stays so and
keeps its port, one that has been closed stays closed, and one that does not listen any
more never listens again. That is what `Server.Ages` says, and everything that happens in
a network is shown to follow it.

Closing a server comes to its end unless the socket refuses to be shut down with
something else than an error of the system. Then the server is closed and does not
listen, and since both last, it is and does so for good.

## Main definitions

* `Server.Ages`, `Network.Ages`: What may become of servers.
* `Server.Sealed`: A closed server does not listen.
* `Server.Idle`, `Network.AtRest`: Nobody is in the middle of closing a server.
* `Network.SystemErrorsAtShutdown`: Shutting down fails with errors of the system only.
* `Network.bound?`, `Server.startFailure`: What binding a port comes to, and what starting a server
  fails with if it fails.

## Theorems

* `Network.ages_ofPatience`: All threads follow it.
* `Network.startServer_of_error`, `Network.startServer_of_ok`: How starting a server goes on.
* `Network.closeServer_ages`, `Network.startServer_ages`: Closing and starting servers do.
* `Network.closeServer_closes`: A server that is closed does not listen any more.
* `Network.operate_ages`, `Network.operateAll_ages`: Operations follow it.
-/

namespace MockHost

open Act (Moves Succeeds)

namespace Server

/-- Why a server cannot be started, given why its port cannot be bound. -/
def startFailure (s : Server) : Failure → Failure
  | .system e => .reported (Network.cannotListen s e)
  | f => f

/-- A closed server does not listen. -/
def Sealed (s : Server) : Prop := s.status = .closed → s.listener.isSome = false

/-- Nobody is closing a server, and if it is closed it does not listen. -/
structure Idle (s : Server) : Prop where
  free : s.closeUnderWay = false
  sealed : s.Sealed

/-- What may become of a server while others act. -/
structure Ages (s s' : Server) : Prop where
  begun : s.status ≠ .created → s'.status ≠ .created
  port : s.status ≠ .created → s'.port = s.port
  deaf : s.status ≠ .created → s.listener.isSome = false → s'.listener.isSome = false
  closed : s.status = .closed → s'.status = .closed
  underWay : s'.closeUnderWay = s.closeUnderWay
  sealed : s.Sealed → s'.Sealed

theorem Ages.of_phase {s s' : Server} (h : s'.phase = s.phase) : s.Ages s' := by
  injection h with hstatus h
  injection h with hlistener h
  injection h with hport hunderWay
  refine ⟨fun h => hstatus ▸ h, fun _ => hport, fun _ h => hlistener ▸ h, fun h => hstatus ▸ h,
    hunderWay, ?_⟩
  intro h hclosed
  rw [hlistener]
  exact h (hstatus ▸ hclosed)

theorem Ages.refl (s : Server) : s.Ages s := .of_phase rfl

theorem Ages.trans {s t u : Server} (h : s.Ages t) (h' : t.Ages u) : s.Ages u where
  begun hs := h'.begun (h.begun hs)
  port hs := (h'.port (h.begun hs)).trans (h.port hs)
  deaf hs hdeaf := h'.deaf (h.begun hs) (h.deaf hs hdeaf)
  closed hs := h'.closed (h.closed hs)
  underWay := h'.underWay.trans h.underWay
  sealed hs := h'.sealed (h.sealed hs)

theorem Idle.ages {s s' : Server} (hs : s.Idle) (h : s.Ages s') : s'.Idle :=
  ⟨h.underWay.trans hs.free, h.sealed hs.sealed⟩

end Server

namespace Network

/-- Shutting down a listening socket fails with errors of the system only. -/
def SystemErrorsAtShutdown (n : Network) : Prop := ∀ x ∈ n.shutdownFaults, ∃ e, x.2 = .system e

/-- Nobody is closing a server. -/
structure AtRest (n : Network) : Prop where
  idle : ∀ {id : ServerId} {s : Server}, n.servers[id]? = some s → s.Idle
  systemErrors : n.SystemErrorsAtShutdown

/-- What may become of the servers of a network. -/
structure Ages (n n' : Network) : Prop where
  servers : ∀ {id : ServerId} {s : Server}, n.servers[id]? = some s →
    ∃ s', n'.servers[id]? = some s' ∧ s.Ages s'
  /-- Nobody is closing a server that there was not before. -/
  fresh : ∀ {id : ServerId} {s' : Server}, n.servers[id]? = none → n'.servers[id]? = some s' →
    s'.Idle
  systemErrors : n.SystemErrorsAtShutdown → n'.SystemErrorsAtShutdown

section

variable {n n' : Network}

/-- A step after which the servers are the same ones. -/
theorem ages_of_servers (h : n'.servers = n.servers)
    (herrors : n.SystemErrorsAtShutdown → n'.SystemErrorsAtShutdown) : Ages n n' where
  servers {_ s} hs := ⟨s, h ▸ hs, .refl s⟩
  fresh hnone hs' := by
    rw [h, hnone] at hs'
    injection hs'
  systemErrors := herrors

theorem ages_path : Act.Path Ages where
  refl _ := ages_of_servers rfl id
  trans {n m _} h h' := by
    refine ⟨fun hs => ?_, fun {i _} hnone hs' => ?_, fun hn => h'.systemErrors (h.systemErrors hn)⟩
    · rcases h.servers hs with ⟨t, ht, hst⟩
      rcases h'.servers ht with ⟨u, hu, htu⟩
      exact ⟨u, hu, hst.trans htu⟩
    · cases hmid : m.servers[i]? with
      | none => exact h'.fresh hmid hs'
      | some t =>
          rcases h'.servers hmid with ⟨u, hu, htu⟩
          cases hs'.symm.trans hu
          exact (h.fresh hnone hmid).ages htu

/-- Whatever happens to a network at rest, it comes to rest again. -/
theorem AtRest.ages (hn : n.AtRest) (h : Ages n n') : n'.AtRest where
  idle {i _} hs' := by
    cases hs : n.servers[i]? with
    | none => exact h.fresh hs hs'
    | some s =>
        rcases h.servers hs with ⟨t, ht, hst⟩
        cases hs'.symm.trans ht
        exact (hn.idle hs).ages hst
  systemErrors := h.systemErrors hn.systemErrors

/-- A step that leaves servers as far as they have come. -/
theorem ages_of_phases (h : n'.servers.map Server.phase = n.servers.map Server.phase)
    (hfaults : n'.shutdownFaults = n.shutdownFaults) : Ages n n' := by
  have hat : ∀ id : ServerId,
      n'.servers[id]?.map Server.phase = n.servers[id]?.map Server.phase := by
    intro id
    rw [← Array.getElem?_map, h, Array.getElem?_map]
  refine ⟨fun {id s} hs => ?_, fun {id s'} hnone hs' => ?_, fun hn => ?_⟩
  · have hmap := hat id
    rw [hs, Option.map_some] at hmap
    rcases Option.map_eq_some_iff.mp hmap with ⟨s', hs', hphase⟩
    exact ⟨s', hs', .of_phase hphase⟩
  · have hmap := hat id
    rw [hnone, hs'] at hmap
    injection hmap
  · rw [SystemErrorsAtShutdown, hfaults]
    exact hn

theorem ages_modifyServer {f : Server → Server} {id : ServerId}
    (h : ∀ s, n.servers[id]? = some s → s.Ages (f s)) :
    Ages n { n with servers := n.servers.modify id f } := by
  refine ⟨fun {j s} hs => ?_, fun {j s'} hnone hs' => ?_, fun hn => hn⟩
  · simp only [Array.getElem?_modify]
    by_cases hj : id = j
    · subst hj
      rw [if_pos rfl, hs]
      exact ⟨f s, rfl, h s hs⟩
    · rw [if_neg hj]
      exact ⟨s, hs, .refl s⟩
  · simp only [Array.getElem?_modify, hnone, Option.map_none, ite_self, reduceCtorEq] at hs'

/-- A change of a server that leaves it as far as it has come. -/
theorem modifyServer_ages {f : Server → Server} (h : ∀ s, (f s).phase = s.phase) (id : ServerId) :
    Moves Ages (modifyServer id f) :=
  Moves.modify fun n => ages_modifyServer (n := n) fun s _ => .of_phase (h s)

theorem modifyConnection_ages (f : Connection → Connection) (id : ConnectionId) :
    Moves Ages (modify (modifyConnection id f)) :=
  Moves.modify fun _ => ages_of_phases rfl rfl

theorem ages_passable : Passable Ages where
  path := ages_path
  slight h := ages_of_phases h.phases h.shutdownFaults
  release _ _ := ages_of_phases rfl rfl

end

/-! ### The thread of a connection -/

section

variable {sch : Scheduler} (t : Seconds) (id : ConnectionId) (served : Served)

theorem countMessage_ages (server : ServerId) : Moves Ages (countMessage server id) := by
  refine Moves.bind ages_path (Moves.get ages_path) fun n => ?_
  split
  · exact Moves.pure ages_path _
  · exact modifyServer_ages (by intro s; rfl) server

theorem forget_ages (server : ServerId) : Moves Ages (forget server id) := by
  refine ages_passable.withServer_moves server () fun s => ?_
  split
  · refine Moves.bind ages_path (Moves.get ages_path) fun n => ?_
    refine Moves.bind ages_path (modifyServer_ages (by intro s; rfl) server) fun _ => ?_
    exact ages_passable.note_moves _
  · exact Moves.pure ages_path _

/-- Changes of connections are no concern of servers. -/
theorem change_ages (f : Connection → Connection) :
    Moves Ages (Connection.change (surroundings sch t id served) f) :=
  modifyConnection_ages f id

theorem record_ages (call : Call) :
    Moves Ages (Connection.record (surroundings sch t id served) call) :=
  change_ages t id served _

theorem serving_ages (h : sch.Follows Ages) : (surroundings sch t id served).Serving Ages where
  toCalling := h.calling t id served
  record _ := record_ages t id served _
  greet s := by
    have calling := h.calling t id served
    refine Moves.bind ages_path (change_ages t id served _) fun _ => ?_
    refine Moves.bind ages_path (calling.judge s) fun _ => ?_
    refine calling.announced (fun _ _ => record_ages t id served _)
      (fun _ => record_ages t id served _) ?_
    refine Moves.bind ages_path calling.current fun c => ?_
    exact Moves.bind ages_path (calling.callHooks _ _) fun _ => countMessage_ages id _
  sendToPeer := h.sendToPeer_moves t id served
  dispatch d deliveries := Dispatcher.dispatchAll_moves h.transport d deliveries
  withRecords _ := change_ages t id served _

theorem conclude_ages (h : sch.Follows Ages) (r : Except Failure Unit) :
    Moves Ages (Connection.conclude (surroundings sch t id served) r) := by
  have calling := h.calling t id served
  refine Moves.bind ages_path (calling.reportEnd r) fun _ => ?_
  refine Moves.bind ages_path (calling.change Connection.modest_closed) fun _ => ?_
  refine Moves.bind ages_path (h.releaseSocket_moves t id served) fun _ => ?_
  have hannounced : Moves Ages (Connection.callOnClose (surroundings sch t id served)) := by
    refine calling.announced (fun _ _ => record_ages t id served _)
      (fun _ => record_ages t id served _) ?_
    refine Moves.bind ages_path calling.current fun c => ?_
    exact Moves.andFinally ages_path (calling.callEveryHook _ _) (forget_ages id _)
  refine Moves.bind ages_path hannounced.attempt fun res => ?_
  split
  · exact Moves.pure ages_path _
  · exact calling.log _ _ _

theorem endWorker_ages (h : sch.Follows Ages) (r : Except Failure Unit) :
    Moves Ages (endWorker id (surroundings sch t id served) r) := by
  refine Moves.bind ages_path (conclude_ages t id served h r).attempt fun res => ?_
  refine Moves.bind ages_path (modifyConnection_ages _ id) fun _ => ?_
  split
  · exact Moves.pure ages_path _
  · exact Moves.bind ages_path (Moves.get ages_path) fun _ => ages_passable.note_moves _

theorem settle_ages (h : sch.Follows Ages) (r : Except Failure (Option MessageStream)) :
    Moves Ages (settle sch id (surroundings sch t id served) r) := by
  rcases r with f | _ | begun
  · exact endWorker_ages t id served h _
  · exact endWorker_ages t id served h _
  · exact Moves.bind ages_path (modifyConnection_ages _ id) fun _ => h.wakeWorker id

end

section

variable {sch : Scheduler}

theorem startWorker_ages (h : sch.Follows Ages) (id : ConnectionId) :
    Moves Ages (startWorker sch id) := by
  refine h.withConnection_moves id fun t served => ?_
  split
  · refine Moves.bind ages_path (modifyConnection_ages _ id) fun _ => ?_
    refine Moves.bind ages_path ((serving_ages t id served h).begin false).attempt fun r => ?_
    exact settle_ages t id served h r
  · exact Moves.pure ages_path _

theorem serve_ages (h : sch.Follows Ages) (id : ConnectionId) : Moves Ages (serve sch id) := by
  refine h.withConnection_moves id fun t served => ?_
  split
  · refine h.withLink_moves served.link fun l => ?_
    refine Moves.bind ages_path (Moves.get ages_path) fun n => ?_
    split
    · exact Moves.pure ages_path _
    · refine Moves.bind ages_path (h.setLink_moves _ _) fun _ => ?_
      refine Moves.bind ages_path (modifyConnection_ages _ id) fun _ => ?_
      refine Moves.bind ages_path ((serving_ages t id served h).receive false _ _).attempt fun r => ?_
      exact settle_ages t id served h r
  · exact Moves.pure ages_path _

/-! ### The thread that accepts clients -/

theorem enlist_phases (n : Network) (server : ServerId) (link : LinkId) (c : Connection) :
    (n.enlist server link c).servers.map Server.phase = n.servers.map Server.phase := by
  have hphase : ∀ s : Server, Server.phase (if s.isOpen then
      { s with live := s.live ++ [n.connections.size], accepted := s.accepted + 1 } else s) =
        s.phase := by
    intro s
    split
    · rfl
    · rfl
  exact map_modify_of hphase _ _

theorem welcome_ages (h : sch.Follows Ages) (server : ServerId) (link : LinkId) :
    Moves Ages (welcome sch server link) := by
  refine Moves.bind ages_path (Moves.get ages_path) fun n => ?_
  split
  · split
    · exact Moves.throw ages_path _
    · rename_i c _
      have henlist : Moves Ages (modify fun n => n.enlist server link c) :=
        Moves.modify fun n => ages_of_phases (enlist_phases n server link c) rfl
      refine Moves.bind ages_path henlist fun _ => ?_
      split
      · refine Moves.bind ages_path (h.introduce_moves _ _) fun _ => ?_
        exact startWorker_ages h _
      · exact h.closeConnection_moves _
  · exact Moves.pure ages_path _

theorem setAcceptor_ages (server : ServerId) (a : Acceptor) : Moves Ages (setAcceptor server a) :=
  modifyServer_ages (by intro s; rfl) server

theorem goOnAccepting_ages (h : sch.Follows Ages) (server : ServerId) :
    Moves Ages (goOnAccepting sch server) := by
  refine h.withServer_moves server () fun s => ?_
  split
  · exact Moves.bind ages_path (setAcceptor_ages server _) fun _ => h.note_moves _
  · exact Moves.bind ages_path (setAcceptor_ages server _) fun _ => h.wakeAcceptor server

theorem acceptNext_ages (h : sch.Follows Ages) (server : ServerId) :
    Moves Ages (acceptNext sch server) := by
  refine h.withServer_moves server () fun s => ?_
  split
  · refine Moves.bind ages_path (h.nextKnock_moves server) fun knock => ?_
    split
    · exact Moves.pure ages_path _
    · refine Moves.bind ages_path (setAcceptor_ages server _) fun _ => ?_
      have hanswer := h.answerKnock_moves server (welcome_ages h server)
      refine Moves.bind ages_path (hanswer _).attempt fun r => ?_
      split
      · exact goOnAccepting_ages h server
      · exact Moves.bind ages_path (setAcceptor_ages server _) fun _ => h.note_moves _
  · exact Moves.pure ages_path _

/-! ### Closing a server -/

section

variable {server : ServerId} {n : Network} {s : Server}

/-- A change of a server that is known, which it may go through. -/
theorem modifyServer_spec {f : Server → Server} (hs : n.servers[server]? = some s)
    (hages : s.Ages (f s)) :
    ∃ n', (modifyServer server f).runFrom n = (.ok (), n') ∧ Ages n n' ∧
      n'.servers[server]? = some (f s) := by
  refine ⟨_, rfl, ages_modifyServer fun s' hs' => ?_, ?_⟩
  · cases hs.symm.trans hs'
    exact hages
  · simp only [Array.getElem?_modify, if_pos, hs, Option.map_some]

theorem note_spec (o : Occurrence) (n : Network) :
    ∃ n', (note o).runFrom n = (.ok (), n') ∧ Ages n n' ∧ n'.servers = n.servers :=
  ⟨_, rfl, ages_of_phases rfl rfl, rfl⟩

/-- What closing the listening socket comes down to in the end: the server does not listen, and
    since it has been started it does not listen ever after. -/
theorem unlisten_spec (h : sch.Follows Ages) (hr : sch.Reliable)
    (hs : n.servers[server]? = some s) (hbegun : s.status ≠ .created) :
    ∃ n', (do
        modifyServer server fun s => { s with listener := none }
        sch.wakeAcceptor server : Act Network Unit).runFrom n = (.ok (), n') ∧ Ages n n' ∧
      ∀ s', n'.servers[server]? = some s' → s'.listener.isSome = false := by
  rcases modifyServer_spec (f := fun s => { s with listener := none }) hs
    ⟨id, fun _ => rfl, fun _ _ => rfl, id, rfl, fun _ _ => rfl⟩ with ⟨n₁, hset, h₁, hs₁⟩
  -- The thread that is woken up may do anything but listen again, since nobody starts a server
  -- twice.
  rcases hr.wakeAcceptor server n₁ with ⟨_, n', hn'⟩
  have h₂ : Ages n₁ n' := (h.wakeAcceptor server).reaches hn'
  refine ⟨n', ?_, ages_path.trans h₁ h₂, fun s' hs' => ?_⟩
  · rw [Act.runFrom_bind_ok hset, hn']
  · rcases h₂.servers hs₁ with ⟨s'', hs'', hages⟩
    cases hs'.symm.trans hs''
    exact hages.deaf hbegun rfl

theorem systemErrors_of_takeFault {port : Port} {f : Failure} {rest : PortFaults}
    (hfault : takeFault port n.shutdownFaults = some (f, rest)) :
    Ages n { n with shutdownFaults := rest } ∧ (n.SystemErrorsAtShutdown → ∃ e, f = .system e) := by
  have hperm := takeFault_perm hfault
  refine ⟨ages_of_servers rfl fun hn x hx => ?_, fun hn => ?_⟩
  · exact hn x (hperm.symm.subset (List.mem_cons_of_mem _ hx))
  · exact hn (port, f) (hperm.symm.subset List.mem_cons_self)

/-- If closing the listening socket comes to its end, the server does not listen any more. It
    does, unless the socket refuses to be shut down. -/
theorem closeListener_spec (h : sch.Follows Ages) (hr : sch.Reliable)
    (hs : n.servers[server]? = some s) (hbegun : s.status ≠ .created) :
    ∃ r n', (closeListener sch server).runFrom n = (r, n') ∧ Ages n n' ∧
      (r = .ok () → ∀ s', n'.servers[server]? = some s' → s'.listener.isSome = false) ∧
      (n.SystemErrorsAtShutdown → r = .ok ()) := by
  rw [closeListener, withServer, Act.runFrom_bind_ok (Act.runFrom_get n)]
  simp only [hs]
  by_cases hlistens : s.listener.isSome = true
  · rw [if_pos hlistens]
    have hphase : Server.phase
        { s with listener := s.listener.map fun x : Listener => { x with shut := true } } =
          s.phase := by
      rw [Server.phase, Option.isSome_map]
      rfl
    rcases modifyServer_spec (f := fun s : Server =>
        { s with listener := s.listener.map fun x : Listener => { x with shut := true } })
      hs (.of_phase hphase) with ⟨n₁, hset, h₁, -⟩
    rcases hr.wakeAcceptor server n₁ with ⟨_, n₂, hn₂⟩
    have h₂ : Ages n n₂ := ages_path.trans h₁ ((h.wakeAcceptor server).reaches hn₂)
    -- Whatever the shutdown comes to, the same comes last unless it is a failure.
    have hend : ∀ m, Ages n m → ∃ r n', (do
        modifyServer server fun s => { s with listener := none }
        sch.wakeAcceptor server : Act Network Unit).runFrom m = (r, n') ∧ Ages n n' ∧
          (r = .ok () → ∀ s', n'.servers[server]? = some s' → s'.listener.isSome = false) ∧
          (n.SystemErrorsAtShutdown → r = .ok ()) := by
      intro m hm
      rcases hm.servers hs with ⟨sm, hsm, hages⟩
      rcases unlisten_spec h hr hsm (hages.begun hbegun) with ⟨n', hrun, hn', hdeaf⟩
      exact ⟨.ok (), n', hrun, ages_path.trans hm hn', fun _ => hdeaf, fun _ => rfl⟩
    rw [Act.runFrom_bind_ok hset, Act.runFrom_bind_ok hn₂, Act.runFrom_bind_ok (Act.runFrom_get n₂)]
    cases hfault : takeFault s.port n₂.shutdownFaults with
    | none => exact hend n₂ h₂
    | some taken =>
        rcases taken with ⟨f, rest⟩
        rcases systemErrors_of_takeFault hfault with ⟨h₃, hsystem⟩
        dsimp only
        rw [Act.runFrom_bind_ok (Act.runFrom_modify _ n₂)]
        have hrest := ages_path.trans h₂ h₃
        cases f with
        | system e =>
            dsimp only
            rw [note, Act.runFrom_bind_ok (Act.runFrom_modify _ _)]
            exact hend _ (ages_path.trans hrest (ages_passable.note_moves _ _))
        | _ =>
            refine ⟨_, _, Act.runFrom_bind_error (Act.runFrom_throw _ _) _, hrest, ?_, ?_⟩
            · intro hok
              injection hok
            · intro hn
              rcases hsystem (h₂.systemErrors hn) with ⟨e, he⟩
              injection he
  · rw [if_neg hlistens]
    refine ⟨.ok (), n, rfl, ages_path.refl n, fun _ s' hs' => ?_, fun _ => rfl⟩
    cases hs.symm.trans hs'
    exact Bool.eq_false_iff.mpr hlistens

theorem closeConnections_succeeds (hr : sch.Reliable) (ids : List ConnectionId) :
    Succeeds (closeConnections sch ids) := by
  induction ids with
  | nil => exact Succeeds.pure _
  | cons id rest ih => exact Succeeds.bind (closeConnection_succeeds hr id) fun _ => ih

theorem closeConnections_ages (h : sch.Follows Ages) (ids : List ConnectionId) :
    Moves Ages (closeConnections sch ids) := by
  induction ids with
  | nil => exact Moves.pure ages_path _
  | cons id rest ih => exact Moves.bind ages_path (h.closeConnection_moves id) fun _ => ih

/-- What is done before the listening socket is closed. -/
theorem announceStop_spec (sch : Scheduler) (hs : n.servers[server]? = some s)
    (hopen : s.status ≠ .closed) :
    ∃ n' s', n'.servers[server]? = some s' ∧ s'.status = .closing ∧ Ages n n' ∧
      (do
        modifyServer server fun s => { s with status := .closing }
        note (.logged .info "server_closing" [.int "port" s.port])
        modifyServer server fun s => { s with stopping := true }
        closeListener sch server : Act Network Unit).runFrom n =
        (closeListener sch server).runFrom n' := by
  have hclosing : s.Ages { s with status := .closing } :=
    ⟨fun _ h => by injection h, fun _ => rfl, fun _ hdeaf => hdeaf, fun h => (hopen h).elim, rfl,
      fun _ h => by injection h⟩
  rcases modifyServer_spec (f := fun s => { s with status := .closing }) hs hclosing with
    ⟨n₁, hset, h₁, hs₁⟩
  rcases note_spec (.logged .info "server_closing" [.int "port" s.port]) n₁ with
    ⟨n₂, hnote, h₂, hsame⟩
  rw [← hsame] at hs₁
  rcases modifyServer_spec (f := fun s => { s with stopping := true }) hs₁ (.of_phase rfl) with
    ⟨n', hstop, h₃, hs'⟩
  refine ⟨n', _, hs', rfl, ages_path.trans h₁ (ages_path.trans h₂ h₃), ?_⟩
  rw [Act.runFrom_bind_ok hset, Act.runFrom_bind_ok hnote, Act.runFrom_bind_ok hstop]

/-- If stopping a server comes to its end, the server is closed and does not listen. -/
theorem stopServer_spec (h : sch.Follows Ages) (hr : sch.Reliable)
    (hs : n.servers[server]? = some s) (hopen : s.status ≠ .closed) :
    ∃ r n', (stopServer sch server).runFrom n = (r, n') ∧ Ages n n' ∧
      (r = .ok () → ∃ s', n'.servers[server]? = some s' ∧ s'.status = .closed ∧
        s'.listener.isSome = false) ∧
      (n.SystemErrorsAtShutdown → r = .ok ()) := by
  rcases announceStop_spec sch hs hopen with ⟨n₁, s₁, hs₁, hclosing, h₁, hrun₁⟩
  have hbegun : s₁.status ≠ .created := by
    rw [hclosing]
    exact fun h => by injection h
  rcases closeListener_spec h hr hs₁ hbegun with ⟨r, n₂, hclose, h₂, hdeaf, herrors⟩
  have hfirst : (withServer server () fun s => do
      modifyServer server fun s => { s with status := .closing }
      note (.logged .info "server_closing" [.int "port" s.port])
      modifyServer server fun s => { s with stopping := true }
      closeListener sch server : Act Network Unit).runFrom n = (r, n₂) := by
    rw [withServer, Act.runFrom_bind_ok (Act.runFrom_get n)]
    simp only [hs]
    rw [hrun₁, hclose]
  have h₁₂ := ages_path.trans h₁ h₂
  rcases h₂.servers hs₁ with ⟨s₂, hs₂, hages₂⟩
  rw [stopServer]
  cases r with
  | error f =>
      refine ⟨_, _, Act.runFrom_bind_error hfirst _, h₁₂, fun h => by injection h, fun hn => ?_⟩
      exact herrors (h₁.systemErrors hn)
  | ok _ =>
      -- Connections are closed while the server does not listen any more.
      rcases closeConnections_succeeds hr s₂.live n₂ with ⟨_, n₃, hn₃⟩
      have h₃ : Ages n₂ n₃ := (closeConnections_ages h s₂.live).reaches hn₃
      rcases h₃.servers hs₂ with ⟨s₃, hs₃, hages₃⟩
      have hdeaf₃ : s₃.listener.isSome = false :=
        hages₃.deaf (hages₂.begun hbegun) (hdeaf rfl s₂ hs₂)
      have hclosed : s₃.Ages { s₃ with status := .closed } :=
        ⟨fun _ h => by injection h, fun _ => rfl, fun _ h => h, fun _ => rfl, rfl,
          fun _ _ => hdeaf₃⟩
      rcases modifyServer_spec (f := fun s => { s with status := .closed }) hs₃ hclosed with
        ⟨n₄, hset, h₄, hs₄⟩
      rcases note_spec (.logged .info "server_closed"
        [.int "port" s₃.port, .nat "messages_received" s₃.messages]) n₄ with ⟨n₅, hnote, h₅, hsame⟩
      rw [← hsame] at hs₄
      have hsecond : (withServer server () fun s => closeConnections sch s.live).runFrom n₂ =
          (.ok (), n₃) := by
        rw [withServer, Act.runFrom_bind_ok (Act.runFrom_get n₂)]
        simp only [hs₂]
        exact hn₃
      refine ⟨.ok (), _, ?_, ages_path.trans h₁₂ (ages_path.trans h₃ (ages_path.trans h₄ h₅)),
        fun _ => ⟨_, hs₄, rfl, hdeaf₃⟩, fun _ => rfl⟩
      rw [Act.runFrom_bind_ok hfirst, Act.runFrom_bind_ok hsecond, withServer,
        Act.runFrom_bind_ok (Act.runFrom_get n₃)]
      simp only [hs₃]
      rw [Act.runFrom_bind_ok hset, hnote]

/-- What has been done to a server between two notes that it is being closed and that it is not
    any more. -/
theorem ages_between {m m' : Network} (hs : n.servers[server]? = some s)
    (hfree : s.closeUnderWay = false)
    (h : Ages { n with servers := n.servers.modify server fun s =>
      { s with closeUnderWay := true } } m)
    (hm' : m' = { m with servers := m.servers.modify server fun s =>
      { s with closeUnderWay := false } }) : Ages n m' := by
  refine ⟨fun {j t} ht => ?_, fun {j t'} hnone ht' => ?_, fun hn => ?_⟩
  · simp only [hm', Array.getElem?_modify]
    by_cases hj : server = j
    · subst hj
      cases hs.symm.trans ht
      have hs₁ : (n.servers.modify server fun s => { s with closeUnderWay := true })[server]? =
          some { s with closeUnderWay := true } := by
        simp only [Array.getElem?_modify, if_pos, hs, Option.map_some]
      rcases h.servers hs₁ with ⟨s', hs', hages⟩
      rw [if_pos rfl, hs']
      exact ⟨_, rfl, hages.begun, hages.port, hages.deaf, hages.closed, hfree.symm, hages.sealed⟩
    · have ht₁ : (n.servers.modify server fun s => { s with closeUnderWay := true })[j]? =
          some t := by
        rw [Array.getElem?_modify, if_neg hj, ht]
      rw [if_neg hj]
      exact h.servers ht₁
  · simp only [hm', Array.getElem?_modify] at ht'
    have hne : server ≠ j := fun hj => by injection hs.symm.trans (hj ▸ hnone)
    rw [if_neg hne] at ht'
    refine h.fresh ?_ ht'
    simp only [Array.getElem?_modify, hnone, Option.map_none, ite_self]
  · rw [hm']
    exact h.systemErrors hn

/-- Closing a server. At rest nobody else is closing it, and then it is closed in the end, unless
    its socket refuses to be shut down. -/
theorem closeServer_spec (h : sch.Follows Ages) (hr : sch.Reliable) (server : ServerId)
    (n : Network) :
    ∃ r n', (closeServer sch server).runFrom n = (r, n') ∧ Ages n n' ∧
      ∀ s, n.servers[server]? = some s → s.closeUnderWay = false → s.Sealed →
        n.SystemErrorsAtShutdown → r = .ok () ∧ ∃ s', n'.servers[server]? = some s' ∧ s'.status = .closed ∧
          s'.listener.isSome = false := by
  rw [closeServer, withServer, Act.runFrom_bind_ok (Act.runFrom_get n)]
  cases hs : n.servers[server]? with
  | none => exact ⟨.ok (), n, rfl, ages_path.refl n, fun s h => by injection h⟩
  | some s =>
      dsimp only
      by_cases hguard : (!s.closeUnderWay && decide (s.status ≠ .closed)) = true
      · rw [if_pos hguard]
        rw [Bool.and_eq_true, Bool.not_eq_true', decide_eq_true_eq] at hguard
        rcases hguard with ⟨hfree, hopen⟩
        -- For the time of the closing it is on record that it is under way, which nobody changes.
        have hs₁ : ({ n with servers := n.servers.modify server fun s =>
            { s with closeUnderWay := true } } : Network).servers[server]? =
              some { s with closeUnderWay := true } := by
          simp only [Array.getElem?_modify, if_pos, hs, Option.map_some]
        rcases stopServer_spec h hr hs₁ hopen with ⟨r, n₂, hrun, h₂, hclosed, herrors⟩
        refine ⟨r, _, ?_, ages_between hs hfree h₂ rfl, fun _ _ _ _ hn => ?_⟩
        · rw [modifyServer, Act.runFrom_bind_ok (Act.runFrom_modify _ n), Act.andFinally,
            Act.runFrom_bind_ok (Act.runFrom_attempt _ _), hrun, modifyServer,
            Act.runFrom_bind_ok (Act.runFrom_modify _ n₂)]
          rfl
        · have hok := herrors hn
          rcases hclosed hok with ⟨s', hs', hstatus, hdeaf⟩
          refine ⟨hok, { s' with closeUnderWay := false }, ?_, hstatus, hdeaf⟩
          simp only [Array.getElem?_modify, if_pos, hs', Option.map_some]
      · -- Nobody is closing it, so it is the status that says that there is nothing to do.
        rw [if_neg hguard]
        refine ⟨.ok (), n, rfl, ages_path.refl n, fun s' hs' hfree hsealed _ => ?_⟩
        cases hs'
        rw [hfree, Bool.not_false, Bool.true_and, decide_eq_true_eq, not_not] at hguard
        exact ⟨rfl, s, hs, hguard, hsealed hguard⟩

theorem closeServer_ages (h : sch.Follows Ages) (hr : sch.Reliable) (server : ServerId) :
    Moves Ages (closeServer sch server) := by
  intro n
  rcases closeServer_spec h hr server n with ⟨r, n', hrun, hages, -⟩
  rw [hrun]
  exact hages

/-! ### Starting a server -/

/-- What binding a port comes to: the port that is bound, or why there is none. -/
def bound? (n : Network) (port : Port) : Except Failure Port :=
  if port < 0 ∨ 65535 < port then .error .portOutOfRange
  else
    match takeFault port n.bindFaults with
    | some (f, _) => .error f
    | none =>
      if port = 0 then .ok (chosenPortBase + (n.chosenPorts + 1 : Nat))
      else if (n.listenerOn? port).isSome then .error (.system (.numbered 98))
      else .ok port

/-- Whether a port can be bound or not, nothing changes but the failures to bind, of which one may
    have happened if it cannot, and the number of ports that have been chosen if it can. -/
theorem bind_spec (port : Port) (n : Network) :
    ∃ faults chosen, (bind port).runFrom n =
        (n.bound? port, { n with bindFaults := faults, chosenPorts := chosen }) ∧
      (∀ p, n.bound? port = .ok p → faults = n.bindFaults) ∧
      ∀ f, n.bound? port = .error f → chosen = n.chosenPorts := by
  rw [bind, bound?]
  by_cases hrange : port < 0 ∨ 65535 < port
  · rw [if_pos hrange, if_pos hrange]
    exact ⟨n.bindFaults, n.chosenPorts, rfl, fun _ _ => rfl, fun _ _ => rfl⟩
  · rw [if_neg hrange, if_neg hrange, Act.runFrom_bind_ok (Act.runFrom_get n)]
    cases takeFault port n.bindFaults with
    | some taken => exact ⟨taken.2, n.chosenPorts, rfl, fun _ h => by injection h, fun _ _ => rfl⟩
    | none =>
        dsimp only
        by_cases hzero : port = 0
        · -- The choice has been left open.
          rw [if_pos hzero, if_pos hzero]
          exact ⟨n.bindFaults, n.chosenPorts + 1, rfl, fun _ _ => rfl, fun _ h => by injection h⟩
        · rw [if_neg hzero, if_neg hzero, Act.runFrom_bind_ok (Act.runFrom_get n)]
          refine ⟨n.bindFaults, n.chosenPorts, ?_, fun _ _ => rfl, fun _ _ => rfl⟩
          split
          · rfl
          · rfl

/-- The sockets that are not bound when one more of a server was to be bound. -/
def unboundAfter (n : Network) (server : ServerId) : Except Failure Port → List UnboundSocket
  | .ok _ => n.unbound
  | .error f => ⟨server, f.system?.isSome⟩ :: n.unbound

/-- It is the same with a socket that is opened for this. One that cannot be bound is left behind,
    and it is closed if it is the system that refuses. -/
theorem bindSocket_spec (server : ServerId) (port : Port) (n : Network) :
    ∃ faults chosen, (bindSocket server port).runFrom n = (n.bound? port,
        { n with
          bindFaults := faults
          chosenPorts := chosen
          unbound := n.unboundAfter server (n.bound? port) }) ∧
      (∀ p, n.bound? port = .ok p → faults = n.bindFaults) ∧
      ∀ f, n.bound? port = .error f → chosen = n.chosenPorts := by
  rcases bind_spec port { n with unbound := ⟨server, false⟩ :: n.unbound } with
    ⟨faults, chosen, hbind, hfaults, hchosen⟩
  -- Which sockets there are makes no difference to what a port can be bound to.
  have hsame : ({ n with unbound := ⟨server, false⟩ :: n.unbound } : Network).bound? port =
      n.bound? port := rfl
  rw [hsame] at hbind hfaults hchosen
  refine ⟨faults, chosen, ?_, hfaults, hchosen⟩
  rw [bindSocket, Act.runFrom_bind_ok (Act.runFrom_modify _ n),
    Act.runFrom_bind_ok (Act.runFrom_attempt _ _), hbind]
  rcases n.bound? port with f | p
  · cases f <;> rfl
  · rfl

/-- A server whose port cannot be bound is left with a registry that is frozen. -/
theorem startServer_of_error {n n₁ n₂ : Network} {s : Server} {f : Failure}
    (hs : n.servers[server]? = some s) (hcreated : s.status = .created)
    (hfreeze : (modifyServer server fun s => { s with registry := s.registry.freeze }).runFrom n =
      (.ok (), n₁)) (hbind : (bindSocket server s.port).runFrom n₁ = (.error f, n₂)) :
    (startServer sch server).runFrom n = (.error (s.startFailure f), n₂) := by
  rw [startServer, withServer, Act.runFrom_bind_ok (Act.runFrom_get n)]
  simp only [hs]
  rw [if_neg (not_not_intro hcreated), Act.runFrom_bind_ok hfreeze,
    Act.runFrom_bind_ok (Act.runFrom_attempt _ n₁), hbind]
  cases f with
  | _ => rfl

/-- If its port has been bound, it listens from then on and waits for clients. -/
theorem startServer_of_ok {n n₁ n₂ : Network} {s : Server} {port : Port}
    (hs : n.servers[server]? = some s) (hcreated : s.status = .created)
    (hfreeze : (modifyServer server fun s => { s with registry := s.registry.freeze }).runFrom n =
      (.ok (), n₁)) (hbind : (bindSocket server s.port).runFrom n₁ = (.ok port, n₂)) :
    (startServer sch server).runFrom n = (do
      modifyServer server fun s =>
        { s with port := port, status := .opened, listener := some {}, acceptor := .waiting }
      sch.wakeAcceptor server
      note (.logged .info "server_listening"
        [.text "host" s.host, .int "port" port,
          .text "terminator" (Bytes.hex s.behavior.terminator),
          .nat "responses" s.registry.size]) : Act Network Unit).runFrom n₂ := by
  rw [startServer, withServer, Act.runFrom_bind_ok (Act.runFrom_get n)]
  simp only [hs]
  rw [if_neg (not_not_intro hcreated), Act.runFrom_bind_ok hfreeze,
    Act.runFrom_bind_ok (Act.runFrom_attempt _ n₁), hbind]

/-- A server that is to be started for the first time is not, or begins to listen, and then its
    thread is woken. -/
theorem startServer_begins (sch : Scheduler) (hs : n.servers[server]? = some s)
    (hcreated : s.status = .created) :
    (∃ f n', (startServer sch server).runFrom n = (.error f, n') ∧ Ages n n') ∨
    ∃ o n', (startServer sch server).runFrom n =
        (do sch.wakeAcceptor server; note o : Act Network Unit).runFrom n' ∧ Ages n n' := by
  rcases modifyServer_spec (f := fun s => { s with registry := s.registry.freeze }) hs
    (.of_phase rfl) with ⟨n₁, hset, h₁, hs₁⟩
  rcases bindSocket_spec server s.port n₁ with ⟨faults, chosen, hbind, -, -⟩
  generalize hn₂ : ({ n₁ with
    bindFaults := faults
    chosenPorts := chosen
    unbound := n₁.unboundAfter server (n₁.bound? s.port) } : Network) = n₂ at hbind
  have h₂ : Ages n n₂ := by
    rw [← hn₂]
    exact ages_path.trans h₁ (ages_of_phases rfl rfl)
  have hservers : n₂.servers = n₁.servers := by rw [← hn₂]
  rw [← hservers] at hs₁
  cases hport : n₁.bound? s.port with
  | error f =>
      rw [hport] at hbind
      exact .inl ⟨_, n₂, startServer_of_error hs hcreated hset hbind, h₂⟩
  | ok port =>
      rw [hport] at hbind
      -- The server has not been started yet, so anything may become of it.
      have hstarted : ({ s with registry := s.registry.freeze } : Server).Ages
          { s with registry := s.registry.freeze, port := port, status := .opened,
                   listener := some {}, acceptor := .waiting } :=
        ⟨fun h => (h hcreated).elim, fun h => (h hcreated).elim, fun h => (h hcreated).elim,
          fun h => by injection hcreated.symm.trans h, rfl, fun _ h => by injection h⟩
      rcases modifyServer_spec (f := fun s => { s with
        port := port, status := .opened, listener := some {}, acceptor := .waiting }) hs₁
        hstarted with ⟨n₃, hlisten, h₃, -⟩
      have hrun : ∃ o, (startServer sch server).runFrom n =
          (do sch.wakeAcceptor server; note o : Act Network Unit).runFrom n₃ :=
        ⟨_, (startServer_of_ok hs hcreated hset hbind).trans (Act.runFrom_bind_ok hlisten _)⟩
      rcases hrun with ⟨o, hrun⟩
      exact .inr ⟨o, n₃, hrun, ages_path.trans h₂ h₃⟩

theorem startServer_ages (h : sch.Follows Ages) (server : ServerId) :
    Moves Ages (startServer sch server) := by
  intro n
  cases hs : n.servers[server]? with
  | none =>
      rw [startServer, withServer, Act.runFrom_bind_ok (Act.runFrom_get n), hs]
      exact ages_path.refl n
  | some s =>
      by_cases hcreated : s.status = .created
      · rcases startServer_begins sch hs hcreated with
          ⟨f, n₁, hrun, h₁⟩ | ⟨o, n₁, hrun, h₁⟩
        · rw [hrun]
          exact h₁
        · rw [hrun]
          exact ages_path.trans h₁
            (Moves.bind ages_path (h.wakeAcceptor server) (fun _ => h.note_moves o) n₁)
      · rw [startServer, withServer, Act.runFrom_bind_ok (Act.runFrom_get n), hs]
        dsimp only
        rw [if_pos hcreated]
        exact ages_path.refl n

end

end

/-! ### Everything -/

/-- However many wakings may follow one another, all threads follow it. -/
theorem ages_ofPatience (k : Nat) : (Scheduler.ofPatience k).Follows Ages := by
  induction k with
  | zero =>
      -- Nobody is woken up at all.
      have hpure : Moves Ages (pure () : Act Network Unit) := Moves.pure ages_path ()
      exact { ages_passable with
        wakeWorker _ := hpure, wakeAcceptor _ := hpure, closeServer _ := hpure }
  | succ k ih =>
      exact { ages_passable with
        wakeWorker := serve_ages ih
        wakeAcceptor := acceptNext_ages ih
        closeServer := closeServer_ages ih (Scheduler.reliable_ofPatience k) }

/-- At rest, a server that is closed does not listen any more and is closed, and the servers
    around it have gone on as they may. -/
theorem closeServer_closes (k : Nat) {server : ServerId} {n : Network} {s : Server}
    (hs : n.servers[server]? = some s) (hfree : s.closeUnderWay = false) (hsealed : s.Sealed)
    (hn : n.SystemErrorsAtShutdown) :
    ∃ n' s', (closeServer (.ofPatience k) server).runFrom n = (.ok (), n') ∧ Ages n n' ∧
      n'.servers[server]? = some s' ∧ s'.status = .closed ∧ s'.listener.isSome = false := by
  rcases closeServer_spec (ages_ofPatience k) (Scheduler.reliable_ofPatience k) server n with
    ⟨r, n', hrun, hages, hclosed⟩
  rcases hclosed s hs hfree hsealed hn with ⟨rfl, s', hs', hstatus, hdeaf⟩
  exact ⟨n', s', hrun, hages, hs', hstatus, hdeaf⟩

theorem addServer_ages {s : Server} (hs : s.Idle) : Moves Ages (addServer s) := by
  refine Moves.bind ages_path (Moves.get ages_path) fun n => ?_
  refine Moves.bind ages_path (Moves.modify fun n => ?_) fun _ => Moves.pure ages_path _
  refine ⟨fun {id t} ht => ⟨t, ?_, .refl t⟩, fun {id t} hnone ht => ?_, fun hn => hn⟩
  · have hlt : id < n.servers.size := (Array.getElem?_eq_some_iff.mp ht).1
    simp only [Array.getElem?_push, Nat.ne_of_lt hlt, if_false, ht]
  · simp only [Array.getElem?_push, hnone] at ht
    split at ht
    · injection ht with ht
      exact ht ▸ hs
    · injection ht

/-- A server that has just been created is not being closed. -/
theorem idle_create (settings : Settings) (port : Option Port) (host : Option Text)
    (behavior : Option Behavior) (registry : Option Registry) (hooks : Option (List Hook))
    (dispatcher : Option Dispatcher) (readTimeout : Option Seconds) :
    (Server.create settings port host behavior registry hooks dispatcher readTimeout).Idle :=
  ⟨rfl, fun h => by injection h⟩

/-- An operation, as long as a socket that is to refuse to be shut down is to do so with an error of
    the system. -/
theorem operate_ages (k : Nat) {o : Operation}
    (ho : ∀ port f, o = .failShutdown port f → ∃ e, f = .system e) :
    Moves Ages (operate (.ofPatience k) o) := by
  have h := ages_ofPatience k
  refine operate_follows h (by intros; exact addServer_ages (idle_create ..)) (startServer_ages h)
    (closeServer_ages h (Scheduler.reliable_ofPatience k)) ?_ ?_
  · rintro port f - n
    exact ages_of_phases rfl rfl
  · rintro port f hfail n
    refine ages_of_servers rfl fun hn x hx => ?_
    rcases List.mem_append.mp hx with hx | hx
    · exact hn x hx
    · cases List.mem_singleton.mp hx
      exact ho port f hfail

/-- Any number of operations. -/
theorem operateAll_ages (k : Nat) {ops : List Operation}
    (hops : ∀ port f, .failShutdown port f ∈ ops → ∃ e, f = .system e) :
    Moves Ages (operateAll (.ofPatience k) ops) :=
  operateAll_moves ages_path fun _ ho => operate_ages k fun port f hfail => hops port f (hfail ▸ ho)

end Network

end MockHost
