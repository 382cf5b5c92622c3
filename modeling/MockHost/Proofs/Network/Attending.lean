import MockHost.Proofs.Network.Operations

/-!
# What Threads Leave of Those That Accept Clients

A server accepts clients in a thread of its own, and this thread does more than wait:
it builds the connection of each client, calls the hooks and starts the thread of the
connection. It must not end in the midst of that, and no client may be left behind
with a socket and nobody to serve it.

Both are looked at for every step of every thread. Threads that accept clients end
because their server is to stop, or because the pattern that connections were to be
given cannot be used, which shows in the trace; that is kept by all steps. And a
connection that has its socket has a thread: whatever happens to a connection, if it
is not served afterwards it has lost its socket or was not served before. The thread
that accepts clients is the only one for which this does not hold at every moment,
but it holds again when it is done with a client.

## Main definitions

* `Network.Accepting`: Why threads that accept clients have ended.
* `Served.Develops`: What may become of a connection.
* `Network.Attends`: Steps that keep the first and let connections develop.

## Theorems

* `Network.attends_admissible`: The steps that are much the same for any relation.
* `Scheduler.reliable_ofPatience`: No thread fails when it is woken.
* `Network.serve_attends`: The thread of a connection.
-/

namespace MockHost

open Act (Moves Succeeds Harmless)

/-- A connection that may be served, but is not: it has its socket, and its thread has not been
    started or has ended. -/
structure Served.Adrift (x : Served) : Prop where
  hasSocket : x.connection.hasSocket = true
  worker : x.connection.worker = .notStarted ∨ x.connection.worker = .ended

/-- What may become of a connection: it gets no socket, and if it is adrift then it has been so
    in the same way before. -/
structure Served.Develops (x x' : Served) : Prop where
  link : x'.link = x.link
  server : x'.server = x.server
  hasSocket : x'.connection.hasSocket = true → x.connection.hasSocket = true
  worker : x'.Adrift → x.connection.worker = x'.connection.worker

namespace Served.Develops

theorem refl (x : Served) : x.Develops x := ⟨rfl, rfl, id, fun _ => rfl⟩

theorem adrift {x x' : Served} (h : x.Develops x') (hadrift : x'.Adrift) : x.Adrift :=
  ⟨h.hasSocket hadrift.hasSocket, by rw [h.worker hadrift]; exact hadrift.worker⟩

theorem trans {x x' x'' : Served} (h : x.Develops x') (h' : x'.Develops x'') : x.Develops x'' where
  link := h'.link.trans h.link
  server := h'.server.trans h.server
  hasSocket hsocket := h.hasSocket (h'.hasSocket hsocket)
  worker hadrift := (h.worker (h'.adrift hadrift)).trans (h'.worker hadrift)

end Served.Develops

namespace Network

/-- A pattern that connections were to be given could not be used, and the thread that had
    accepted a client has died of it. -/
def Refused (n : Network) (s : Server) : Prop :=
  ∃ source e, Expectation.compile source = .error e ∧
    .threadDied s.threadName (Failure.pattern source e).unhandledLabel
      (Failure.pattern source e).message ∈ n.trace.toList

/-- Waiting for a client fails with errors of the system only, and if a thread that accepts
    clients has ended then because its server is to stop, or because of a pattern. -/
structure Accepting (n : Network) : Prop where
  faults : ∀ x ∈ n.acceptFaults, ∃ e, x.2 = .system e
  ended : ∀ {server : ServerId} {s : Server}, n.servers[server]? = some s →
    s.acceptor = .ended → s.stopping = true ∨ n.Refused s

/-- A step of any thread after which threads that accept clients have ended for no other
    reasons than before, and connections have developed. New ones are not adrift. -/
structure Attends (n n' : Network) : Prop where
  accepting : n.Accepting → n'.Accepting
  develops : ∀ {id : ConnectionId} {x : Served}, n.connections[id]? = some x →
    ∃ x', n'.connections[id]? = some x' ∧ x.Develops x'
  fresh : ∀ {id : ConnectionId} {x' : Served}, n.connections[id]? = none →
    n'.connections[id]? = some x' → ¬ x'.Adrift

/-- What the connection has become that a step finds at the same place. -/
theorem Attends.between {n n' : Network} (h : Attends n n') {id : ConnectionId} {x x' : Served}
    (hx : n.connections[id]? = some x) (hx' : n'.connections[id]? = some x') : x.Develops x' := by
  rcases h.develops hx with ⟨y, hy, hdevelops⟩
  rw [hx'] at hy
  injection hy with hy
  rwa [hy]

theorem attends_path : Act.Path Attends where
  refl n := ⟨id, fun {_} x hx => ⟨x, hx, .refl x⟩, fun hnone hx => by
    rw [hnone] at hx
    injection hx⟩
  trans := by
    intro n n' n'' h h'
    refine ⟨fun haccepting => h'.accepting (h.accepting haccepting), ?_, ?_⟩
    · intro id x hx
      rcases h.develops hx with ⟨x', hx', hdevelops⟩
      rcases h'.develops hx' with ⟨x'', hx'', hdevelops'⟩
      exact ⟨x'', hx'', hdevelops.trans hdevelops'⟩
    · intro id x'' hnone hx''
      cases hx' : n'.connections[id]? with
      | none => exact h'.fresh hx' hx''
      | some x' =>
          -- The connection is from the first step, and has developed in the second.
          exact fun hadrift => h.fresh hnone hx' ((h'.between hx' hx'').adrift hadrift)

/-! ### Steps of one kind -/

section

variable {n n' : Network} {id : ConnectionId} {server : ServerId}

/-- A step that lets servers be what they are, as far as it matters here. -/
theorem Accepting.of_servers (h : n.Accepting)
    (hservers : ∀ {server : ServerId} {s' : Server}, n'.servers[server]? = some s' →
      s'.acceptor = .ended → s'.stopping = true ∨ ∃ s, n.servers[server]? = some s ∧ s.acceptor = .ended ∧
        s.stopping = s'.stopping ∧ s.port = s'.port)
    (hfaults : n'.acceptFaults ⊆ n.acceptFaults) (htrace : n.trace.toList <+: n'.trace.toList) :
    n'.Accepting where
  faults x hx := h.faults x (hfaults hx)
  ended := by
    intro server s' hs' hended'
    rcases hservers hs' hended' with hstopping | ⟨s, hs, hended, hstopping, hport⟩
    · exact .inl hstopping
    · rcases h.ended hs hended with hstop | ⟨source, e, he, hdied⟩
      · exact .inl (hstopping ▸ hstop)
      · refine .inr ⟨source, e, he, htrace.subset ?_⟩
        rwa [Server.threadName, ← hport]

/-- More steps may follow that only concern servers, failures and the trace. -/
theorem Attends.extend {m : Network} (h : Attends m n) (hconnections : n'.connections = n.connections)
    (haccepting : m.Accepting → n'.Accepting) : Attends m n' where
  accepting := haccepting
  develops hx := by
    rw [hconnections]
    exact h.develops hx
  fresh hnone hx := by
    rw [hconnections] at hx
    exact h.fresh hnone hx

/-- A step that only concerns servers, failures and the trace. -/
theorem Attends.of_accepting (hconnections : n'.connections = n.connections)
    (h : n.Accepting → n'.Accepting) : Attends n n' :=
  (attends_path.refl n).extend hconnections h

theorem attends_modifyServer {f : Server → Server} (id : ServerId)
    (h : ∀ s, (f s).acceptor = .ended → (f s).stopping = true ∨ s.acceptor = .ended ∧
      s.stopping = (f s).stopping ∧ s.port = (f s).port) :
    Attends n { n with servers := n.servers.modify id f } := by
  refine .of_accepting rfl fun haccepting => haccepting.of_servers ?_ (List.Subset.refl _)
    (List.prefix_refl _)
  intro server s' hs' hended
  rw [Array.getElem?_modify] at hs'
  split at hs'
  · rcases Option.map_eq_some_iff.mp hs' with ⟨s, hs, rfl⟩
    rcases h s hended with hstopping | hsame
    · exact .inl hstopping
    · exact .inr ⟨s, hs, hsame⟩
  · exact .inr ⟨s', hs', hended, rfl, rfl⟩

/-- A step that only concerns connections. -/
theorem attends_modifyConnection {f : Connection → Connection} (id : ConnectionId)
    (h : ∀ x, n.connections[id]? = some x → x.Develops { x with connection := f x.connection }) :
    Attends n (modifyConnection id f n) := by
  refine ⟨fun haccepting => haccepting.of_servers (fun hs hended => .inr ⟨_, hs, hended, rfl, rfl⟩)
    (List.Subset.refl _) (List.prefix_refl _), ?_, ?_⟩
  · intro i x hx
    simp only [modifyConnection, Array.getElem?_modify]
    split
    · rename_i hi
      subst hi
      rw [hx]
      exact ⟨_, rfl, h x hx⟩
    · exact ⟨x, hx, .refl x⟩
  · intro i x' hnone hx'
    simp only [modifyConnection, Array.getElem?_modify, hnone, Option.map_none, ite_self] at hx'
    injection hx'

theorem Still.attends (h : Still n n') : Attends n n' := by
  refine ⟨fun haccepting => haccepting.of_servers ?_ h.faults h.trace, ?_, ?_⟩
  · intro server s' hs' hended
    rcases h.server hs' with ⟨s, hs, hstand⟩
    simp only [Server.stand, Prod.mk.injEq] at hstand
    exact .inr ⟨s, hs, hstand.2.1.trans hended, hstand.2.2.1, hstand.2.2.2⟩
  · intro id x hx
    have hmap := congrArg (·[id]?) h.connections
    simp only [Array.getElem?_map, hx, Option.map_some] at hmap
    rcases Option.map_eq_some_iff.mp hmap with ⟨x', hx', hstand⟩
    simp only [Served.stand, Served.book, Prod.mk.injEq] at hstand
    rcases hstand with ⟨⟨hserver, hworker, -⟩, hlink, hsocket⟩
    exact ⟨x', hx', hlink, hserver, fun h => hsocket ▸ h, fun _ => hworker.symm⟩
  · intro id x' hnone hx'
    have hmap := congrArg (·[id]?) h.connections
    simp only [Array.getElem?_map, hnone, hx', Option.map_some, Option.map_none] at hmap
    injection hmap

/-- A connection without its socket is not adrift. -/
theorem attends_release (id : ConnectionId) (n : Network) :
    Attends n (modifyConnection id (fun c => { c with hasSocket := false }) n) := by
  refine attends_modifyConnection id fun x _ => ⟨rfl, rfl, fun h => ?_, fun h => ?_⟩
  · injection h
  · have hsocket := h.hasSocket
    injection hsocket

theorem attends_admissible : Admissible Attends where
  path := attends_path
  still := Still.attends
  release := attends_release
  stop server _ := attends_modifyServer server fun _ _ => .inl rfl
  listen server _ _ := attends_modifyServer server fun _ hended => Acceptor.noConfusion hended

end

end Network

/-! ### What cannot fail -/

/-- No thread fails when it is woken. -/
structure Scheduler.Reliable (sch : Scheduler) : Prop where
  wakeWorker : ∀ id, Succeeds (sch.wakeWorker id)
  wakeAcceptor : ∀ server, Succeeds (sch.wakeAcceptor server)

namespace Network

section

variable {sch : Scheduler}

theorem updateLink_succeeds (h : sch.Reliable) (id : LinkId) (l : Link) :
    Succeeds (updateLink sch id l) := by
  refine Succeeds.bind (Succeeds.modify _) fun _ => ?_
  rw [wakeServing]
  split
  · exact h.wakeWorker _
  · exact Succeeds.pure _

theorem withLink_harmless (id : LinkId) {a : Link → Act Network Unit} (ha : ∀ l, Harmless (a l)) :
    Harmless (withLink id a) := by
  intro n
  rw [withLink, Act.runFrom_bind_ok (Act.runFrom_get n)]
  split
  · exact ha _ n
  · exact ⟨n, .inl rfl⟩

/-- What a connection does with its socket fails with errors of the system only. -/
theorem sturdy (h : sch.Reliable) (t : Seconds) (id : ConnectionId) (served : Served) :
    (surroundings sch t id served).Sturdy where
  meanwhile := Succeeds.pure _
  note _ := Succeeds.modify _
  shutdown := by
    refine withLink_harmless served.link fun l => ?_
    split
    · exact fun n => ⟨n, .inr ⟨_, rfl⟩⟩
    · split
      · exact (Succeeds.modify _).harmless
      · exact (updateLink_succeeds h _ _).harmless
  close := withLink_harmless served.link fun _ => (updateLink_succeeds h _ _).harmless

theorem withConnection_succeeds (id : ConnectionId)
    {a : Surroundings Network → Served → Act Network Unit}
    (ha : ∀ t served, Succeeds (a (surroundings sch t id served) served)) :
    Succeeds (withConnection sch id a) := by
  refine Succeeds.bind Succeeds.get fun n => ?_
  split
  · exact ha _ _
  · exact Succeeds.pure _

theorem withServer_succeeds {α : Type} (id : ServerId) (missing : α) {a : Server → Act Network α}
    (ha : ∀ s, Succeeds (a s)) : Succeeds (withServer id missing a) := by
  refine Succeeds.bind Succeeds.get fun n => ?_
  split
  · exact ha _
  · exact Succeeds.pure _

/-- Whatever ends a thread, it ends by itself. -/
theorem endWorker_succeeds (id : ConnectionId) (w : Surroundings Network)
    (r : Except Failure Unit) : Succeeds (endWorker id w r) := by
  refine Succeeds.bind (Succeeds.attempt _) fun r => Succeeds.bind (Succeeds.modify _) fun _ => ?_
  split
  · exact Succeeds.pure _
  · exact Succeeds.bind Succeeds.get fun _ => Succeeds.modify _

theorem settle_succeeds (h : sch.Reliable) (id : ConnectionId) (w : Surroundings Network)
    (r : Except Failure (Option MessageStream)) : Succeeds (settle sch id w r) := by
  rcases r with f | _ | begun
  · exact endWorker_succeeds id w _
  · exact endWorker_succeeds id w _
  · exact Succeeds.bind (Succeeds.modify _) fun _ => h.wakeWorker id

theorem startWorker_succeeds (h : sch.Reliable) (id : ConnectionId) :
    Succeeds (startWorker sch id) := by
  refine withConnection_succeeds id fun t served => ?_
  split
  · refine Succeeds.bind (Succeeds.modify _) fun _ => ?_
    exact Succeeds.bind (Succeeds.attempt _) fun r => settle_succeeds h id _ r
  · exact Succeeds.pure _

theorem serve_succeeds (h : sch.Reliable) (id : ConnectionId) : Succeeds (serve sch id) := by
  refine withConnection_succeeds id fun t served => ?_
  split
  · refine Succeeds.bind Succeeds.get fun n => ?_
    split
    · refine Succeeds.bind Succeeds.get fun n => ?_
      split
      · exact Succeeds.pure _
      · refine Succeeds.bind (Succeeds.modify _) fun _ => Succeeds.bind (Succeeds.modify _) fun _ => ?_
        exact Succeeds.bind (Succeeds.attempt _) fun r => settle_succeeds h id _ r
    · exact Succeeds.pure _
  · exact Succeeds.pure _

/-- Hooks may fail, but that is only logged. -/
theorem introduce_succeeds (id : ConnectionId) (port : Port) :
    Succeeds (introduce sch id port) := by
  refine withConnection_succeeds id fun t served => Succeeds.bind (Succeeds.attempt _) fun r => ?_
  split
  · exact Succeeds.pure _
  · exact Succeeds.modify _

theorem closeConnection_succeeds (h : sch.Reliable) (id : ConnectionId) :
    Succeeds (closeConnection sch id) :=
  withConnection_succeeds id fun t served => (sturdy h t id served).closing

theorem goOnAccepting_succeeds (h : sch.Reliable) (server : ServerId) :
    Succeeds (goOnAccepting sch server) := by
  refine withServer_succeeds server () fun s => ?_
  split
  · exact Succeeds.bind (Succeeds.modify _) fun _ => Succeeds.modify _
  · exact Succeeds.bind (Succeeds.modify _) fun _ => h.wakeAcceptor server

theorem nextKnock_succeeds (server : ServerId) : Succeeds (nextKnock server) := by
  refine withServer_succeeds server none fun s => Succeeds.bind Succeeds.get fun n => ?_
  split
  · exact Succeeds.bind (Succeeds.modify _) fun _ => Succeeds.pure _
  · split
    · exact Succeeds.pure _
    · exact Succeeds.bind (Succeeds.modify _) fun _ => Succeeds.pure _
    · exact Succeeds.pure _
    · exact Succeeds.pure _

theorem acceptNext_succeeds (h : sch.Reliable) (server : ServerId) :
    Succeeds (acceptNext sch server) := by
  refine withServer_succeeds server () fun s => ?_
  split
  · refine Succeeds.bind (nextKnock_succeeds server) fun knock => ?_
    split
    · exact Succeeds.pure _
    · refine Succeeds.bind (Succeeds.modify _) fun _ => Succeeds.bind (Succeeds.attempt _) fun r => ?_
      split
      · exact goOnAccepting_succeeds h server
      · exact Succeeds.bind (Succeeds.modify _) fun _ => Succeeds.modify _
  · exact Succeeds.pure _

end

end Network

/-- However many wakings may follow one another, no thread fails. -/
theorem Scheduler.reliable_ofPatience (k : Nat) : (Scheduler.ofPatience k).Reliable := by
  induction k with
  | zero => exact ⟨fun _ => Succeeds.pure _, fun _ => Succeeds.pure _⟩
  | succ k ih => exact ⟨Network.serve_succeeds ih, Network.acceptNext_succeeds ih⟩

namespace Network

/-! ### The thread of a connection -/

section

variable {sch : Scheduler} {n : Network} (t : Seconds) (id : ConnectionId) (served : Served)

theorem attends_setWorker {worker : Worker} (id : ConnectionId) (hnot : worker ≠ .notStarted)
    (hended : worker ≠ .ended) : Moves Attends (setWorker id worker) :=
  Moves.modify fun n => attends_modifyConnection (n := n) (f := Connection.withWorker worker) id
    fun _ _ => ⟨rfl, rfl, fun h => h, fun h => (h.worker.elim hnot hended).elim⟩

/-- A change of a connection that concerns neither its thread nor its socket. -/
theorem change_attends {f : Connection → Connection} (hworker : ∀ c, (f c).worker = c.worker)
    (hsocket : ∀ c, (f c).hasSocket = c.hasSocket) :
    Moves Attends (Connection.change (surroundings sch t id served) f) :=
  Moves.modify fun n => attends_modifyConnection (n := n) (f := f) id fun x _ =>
    ⟨rfl, rfl, fun h => (hsocket x.connection).symm.trans h, fun _ => (hworker x.connection).symm⟩

theorem record_attends (call : Call) :
    Moves Attends (Connection.record (surroundings sch t id served) call) :=
  change_attends t id served (fun _ => rfl) fun _ => rfl

theorem countMessage_attends (server : ServerId) : Moves Attends (countMessage server id) := by
  refine Moves.bind attends_path (Moves.get attends_path) fun n => ?_
  split
  · exact Moves.pure attends_path _
  · exact Moves.modify fun n => attends_modifyServer (n := n) server
      fun s hended => .inr ⟨hended, rfl, rfl⟩

theorem forget_attends (server : ServerId) : Moves Attends (forget server id) := by
  refine attends_admissible.withServer_moves server () fun s => ?_
  split
  · refine Moves.bind attends_path (Moves.get attends_path) fun n => ?_
    refine Moves.bind attends_path ?_ fun _ => attends_admissible.note_moves _
    exact Moves.modify fun n => attends_modifyServer (n := n) server
      fun s hended => .inr ⟨hended, rfl, rfl⟩
  · exact Moves.pure attends_path _

theorem serving_attends (h : sch.Admits Attends) :
    (surroundings sch t id served).Serving Attends where
  toCalling := h.calling t id served
  record _ := record_attends t id served _
  greet s := by
    have calling := h.calling t id served
    refine Moves.bind attends_path (change_attends t id served (fun _ => rfl) fun _ => rfl)
      fun _ => ?_
    refine Moves.bind attends_path (calling.judge s) fun _ => ?_
    refine calling.announced (fun _ _ => record_attends t id served _)
      (fun _ => record_attends t id served _) ?_
    refine Moves.bind attends_path calling.current fun c => ?_
    exact Moves.bind attends_path (calling.callHooks _ _) fun _ => countMessage_attends id _
  sendToPeer := h.sendToPeer_moves t id served
  dispatch d deliveries := Dispatcher.dispatchAll_moves h.transport d deliveries
  withRecords _ := change_attends t id served (fun _ => rfl) fun _ => rfl

/-- A connection that is there is the one that is looked at. -/
theorem current_found {x : Served} (hx : n.connections[id]? = some x) :
    (Connection.current (surroundings sch t id served)).runFrom n = (.ok x.connection, n) := by
  have hcurrent : (surroundings sch t id served).connection n = x.connection := by
    change ((n.connections[id]?).map (·.connection)).getD served.connection = x.connection
    rw [hx]
    rfl
  rw [current_runFrom, hcurrent]

/-- When the socket has been released, it is gone for good. -/
theorem releaseSocket_attends (h : sch.Admits Attends) {x : Served}
    (hx : n.connections[id]? = some x) :
    ∃ x', ((Connection.releaseSocket (surroundings sch t id served)).runFrom n).2.connections[id]? =
      some x' ∧ x'.connection.hasSocket = false := by
  rw [Connection.releaseSocket, Act.runFrom_bind_ok (current_found t id served hx)]
  split
  · rw [Act.runFrom_bind_ok (change_runFrom t id served _ n)]
    have hx₁ : (modifyConnection id (fun c => { c with hasSocket := false }) n).connections[id]? =
        some { x with connection := { x.connection with hasSocket := false } } := by
      simp only [modifyConnection, Array.getElem?_modify, if_pos, hx, Option.map_some]
    -- What is left is recorded and closed, and no step of it could bring the socket back.
    have hrecord : Moves Attends (Connection.record (surroundings sch t id served) .close) :=
      h.record_moves t id served rfl
    have hrest := Moves.bind h.path hrecord (fun _ =>
      (h.closing t id served).attempt (h.close_moves .server served.link) .warning
        "connection_socket_close_failed")
      (modifyConnection id (fun c => { c with hasSocket := false }) n)
    rcases hrest.develops hx₁ with ⟨x', hx', hdevelops⟩
    refine ⟨x', hx', ?_⟩
    exact Bool.eq_false_iff.mpr fun hsocket => Bool.noConfusion (hdevelops.hasSocket hsocket)
  · rename_i hsocket
    exact ⟨x, hx, Bool.eq_false_iff.mpr hsocket⟩

theorem notifyClosed_attends (h : sch.Admits Attends) :
    Moves Attends (Connection.notifyClosed (surroundings sch t id served)) := by
  have calling := h.calling t id served
  have hannounced : Moves Attends (Connection.callOnClose (surroundings sch t id served)) := by
    refine calling.announced (fun _ _ => record_attends t id served _)
      (fun _ => record_attends t id served _) ?_
    refine Moves.bind attends_path calling.current fun c => ?_
    exact Moves.andFinally attends_path (calling.callEveryHook _ _) (forget_attends id _)
  refine Moves.bind attends_path hannounced.attempt fun r => ?_
  split
  · exact Moves.pure attends_path _
  · exact calling.log _ _ _

/-- A thread that comes to its end has released the socket. -/
theorem conclude_attends (h : sch.Admits Attends) (hr : sch.Reliable) (r : Except Failure Unit)
    {x : Served} (hx : n.connections[id]? = some x) :
    let n' := ((Connection.conclude (surroundings sch t id served) r).runFrom n).2
    Attends n n' ∧ ∃ x', n'.connections[id]? = some x' ∧ x'.connection.hasSocket = false := by
  intro n'
  have closing := h.closing t id served
  have hsturdy := sturdy hr t id served
  rcases hsturdy.reportEnd r n with ⟨_, n₁, hn₁⟩
  have h₁ : Attends n n₁ := (closing.reportEnd r).reaches hn₁
  generalize hn₂ : modifyConnection id (fun c => { c with status := .closed }) n₁ = n₂
  have h₂ : Attends n n₂ := by
    rw [← hn₂]
    exact attends_path.trans h₁ (closing.change Connection.modest_closed n₁)
  rcases hsturdy.releaseSocket n₂ with ⟨_, n₃, hn₃⟩
  have h₃ : Attends n n₃ :=
    attends_path.trans h₂ ((h.releaseSocket_moves t id served).reaches hn₃)
  rcases h₂.develops hx with ⟨x₂, hx₂, -⟩
  rcases releaseSocket_attends t id served h hx₂ with ⟨x₃, hx₃, hsocket⟩
  rw [hn₃] at hx₃
  have hrun : n' = ((Connection.notifyClosed (surroundings sch t id served)).runFrom n₃).2 := by
    change ((Connection.conclude (surroundings sch t id served) r).runFrom n).2 = _
    rw [Connection.conclude, Act.runFrom_bind_ok hn₁,
      Act.runFrom_bind_ok (change_runFrom t id served _ n₁), hn₂, Act.runFrom_bind_ok hn₃]
  have h₄ := notifyClosed_attends t id served h n₃
  rw [← hrun] at h₄
  rcases h₄.develops hx₃ with ⟨x', hx', hdevelops⟩
  refine ⟨attends_path.trans h₃ h₄, x', hx', Bool.eq_false_iff.mpr fun hx'socket => ?_⟩
  rw [hdevelops.hasSocket hx'socket] at hsocket
  exact Bool.noConfusion hsocket

theorem endWorker_attends (h : sch.Admits Attends) (hr : sch.Reliable) (r : Except Failure Unit)
    {x : Served} (hx : n.connections[id]? = some x) :
    Attends n ((endWorker id (surroundings sch t id served) r).runFrom n).2 := by
  rcases conclude_attends t id served h hr r hx with ⟨h₁, x₁, hx₁, hsocket⟩
  rw [endWorker, Act.runFrom_bind_ok (Act.runFrom_attempt _ _)]
  generalize ((Connection.conclude (surroundings sch t id served) r).runFrom n).2 = n₁ at h₁ hx₁
  have h₂ : Attends n₁ (modifyConnection id (Connection.withWorker .ended) n₁) := by
    refine attends_modifyConnection id fun y hy => ⟨rfl, rfl, fun h => h, fun hadrift => ?_⟩
    -- It has lost its socket, so that it is not adrift though its thread has ended.
    rw [hx₁] at hy
    injection hy with hy
    subst hy
    exact absurd hadrift.hasSocket (Bool.eq_false_iff.mp hsocket)
  refine attends_path.trans h₁ (attends_path.trans h₂ ?_)
  cases ((Connection.conclude (surroundings sch t id served) r).runFrom n).1 with
  | ok _ => exact attends_path.refl _
  | error f => exact attends_admissible.note_moves _ _

theorem settle_attends (h : sch.Admits Attends) (hr : sch.Reliable)
    (r : Except Failure (Option MessageStream)) {x : Served} (hx : n.connections[id]? = some x) :
    Attends n ((settle sch id (surroundings sch t id served) r).runFrom n).2 := by
  rcases r with f | _ | begun
  · exact endWorker_attends t id served h hr _ hx
  · exact endWorker_attends t id served h hr _ hx
  · exact Moves.bind attends_path
      (attends_setWorker id (fun h => Worker.noConfusion h) fun h => Worker.noConfusion h)
      (fun _ => h.wakeWorker id) n

end

section

variable {sch : Scheduler} {n : Network} {id : ConnectionId}

/-- What a thread does that has been started or woken, until it waits again or ends. -/
theorem running_attends (h : sch.Admits Attends) (hr : sch.Reliable) (t : Seconds)
    (served : Served) {a : Act Network (Option MessageStream)} (ha : Moves Attends a) {x : Served}
    (hx : n.connections[id]? = some x) :
    let n' := ((do
      setWorker id .running
      settle sch id (surroundings sch t id served) (← Act.attempt a) : Act Network Unit).runFrom n).2
    Attends n n' ∧ ∃ x', n'.connections[id]? = some x' ∧ ¬ x'.Adrift := by
  intro n'
  have h₁ : Attends n (modifyConnection id (Connection.withWorker .running) n) :=
    attends_setWorker id (fun h => Worker.noConfusion h) (fun h => Worker.noConfusion h) n
  have hx₁ : (modifyConnection id (Connection.withWorker .running) n).connections[id]? =
      some { x with connection := x.connection.withWorker .running } := by
    simp only [modifyConnection, Array.getElem?_modify, if_pos, hx, Option.map_some]
  have h₂ := ha (modifyConnection id (Connection.withWorker .running) n)
  rcases h₂.develops hx₁ with ⟨x₂, hx₂, hdevelops₂⟩
  have h₃ := settle_attends t id served h hr
    (a.runFrom (modifyConnection id (Connection.withWorker .running) n)).1 hx₂
  rcases h₃.develops hx₂ with ⟨x', hx', hdevelops₃⟩
  refine ⟨attends_path.trans h₁ (attends_path.trans h₂ h₃), x', hx', fun hadrift => ?_⟩
  -- If it were adrift now, then its thread would not have been running.
  have hworker := (hdevelops₂.trans hdevelops₃).worker hadrift
  rcases hadrift.worker with hnot | hended
  · exact Worker.noConfusion (hworker.trans hnot)
  · exact Worker.noConfusion (hworker.trans hended)

/-- Once it has been started, the thread of a connection serves it, unless it had ended
    before. -/
theorem startWorker_attends (h : sch.Admits Attends) (hr : sch.Reliable) {x : Served}
    (hx : n.connections[id]? = some x) (hended : x.Adrift → x.connection.worker = .notStarted) :
    let n' := ((startWorker sch id).runFrom n).2
    Attends n n' ∧ ∃ x', n'.connections[id]? = some x' ∧ ¬ x'.Adrift := by
  intro n'
  have hrun : n' = ((startWorker sch id).runFrom n).2 := rfl
  rw [startWorker, withConnection, Act.runFrom_bind_ok (Act.runFrom_get n)] at hrun
  simp only [hx] at hrun
  split at hrun
  · rw [hrun]
    exact running_attends h hr _ x ((serving_attends _ id x h).begin false) hx
  · -- Somebody has started it before, so that it is not adrift.
    rename_i hworker
    rw [hrun]
    exact ⟨attends_path.refl n, x, hx, fun hadrift => hworker (hended hadrift)⟩

theorem serve_attends (h : sch.Admits Attends) (hr : sch.Reliable) (id : ConnectionId) :
    Moves Attends (serve sch id) := by
  intro n
  rw [serve, withConnection, Act.runFrom_bind_ok (Act.runFrom_get n)]
  cases hx : n.connections[id]? with
  | none => exact attends_path.refl n
  | some x =>
      dsimp only
      split
      · rename_i begun _
        rw [withLink, Act.runFrom_bind_ok (Act.runFrom_get n)]
        split
        · rw [Act.runFrom_bind_ok (Act.runFrom_get n)]
          split
          · exact attends_path.refl n
          · rename_i r l' _
            have h₁ : Attends n _ := attends_admissible.setLink_moves x.link l' n
            rcases h₁.develops hx with ⟨x₁, hx₁, -⟩
            have hreceive := (serving_attends n.settings.closeJoinTimeout id x h).receive false begun r
            exact attends_path.trans h₁ (running_attends h hr _ x hreceive hx₁).1
        · exact attends_path.refl n
      · exact attends_path.refl n

end

end Network

end MockHost
