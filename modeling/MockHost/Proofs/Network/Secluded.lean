import MockHost.Proofs.Network.Lifecycle

/-!
# Servers Without Clients

A server to which no client has come is alone in its network: its thread waits for
somebody, and when it is woken all it can find is that a wait has failed. Nothing that
happens to the server reaches any other, nor a connection or a link. This holds from the
moment when it is started until it is closed, as long as nobody connects in between, and
it is what allows to say of a new server exactly what it has come to.

That the waits may fail any number of times is why little can be said of the thread.

## Main definitions

* `Server.Lonely`, `Network.Secluded`: No client has come to a server.
* `Network.Unvisited`: No client waits for it, whoever may have come before.
* `Network.Apart`: Only one server has changed.
* `Network.Resumed`: Only its thread has.
* `Server.New`, `Server.listening`: A server before it is started, and after.
* `Network.freezing`: What starting a server does first.

## Theorems

* `Network.resumes_ofPatience`: A thread that is woken finds no client.
* `Network.startServer_refused`, `Network.startServer_listens`: What comes of a server that is
  started, wherever it stands.
* `Network.launch_spec`: What comes of a new server that is started at once.
* `Network.closeServer_apart`: A server without clients is closed apart from all others.
-/

namespace MockHost

open Act (Moves Succeeds)

/-- No client has come to the server. -/
structure Server.Lonely (s : Server) : Prop where
  live : s.live = []
  queue : ∀ x, s.listener = some x → x.queue = []

namespace Network

/-- No client has come to the server of a number. -/
def Secluded (server : ServerId) (n : Network) : Prop :=
  ∀ s, n.servers[server]? = some s → s.Lonely

/-- No client waits to be accepted by the server of a number. -/
def Unvisited (server : ServerId) (n : Network) : Prop :=
  ∀ s, n.servers[server]? = some s → ∀ x, s.listener = some x → x.queue = []

/-- Only one server has changed, apart from failures that have happened and the trace. -/
structure Apart (server : ServerId) (n n' : Network) : Prop where
  others : ∀ j, j ≠ server → n'.servers[j]? = n.servers[j]?
  size : n'.servers.size = n.servers.size
  links : n'.links = n.links
  connections : n'.connections = n.connections

/-- Of the server only the thread has changed. -/
structure Resumed (server : ServerId) (n n' : Network) : Prop extends Apart server n n' where
  self : ∀ s, n.servers[server]? = some s →
    ∃ a, n'.servers[server]? = some { s with acceptor := a }
  bindFaults : n'.bindFaults = n.bindFaults

/-- What a thread does which has no client to find. -/
def Resumes (server : ServerId) (n n' : Network) : Prop :=
  n.Unvisited server → Resumed server n n'

section

variable {server : ServerId} {n n' : Network}

theorem Apart.refl (server : ServerId) (n : Network) : Apart server n n :=
  ⟨fun _ _ => rfl, rfl, rfl, rfl⟩

theorem Apart.trans {n'' : Network} (h : Apart server n n') (h' : Apart server n' n'') :
    Apart server n n'' where
  others j hj := (h'.others j hj).trans (h.others j hj)
  size := h'.size.trans h.size
  links := h'.links.trans h.links
  connections := h'.connections.trans h.connections

theorem Resumed.refl (server : ServerId) (n : Network) : Resumed server n n where
  toApart := .refl server n
  self s hs := ⟨s.acceptor, hs⟩
  bindFaults := rfl

theorem Secluded.unvisited (hn : n.Secluded server) : n.Unvisited server :=
  fun s hs => (hn s hs).queue

theorem Resumed.thread (h : Resumed server n n') :
    ∃ a, n'.servers[server]? = n.servers[server]?.map fun s => { s with acceptor := a } := by
  cases hs : n.servers[server]? with
  | none =>
      -- There is no server of this number before nor after.
      have hsize := Array.getElem?_eq_none_iff.mp hs
      rw [← h.size] at hsize
      exact ⟨.ended, Array.getElem?_eq_none_iff.mpr hsize⟩
  | some s => exact h.self s hs

theorem Resumed.servers (h : Resumed server n n') :
    ∃ a, n'.servers = n.servers.modify server fun s => { s with acceptor := a } := by
  rcases h.thread with ⟨a, ha⟩
  refine ⟨a, Array.ext_getElem? fun j => ?_⟩
  rw [Array.getElem?_modify]
  by_cases hj : server = j
  · rw [if_pos hj, ← hj, ha]
  · rw [if_neg hj, h.others j (Ne.symm hj)]

/-- A server that has been woken was there before, with another thread. -/
theorem Resumed.before (h : Resumed server n n') {s' : Server}
    (hs' : n'.servers[server]? = some s') :
    ∃ s a, n.servers[server]? = some s ∧ s' = { s with acceptor := a } := by
  rcases h.thread with ⟨a, ha⟩
  rw [hs'] at ha
  rcases Option.map_eq_some_iff.mp ha.symm with ⟨s, hs, heq⟩
  exact ⟨s, a, hs, heq.symm⟩

theorem Resumed.unvisited (h : Resumed server n n') (hn : n.Unvisited server) :
    n'.Unvisited server := by
  intro s' hs'
  rcases h.before hs' with ⟨s, a, hs, rfl⟩
  exact hn s hs

theorem Resumed.secluded (h : Resumed server n n') (hn : n.Secluded server) :
    n'.Secluded server := by
  intro s' hs'
  rcases h.before hs' with ⟨s, a, hs, rfl⟩
  exact ⟨(hn s hs).live, (hn s hs).queue⟩

theorem resumes_path (server : ServerId) : Act.Path (Resumes server) where
  refl n _ := .refl server n
  trans h h' := by
    intro hn
    have h₁ := h hn
    have h₂ := h' (h₁.unvisited hn)
    refine ⟨h₁.toApart.trans h₂.toApart, fun s hs => ?_, h₂.bindFaults.trans h₁.bindFaults⟩
    rcases h₁.self s hs with ⟨a, ha⟩
    rcases h₂.self _ ha with ⟨a', ha'⟩
    exact ⟨a', ha'⟩

theorem apart_modifyServer (f : Server → Server) (server : ServerId) (n : Network) :
    Apart server n { n with servers := n.servers.modify server f } where
  others j hj := by
    simp only [Array.getElem?_modify, if_neg hj.symm]
  size := Array.size_modify
  links := rfl
  connections := rfl

theorem note_resumes (server : ServerId) (o : Occurrence) : Moves (Resumes server) (note o) :=
  fun _ _ => ⟨⟨fun _ _ => rfl, rfl, rfl, rfl⟩, fun s hs => ⟨s.acceptor, hs⟩, rfl⟩

theorem setAcceptor_resumes (server : ServerId) (a : Acceptor) :
    Moves (Resumes server) (setAcceptor server a) := by
  intro n _
  refine ⟨apart_modifyServer _ server n, fun s hs => ⟨a, ?_⟩, rfl⟩
  change (n.servers.modify server _)[server]? = _
  rw [Array.getElem?_modify, if_pos rfl, hs]
  rfl

theorem withServer_resumes {α : Type} (id : ServerId) (missing : α) {a : Server → Act Network α}
    (ha : ∀ s, Moves (Resumes server) (a s)) : Moves (Resumes server) (withServer id missing a) := by
  refine Moves.bind (resumes_path server) (Moves.get (resumes_path server)) fun n => ?_
  split
  · exact ha _
  · exact Moves.pure (resumes_path server) _

/-- Where no client waits, a wait for one finds that it has failed, or nothing. -/
theorem nextKnock_unvisited (hn : n.Unvisited server) :
    ∃ knock n', (nextKnock server).runFrom n = (.ok knock, n') ∧ Resumed server n n' ∧
      ∀ link, knock ≠ some (.client link) := by
  have hsame := Resumed.refl server n
  have hfault : ∀ (f : Failure) link, some (Knock.fault f) ≠ some (.client link) :=
    fun f link h => by injection h with h; injection h
  rw [nextKnock, withServer, Act.runFrom_bind_ok (Act.runFrom_get n)]
  cases hs : n.servers[server]? with
  | none => exact ⟨none, n, rfl, hsame, fun _ h => by injection h⟩
  | some s =>
      dsimp only
      rw [Act.runFrom_bind_ok (Act.runFrom_get n)]
      cases takeFault s.port n.acceptFaults with
      | some taken =>
          refine ⟨_, _, rfl, ⟨⟨fun _ _ => rfl, rfl, rfl, rfl⟩, ?_, rfl⟩, hfault taken.1⟩
          exact fun s' hs' => ⟨s'.acceptor, hs'⟩
      | none =>
          dsimp only
          cases hlistener : s.listener with
          | none => exact ⟨_, n, rfl, hsame, hfault _⟩
          | some x =>
              rcases x with ⟨queue, shut⟩
              have hqueue : queue = [] := hn s hs _ hlistener
              rw [hqueue]
              cases shut with
              | true => exact ⟨_, n, rfl, hsame, hfault _⟩
              | false => exact ⟨none, n, rfl, hsame, fun _ h => by injection h⟩

end

section

variable {sch : Scheduler} (server : ServerId)

theorem answerKnock_resumes (f : Failure) :
    Moves (Resumes server) (answerKnock sch server (.fault f)) := by
  have path := resumes_path server
  cases f with
  | system e =>
      rw [answerKnock]
      split
      · exact Moves.pure path _
      · refine withServer_resumes server () fun s => ?_
        split
        · exact note_resumes server _
        · exact Moves.pure path _
  | _ => exact Moves.throw path _

theorem goOnAccepting_resumes (hwake : Moves (Resumes server) (sch.wakeAcceptor server)) :
    Moves (Resumes server) (goOnAccepting sch server) := by
  have path := resumes_path server
  refine withServer_resumes server () fun s => ?_
  split
  · exact Moves.bind path (setAcceptor_resumes server _) fun _ => note_resumes server _
  · exact Moves.bind path (setAcceptor_resumes server _) fun _ => hwake

theorem acceptNext_resumes (hwake : Moves (Resumes server) (sch.wakeAcceptor server)) :
    Moves (Resumes server) (acceptNext sch server) := by
  have path := resumes_path server
  intro n hn
  rw [acceptNext, withServer, Act.runFrom_bind_ok (Act.runFrom_get n)]
  split
  · rename_i s _
    split
    · rcases nextKnock_unvisited hn with ⟨knock, n₁, hrun, hknock, hclient⟩
      rw [Act.runFrom_bind_ok hrun]
      cases knock with
      | none => exact hknock
      | some k =>
          cases k with
          | client link => exact (hclient link rfl).elim
          | fault f =>
              -- The failure is answered, and the thread goes on or ends.
              dsimp only
              refine path.trans (fun _ => hknock) (Moves.bind path
                (setAcceptor_resumes server _) (fun _ => ?_) n₁) hn
              refine Moves.bind path (answerKnock_resumes server f).attempt fun r => ?_
              split
              · exact goOnAccepting_resumes server hwake
              · exact Moves.bind path (setAcceptor_resumes server _) fun _ => note_resumes server _
    · exact .refl server n
  · exact .refl server n

/-- However many wakings may follow one another, a thread that is woken finds no client. -/
theorem resumes_ofPatience (k : Nat) (server : ServerId) :
    Moves (Resumes server) ((Scheduler.ofPatience k).wakeAcceptor server) := by
  induction k with
  | zero => exact Moves.pure (resumes_path server) _
  | succ k ih => exact acceptNext_resumes server ih

end

/-! ### Starting a server -/

end Network

namespace Server

/-- What a server has become when it listens on a port, wherever its thread is. -/
def listening (s : Server) (port : Port) (a : Acceptor) : Server :=
  { s with registry := s.registry.freeze, port := port, status := .opened,
           listener := some {}, acceptor := a }

/-- A server that has been created and nothing else. -/
structure New (s : Server) : Prop where
  status : s.status = .created
  listener : s.listener = none
  live : s.live = []
  free : s.closeUnderWay = false

theorem listening_lonely {s : Server} (h : s.New) (port : Port) (a : Acceptor) :
    (s.listening port a).Lonely :=
  ⟨h.live, fun x hx => by injection hx with hx; rw [← hx]⟩

end Server

namespace Network

section

variable {n n' : Network} {s : Server}

/-- What a port can be bound to depends on the servers that listen on it. -/
theorem bound?_congr (hfaults : n'.bindFaults = n.bindFaults)
    {port : Port} (hchosen : port = 0 → n'.chosenPorts = n.chosenPorts)
    (hlisten : (n'.servers.any fun s => s.listener.isSome && s.port == port) =
      n.servers.any fun s => s.listener.isSome && s.port == port) :
    n'.bound? port = n.bound? port := by
  rw [bound?, bound?, hfaults, listenerOn?, listenerOn?, Array.findIdx?_isSome,
    Array.findIdx?_isSome, hlisten]
  by_cases hport : port = 0
  · rw [hchosen hport]
  · rw [if_neg hport, if_neg hport]

theorem modify_push (xs : Array Server) (s : Server) (f : Server → Server) :
    (xs.push s).modify xs.size f = xs.push (f s) := by
  refine Array.ext_getElem? fun j => ?_
  simp only [Array.getElem?_modify, Array.getElem?_push]
  by_cases hj : j = xs.size
  · rw [if_pos hj.symm, if_pos hj, if_pos hj]
    rfl
  · rw [if_neg (Ne.symm hj), if_neg hj, if_neg hj]

theorem modify_modify (xs : Array Server) (i : Nat) (f g : Server → Server) :
    (xs.modify i f).modify i g = xs.modify i fun s => g (f s) := by
  refine Array.ext_getElem? fun j => ?_
  simp only [Array.getElem?_modify]
  split
  · rw [Option.map_map]
    rfl
  · rfl

/-- The server of a number with its registry frozen. -/
def freezing (server : ServerId) (n : Network) : Network :=
  { n with servers := n.servers.modify server fun s => { s with registry := s.registry.freeze } }

theorem freezing_runFrom (server : ServerId) (n : Network) :
    (modifyServer server fun s => { s with registry := s.registry.freeze }).runFrom n =
      (.ok (), n.freezing server) := rfl

/-- Whether a registry is frozen makes no difference to who listens. -/
theorem bound?_freezing (server : ServerId) (n : Network) (port : Port) :
    (n.freezing server).bound? port = n.bound? port := by
  refine bound?_congr (show (n.freezing server).bindFaults = n.bindFaults from rfl)
    (fun _ => rfl) ?_
  have hmap : (n.freezing server).servers.map (fun s => s.listener.isSome && s.port == port) =
      n.servers.map fun s => s.listener.isSome && s.port == port :=
    map_modify_of (f := fun s : Server => s.listener.isSome && s.port == port)
      (g := fun s => { s with registry := s.registry.freeze }) (fun _ => rfl) n.servers server
  have hany := congrArg (Array.any · id) hmap
  simp only [Array.any_map] at hany
  exact hany

section

variable {id : ServerId}

/-- A server whose port cannot be bound is what it was, with a registry that is frozen. The socket
    that was opened for it is left behind. -/
theorem startServer_refused (sch : Scheduler) (hs : n.servers[id]? = some s)
    (hcreated : s.status = .created) {f : Failure} (hbound : n.bound? s.port = .error f) :
    ∃ faults, (startServer sch id).runFrom n = (.error (s.startFailure f),
      { n.freezing id with
        bindFaults := faults
        unbound := ⟨id, f.system?.isSome⟩ :: n.unbound }) := by
  rw [← bound?_freezing id] at hbound
  rcases bindSocket_spec id s.port (n.freezing id) with ⟨faults, chosen, hbind, -, hchosen⟩
  rw [hbound, hchosen f hbound] at hbind
  exact ⟨faults, startServer_of_error hs hcreated (freezing_runFrom id n) hbind⟩

/-- Otherwise it listens. Its thread is woken at once, but there is no client for it to find, and
    nobody else has noticed. -/
theorem startServer_listens (k : Nat) (hs : n.servers[id]? = some s)
    (hcreated : s.status = .created) {port : Port} (hbound : n.bound? s.port = .ok port) :
    ∃ n' a, (startServer (.ofPatience k) id).runFrom n = (.ok (), n') ∧
      n'.servers = n.servers.modify id (fun s => s.listening port a) ∧ n'.links = n.links ∧
      n'.connections = n.connections ∧ n'.bindFaults = n.bindFaults := by
  rw [← bound?_freezing id] at hbound
  rcases bindSocket_spec id s.port (n.freezing id) with ⟨faults, chosen, hbind, hfaults, -⟩
  have hchosen : (bindSocket id s.port).runFrom (n.freezing id) =
      (.ok port, { n.freezing id with chosenPorts := chosen }) := by
    rw [hbind, hbound, hfaults port hbound]
    rfl
  -- What it is when it listens and its thread has not been woken yet.
  generalize hm : ({ n with
    servers := n.servers.modify id fun s => s.listening port .waiting
    chosenPorts := chosen } : Network) = m
  have hlisten : (modifyServer id fun s => { s with
      port := port, status := .opened, listener := some {}, acceptor := .waiting }).runFrom
        { n.freezing id with chosenPorts := chosen } = (.ok (), m) := by
    rw [← hm, modifyServer, Act.runFrom_modify, freezing, modify_modify]
    rfl
  have hservers : m.servers = n.servers.modify id fun s => s.listening port .waiting := hm ▸ rfl
  have hunvisited : m.Unvisited id := by
    intro s' hs' x hx
    rw [hservers, Array.getElem?_modify, if_pos rfl, hs] at hs'
    cases hs'
    injection hx with hx
    rw [← hx]
  rcases (Scheduler.reliable_ofPatience k).wakeAcceptor id m with ⟨_, m', hwake⟩
  have hresumed : Resumed id m m' := by
    have hresumes := resumes_ofPatience k id m hunvisited
    rwa [hwake] at hresumes
  rcases hresumed.servers with ⟨a, hwoken⟩
  rw [hservers, modify_modify] at hwoken
  have hrun : ∃ o, (startServer (.ofPatience k) id).runFrom n =
      (.ok (), { m' with trace := m'.trace.push o }) := by
    rw [startServer_of_ok hs hcreated (freezing_runFrom id n) hchosen]
    rw [Act.runFrom_bind_ok hlisten, Act.runFrom_bind_ok hwake]
    exact ⟨_, rfl⟩
  rcases hrun with ⟨o, hrun⟩
  exact ⟨_, a, hrun, hwoken, hresumed.links.trans (hm ▸ rfl),
    hresumed.connections.trans (hm ▸ rfl), hresumed.bindFaults.trans (hm ▸ rfl)⟩

end

/-- A server that is new listens after it has been started, if its port can be bound, and nobody
    else has noticed. Otherwise it is left with a registry that is frozen. -/
theorem launch_spec (k : Nat) (h : s.New) :
    ∃ n', n'.links = n.links ∧ n'.connections = n.connections ∧
      match n.bound? s.port with
      | .ok port => (startServer (.ofPatience k) n.servers.size).runFrom
            { n with servers := n.servers.push s } = (.ok (), n') ∧
          (∃ a, n'.servers = n.servers.push (s.listening port a)) ∧ n'.bindFaults = n.bindFaults
      | .error f => (startServer (.ofPatience k) n.servers.size).runFrom
            { n with servers := n.servers.push s } = (.error (s.startFailure f), n') ∧
          n'.servers = n.servers.push { s with registry := s.registry.freeze } := by
  generalize hm : ({ n with servers := n.servers.push s } : Network) = m
  have hservers : m.servers = n.servers.push s := hm ▸ rfl
  have hs : m.servers[n.servers.size]? = some s := by
    rw [hservers, Array.getElem?_push, if_pos rfl]
  -- The new server does not listen yet, so it is in nobody's way, not even in its own.
  have hbound : m.bound? s.port = n.bound? s.port := by
    refine bound?_congr (by rw [← hm]) (fun _ => by rw [← hm]) ?_
    rw [hservers, Array.any_push, h.listener, Option.isSome_none, Bool.false_and, Bool.or_false]
  cases hport : n.bound? s.port with
  | error f =>
      rcases startServer_refused (.ofPatience k) hs h.status (hbound.trans hport) with ⟨faults, hrun⟩
      refine ⟨_, ?_, ?_, hrun, ?_⟩
      · rw [← hm]
        rfl
      · rw [← hm]
        rfl
      · rw [freezing, hservers, modify_push]
  | ok port =>
      rcases startServer_listens k hs h.status (hbound.trans hport) with
        ⟨n', a, hrun, hlistening, hlinks, hconnections, hfaults⟩
      rw [hservers, modify_push] at hlistening
      exact ⟨n', hlinks.trans (hm ▸ rfl), hconnections.trans (hm ▸ rfl), hrun, ⟨a, hlistening⟩,
        hfaults.trans (hm ▸ rfl)⟩

/-! ### Closing a server without clients -/

/-- What leaves a server without clients alone with itself. -/
def Withdraws (server : ServerId) (n n' : Network) : Prop :=
  n.Secluded server → Apart server n n' ∧ n'.Secluded server

theorem withdraws_path (server : ServerId) : Act.Path (Withdraws server) where
  refl n hn := ⟨.refl server n, hn⟩
  trans h h' hn := ⟨(h hn).1.trans (h' (h hn).2).1, (h' (h hn).2).2⟩

theorem Resumes.withdraws {server : ServerId} (h : Resumes server n n') :
    Withdraws server n n' := fun hn => ⟨(h hn.unvisited).toApart, (h hn.unvisited).secluded hn⟩

theorem modifyServer_withdraws {f : Server → Server} (hf : ∀ s, s.Lonely → (f s).Lonely)
    (server : ServerId) : Moves (Withdraws server) (modifyServer server f) := by
  intro n hn
  refine ⟨apart_modifyServer f server n, fun s' hs' => ?_⟩
  change (n.servers.modify server f)[server]? = _ at hs'
  rw [Array.getElem?_modify, if_pos rfl] at hs'
  rcases Option.map_eq_some_iff.mp hs' with ⟨s, hs, rfl⟩
  exact hf s (hn s hs)

theorem withServer_withdraws {α : Type} (server id : ServerId) (missing : α)
    {a : Server → Act Network α} (ha : ∀ s, Moves (Withdraws server) (a s)) :
    Moves (Withdraws server) (withServer id missing a) := by
  refine Moves.bind (withdraws_path server) (Moves.get (withdraws_path server)) fun n => ?_
  split
  · exact ha _
  · exact Moves.pure (withdraws_path server) _

theorem closeListener_withdraws {sch : Scheduler} (server : ServerId)
    (hwake : Moves (Resumes server) (sch.wakeAcceptor server)) :
    Moves (Withdraws server) (closeListener sch server) := by
  have path := withdraws_path server
  have hwoken : Moves (Withdraws server) (sch.wakeAcceptor server) := fun n => (hwake n).withdraws
  have hnote : ∀ o, Moves (Withdraws server) (note o) :=
    fun o n => (note_resumes server o n).withdraws
  refine withServer_withdraws server server () fun s => ?_
  split
  · have hend : Moves (Withdraws server) (do
        modifyServer server fun s => { s with listener := none }
        sch.wakeAcceptor server) := by
      refine Moves.bind path (modifyServer_withdraws ?_ server) fun _ => hwoken
      exact fun s hs => ⟨hs.live, fun _ h => by injection h⟩
    refine Moves.bind path (modifyServer_withdraws ?_ server) fun _ => ?_
    · intro s hs
      refine ⟨hs.live, fun x hx => ?_⟩
      rcases Option.map_eq_some_iff.mp hx with ⟨y, hy, rfl⟩
      exact hs.queue y hy
    refine Moves.bind path hwoken fun _ => Moves.bind path (Moves.get path) fun n => ?_
    dsimp only
    split
    · exact hend
    · refine Moves.bind path (Moves.modify fun n hn => ⟨⟨fun _ _ => rfl, rfl, rfl, rfl⟩, hn⟩)
        fun _ => ?_
      split
      · exact Moves.bind path (hnote _) fun _ => hend
      · exact Moves.bind path (Moves.throw path _) fun _ => hend
  · exact Moves.pure path _

/-- There are no connections to be closed, so closing the server does not reach any other. -/
theorem stopServer_withdraws {sch : Scheduler} (server : ServerId)
    (hwake : Moves (Resumes server) (sch.wakeAcceptor server)) :
    Moves (Withdraws server) (stopServer sch server) := by
  have path := withdraws_path server
  have hnote : ∀ o, Moves (Withdraws server) (note o) :=
    fun o n => (note_resumes server o n).withdraws
  have hstatus : ∀ status, Moves (Withdraws server)
      (modifyServer server fun s => { s with status := status }) := by
    intro status
    refine modifyServer_withdraws ?_ server
    exact fun s hs => ⟨hs.live, hs.queue⟩
  refine Moves.bind path (withServer_withdraws server server () fun s => ?_) fun _ => ?_
  · refine Moves.bind path (hstatus _) fun _ => Moves.bind path (hnote _) fun _ => ?_
    refine Moves.bind path (modifyServer_withdraws ?_ server) fun _ => ?_
    · exact fun s hs => ⟨hs.live, hs.queue⟩
    · exact closeListener_withdraws server hwake
  · refine Moves.bind path (fun n hn => ?_) fun _ => ?_
    · rw [withServer, Act.runFrom_bind_ok (Act.runFrom_get n)]
      split
      · rename_i s hs
        rw [(hn s hs).live]
        exact path.refl n hn
      · exact path.refl n hn
    · refine withServer_withdraws server server () fun s => ?_
      exact Moves.bind path (hstatus _) fun _ => hnote _

theorem closeServer_apart (k : Nat) {server : ServerId} (hn : n.Secluded server) :
    Apart server n ((closeServer (.ofPatience k) server).runFrom n).2 := by
  have path := withdraws_path server
  have hunderWay : ∀ b, Moves (Withdraws server)
      (modifyServer server fun s => { s with closeUnderWay := b }) := by
    intro b
    refine modifyServer_withdraws ?_ server
    exact fun s hs => ⟨hs.live, hs.queue⟩
  have hmoves : Moves (Withdraws server) (closeServer (.ofPatience k) server) := by
    refine withServer_withdraws server server () fun s => ?_
    split
    · refine Moves.bind path (hunderWay true) fun _ => ?_
      exact Moves.andFinally path (stopServer_withdraws server (resumes_ofPatience k server))
        (hunderWay false)
    · exact Moves.pure path _
  exact (hmoves n hn).1

end

end Network

end MockHost
