import MockHost.Proofs.Network.Attending

/-!
# No Client Stops a Server

The thread that accepts clients takes whatever a wait for a client gives, answers it and
goes on to wait. It can do without being protected from most of what it does, because
that does not fail: the failures of hooks are caught, the thread of a connection keeps
its own, and closing a connection only meets errors of the system, which are logged. Only
building the connection may fail. A behaviour may state any text as the pattern that
messages have to match, and it is not before a client has been accepted that the text is
taken for a pattern.

So a client is welcomed exactly if the pattern can be used, whatever its hooks do and
whatever happens to the connection. Then its connection is served or has been closed with
the socket, and the thread goes on. Otherwise the thread dies, and no other client is ever
accepted. Along any sequence of operations no thread that accepts clients ends for
another reason, unless its server is to stop.

## Main definitions

* `Network.Knocks`: A client waits, and the thread waits for it.

## Theorems

* `Network.welcome_refused`, `Network.welcome_attends`: Welcoming a client.
* `Network.acceptNext_client`: A client is answered, and the thread goes on.
* `Network.acceptNext_attends`: Why a thread that accepts clients ends.
* `Network.attended`: What is certain after any operations.
* `Network.attended_not`: A pattern that cannot be used stops a server.
-/

namespace MockHost

open Act (Moves Succeeds)

namespace Network

section

variable {sch : Scheduler} {n : Network} {id : ConnectionId} {server : ServerId} {link : LinkId}

/-- Whoever closes a connection whose thread has not been started releases its socket. -/
theorem closeConnection_attends (h : sch.Admits Attends) (hr : sch.Reliable) {x : Served}
    (hx : n.connections[id]? = some x) (hended : x.Adrift → x.connection.worker = .notStarted) :
    ∃ x', ((closeConnection sch id).runFrom n).2.connections[id]? = some x' ∧ ¬ x'.Adrift := by
  rw [closeConnection, withConnection, Act.runFrom_bind_ok (Act.runFrom_get n)]
  simp only [hx]
  generalize n.settings.closeJoinTimeout = t
  have closing := h.closing t id x
  have hsturdy := sturdy hr t id x
  -- The rest is the same whether or not this was the first request.
  have hend : ∀ m, Attends n m → ∃ x', ((do
      if (← Connection.current (surroundings sch t id x)).worker = .notStarted then
        Connection.releaseSocket (surroundings sch t id x)
      else Connection.awaitWorker (surroundings sch t id x) Connection.waits : Act Network Unit).runFrom
        m).2.connections[id]? = some x' ∧ ¬ x'.Adrift := by
    intro m hm
    rcases hm.develops hx with ⟨y, hy, hdevelops⟩
    rw [Act.runFrom_bind_ok (current_found t id x hy)]
    by_cases hworker : y.connection.worker = .notStarted
    · rw [if_pos hworker]
      rcases releaseSocket_attends t id x h hy with ⟨x', hx', hsocket⟩
      exact ⟨x', hx', fun hadrift => Bool.eq_false_iff.mp hsocket hadrift.hasSocket⟩
    · rw [if_neg hworker]
      rcases (closing.awaitWorker Connection.waits m).develops hy with ⟨x', hx', hdevelops'⟩
      refine ⟨x', hx', fun hadrift => hworker ?_⟩
      have hadrift' := hdevelops'.adrift hadrift
      exact (hdevelops.worker hadrift').symm.trans (hended (hdevelops.adrift hadrift'))
  have h₁ : Attends n _ := closing.change Connection.modest_request n
  rw [Connection.close, Act.runFrom_bind_ok (current_runFrom t id x n),
    Act.runFrom_bind_ok (change_runFrom t id x _ n)]
  dsimp only
  split
  · rcases hsturdy.log .debug "connection_closing" [] (modifyConnection id
      (fun c => { c with closeRequested := true, status := .closed }) n) with ⟨_, n₂, hn₂⟩
    have h₂ := attends_path.trans h₁ ((closing.log _ _ _).reaches hn₂)
    rcases hsturdy.shutdownSocket n₂ with ⟨_, n₃, hn₃⟩
    rw [Act.runFrom_bind_ok hn₂, Act.runFrom_bind_ok hn₃]
    exact hend n₃ (attends_path.trans h₂ (closing.shutdownSocket.reaches hn₃))
  · exact hend _ h₁

/-! ### Welcoming a client -/

/-- A client that has just been accepted may be adrift, as long as it is not in the end. -/
theorem attends_of_enlist {c : Connection} {n' : Network} (h : Attends (n.enlist server link c) n')
    {x' : Served} (hx' : n'.connections[n.connections.size]? = some x') (hadrift : ¬ x'.Adrift) :
    Attends n n' := by
  have hold : ∀ {i : ConnectionId}, i ≠ n.connections.size →
      (n.enlist server link c).connections[i]? = n.connections[i]? := by
    intro i hi
    simp only [enlist, Array.getElem?_push, if_neg hi]
  refine ⟨fun haccepting => h.accepting ?_, ?_, ?_⟩
  · -- A server that is open gets a live connection, but nothing changes for its thread.
    refine haccepting.of_servers (fun {i} {s'} hs' hended => .inr ?_) (List.Subset.refl _)
      (List.prefix_refl _)
    simp only [enlist, Array.getElem?_modify] at hs'
    split at hs'
    · rcases Option.map_eq_some_iff.mp hs' with ⟨s, hs, rfl⟩
      refine ⟨s, hs, ?_⟩
      split at hended
      · rename_i hopen
        rw [if_pos hopen]
        exact ⟨hended, rfl, rfl⟩
      · rename_i hopen
        rw [if_neg hopen]
        exact ⟨hended, rfl, rfl⟩
    · exact ⟨s', hs', hended, rfl, rfl⟩
  · intro i x hx
    have hi : i ≠ n.connections.size := Nat.ne_of_lt (Array.getElem?_eq_some_iff.mp hx).1
    exact h.develops ((hold hi).trans hx)
  · intro i y hnone hy
    by_cases hi : i = n.connections.size
    · subst hi
      rw [hx'] at hy
      injection hy with hy
      exact hy ▸ hadrift
    · exact h.fresh ((hold hi).trans hnone) hy

theorem expectationOf_error {b : Behavior} {f : Failure} (h : Connection.expectationOf b = .error f) :
    ∃ source e, f = .pattern source e ∧ Expectation.compile source = .error e := by
  rw [Connection.expectationOf] at h
  split at h
  · injection h
  · rename_i source _
    split at h
    · injection h
    · rename_i e he
      injection h with h
      exact ⟨source, e, h.symm, he⟩

/-- A client cannot be welcomed if the pattern cannot be used. It has been accepted all the
    same, and nothing is done with it. -/
theorem welcome_refused {s : Server} {l : Link} {f : Failure} (hs : n.servers[server]? = some s)
    (hl : n.links[link]? = some l) (hf : Connection.expectationOf s.behavior = .error f) :
    (welcome sch server link).runFrom n = (.error f, n) := by
  rw [welcome, Act.runFrom_bind_ok (Act.runFrom_get n)]
  simp only [hs, hl, Connection.accept, hf]
  rfl

/-- Otherwise it is welcomed, and when that is done it is served, or its connection has been
    closed with the socket. -/
theorem welcome_attends (h : sch.Admits Attends) (hr : sch.Reliable) {s : Server} {l : Link}
    {expectation : Option Expectation} (hs : n.servers[server]? = some s)
    (hl : n.links[link]? = some l) (he : Connection.expectationOf s.behavior = .ok expectation) :
    ∃ n' x', (welcome sch server link).runFrom n = (.ok (), n') ∧ Attends n n' ∧
      n'.connections[n.connections.size]? = some x' ∧ x'.link = link ∧ x'.server = server ∧
      ¬ x'.Adrift := by
  rw [welcome, Act.runFrom_bind_ok (Act.runFrom_get n)]
  simp only [hs, hl]
  have haccept : ∃ c, Connection.accept ⟨clientHost, l.clientPort⟩ s.port s.behavior
      (some s.registry) s.dispatcher s.hooks s.readTimeout = .ok c ∧ c.worker = .notStarted := by
    rw [Connection.accept, he]
    exact ⟨_, rfl, rfl⟩
  rcases haccept with ⟨c, hc, hworker⟩
  rw [hc]
  dsimp only
  generalize hn₁ : n.enlist server link c = n₁
  have hlisted : (modify fun n : Network => n.enlist server link c : Act Network Unit).runFrom n =
      (.ok (), n₁) := by
    rw [← hn₁]
    rfl
  have hx₁ : n₁.connections[n.connections.size]? = some ⟨c, link, server⟩ := by
    rw [← hn₁]
    simp only [enlist, Array.getElem?_push, if_pos]
  rw [Act.runFrom_bind_ok hlisted]
  -- What is left does not fail, and leaves the connection served or closed.
  suffices hrest : ∀ {a : Act Network Unit} {n'}, a.runFrom n₁ = (.ok (), n') → Attends n₁ n' →
      (∃ x', n'.connections[n.connections.size]? = some x' ∧ ¬ x'.Adrift) →
      ∃ n' x', a.runFrom n₁ = (.ok (), n') ∧ Attends n n' ∧
        n'.connections[n.connections.size]? = some x' ∧ x'.link = link ∧ x'.server = server ∧
        ¬ x'.Adrift by
    split
    · have hintroduce : Succeeds (introduce sch n.connections.size s.port) := introduce_succeeds _ _
      rcases hintroduce n₁ with ⟨_, n₂, hn₂⟩
      have h₂ : Attends n₁ n₂ := (h.introduce_moves _ _).reaches hn₂
      rcases h₂.develops hx₁ with ⟨x₂, hx₂, hdevelops⟩
      -- Others may have closed the connection while the hooks were called, but if it is adrift
      -- its thread has not been started by anybody.
      rcases startWorker_succeeds hr n.connections.size n₂ with ⟨_, n₃, hn₃⟩
      have hstart := startWorker_attends h hr hx₂ fun hadrift =>
        (hdevelops.worker hadrift).symm.trans hworker
      rw [hn₃] at hstart
      exact hrest ((Act.runFrom_bind_ok hn₂ _).trans hn₃) (attends_path.trans h₂ hstart.1) hstart.2
    · rcases closeConnection_succeeds hr n.connections.size n₁ with ⟨_, n₂, hn₂⟩
      have hclosed := closeConnection_attends h hr hx₁ fun _ => hworker
      rw [hn₂] at hclosed
      exact hrest hn₂ ((h.closeConnection_moves _).reaches hn₂) hclosed
  rintro a n' hrun hattends ⟨x', hx', hadrift⟩
  have hdevelops := hattends.between hx₁ hx'
  exact ⟨n', x', hrun, attends_of_enlist (hn₁ ▸ hattends) hx' hadrift, hx', hdevelops.link,
    hdevelops.server, hadrift⟩

/-- So welcoming a client fails without having done anything, or it does not fail. -/
theorem welcome_cases (h : sch.Admits Attends) (hr : sch.Reliable) (server : ServerId)
    (link : LinkId) (n : Network) :
    (∃ source e, Expectation.compile source = .error e ∧
      (welcome sch server link).runFrom n = (.error (.pattern source e), n)) ∨
    ∃ n', (welcome sch server link).runFrom n = (.ok (), n') ∧ Attends n n' := by
  by_cases hfound : ∃ s l, n.servers[server]? = some s ∧ n.links[link]? = some l
  · rcases hfound with ⟨s, l, hs, hl⟩
    cases he : Connection.expectationOf s.behavior with
    | error f =>
        rcases expectationOf_error he with ⟨source, e, rfl, hcompile⟩
        exact .inl ⟨source, e, hcompile, welcome_refused hs hl he⟩
    | ok expectation =>
        rcases welcome_attends h hr hs hl he with ⟨n', x', hrun, hattends, -⟩
        exact .inr ⟨n', hrun, hattends⟩
  · refine .inr ⟨n, ?_, attends_path.refl n⟩
    rw [welcome, Act.runFrom_bind_ok (Act.runFrom_get n)]
    split
    · rename_i s l hs hl
      exact absurd ⟨s, l, hs, hl⟩ hfound
    · rfl

theorem welcome_moves (h : sch.Admits Attends) (hr : sch.Reliable) (server : ServerId)
    (link : LinkId) : Moves Attends (welcome sch server link) := by
  intro n
  rcases welcome_cases h hr server link n with ⟨source, e, -, hrun⟩ | ⟨n', hrun, hattends⟩
  · rw [hrun]
    exact attends_path.refl n
  · rw [hrun]
    exact hattends

/-! ### What the thread does -/

/-- A wait for a client fails with errors of the system, if nothing else is to happen. -/
theorem nextKnock_fault (h : n.Accepting) {f : Failure} {n' : Network}
    (hrun : (nextKnock server).runFrom n = (.ok (some (.fault f)), n')) : ∃ e, f = .system e := by
  rw [nextKnock, withServer, Act.runFrom_bind_ok (Act.runFrom_get n)] at hrun
  split at hrun
  · rw [Act.runFrom_bind_ok (Act.runFrom_get n)] at hrun
    split at hrun
    · rename_i g rest hfault
      rw [Act.runFrom_bind_ok (Act.runFrom_modify _ n)] at hrun
      cases hrun
      exact h.faults _ ((takeFault_perm hfault).symm.subset List.mem_cons_self)
    · split at hrun
      · cases hrun
        exact ⟨_, rfl⟩
      · rw [modifyServer, Act.runFrom_bind_ok (Act.runFrom_modify _ n)] at hrun
        cases hrun
      · cases hrun
        exact ⟨_, rfl⟩
      · cases hrun
  · cases hrun

/-- The answer to a client, or to an error of the system, fails for a pattern only, and then
    without having done anything. -/
theorem answerKnock_error (h : sch.Admits Attends) (hr : sch.Reliable) {k : Knock}
    (hk : ∀ f, k = .fault f → ∃ e, f = .system e) {f : Failure} {n' : Network}
    (hrun : (answerKnock sch server k).runFrom n = (.error f, n')) :
    n' = n ∧ ∃ source e, Expectation.compile source = .error e ∧ f = .pattern source e := by
  cases k with
  | client link =>
      rw [answerKnock] at hrun
      rcases welcome_cases h hr server link n with ⟨source, e, he, hrefused⟩ | ⟨m, hok, -⟩
      · rw [hrefused] at hrun
        cases hrun
        exact ⟨rfl, source, e, he, rfl⟩
      · rw [hok] at hrun
        cases hrun
  | fault g =>
      rcases hk g rfl with ⟨e, rfl⟩
      have hsucceeds : Succeeds (answerKnock sch server (.fault (.system e))) := by
        rw [answerKnock]
        split
        · exact Succeeds.pure _
        · refine withServer_succeeds server () fun s => ?_
          split
          · exact Succeeds.modify _
          · exact Succeeds.pure _
      rcases hsucceeds n with ⟨_, m, hok⟩
      rw [hok] at hrun
      cases hrun

/-- A thread ends for a reason, and the trace shows it if the server is not to stop. -/
theorem Accepting.endAcceptor (h : n.Accepting) {o : Occurrence}
    (hreason : ∀ s, n.servers[server]? = some s → s.stopping = true ∨
      ∃ source e, Expectation.compile source = .error e ∧
        o = .threadDied s.threadName (Failure.pattern source e).unhandledLabel
          (Failure.pattern source e).message) :
    ((do setAcceptor server .ended; note o : Act Network Unit).runFrom n).2.Accepting := by
  have hrun : ((do setAcceptor server .ended; note o : Act Network Unit).runFrom n).2 =
      { n with
        servers := n.servers.modify server fun s => { s with acceptor := .ended }
        trace := n.trace.push o } := rfl
  rw [hrun]
  refine ⟨h.faults, ?_⟩
  intro i s' hs' hended
  rw [Array.getElem?_modify] at hs'
  split at hs'
  · rename_i hi
    subst hi
    rcases Option.map_eq_some_iff.mp hs' with ⟨s, hs, rfl⟩
    rcases hreason s hs with hstopping | ⟨source, e, he, rfl⟩
    · exact .inl hstopping
    · refine .inr ⟨source, e, he, ?_⟩
      rw [Array.toList_push]
      exact List.mem_append_right _ List.mem_cons_self
  · rcases h.ended hs' hended with hstopping | ⟨source, e, he, hdied⟩
    · exact .inl hstopping
    · refine .inr ⟨source, e, he, ?_⟩
      rw [Array.toList_push]
      exact List.mem_append_left _ hdied

theorem setAcceptor_attends {a : Acceptor} (h : a ≠ .ended) (server : ServerId) :
    Moves Attends (setAcceptor server a) :=
  Moves.modify fun n => attends_modifyServer (n := n) server fun _ hended => absurd hended h

theorem setAcceptor_port {n' : Network} (h : Still n n') {s s' : Server} {a : Acceptor}
    (hs : n.servers[server]? = some s)
    (hs' : ((setAcceptor server a).runFrom n').2.servers[server]? = some s') : s'.port = s.port := by
  change (n'.servers.modify server fun s => { s with acceptor := a })[server]? = some s' at hs'
  rw [Array.getElem?_modify, if_pos rfl] at hs'
  rcases Option.map_eq_some_iff.mp hs' with ⟨s₁, hs₁, rfl⟩
  rcases h.server hs₁ with ⟨s₀, hs₀, hstand⟩
  rw [hs] at hs₀
  cases hs₀
  simp only [Server.stand, Prod.mk.injEq] at hstand
  exact hstand.2.2.2.symm

/-- The thread ends only if its server is to stop. -/
theorem goOnAccepting_attends (h : sch.Admits Attends) (server : ServerId) :
    Moves Attends (goOnAccepting sch server) := by
  intro n
  rw [goOnAccepting, withServer, Act.runFrom_bind_ok (Act.runFrom_get n)]
  split
  · rename_i s hs
    split
    · rename_i hstopping
      refine .of_accepting rfl fun haccepting => haccepting.endAcceptor fun s' hs' => ?_
      rw [hs] at hs'
      cases hs'
      exact .inl hstopping
    · exact Moves.bind attends_path (setAcceptor_attends (fun h => Acceptor.noConfusion h) server)
        (fun _ => h.wakeAcceptor server) n
  · exact attends_path.refl n

/-- Whatever a wait for a client gives, the thread answers it, and ends for a reason if it
    ends. -/
theorem acceptNext_attends (h : sch.Admits Attends) (hr : sch.Reliable) (server : ServerId) :
    Moves Attends (acceptNext sch server) := by
  intro n
  rw [acceptNext, withServer, Act.runFrom_bind_ok (Act.runFrom_get n)]
  split
  · rename_i s hs
    split
    · rcases nextKnock_succeeds server n with ⟨knock, n₁, hn₁⟩
      have hstill := (nextKnock_slight server n).toStill
      rw [hn₁] at hstill
      rw [Act.runFrom_bind_ok hn₁]
      cases knock with
      | none => exact hstill.attends
      | some knock =>
          dsimp only
          generalize hn₂ : ((setAcceptor server .running).runFrom n₁).2 = n₂
          have hset : (setAcceptor server .running).runFrom n₁ = (.ok (), n₂) := hn₂ ▸ rfl
          have h₂ : Attends n₁ n₂ :=
            (setAcceptor_attends (fun h => Acceptor.noConfusion h) server).reaches hset
          rw [Act.runFrom_bind_ok hset, Act.runFrom_bind_ok (Act.runFrom_attempt _ _)]
          rcases hanswer : (answerKnock sch server knock).runFrom n₂ with ⟨r, n₃⟩
          have h₃ := (h.answerKnock_moves server (welcome_moves h hr server) knock).reaches hanswer
          have hsofar := attends_path.trans (attends_path.trans hstill.attends h₂) h₃
          cases r with
          | ok _ => exact attends_path.trans hsofar (goOnAccepting_attends h server n₃)
          | error f =>
              refine hsofar.extend rfl fun haccepting => ?_
              have hfaults : ∀ f, knock = .fault f → ∃ e, f = .system e := by
                rintro f rfl
                exact nextKnock_fault haccepting hn₁
              -- The answer has failed, so the network is still what it was before it, and the
              -- thread still has the name that is shown.
              rcases answerKnock_error h hr hfaults hanswer with ⟨rfl, source, e, he, rfl⟩
              refine (hsofar.accepting haccepting).endAcceptor fun s' hs' => ?_
              refine .inr ⟨source, e, he, ?_⟩
              have hport : s'.port = s.port := setAcceptor_port hstill hs (hn₂ ▸ hs')
              rw [Server.threadName, Server.threadName, hport]
    · exact attends_path.refl n
  · exact attends_path.refl n

/-! ### One client -/

/-- A client is the first of those that wait for a server, whose thread waits for a client, and
    no wait is to fail. -/
structure Knocks (n : Network) (server : ServerId) (s : Server) (link : LinkId) : Prop where
  found : n.servers[server]? = some s
  waiting : s.acceptor = .waiting
  fault : takeFault s.port n.acceptFaults = none
  queue : ∃ rest shut, s.listener = some ⟨link :: rest, shut⟩
  linked : ∃ l, n.links[link]? = some l

/-- Then the thread takes the client, and what it does next depends on how it is welcomed. -/
theorem Knocks.taken (sch : Scheduler) {s : Server} (h : n.Knocks server s link) :
    ∃ m s', m.servers[server]? = some s' ∧ s'.behavior = s.behavior ∧ m.links = n.links ∧
      m.connections = n.connections ∧
      (∀ n', (welcome sch server link).runFrom m = (.ok (), n') →
        (acceptNext sch server).runFrom n = (goOnAccepting sch server).runFrom n') ∧
      ∀ f n', (welcome sch server link).runFrom m = (.error f, n') →
        (acceptNext sch server).runFrom n = (do
          setAcceptor server .ended
          note (.threadDied s.threadName f.unhandledLabel f.message) : Act Network Unit).runFrom n' := by
  rcases h.queue with ⟨rest, shut, hqueue⟩
  let n₁ : Network :=
    { n with servers := n.servers.modify server fun s => { s with listener := some ⟨rest, shut⟩ } }
  have hknock : (nextKnock server).runFrom n = (.ok (some (.client link)), n₁) := by
    rw [nextKnock, withServer, Act.runFrom_bind_ok (Act.runFrom_get n)]
    simp only [h.found]
    rw [Act.runFrom_bind_ok (Act.runFrom_get n)]
    simp only [h.fault, hqueue]
    rfl
  let m : Network := ((setAcceptor server .running).runFrom n₁).2
  have hset : (setAcceptor server .running).runFrom n₁ = (.ok (), m) := rfl
  have hrun : ∀ {r n'}, (welcome sch server link).runFrom m = (r, n') →
      (Act.attempt (answerKnock sch server (.client link))).runFrom m = (.ok r, n') := by
    intro r n' hwelcome
    rw [answerKnock, Act.runFrom_attempt, hwelcome]
  refine ⟨m, { s with listener := some ⟨rest, shut⟩, acceptor := .running }, ?_, rfl, rfl, rfl, ?_, ?_⟩
  · change (n₁.servers.modify server fun s => { s with acceptor := .running })[server]? = _
    simp only [n₁, Array.getElem?_modify, if_pos, h.found, Option.map_some]
  · intro n' hwelcome
    rw [acceptNext, withServer, Act.runFrom_bind_ok (Act.runFrom_get n)]
    simp only [h.found, h.waiting, if_pos]
    rw [Act.runFrom_bind_ok hknock]
    dsimp only
    rw [Act.runFrom_bind_ok hset, Act.runFrom_bind_ok (hrun hwelcome)]
  · intro f n' hwelcome
    rw [acceptNext, withServer, Act.runFrom_bind_ok (Act.runFrom_get n)]
    simp only [h.found, h.waiting, if_pos]
    rw [Act.runFrom_bind_ok hknock]
    dsimp only
    rw [Act.runFrom_bind_ok hset, Act.runFrom_bind_ok (hrun hwelcome)]

/-- If the pattern can be used, the client gets a connection that is served or has been closed,
    and the thread goes on. Otherwise the client gets nothing, and the thread has ended. -/
theorem acceptNext_client (h : sch.Admits Attends) (hr : sch.Reliable) {s : Server}
    (hknocks : n.Knocks server s link) :
    (∃ expectation n' x, Connection.expectationOf s.behavior = .ok expectation ∧
      (acceptNext sch server).runFrom n = (goOnAccepting sch server).runFrom n' ∧
      n'.connections[n.connections.size]? = some x ∧ x.link = link ∧ x.server = server ∧
      ¬ x.Adrift) ∨
    ∃ f n', Connection.expectationOf s.behavior = .error f ∧
      (acceptNext sch server).runFrom n = (.ok (), n') ∧ n'.connections = n.connections ∧
      n'.links = n.links ∧ (n'.servers[server]?).map Server.acceptor = some .ended := by
  rcases hknocks.taken sch with ⟨m, s', hs', hbehavior, hlinks, hconnections, hok, herror⟩
  rcases hknocks.linked with ⟨l, hl⟩
  rw [← hlinks] at hl
  rw [← hbehavior, ← hconnections]
  cases he : Connection.expectationOf s'.behavior with
  | ok expectation =>
      rcases welcome_attends h hr hs' hl he with ⟨n', x, hrun, -, hx⟩
      exact .inl ⟨expectation, n', x, rfl, hok n' hrun, hx⟩
  | error f =>
      refine .inr ⟨f, _, rfl, herror f m (welcome_refused hs' hl he), rfl, hlinks, ?_⟩
      change ((m.servers.modify server _)[server]?).map Server.acceptor = _
      rw [Array.getElem?_modify, if_pos rfl, hs']
      rfl

end

/-! ### Operations -/

theorem admits_attends (k : Nat) : (Scheduler.ofPatience k).Admits Attends :=
  attends_admissible.ofPatience
    (fun h => serve_attends h (Scheduler.reliable_ofPatience _))
    (fun h => acceptNext_attends h (Scheduler.reliable_ofPatience _)) k

/-- The thread of a new server has not ended. -/
theorem addServer_attends {s : Server} (h : s.acceptor ≠ .ended) : Moves Attends (addServer s) := by
  refine Moves.bind attends_path (Moves.get attends_path) fun _ => ?_
  refine Moves.bind attends_path (Moves.modify fun n => ?_) fun _ => Moves.pure attends_path _
  refine .of_accepting rfl fun haccepting => haccepting.of_servers (fun {i} {s'} hs' hended => .inr ?_)
    (List.Subset.refl _) (List.prefix_refl _)
  rw [Array.getElem?_push] at hs'
  split at hs'
  · injection hs' with hs'
    exact absurd (hs' ▸ hended) h
  · exact ⟨s', hs', hended, rfl, rfl⟩

/-- Waits for clients may be made to fail with errors of the system. -/
theorem operateAll_attends (k : Nat) {ops : List Operation}
    (h : ∀ port f, .failAccept port f ∈ ops → ∃ e, f = .system e) :
    Moves Attends (operateAll (.ofPatience k) ops) := by
  refine operateAll_moves attends_path fun o ho => operate_moves (admits_attends k)
    (by intros; exact addServer_attends fun h => Acceptor.noConfusion h) ?_
  rintro port f rfl n
  refine .of_accepting rfl fun haccepting => ⟨fun x hx => ?_, haccepting.ended⟩
  rcases List.mem_append.mp hx with hold | hnew
  · exact haccepting.faults x hold
  · rw [List.mem_singleton.mp hnew]
    exact h port f ho

theorem accepting_empty (settings : Settings) : Accepting { settings } where
  faults x hx := absurd hx (List.not_mem_nil)
  ended hs := by
    rw [List.getElem?_toArray, List.getElem?_nil] at hs
    injection hs

end Network

end MockHost
