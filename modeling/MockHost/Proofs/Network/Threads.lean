import MockHost.Proofs.Network.Walk

/-!
# How Threads Conduct Themselves

Everything that happens in a network is done by one of its threads or by somebody
outside, and each of them wakes threads as it goes. That a thread conducts itself is
therefore shown under the assumption that those which it wakes do, for all that the
thread of a connection does from the first message to the end, and for the thread that
accepts clients. The assumption is then discharged by an induction on the number of
wakings that may follow one another.

The thread of a connection is where the two accounts are kept. Between a message that
has come in and the moment when the server has counted it, or the hooks have failed
for it, the balance is off by one; nothing else in the network changes it. And when
the thread ends, it has the connection forgotten before anybody could start another
one.

## Main definitions

* `Scheduler.KeepsBooks`: Threads that are woken conduct themselves.

## Theorems

* `Network.booksKept_admissible`: What anybody may do.
* `Network.callOnMessage_cases`, `Network.callOnMessage_counts`: Calling the hooks with a message.
* `Network.serving_keeps`, `Network.conclude_keeps`: Serving a peer, and the end of it.
* `Network.serve_booksKept`, `Network.acceptNext_booksKept`: What the two kinds of thread do.
* `Scheduler.keepsBooks_ofPatience`: All threads conduct themselves.
-/

namespace MockHost

open Act (Moves)

namespace Network

theorem booksKept_path : Act.Path BooksKept := keeps_path none fun _ => True

/-- Steps that leave the books alone may be taken by anybody. -/
theorem booksKept_admissible : Admissible BooksKept where
  path := booksKept_path
  still h := h.quiet.booksKept
  release id n := (quiet_modifyConnection (n := n) (f := fun c => { c with hasSocket := false })
    (fun _ => rfl) (fun _ => rfl) (fun _ => rfl) (fun _ => rfl) id).booksKept
  stop server _ := (quiet_modifyServer (by intro s; rfl) server).booksKept
  listen server _ _ := (quiet_modifyServer (by intro s; rfl) server).booksKept

end Network

/-- Whatever threads are woken, they conduct themselves. -/
abbrev Scheduler.KeepsBooks (sch : Scheduler) : Prop := sch.Admits Network.BooksKept

namespace Network

/-- An act that goes on after something that any thread may do. -/
theorem conduct_bind {α β : Type} {own : Option ConnectionId} {n : Network} {a : Act Network α}
    {f : α → Act Network β} (ha : Moves BooksKept a) (hsound : n.Sound)
    (hf : ∀ x n', Conduct none 0 n n' → Conduct own 0 n' ((f x).runFrom n').2) :
    Conduct own 0 n ((a >>= f).runFrom n).2 := by
  rw [Act.runFrom_bind]
  rcases hrun : a.runFrom n with ⟨_ | x, n'⟩
  · exact ((ha.reaches hrun).conduct hsound).as own
  · have hfirst := (ha.reaches hrun).conduct hsound
    exact (hf x n' hfirst).after (hfirst.as own)

section

variable {sch : Scheduler} (t : Seconds) (id : ConnectionId) (served : Served)

theorem current_runFrom (n : Network) :
    (Connection.current (surroundings sch t id served)).runFrom n =
      (.ok ((surroundings sch t id served).connection n), n) := rfl

theorem change_runFrom (f : Connection → Connection) (n : Network) :
    (Connection.change (surroundings sch t id served) f).runFrom n =
      (.ok (), modifyConnection id f n) := rfl

theorem record_runFrom (call : Call) (n : Network) :
    (Connection.record (surroundings sch t id served) call).runFrom n =
      (.ok (), modifyConnection id (fun c => { c with calls := c.calls ++ [call] }) n) := rfl

/-- Judging a message does not fail. -/
theorem judge_ok (s : MessageStream) (n : Network) :
    ∃ n', (Connection.judge (surroundings sch t id served) s).runFrom n = (.ok (), n') := by
  rw [Connection.judge, Act.runFrom_bind_ok (current_runFrom t id served n)]
  dsimp only
  rw [Act.runFrom_bind_ok (change_runFrom t id served _ n)]
  split
  · exact ⟨_, rfl⟩
  · exact ⟨_, rfl⟩

/-- The hooks are called with a message in the midst of what other threads do, and at the end
    of it either the server counts the message or the failure of the hooks is recorded. -/
theorem callOnMessage_cases (h : sch.KeepsBooks) (s : MessageStream) {n : Network}
    (hsound : n.Sound) :
    ∃ m, Conduct none 0 n m ∧
      ((Connection.callOnMessage (surroundings sch t id served) s).runFrom n =
          (countMessage served.server id).runFrom m ∨
        ∃ f, (Connection.callOnMessage (surroundings sch t id served) s).runFrom n =
          (.error f, modifyConnection id
            (fun c => { c with calls := c.calls ++ [.hooksFailed (.onMessage s) f] }) m)) := by
  have calling := h.calling t id served
  generalize hn₁ : modifyConnection id (fun c => { c with calls := c.calls ++
    [.hooks (.onMessage s) ((surroundings sch t id served).connection n).received
      ((surroundings sch t id served).connection n).mismatch] }) n = n₁
  have h₁ : Conduct none 0 n n₁ := by
    rw [← hn₁]
    exact (quiet_record rfl id).conduct hsound
  -- The hooks may do anything that other threads do as well.
  rcases hhooks : (Connection.callHooks (surroundings sch t id served) (.onMessage s)
    ((surroundings sch t id served).connection n₁).hooks).runFrom n₁ with ⟨res, m⟩
  have h₂ : Conduct none 0 n₁ m :=
    ((calling.callHooks _ _).reaches hhooks).conduct h₁.sound
  refine ⟨m, h₂.after h₁, ?_⟩
  rw [Connection.callOnMessage, Connection.announced,
    Act.runFrom_bind_ok (current_runFrom t id served n),
    Act.runFrom_bind_ok (record_runFrom t id served _ n), hn₁,
    Act.runFrom_bind_ok (Act.runFrom_attempt _ _),
    Act.runFrom_bind_ok (current_runFrom t id served n₁)]
  cases res with
  | error f =>
      rw [Act.runFrom_bind_error hhooks]
      exact .inr ⟨f, rfl⟩
  | ok _ =>
      rcases countMessage_ok served.server id m with ⟨m', hm'⟩
      have hcount : ((surroundings sch t id served).countMessage).runFrom m = (.ok (), m') := hm'
      rw [Act.runFrom_bind_ok hhooks, hcount, hm']
      exact .inl rfl

/-- When the hooks have been called with a message, either the server has counted it or the
    failure of the hooks is on record. -/
theorem callOnMessage_counts (h : sch.KeepsBooks) (s : MessageStream) {n : Network}
    (hsound : n.Sound) (hserves : Serves id served.server n) :
    let n' := ((Connection.callOnMessage (surroundings sch t id served) s).runFrom n).2
    Serves id served.server n' ∧
      Conduct (some id) (fun server => if server = served.server then 1 else 0) n n' := by
  intro n'
  rcases callOnMessage_cases t id served h s hsound with ⟨m, hm, hcount | ⟨f, hfail⟩⟩
  · rcases conduct_countMessage hm.sound (hm.serves hserves).owner with ⟨m', hm', h'⟩
    have hn' : n' = m' := congrArg Prod.snd (hcount.trans hm')
    rw [hn']
    exact ⟨h'.serves (hm.serves hserves), (h'.as _).after (hm.as _)⟩
  · have hdue : ∀ c : Connection, Connection.due { c with calls := c.calls ++
        [.hooksFailed (.onMessage s) f] } = c.due + -1 := by
      intro c
      simp only [Connection.due, Connection.refusals, List.countP_append, List.countP_singleton,
        Call.isRefusal, if_true]
      omega
    have hn' : n' = _ := congrArg Prod.snd hfail
    rcases conduct_modifyConnection hdue (fun _ => rfl) (fun _ => rfl) hm.sound (hm.serves hserves)
      with ⟨hserves', h'⟩
    rw [hn']
    exact ⟨hserves', h'.after (hm.as _)⟩

/-- A message that has come in is at hand and due when the hooks are called with it. -/
theorem greet_runs (h : sch.KeepsBooks) (s : MessageStream) {n : Network} (hsound : n.Sound)
    (hserves : Serves id served.server n) :
    ∃ n', Conduct (some id) (fun server => if server = served.server then -1 else 0) n n' ∧
      Serves id served.server n' ∧ n'.messageOf id = some s ∧
      (Connection.greet (surroundings sch t id served) s).runFrom n =
        (Connection.callOnMessage (surroundings sch t id served) s).runFrom n' := by
  have hdue : ∀ c : Connection, Connection.due
      { c with lastMessage := some s, received := c.received + 1 } = c.due + 1 := by
    intro c
    simp only [Connection.due, Connection.refusals]
    omega
  rcases conduct_modifyConnection hdue (fun _ => rfl) (fun _ => rfl) hsound hserves with
    ⟨hserves₁, h₁⟩
  have hmessage := messageOf_modifyConnection
    (f := fun c => { c with lastMessage := some s, received := c.received + 1 }) (fun _ => rfl)
    hserves.owner
  generalize hn₁ : modifyConnection id
    (fun c => { c with lastMessage := some s, received := c.received + 1 }) n = n₁
    at hserves₁ h₁ hmessage
  rcases judge_ok t id served s n₁ with ⟨n₂, hn₂⟩
  have h₂ : Conduct none 0 n₁ n₂ :=
    (((h.calling t id served).judge s).reaches hn₂).conduct h₁.sound
  refine ⟨n₂, h₁.before (h₂.as _), h₂.serves hserves₁,
    (h₂.atHand hserves₁.toRuns).trans hmessage, ?_⟩
  rw [Connection.greet, Act.runFrom_bind_ok (change_runFrom t id served _ n), hn₁,
    Act.runFrom_bind_ok hn₂]

/-- A message that has come in is due until it has been counted. -/
theorem greet_keeps (h : sch.KeepsBooks) (s : MessageStream) :
    Moves (Keeps (some id) (Serves id served.server))
      (Connection.greet (surroundings sch t id served) s) := by
  intro n hsound hserves
  rcases greet_runs t id served h s hsound hserves with ⟨n', h₁, hserves', -, hrun⟩
  rcases callOnMessage_counts t id served h s h₁.sound hserves' with ⟨hserves'', h₂⟩
  rw [hrun]
  refine ⟨hserves'', ?_⟩
  have hzero : (fun server => if server = served.server then (-1 : Int) else 0) +
      (fun server => if server = served.server then 1 else 0) = (0 : ServerId → Int) := by
    funext server
    rw [Pi.add_apply]
    split
    · rfl
    · rfl
  rw [← hzero]
  exact h₁.trans h₂

/-- All that serving a peer takes keeps the books, as long as the connection is live. -/
theorem serving_keeps (h : sch.KeepsBooks) : (surroundings sch t id served).Serving
    (Keeps (some id) (Serves id served.server)) where
  toCalling := (h.calling t id served).mono (keeps_path _ _) BooksKept.serves
  record := by
    intro call hcall n
    simp only [Call.isPlain, Bool.and_eq_true, Bool.not_eq_true'] at hcall
    exact (h.record_moves t id served hcall.2 n).serves
  greet := greet_keeps t id served h
  sendToPeer data n := (h.sendToPeer_moves t id served data n).serves
  dispatch d deliveries n := (Dispatcher.dispatchAll_moves (h.transport) d deliveries n).serves
  withRecords records _ := keeps_withRecords records

/-! ### The end of a connection -/

/-- Whatever ended the reading, the connection is forgotten by its own thread. -/
theorem conclude_keeps (h : sch.KeepsBooks) (r : Except Failure Unit) :
    Moves (Keeps (some id) (Runs id served.server))
      (Connection.conclude (surroundings sch t id served) r) := by
  have path := keeps_path (some id) (Runs id served.server)
  have calling : (surroundings sch t id served).Calling (Keeps (some id) (Runs id served.server)) :=
    (h.calling t id served).mono path BooksKept.runs
  have hrecord : ∀ {call : Call}, call.isRefusal = false →
      Moves (Keeps (some id) (Runs id served.server))
        (Connection.record (surroundings sch t id served) call) :=
    fun hcall n => (h.record_moves t id served hcall n).runs
  refine Moves.bind path (calling.reportEnd r) fun _ => ?_
  refine Moves.bind path (calling.change Connection.modest_closed) fun _ => ?_
  refine Moves.bind path (fun n => (h.releaseSocket_moves t id served n).runs) fun _ => ?_
  have hannounced : Moves (Keeps (some id) (Runs id served.server))
      (Connection.callOnClose (surroundings sch t id served)) := by
    refine calling.announced (fun _ _ => hrecord rfl) (fun _ => hrecord rfl) ?_
    refine Moves.bind path calling.current fun c => ?_
    exact Moves.andFinally path (calling.callEveryHook _ _) fun n => keeps_forget
  refine Moves.bind path hannounced.attempt fun res => ?_
  split
  · exact Moves.pure path _
  · exact calling.log _ _ _

theorem endWorker_conduct (h : sch.KeepsBooks) (r : Except Failure Unit) {n : Network}
    (hsound : n.Sound) (hruns : Runs id served.server n) :
    Conduct (some id) 0 n ((endWorker id (surroundings sch t id served) r).runFrom n).2 := by
  rcases conclude_keeps t id served h r n hsound hruns with ⟨hruns₁, h₁⟩
  have h₂ := conduct_setWorker .ended h₁.sound hruns₁.owner
    fun _ hbegun => Worker.noConfusion hbegun
  rw [endWorker, Act.runFrom_bind_ok (Act.runFrom_attempt _ _)]
  refine (?_ : Conduct (some id) 0 _ _).after (h₂.after h₁)
  cases ((Connection.conclude (surroundings sch t id served) r).runFrom n).1 with
  | ok _ => exact .refl h₂.sound
  | error f => exact ((booksKept_admissible.note_moves _ _).conduct h₂.sound).as _

/-- The thread of a live connection waits or ends. -/
theorem settle_conduct (h : sch.KeepsBooks) (r : Except Failure (Option MessageStream))
    {n : Network} (hsound : n.Sound) (hserves : Serves id served.server n) :
    Conduct (some id) 0 n ((settle sch id (surroundings sch t id served) r).runFrom n).2 := by
  rcases r with f | _ | begun
  · exact endWorker_conduct t id served h _ hsound hserves.toRuns
  · exact endWorker_conduct t id served h _ hsound hserves.toRuns
  · have h₁ := conduct_setWorker (.waiting begun) hsound hserves.owner
      fun _ _ => hserves.live
    exact (((h.wakeWorker id _).conduct h₁.sound).as _).after h₁

end

/-! ### The two kinds of thread -/

section

variable {sch : Scheduler}

/-- What the thread of a live connection does that has been started or woken, until it waits
    again or ends. -/
theorem running_conduct (h : sch.KeepsBooks) (t : Seconds) {id : ConnectionId} {served : Served}
    {n : Network} (hsound : n.Sound) (howner : n.ownerOf id = some served.server)
    (hlive : id ∈ n.liveOn served.server) {a : Act Network (Option MessageStream)}
    (ha : Moves (Keeps (some id) (Serves id served.server)) a) :
    Conduct (some id) 0 n ((do
      setWorker id .running
      settle sch id (surroundings sch t id served) (← Act.attempt a) : Act Network Unit).runFrom
        n).2 := by
  have h₁ := conduct_setWorker .running hsound howner fun _ hbegun => Worker.noConfusion hbegun
  have hserves : Serves id served.server (modifyConnection id (Connection.withWorker .running) n) :=
    ⟨runs_setWorker howner, hlive⟩
  have hset : (setWorker id .running).runFrom n =
      (.ok (), modifyConnection id (Connection.withWorker .running) n) := rfl
  rw [Act.runFrom_bind_ok hset, Act.runFrom_bind_ok (Act.runFrom_attempt _ _)]
  rcases ha _ h₁.sound hserves with ⟨hserves₂, h₂⟩
  exact (settle_conduct t id served h _ h₂.sound hserves₂).after (h₂.after h₁)

/-- A thread is started once, and only for a live connection. -/
theorem startWorker_conduct (h : sch.KeepsBooks) {id : ConnectionId} {server : ServerId}
    {n : Network} (hsound : n.Sound) (howner : n.ownerOf id = some server)
    (hlive : n.workerOf id = some .notStarted → id ∈ n.liveOn server) :
    Conduct (some id) 0 n ((startWorker sch id).runFrom n).2 := by
  rcases Option.map_eq_some_iff.mp howner with ⟨served, hserved, rfl⟩
  rw [startWorker, withConnection, Act.runFrom_bind_ok (Act.runFrom_get n)]
  simp only [hserved]
  by_cases hworker : served.connection.worker = .notStarted
  · rw [if_pos hworker]
    have hnot : n.workerOf id = some .notStarted := by
      rw [workerOf, hserved, Option.map_some, hworker]
    exact running_conduct h _ hsound howner (hlive hnot) ((serving_keeps _ id served h).begin false)
  · rw [if_neg hworker]
    exact .refl hsound

/-- A thread that is woken while it waits serves its peer until it waits again or ends. -/
theorem serve_booksKept (h : sch.KeepsBooks) (id : ConnectionId) :
    Moves BooksKept (serve sch id) := by
  refine fun n => .of_conduct fun hsound => ?_
  rw [serve, withConnection, Act.runFrom_bind_ok (Act.runFrom_get n)]
  cases hserved : n.connections[id]? with
  | none => exact .refl hsound
  | some served =>
      have howner : n.ownerOf id = some served.server := by
        rw [ownerOf, hserved]
        rfl
      cases hworker : served.connection.worker with
      | waiting begun =>
          have hwaits : n.Waits id := ⟨begun, by rw [workerOf, hserved, Option.map_some, hworker]⟩
          simp only [hworker]
          rw [withLink, Act.runFrom_bind_ok (Act.runFrom_get n)]
          split
          · rename_i l _
            rw [Act.runFrom_bind_ok (Act.runFrom_get n)]
            split
            · exact .refl hsound
            · rename_i r l' _
              have hread : Quiet n ((setLink served.link l').runFrom n).2 := ⟨rfl, rfl⟩
              have h₁ := hread.conduct hsound
              have hlive : id ∈ ((setLink served.link l').runFrom n).2.liveOn served.server := by
                rw [hread.liveOn]
                exact hsound.waiting howner hwaits
              have h₂ := running_conduct h n.settings.closeJoinTimeout h₁.sound
                ((hread.ownerOf id).trans howner) hlive
                ((serving_keeps n.settings.closeJoinTimeout id served h).receive false begun r)
              -- Anybody may wake a thread that waits, so what it does then is done by anybody.
              exact Conduct.seen (h₂.after (h₁.as _)) (.inr hwaits)
          · exact .refl hsound
      | _ =>
          simp only [hworker]
          exact .refl hsound

/-- A new connection has not been started, and has no records and nothing due. -/
theorem accept_fresh {peer : Peer} {serverPort : Port} {b : Behavior} {registry : Option Registry}
    {dispatcher : Dispatcher} {hooks : List Hook} {readTimeout : Seconds} {c : Connection}
    (accepted : Connection.accept peer serverPort b registry dispatcher hooks readTimeout = .ok c) :
    c.worker = .notStarted ∧ c.dispatches = [] ∧ c.due = 0 := by
  rcases Connection.accept_eq accepted with ⟨expectation, rfl⟩
  exact ⟨rfl, rfl, rfl⟩

/-- Whatever comes of calling the hooks, a connection of an open server is served, and nobody
    but this thread starts to. -/
theorem welcome_booksKept (h : sch.KeepsBooks) (server : ServerId) (link : LinkId) :
    Moves BooksKept (welcome sch server link) := by
  refine fun n => .of_conduct fun hsound => ?_
  rw [welcome, Act.runFrom_bind_ok (Act.runFrom_get n)]
  split
  · rename_i s l hs hl
    have hserver : server < n.servers.size := (Array.getElem?_eq_some_iff.mp hs).1
    split
    · exact .refl hsound
    · rename_i c hc
      rcases accept_fresh hc with ⟨hworker, hdispatches, hdue⟩
      generalize hid : n.connections.size = id
      have hnone : n.ownerOf id = none := by
        rw [ownerOf, ← hid, Array.getElem?_size]
        rfl
      generalize hn₁ : n.enlist server link c = n₁
      have h₁ : Conduct none 0 n n₁ :=
        hn₁ ▸ conduct_enlist link hworker hdispatches hdue hserver hsound
      have howner₁ : n₁.ownerOf id = some server := by
        rw [← hn₁, ownerOf_enlist, if_pos hid.symm]
      have hlisted : (modify fun n : Network => n.enlist server link c : Act Network Unit).runFrom n =
          (.ok (), n₁) := by
        rw [← hn₁]
        rfl
      rw [Act.runFrom_bind_ok hlisted]
      split
      · rename_i hopen
        -- Nobody else forgets the connection or starts its thread while the hooks are called.
        have hlive₁ : id ∈ n₁.liveOn server := by
          rw [← hn₁, ← hid, liveOn_enlist, hs, Option.any_some, if_pos hopen]
          exact List.mem_append_right _ List.mem_cons_self
        have hnot₁ : ¬ n₁.Waits id := by
          rintro ⟨begun, hbegun⟩
          rw [← hn₁, workerOf_enlist, if_pos hid.symm, hworker, Option.some.injEq] at hbegun
          exact Worker.noConfusion hbegun
        have hserved : Conduct (some id) 0 n₁ _ :=
          conduct_bind (h.introduce_moves id s.port) h₁.sound fun _ n₂ h₂ =>
            startWorker_conduct h h₂.sound (h₂.steady.owner howner₁) fun _ =>
              (h₂.steady.others howner₁ (Option.some_ne_none id).symm hnot₁).2.mpr hlive₁
        exact (hserved.after (h₁.as _)).seen (.inl hnone)
      · exact ((h.closeConnection_moves id n₁).conduct h₁.sound).after h₁
  · exact .refl hsound

theorem setAcceptor_booksKept (server : ServerId) (a : Acceptor) :
    Moves BooksKept (setAcceptor server a) :=
  Moves.modify fun _ => (quiet_modifyServer (by intro s; rfl) server).booksKept

theorem goOnAccepting_booksKept (h : sch.KeepsBooks) (server : ServerId) :
    Moves BooksKept (goOnAccepting sch server) := by
  refine h.withServer_moves server () fun s => ?_
  split
  · exact Moves.bind booksKept_path (setAcceptor_booksKept server _) fun _ => h.note_moves _
  · exact Moves.bind booksKept_path (setAcceptor_booksKept server _) fun _ => h.wakeAcceptor server

/-- The thread that accepts clients answers one of them. -/
theorem acceptNext_booksKept (h : sch.KeepsBooks) (server : ServerId) :
    Moves BooksKept (acceptNext sch server) := by
  refine h.withServer_moves server () fun s => ?_
  split
  · refine Moves.bind booksKept_path (h.nextKnock_moves server) fun knock => ?_
    split
    · exact Moves.pure booksKept_path _
    · refine Moves.bind booksKept_path (setAcceptor_booksKept server _) fun _ => ?_
      have hanswer := h.answerKnock_moves server (welcome_booksKept h server)
      refine Moves.bind booksKept_path (hanswer _).attempt fun r => ?_
      split
      · exact goOnAccepting_booksKept h server
      · exact Moves.bind booksKept_path (setAcceptor_booksKept server _) fun _ => h.note_moves _
  · exact Moves.pure booksKept_path _

end

end Network

/-- However many wakings may follow one another, all threads conduct themselves. -/
theorem Scheduler.keepsBooks_ofPatience (k : Nat) : (Scheduler.ofPatience k).KeepsBooks :=
  Network.booksKept_admissible.ofPatience Network.serve_booksKept Network.acceptNext_booksKept k

end MockHost
