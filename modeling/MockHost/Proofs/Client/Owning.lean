import MockHost.Client.Operation
import MockHost.Proofs.Client.Reading
import MockHost.Proofs.Scripted.Systemic
import MockHost.Proofs.Text.Utf8

/-!
# A Client and Its Socket

A client connects when it first has something to send, keeps its socket when a reply fails, and
closes it when a send does. Each of these calls may fail, and some of the failures change what the
client goes on with. Whatever it is asked to do, and whatever comes of it, what the client takes
for its socket is the one socket of its account that is still open.

That cannot be seen in the world alone, which does not tell a socket that has been closed from one
that has not. So the operations are followed over a transport that takes down each call. A client
that nobody disturbs does the same over this transport as over the plain one, as deliveries do.

## Main definitions

* `Client.Operation.Proper`: A text that is sent is valid Unicode.
* `Client.Kept`: What an operation has come to if it has kept account.
* `Client.Reopens`: A message for which a socket is opened.

## Theorems

* `Client.connect_cases`, `Client.close_accounted`, `Client.readReply_accounted`,
  `Client.sendBytes_cases`: What the parts of an operation come to.
* `Client.operate_kept`, `Client.operateAll_kept`: An operation keeps account, and so do many.
* `Client.operate_twin`, `Client.operateAll_twin`: Over which transport makes no difference.
* `Client.operateAll_holdsOne`: A client has one socket open or none, and knows which.
-/

namespace MockHost

namespace Client

open SocketCall (Balanced)

/-- A message that is a text is valid Unicode. -/
def Operation.Proper : Operation → Prop
  | .send (.inl text) _ _ => ∀ x ∈ text, x.IsScalar
  | _ => True

/-- Such a message is some bytes. -/
theorem exists_send_eq {message : Text ⊕ Bytes} {wait : Bool} {span : Option Seconds}
    (h : (Operation.send message wait span).Proper) :
    ∃ data, ∀ {σ : Type} (t : Transport σ), send t message wait span = sendBytes t data wait span := by
  rcases message with text | data
  · refine ⟨Utf8.encode text, fun t => ?_⟩
    rw [send, sendText, Utf8.encode?_eq h]
  · exact ⟨data, fun t => rfl⟩

theorem withSocket_self {c : Client} {socket : Option SocketId} (h : c.socket = socket) :
    c.withSocket socket = c := by
  rw [withSocket, ← h]

/-! ### What is reported -/

/-- The failure is reported as one of transport, and not as one in sending. -/
def Unreached (f : Failure) : Prop :=
  ∃ r, f = .reported r ∧ r.kind.isUnder .transport = true ∧ r.kind ≠ .send

theorem Unreached.of_kind {r : ErrorReport} (k : ErrorKind) (hr : r.kind = k)
    (hk : k.isUnder .transport = true ∧ k ≠ .send) : Unreached (.reported r) :=
  ⟨r, rfl, hr ▸ hk⟩

theorem connectReport_unreached (c : Client) (e : SystemError) :
    Unreached (.reported (c.connectReport e)) := by
  rw [connectReport]
  split
  · exact .of_kind .connectTimeout rfl (by decide)
  · split
    · exact .of_kind .targetRefused rfl (by decide)
    · exact .of_kind .transport rfl (by decide)

theorem receiveReport_unreached (c : Client) (e : SystemError) (n : Nat) :
    Unreached (.reported (c.receiveReport e n)) := by
  rw [receiveReport]
  split
  · exact .of_kind .receiveTimeout rfl (by decide)
  · exact .of_kind .receive rfl (by decide)

/-- Where reads fail with errors of the system, a reply that cannot be had is reported. -/
theorem made_unreached {c : Client} {ending : ReplyEnd}
    (hfault : ∀ s f, ending = .fault s f → ∃ e, f = .system e) {f : Failure}
    (hf : c.made ending = .error f) : Unreached f := by
  cases ending with
  | complete s => injection hf
  | finished s =>
      rw [made] at hf
      split at hf
      · injection hf with hf
        exact hf ▸ .of_kind .receive rfl (by decide)
      · injection hf
  | unexpected s =>
      injection hf with hf
      exact hf ▸ .of_kind .unexpectedResponse rfl (by decide)
  | fault s g =>
      rcases hfault s g rfl with ⟨e, rfl⟩
      injection hf with hf
      exact hf ▸ receiveReport_unreached c e s.size

section

variable {σ α β : Type} {t : Transport σ} {fine : σ → Prop} {names : σ → Nat} {origin : σ}
  {ids : List SocketId} {held : Option SocketId} {c c' : Client} {s s' : Among σ} {id : SocketId}

/-- What an operation has come to if it has kept account. The client takes for its socket the one
    that is held. Failures are reported as failures of transport, and after one in sending there
    is no socket. -/
structure Kept (fine : σ → Prop) (names : σ → Nat) (origin : σ) (ids : List SocketId)
    (r : Except Failure α × Client × Among σ) : Prop where
  account : Account fine names origin ids r.2.1.socket r.2.2
  failed : ∀ f, r.1 = .error f → ∃ e, f = .reported e ∧ e.kind.isUnder .transport = true ∧
    (e.kind = .send → r.2.1.isConnected = false)

/-- What is made of a result in the end makes no difference. -/
theorem Kept.bind_pure {a : ClientAct (Among σ) α} {p : Client × Among σ}
    (h : Kept fine names origin ids (a.runFrom p)) (g : α → β) :
    Kept fine names origin ids ((a >>= fun x => pure (g x)).runFrom p) := by
  rw [Act.runFrom_bind_pure]
  refine ⟨h.account, fun f hf => h.failed f ?_⟩
  rcases hres : (a.runFrom p).1 with e | x <;> rw [hres] at hf
  · exact congrArg _ (Except.error.inj hf)
  · injection hf

theorem Kept.of_ok (h : Account fine names origin ids c.socket s) (x : α) :
    Kept fine names origin ids ((.ok x, (c, s)) : Except Failure α × Client × Among σ) :=
  ⟨h, fun _ hf => nomatch hf⟩

theorem Kept.of_unreached (h : Account fine names origin ids c.socket s) {res : Except Failure α}
    (hres : ∀ f, res = .error f → Unreached f) : Kept fine names origin ids (res, (c, s)) := by
  refine ⟨h, fun f hf => ?_⟩
  rcases hres f hf with ⟨r, rfl, hkind, hsend⟩
  exact ⟨r, rfl, hkind, fun h => (hsend h).elim⟩

/-! ### The parts of an operation -/

theorem log_accounted (ht : t.SystemErrorsOnly fine names)
    (h : Account fine names origin ids held s)
    (c : Client) (severity : Severity) (event : String) (more : List LogField) :
    ∃ s', (log t.among severity event more).runFrom (c, s) = (.ok (), (c, s')) ∧
      Account fine names origin ids held s' := by
  rcases ht.note_accounted h _ with ⟨s', hcall, h'⟩
  refine ⟨s', ?_, h'⟩
  rw [log, Act.runFrom_bind_ok (Act.runFrom_get _)]
  exact onWorld_runFrom c hcall

theorem connect_connected {τ : Type} (t : Transport τ) (hc : c.socket = some id) (w : τ) :
    (connect t).runFrom (c, w) = (.ok (), (c, w)) := by
  rw [connect, Act.runFrom_bind_ok (Act.runFrom_get _)]
  dsimp only
  rw [isConnected, hc]
  rfl

/-- A client without a socket opens a new one, or it reports why it could not. -/
theorem connect_cases (ht : t.SystemErrorsOnly fine names)
    (h : Account fine names origin ids none s) (hc : c.socket = none) :
    (∃ id s', ((t.connect c.host c.port c.timeout).runFrom s.world).1 = .ok id ∧ id ∉ ids ∧
      (connect t.among).runFrom (c, s) = (.ok (), (c.withSocket (some id), s')) ∧
      Account fine names origin (ids ++ [id]) (some id) s') ∨
    ∃ e s', ((t.connect c.host c.port c.timeout).runFrom s.world).1 = .error (.system e) ∧
      (connect t.among).runFrom (c, s) = (.error (.reported (c.connectReport e)), (c, s')) ∧
      Account fine names origin ids none s' := by
  rw [connect, Act.runFrom_bind_ok (Act.runFrom_get _)]
  dsimp only
  rw [isConnected, hc, Option.isSome_none, if_neg Bool.false_ne_true]
  rcases ht.connect_accounted h c.host c.port c.timeout with
    ⟨id, s₁, hid, hnew, hcall, h₁⟩ | ⟨e, s', he, hcall, h'⟩
  · rcases log_accounted ht h₁ (c.withSocket (some id)) .debug "tcp_client_connected" [] with
      ⟨s', hlog, h'⟩
    exact .inl ⟨id, s', hid, hnew, (Act.runFrom_bind_ok (attempt_onWorld c hcall) _).trans hlog, h'⟩
  · exact .inr ⟨e, s', he, Act.runFrom_bind_ok (attempt_onWorld c hcall) _, h'⟩

/-- Closing never fails, whatever closing the socket has come to. -/
theorem close_accounted (ht : t.SystemErrorsOnly fine names)
    (h : Account fine names origin ids c.socket s) :
    ∃ s', (close t.among).runFrom (c, s) = (.ok (), (c.withSocket none, s')) ∧
      Account fine names origin ids none s' := by
  rw [close, Act.runFrom_bind_ok (Act.runFrom_get _)]
  dsimp only
  rcases hc : c.socket with _ | id <;> rw [hc] at h
  · exact ⟨s, by rw [withSocket_self hc]; rfl, h⟩
  · rcases ht.close_accounted h with ⟨res, s₁, hcall, rfl | ⟨e, rfl⟩, h₁⟩
    · dsimp only
      rw [Act.runFrom_bind_ok (attempt_onWorld c hcall)]
      rcases log_accounted ht h₁ (c.withSocket none) .debug "tcp_client_closed" [] with
        ⟨s', hlog, h'⟩
      exact ⟨s', hlog, h'⟩
    · dsimp only
      rw [Act.runFrom_bind_ok (attempt_onWorld c hcall)]
      rcases log_accounted ht h₁ c .warning "tcp_client_close_error" [.text "error" e.message] with
        ⟨s₂, hwarned, h₂⟩
      rcases log_accounted ht h₂ (c.withSocket none) .debug "tcp_client_closed" [] with
        ⟨s', hlog, h'⟩
      exact ⟨s', (Act.runFrom_bind_ok hwarned _).trans hlog, h'⟩

/-- Reading keeps the socket, whatever comes of it. -/
theorem readReply_accounted (ht : t.SystemErrorsOnly fine names)
    (h : Account fine names origin ids (some id) s) (hc : c.socket = some id)
    (span : Option Seconds) :
    ∃ res s', (readReply t.among span).runFrom (c, s) = (res, (c, s')) ∧
      Account fine names origin ids (some id) s' ∧ ∀ f, res = .error f → Unreached f := by
  rcases ht.setTimeout_accounted h (span.getD c.timeout) with ⟨s₁, htimeout, h₁⟩
  rcases ht.consume_accounted h₁ (c.rule.read (t.among.arrivals id s₁)).2 with ⟨s₂, hconsume, h₂⟩
  rcases answer_runFrom h₂ (fun more => log_accounted ht h₂ c .debug _ more)
    (c.rule.read (t.among.arrivals id s₁)).1 with ⟨s', hanswer, h'⟩
  refine ⟨_, s', (readReply_runFrom hc htimeout hconsume).trans hanswer, h', fun f => ?_⟩
  refine made_unreached fun part g hg => ?_
  exact ht.arrivals id s₁.world g h₁.fine (ReplyRule.mem_of_read_fault hg)

/-- A socket over which a message could not be sent is closed. -/
theorem transmit_kept (ht : t.SystemErrorsOnly fine names)
    (h : Account fine names origin ids (some id) s)
    (hc : c.socket = some id) (data : Bytes) (wait : Bool) (span : Option Seconds) :
    Kept fine names origin ids ((transmit t.among c id data wait span).runFrom (c, s)) := by
  rcases ht.send_accounted h data with ⟨res, s₁, hcall, rfl | ⟨e, rfl⟩, h₁⟩ <;>
    rw [transmit, Act.runFrom_bind_ok (attempt_onWorld c hcall)]
  · cases wait with
    | false => exact Kept.of_ok (hc.symm ▸ h₁) none
    | true =>
        rcases readReply_accounted ht h₁ hc span with ⟨res, s', hread, h', hres⟩
        have hkept : Kept fine names origin ids ((readReply t.among span).runFrom (c, s₁)) := by
          rw [hread]
          exact Kept.of_unreached (hc.symm ▸ h') hres
        exact hkept.bind_pure some
  · rcases close_accounted ht (hc.symm ▸ h₁) with ⟨s', hclose, h'⟩
    dsimp only
    rw [Act.runFrom_bind_ok hclose]
    refine ⟨h', fun f hf => ?_⟩
    exact ⟨_, (Except.error.inj hf).symm, rfl, fun _ => rfl⟩

/-- A client that has connected, or that was connected, sends over its socket. -/
theorem sendBytes_kept (ht : t.SystemErrorsOnly fine names)
    (hconnect : (connect t.among).runFrom (c, s) = (.ok (), (c', s')))
    (h : Account fine names origin ids (some id) s') (hc : c'.socket = some id) (data : Bytes)
    (wait : Bool) (span : Option Seconds) :
    Kept fine names origin ids ((sendBytes t.among data wait span).runFrom (c, s)) := by
  rcases log_accounted ht h c' .debug "tcp_client_sending" [.nat "size" data.length] with
    ⟨s₁, hlog, h₁⟩
  rw [sendBytes_eq, Act.runFrom_bind_ok hconnect, Act.runFrom_bind_ok hlog,
    Act.runFrom_bind_ok (Act.runFrom_get _)]
  dsimp only
  rw [hc]
  exact transmit_kept ht h₁ hc data wait span

/-- A client without a socket sends over one that it has opened for the message, or not at all. -/
theorem sendBytes_cases (ht : t.SystemErrorsOnly fine names)
    (h : Account fine names origin ids none s)
    (hc : c.socket = none) (data : Bytes) (wait : Bool) (span : Option Seconds) :
    (∃ id, ((t.connect c.host c.port c.timeout).runFrom s.world).1 = .ok id ∧ id ∉ ids ∧
      Kept fine names origin (ids ++ [id])
        ((sendBytes t.among data wait span).runFrom (c, s))) ∨
    ∃ e s', ((t.connect c.host c.port c.timeout).runFrom s.world).1 = .error (.system e) ∧
      (sendBytes t.among data wait span).runFrom (c, s) =
        (.error (.reported (c.connectReport e)), (c, s')) ∧
      Account fine names origin ids none s' := by
  rcases connect_cases ht h hc with ⟨id, s', hid, hnew, hconnect, h'⟩ | ⟨e, s', he, hconnect, h'⟩
  · exact .inl ⟨id, hid, hnew, sendBytes_kept ht hconnect h' rfl data wait span⟩
  · refine .inr ⟨e, s', he, ?_, h'⟩
    rw [sendBytes_eq, Act.runFrom_bind_error hconnect]

/-! ### One operation after another -/

theorem connect_kept (ht : t.SystemErrorsOnly fine names)
    (h : Account fine names origin ids c.socket s) :
    ∃ ids', Kept fine names origin ids' ((connect t.among).runFrom (c, s)) := by
  rcases hc : c.socket with _ | id
  · rcases connect_cases ht (hc ▸ h) hc with ⟨id, s', -, -, hrun, h'⟩ | ⟨e, s', -, hrun, h'⟩
    · exact ⟨_, hrun ▸ Kept.of_ok h' ()⟩
    · refine ⟨_, hrun ▸ Kept.of_unreached (hc ▸ h') fun f hf => ?_⟩
      exact Except.error.inj hf ▸ connectReport_unreached c e
  · exact ⟨ids, connect_connected t.among hc s ▸ Kept.of_ok h ()⟩

theorem close_kept (ht : t.SystemErrorsOnly fine names)
    (h : Account fine names origin ids c.socket s) :
    Kept fine names origin ids ((close t.among).runFrom (c, s)) := by
  rcases close_accounted ht h with ⟨s', hrun, h'⟩
  exact hrun ▸ Kept.of_ok h' ()

/-- Whatever a client is asked to do, it keeps account. -/
theorem operate_kept (ht : t.SystemErrorsOnly fine names)
    (h : Account fine names origin ids c.socket s) {o : Operation} (ho : o.Proper) :
    ∃ ids', Kept fine names origin ids' ((operate t.among o).runFrom (c, s)) := by
  cases o with
  | connect | enter =>
      rcases connect_kept ht h with ⟨ids', hkept⟩
      exact ⟨ids', hkept.bind_pure fun _ => none⟩
  | close | leave => exact ⟨ids, (close_kept ht h).bind_pure fun _ => none⟩
  | readReply span =>
      refine ⟨ids, Kept.bind_pure ?_ some⟩
      rcases hc : c.socket with _ | id
      · have hrun : (readReply t.among span).runFrom (c, s) =
            (.error (.reported notConnected), (c, s)) := by
          rw [readReply_eq, Act.runFrom_bind_ok (Act.runFrom_get _)]
          dsimp only
          rw [hc]
          rfl
        refine hrun ▸ Kept.of_unreached h fun f hf => ?_
        exact Except.error.inj hf ▸ ⟨_, rfl, by decide, by decide⟩
      · rcases readReply_accounted ht (hc ▸ h) hc span with ⟨res, s', hrun, h', hres⟩
        exact hrun ▸ Kept.of_unreached (hc ▸ h') hres
  | send message wait span =>
      rcases exists_send_eq ho with ⟨data, hdata⟩
      rw [operate, hdata]
      rcases hc : c.socket with _ | id
      · rcases sendBytes_cases ht (hc ▸ h) hc data wait span with
          ⟨id, -, -, hkept⟩ | ⟨e, s', -, hrun, h'⟩
        · exact ⟨_, hkept⟩
        · refine ⟨ids, hrun ▸ Kept.of_unreached (hc ▸ h') fun f hf => ?_⟩
          exact Except.error.inj hf ▸ connectReport_unreached c e
      · exact ⟨ids, sendBytes_kept ht (connect_connected t.among hc s) (hc ▸ h) hc data wait span⟩

/-- Whatever a client is asked to do one after another, it keeps account. -/
theorem operateAll_kept (ht : t.SystemErrorsOnly fine names) {ops : List Operation}
    (hops : ∀ o ∈ ops, o.Proper) (h : Account fine names origin ids c.socket s) :
    ∃ results c' s' ids', (operateAll t.among ops).runFrom (c, s) = (.ok results, (c', s')) ∧
      Account fine names origin ids' c'.socket s' ∧ results.length = ops.length ∧
      (∀ f, .error f ∈ results → ∃ r, f = .reported r ∧ r.kind.isUnder .transport = true) ∧
      ∀ r, results.getLast? = some (.error (.reported r)) → r.kind = .send →
        c'.isConnected = false := by
  induction ops generalizing c s ids with
  | nil => exact ⟨[], c, s, ids, rfl, h, rfl, fun _ hf => (List.not_mem_nil hf).elim,
      fun _ hlast => nomatch hlast⟩
  | cons o rest ih =>
      rcases operate_kept ht h (hops o List.mem_cons_self) with ⟨ids₁, hkept⟩
      rcases hrun : (operate t.among o).runFrom (c, s) with ⟨res, c₁, s₁⟩
      rw [hrun] at hkept
      rcases ih (fun o ho => hops o (List.mem_cons_of_mem _ ho)) hkept.account with
        ⟨results, c', s', ids', hrest, h', hlength, hfailed, hlast⟩
      refine ⟨res :: results, c', s', ids', ?_, h', congrArg (· + 1) hlength, fun f hf => ?_,
        fun r hr hsend => ?_⟩
      · rw [operateAll, Act.runFrom_bind_ok (Act.runFrom_attempt _ _), hrun,
          Act.runFrom_bind_ok hrest, Act.runFrom_pure]
      · rcases List.mem_cons.mp hf with hf | hf
        · rcases hkept.failed f hf.symm with ⟨r, rfl, hkind, -⟩
          exact ⟨r, rfl, hkind⟩
        · exact hfailed f hf
      · -- The last result is this one if there is nothing more to do, and then nothing is done.
        cases rest with
        | nil =>
            cases hrest
            rcases hkept.failed _ (Option.some.inj hr) with ⟨r', hr', -, hclosed⟩
            cases hr'
            exact hclosed hsend
        | cons o' rest =>
            have hne : results ≠ [] := List.ne_nil_of_length_eq_add_one hlength
            rw [List.getLast?_cons_of_ne_nil hne] at hr
            exact hlast r hr hsend

end

/-! ### Over which transport -/

section

open Act (Twin Moves)

variable {σ τ : Type} {t : Transport σ} {u : Transport τ} {calm : σ → Prop} {host : Text}
  {port : Port} {L : Option (SocketId × SocketId) → σ → τ → Prop} {c : Client}

theorem operate_twin (h : t.Twin u calm host port L) (hhost : c.host = host)
    (hport : c.port = port) (o : Operation) :
    Act.Twin (CalmWith calm) (Paired c L) (operate t o) (operate u o)
      (fun r r' p q => r = r' ∧ Paired c L p q) fun _ => Paired c L := by
  have hclose : Act.Twin (CalmWith calm) (Paired c L) (do close t; return none)
      (do close u; return none)
      (fun (r r' : Option MessageStream) p q => r = r' ∧ Paired c L p q) fun _ => Paired c L :=
    Twin.exists fun ids => Twin.bind ((close_twin h c ids).weaken (fun _ _ h => h)
      (fun _ _ _ _ h => h) fun _ _ _ h => ⟨ids, h.2⟩) fun _ _ => Twin.pure fun _ _ h =>
        ⟨rfl, none, h⟩
  have hconnect : Act.Twin (CalmWith calm) (Paired c L) (do connect t; return none)
      (do connect u; return none)
      (fun (r r' : Option MessageStream) p q => r = r' ∧ Paired c L p q) fun _ => Paired c L :=
    Twin.bind ((connect_twin h hhost hport).weaken (fun _ _ h => h) (fun _ _ _ _ h => h)
      fun _ _ _ h => ⟨none, h⟩) fun _ _ => Twin.pure fun _ _ ⟨ids, h⟩ => ⟨rfl, some ids, h⟩
  cases o with
  | connect => exact hconnect
  | enter => exact hconnect
  | close => exact hclose
  | leave => exact hclose
  | readReply span =>
      refine Twin.exists fun ids => ?_
      refine Twin.bind_eq ?_ fun r => Twin.pure fun _ _ h => ⟨rfl, ids, h⟩
      rcases ids with _ | ⟨i, j⟩
      · refine (get_twin (readReply_moves (moves_back h) span) fun _ _ => ?_).weaken
          (fun _ _ h => h) (fun _ _ _ _ h => h) fun _ _ _ h => ⟨none, h⟩
        exact Twin.throw fun _ _ h => h
      · exact (readReply_twin h c i j span).weaken (fun _ _ h => h) (fun _ _ _ _ h => h)
          fun _ _ _ h => ⟨_, h⟩
  | send message wait span =>
      rcases message with text | data
      · rw [operate, operate, send, send, sendText, sendText]
        rcases Utf8.encode? text with e | data
        · exact Twin.throw fun _ _ h => h
        · exact sendBytes_twin h hhost hport data wait span
      · exact sendBytes_twin h hhost hport data wait span

theorem operateAll_twin (h : t.Twin u calm host port L) (hhost : c.host = host)
    (hport : c.port = port) (ops : List Operation) :
    Act.Twin (CalmWith calm) (Paired c L) (operateAll t ops) (operateAll u ops)
      (fun r r' p q => r = r' ∧ Paired c L p q) fun _ _ _ => False := by
  induction ops with
  | nil => exact Twin.pure fun _ _ h => ⟨rfl, h⟩
  | cons o rest ih =>
      have hnext : ∀ result, Act.Twin (CalmWith calm) (Paired c L)
          (do return result :: (← operateAll t rest)) (do return result :: (← operateAll u rest))
          (fun r r' p q => r = r' ∧ Paired c L p q) fun _ _ _ => False := fun result =>
        Twin.bind_eq ih fun results => Twin.pure fun _ _ h => ⟨rfl, h⟩
      refine Twin.attempt_bind (operate_twin h hhost hport o) (fun x y => ?_) fun f => hnext _
      refine ⟨(hnext (.ok x)).back, ?_⟩
      rintro p q ⟨rfl, hpaired⟩ hcalm
      exact (hnext (.ok x)).meets p q hpaired hcalm

/-- A client that nobody disturbs does the same over the plain transport. -/
theorem operateAll_plain (hnote : ∀ o s, ((t.note o).runFrom s).1 = .ok ()) (hc : c.socket = none)
    (ops : List Operation) (w : σ) {results : List (Except Failure (Option MessageStream))}
    {c' : Client} {s' : Among σ}
    (hrun : (operateAll t.among ops).runFrom (c, ⟨SocketCall.left w, []⟩) =
      (.ok results, (c', s'))) :
    ∃ calls, s' = ⟨SocketCall.left w, calls⟩ ∧ c' = c.withSocket c'.socket ∧
      (operateAll t ops).runFrom (c, w) = (.ok results, (c', SocketCall.left w calls)) := by
  have hstart : Paired c (SideBySide.Undisturbed w) (c, ⟨SocketCall.left w, []⟩) (c, w) :=
    ⟨none, (withSocket_self hc).symm, (withSocket_self hc).symm, rfl, rfl, fun _ _ h => nomatch h⟩
  have hmeets := (operateAll_twin (SideBySide.among_twin hnote w c.host c.port) rfl rfl ops).meets
    _ _ hstart trivial
  rw [hrun] at hmeets
  rcases hplain : (operateAll t ops).runFrom (c, w) with ⟨f | results', c'', v⟩ <;>
    rw [hplain] at hmeets
  · exact hmeets.elim
  · rcases s' with ⟨_, calls⟩
    rcases hmeets with ⟨rfl, ids, hc', hc'', rfl, hpasses, hsame⟩
    obtain rfl : c' = c.withSocket (ids.map Prod.fst) := hc'
    obtain rfl : c'' = c.withSocket (ids.map Prod.snd) := hc''
    have hids : ids.map Prod.snd = ids.map Prod.fst := by
      rcases ids with _ | ⟨i, j⟩
      · rfl
      · exact congrArg some (hsame i j rfl).symm
    exact ⟨calls, rfl, rfl, by rw [hids, hpasses.left_eq]⟩

end

/-! ### Over scripted sockets -/

section

open ScriptedWorld (transport)

/-- For a message a new socket is opened. If none can be had it is reported why, and no socket has
    been opened. -/
def Reopens (c : Client) (w : ScriptedWorld) (calls : List (SocketCall ScriptedWorld))
    (o : Operation) : Prop :=
  let r := (operate transport.among o).runFrom (c, ⟨SocketCall.left w, calls⟩)
  match ((transport.connect c.host c.port c.timeout).runFrom (SocketCall.left w calls)).1 with
  | .ok id => id ∉ SocketCall.opened calls ∧
      SocketCall.opened r.2.2.calls = SocketCall.opened calls ++ [id]
  | .error f => (∃ e, f = .system e ∧ r.1 = .error (.reported (c.connectReport e))) ∧
      SocketCall.opened r.2.2.calls = SocketCall.opened calls

theorem reopens_of_account {c : Client} {w : ScriptedWorld}
    {calls : List (SocketCall ScriptedWorld)} {ids : List SocketId}
    (h : Account ScriptedWorld.Systemic ScriptedWorld.connected w ids none
      ⟨SocketCall.left w, calls⟩)
    (hc : c.socket = none) {message : Text ⊕ Bytes} {wait : Bool} {span : Option Seconds}
    (hmessage : (Operation.send message wait span).Proper) :
    c.Reopens w calls (.send message wait span) := by
  rcases exists_send_eq hmessage with ⟨data, hdata⟩
  have hworld : Among.world ⟨SocketCall.left w, calls⟩ = SocketCall.left w calls := rfl
  have hopened : SocketCall.opened calls = ids := h.opened
  rw [Reopens, operate, hdata, hopened, ← hworld]
  rcases sendBytes_cases ScriptedWorld.transport_systemErrors h hc data wait span with
    ⟨id, hid, hnew, hkept⟩ | ⟨e, s', he, hrun, h'⟩
  · rw [hid]
    exact ⟨hnew, hkept.account.opened⟩
  · rw [he, hrun]
    exact ⟨⟨e, rfl, rfl⟩, h'.opened⟩

end

end Client

end MockHost
