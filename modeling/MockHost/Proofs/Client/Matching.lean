import MockHost.Proofs.Client.Parts
import MockHost.Proofs.Client.Reading

/-!
# Whose Reply It Is

A client keeps its socket from one message to the next, and reads each reply from where
the last read has stopped. That this is the reply to the message just sent is a matter of
what the reads before have left behind: nothing, as long as each of them has returned a
reply, for then it has taken this reply as a whole. A read that fails leaves the rest of
the reply, or all of it once it comes, on a socket that stays open, and the next message
is answered with that.

The peer is a world of its own here: it answers every message that reaches it, and any
read may time out before the next byte of a reply is there.

## Main definitions

* `Respondent`, `Respondent.transport`: A peer, and the connection to it.
* `Respondent.Answers`: A peer that answers every message with an acknowledgement.
* `Exchange`: What comes of one message; `Exchange.Faithful`, `Exchange.Missed`.
* `Respondent.Sent`: What one message may leave behind.
* `Respondent.converse`: One client sends messages, one after another.

## Theorems

* `Respondent.sendMessage_spec`: What one message leaves behind.
* `Respondent.converse_matched`: Replies are matched as long as no read has failed.
* `Respondent.converse_unmatched`: They are not once a reply has come too late.
-/

namespace MockHost

open ReplyRule (Pending)

/-- What becomes of a message. -/
inductive Reaction where
  /-- It does not reach the peer. -/
  | lost (e : SystemError)
  /-- It is answered by what arrives then. -/
  | answered (arrivals : List Arrival)

/-- A peer and the present connection to it. -/
structure Respondent where
  /-- What comes of the next attempts to connect; further ones succeed. -/
  refusals : List (Option Failure) := []
  /-- What becomes of the next messages; further ones find nobody. -/
  reactions : List Reaction
  /-- What arrives at the client from now on. -/
  inbox : List Arrival := []
  /-- The replies that have been given so far, latest last. -/
  replies : List Bytes := []

/-- What comes of one message. -/
structure Exchange where
  /-- What there was to be read when the message was sent: earlier replies or their rests. -/
  unread : Bytes
  /-- The reply that the peer has given to the message, if it has reached it. -/
  own : Option Bytes
  result : Except Failure (Option MessageStream)

namespace Exchange

/-- What has been returned begins what was to be read, the own reply being the last of it. If
    there was nothing else it is the own reply. -/
structure Faithful (e : Exchange) : Prop where
  returned : ∀ x, e.result = .ok x → ∃ s reply, x = some s ∧ e.own = some reply ∧
    s.toBytes ≠ [] ∧ s.toBytes <+: e.unread ++ reply
  matched : e.unread = [] → ∀ s, e.result = .ok (some s) → e.own = some s.toBytes

/-- The peer has replied and there was nothing else to be read, but reading has failed. -/
structure Missed (e : Exchange) : Prop where
  unread : e.unread = []
  own : ∃ reply, e.own = some reply
  result : ∃ f, e.result = .error f

end Exchange

/-- Whether an arrival is a byte, or the end of a wait for one. -/
def Arrival.Timely : Arrival → Prop
  | .byte _ => True
  | .finished => False
  | .fault f => f.isTimeout = true

namespace Respondent

open Client

/-- The connection of a client to a peer. When nothing more arrives a read times out. -/
def transport : Transport Respondent where
  note _ := return
  connect _ _ _ := do
    let p ← get
    modify fun p => { p with refusals := p.refusals.tail, inbox := [] }
    match p.refusals.head? with
    | some (some f) => throw f
    | _ => return 0
  setTimeout _ _ := return
  send _ _ := do
    match (← get).reactions with
    | [] => throw (.system (.numbered 32))
    | .lost e :: rest =>
      modify fun p => { p with reactions := rest }
      throw (.system e)
    | .answered as :: rest =>
      modify fun p => { p with
        reactions := rest, inbox := p.inbox ++ as, replies := p.replies ++ [Arrival.bytes as] }
  arrivals _ p := p.inbox ++ [.fault (.system .timedOut)]
  consume _ n := modify fun p => { p with inbox := p.inbox.drop n }
  close _ := modify fun p => { p with inbox := [] }

/-- Every message that reaches the peer is answered with an acknowledgement, and reads fail by
    timing out only. -/
structure Answers (r : ReplyRule) (p : Respondent) : Prop where
  acknowledges : ∀ as, .answered as ∈ p.reactions →
    Arrival.bytes as = r.ack ∨ Arrival.bytes as = r.nak
  timely : ∀ as, .answered as ∈ p.reactions → ∀ a ∈ as, a.Timely
  inbox : ∀ a ∈ p.inbox, a.Timely

/-- Sends a text or bytes, and waits for the reply. -/
def sendMessage (message : Text ⊕ Bytes) (span : Option Seconds) :
    ClientAct Respondent (Option MessageStream) :=
  match message with
  | .inl text => sendText transport text true span
  | .inr data => sendBytes transport data true span

/-- What there is to be read on the socket of a client. -/
def unread (q : Client × Respondent) : Bytes :=
  if q.1.isConnected then Arrival.bytes q.2.inbox else []

/-- One client sends messages one after another, whatever comes of each. -/
def converse : List ((Text ⊕ Bytes) × Option Seconds) → ClientAct Respondent (List Exchange)
  | [] => return []
  | (message, span) :: rest => do
    let before ← get
    let result ← Act.attempt (sendMessage message span)
    let after ← get
    let own := (after.2.replies.drop before.2.replies.length).head?
    return ⟨unread before, own, result⟩ :: (← converse rest)

/-! ### One message -/

/-- A client with a socket, or none, and a peer as it should be. -/
structure Good (r : ReplyRule) (q : Client × Respondent) : Prop where
  rule : q.1.rule = r
  answers : q.2.Answers r

variable {r : ReplyRule} {c : Client} {p : Respondent}

theorem pending_of_timely {as : List Arrival} (h : ∀ a ∈ as, a.Timely) (f : Failure) :
    Pending (as ++ [.fault f]) := by
  induction as with
  | nil => trivial
  | cons a rest ih =>
      have hrest := ih fun a' ha' => h a' (List.mem_cons_of_mem a ha')
      cases a with
      | byte b => exact hrest
      | fault g => trivial
      | finished => exact (h .finished List.mem_cons_self).elim

theorem Answers.tail {a : Reaction} {rest : List Reaction} (h : p.Answers r)
    (hreactions : p.reactions = a :: rest) : Answers r { p with reactions := rest } where
  acknowledges as has := h.acknowledges as (hreactions ▸ List.mem_cons_of_mem a has)
  timely as has := h.timely as (hreactions ▸ List.mem_cons_of_mem a has)
  inbox := h.inbox

theorem log_runFrom (severity : Severity) (event : String) (more : List LogField)
    (q : Client × Respondent) :
    (log transport severity event more).runFrom q = (.ok (), q) := rfl

theorem unread_connected (h : c.isConnected = true) : unread (c, p) = Arrival.bytes p.inbox :=
  if_pos h

theorem unread_forgotten (h : c.isConnected = false) : unread (c, p) = [] := by
  rw [unread, h]
  rfl

theorem transport_connect_runFrom (host : Text) (port : Port) (span : Seconds) (p : Respondent) :
    (transport.connect host port span).runFrom p =
      (match p.refusals.head? with
        | some (some f) => .error f
        | _ => .ok 0, { p with refusals := p.refusals.tail, inbox := [] }) := by
  change (Act.runFrom (get >>= fun p : Respondent => _) p) = _
  rw [Act.runFrom_bind_ok (Act.runFrom_get _), Act.runFrom_bind_ok (Act.runFrom_modify _ _)]
  rcases p.refusals.head? with _ | _ | f <;> rfl

/-- A client that has connected finds on its socket what it found before, which is nothing on a
    new one. -/
theorem connect_spec (h : Good r (c, p)) :
    (∃ f p', (connect transport).runFrom (c, p) = (.error f, (c, p')) ∧ Good r (c, p') ∧
      p'.replies = p.replies ∧ unread (c, p') = []) ∨
    ∃ c' p', (connect transport).runFrom (c, p) = (.ok (), (c', p')) ∧ Good r (c', p') ∧
      c'.isConnected = true ∧ p'.replies = p.replies ∧ unread (c', p') = unread (c, p) := by
  rw [connect, Act.runFrom_bind_ok (Act.runFrom_get _)]
  by_cases hconnected : c.isConnected = true
  · rw [if_pos hconnected]
    exact .inr ⟨c, p, rfl, h, hconnected, rfl, rfl⟩
  · rw [if_neg hconnected, Act.runFrom_bind_ok (Act.runFrom_attempt _ _)]
    have hclosed : c.isConnected = false := Bool.eq_false_iff.mpr hconnected
    have hnew : Respondent.Answers r { p with refusals := p.refusals.tail, inbox := [] } :=
      ⟨h.answers.acknowledges, h.answers.timely, fun _ ha => (List.not_mem_nil ha).elim⟩
    rw [onWorld, Act.runFrom_within, transport_connect_runFrom]
    rcases p.refusals.head? with _ | _ | f
    · exact .inr ⟨_, _, rfl, ⟨h.rule, hnew⟩, rfl, rfl, (unread_forgotten hclosed).symm⟩
    · exact .inr ⟨_, _, rfl, ⟨h.rule, hnew⟩, rfl, rfl, (unread_forgotten hclosed).symm⟩
    · refine .inl ?_
      cases f with
      | system e => exact ⟨_, _, rfl, ⟨h.rule, hnew⟩, rfl, unread_forgotten hclosed⟩
      | _ => exact ⟨_, _, rfl, ⟨h.rule, hnew⟩, rfl, unread_forgotten hclosed⟩

/-- The end of a wait is no byte that could be taken or left. -/
theorem bytes_take_concat (n : Nat) (as : List Arrival) (f : Failure) :
    Arrival.bytes ((as ++ [Arrival.fault f]).take n) = Arrival.bytes (as.take n) := by
  rw [List.take_append, Arrival.bytes_append]
  rcases n - as.length with _ | k
  · exact List.append_nil _
  · rw [List.take_succ_cons, List.take_nil]
    exact List.append_nil _

/-- What reading a reply takes and leaves. -/
theorem readReply_spec (h : Good r (c, p)) (hconnected : c.isConnected = true)
    (span : Option Seconds) :
    ∃ p' taken, ((readReply transport span).runFrom (c, p)).2 = (c, p') ∧ Good r (c, p') ∧
      p'.replies = p.replies ∧ taken ++ Arrival.bytes p'.inbox = Arrival.bytes p.inbox ∧
      ∀ s, ((readReply transport span).runFrom (c, p)).1 = .ok s →
        s.toBytes = taken ∧ r.IsReply taken := by
  rcases Option.isSome_iff_exists.mp hconnected with ⟨id, hid⟩
  have hrule : c.rule = r := h.rule
  have hpending := pending_of_timely h.answers.inbox (.system .timedOut)
  have hrun : (readReply transport span).runFrom (c, p) =
      (c.made (c.rule.read (p.inbox ++ [.fault (.system .timedOut)])).1, (c, { p with
        inbox := p.inbox.drop (c.rule.read (p.inbox ++ [.fault (.system .timedOut)])).2 })) := by
    rw [readReply_runFrom hid rfl rfl]
    rcases answer_runFrom (t := transport) (P := (· = _)) rfl (fun _ => ⟨_, rfl, rfl⟩) _ with
      ⟨_, hanswer, rfl⟩
    exact hanswer
  rw [hrule] at hrun
  rw [hrun]
  refine ⟨_, Arrival.bytes (p.inbox.take _), rfl, ⟨hrule, ?_⟩, rfl,
    Arrival.bytes_take_drop _ p.inbox, fun s hs => ?_⟩
  · exact ⟨h.answers.acknowledges, h.answers.timely,
      fun a ha => h.answers.inbox a (List.mem_of_mem_drop ha)⟩
  · rcases eq_of_made hs with hcomplete | hfinished
    · -- Only a reply that is complete can be returned: the wait ends with a timeout, which is
      -- not a peer that has finished.
      rcases r.read_complete hcomplete with ⟨hreply, htaken⟩
      rw [bytes_take_concat] at htaken
      rw [htaken]
      exact ⟨rfl, hreply⟩
    · exact (r.read_ne_finished hpending s hfinished).elim

theorem close_runFrom (q : Client × Respondent) :
    ∃ q', (close transport).runFrom q = (.ok (), q') ∧ q'.1 = { q.1 with socket := none } ∧
      q'.2.reactions = q.2.reactions ∧ q'.2.replies = q.2.replies ∧
      ∀ a ∈ q'.2.inbox, a ∈ q.2.inbox := by
  rcases q with ⟨c, p⟩
  rw [close, Act.runFrom_bind_ok (Act.runFrom_get _)]
  dsimp only
  rcases hsocket : c.socket with _ | id
  · refine ⟨(c, p), rfl, ?_, rfl, rfl, fun a ha => ha⟩
    rw [← hsocket]
  · exact ⟨_, rfl, rfl, rfl, rfl, fun a ha => (List.not_mem_nil ha).elim⟩

/-- What one message may leave behind, for a client that has no part of the story but what is
    unread and which replies were given. -/
inductive Sent (r : ReplyRule) (q q' : Client × Respondent) :
    Except Failure (Option MessageStream) → Prop where
  /-- The message has not reached the peer. -/
  | unheard (f : Failure) (hreplies : q'.2.replies = q.2.replies)
      (hunread : unread q' = [] ∨ unread q' = unread q) : Sent r q q' (.error f)
  /-- The peer has replied, and reading the reply has failed. -/
  | failed (f : Failure) (reply taken : Bytes) (hreply : reply = r.ack ∨ reply = r.nak)
      (hreplies : q'.2.replies = q.2.replies ++ [reply])
      (hunread : taken ++ unread q' = unread q ++ reply) : Sent r q q' (.error f)
  /-- The peer has replied, and something has been returned. -/
  | returned (s : MessageStream) (reply : Bytes) (hreply : reply = r.ack ∨ reply = r.nak)
      (hreplies : q'.2.replies = q.2.replies ++ [reply]) (hs : r.IsReply s.toBytes)
      (hunread : s.toBytes ++ unread q' = unread q ++ reply) : Sent r q q' (.ok (some s))

/-- Being connected first leaves no trace in what a message leaves behind. -/
theorem Sent.of_connected {q q₁ q' : Client × Respondent}
    {res : Except Failure (Option MessageStream)} (h : Sent r q₁ q' res)
    (hreplies : q₁.2.replies = q.2.replies) (hunread : unread q₁ = unread q) :
    Sent r q q' res := by
  cases h with
  | unheard f hr hu => exact .unheard f (hr.trans hreplies) (hunread ▸ hu)
  | failed f reply taken hreply hr hu =>
      exact .failed f reply taken hreply (hreplies ▸ hr) (hunread ▸ hu)
  | returned s reply hreply hr hs hu =>
      exact .returned s reply hreply (hreplies ▸ hr) hs (hunread ▸ hu)

/-- A message that the peer gets is answered after whatever is still to be read. -/
theorem answered_spec {as : List Arrival} {rest : List Reaction} (h : Good r (c, p))
    (hconnected : c.isConnected = true) (hreactions : p.reactions = .answered as :: rest)
    (span : Option Seconds) {p₁ : Respondent}
    (hp₁ : p₁ = { p with reactions := rest, inbox := p.inbox ++ as,
                         replies := p.replies ++ [Arrival.bytes as] }) :
    ∃ q', ((readReply transport span).runFrom (c, p₁)).2 = q' ∧ Good r q' ∧
      Sent r (c, p) q' (((readReply transport span).runFrom (c, p₁)).1.map some) := by
  have hmem : Reaction.answered as ∈ p.reactions := hreactions ▸ List.mem_cons_self
  have hgood : Good r (c, p₁) := by
    have htail := h.answers.tail hreactions
    rw [hp₁]
    refine ⟨h.rule, ⟨htail.acknowledges, htail.timely, fun a ha => ?_⟩⟩
    rcases List.mem_append.mp ha with hold | hnew
    · exact h.answers.inbox a hold
    · exact h.answers.timely as hmem a hnew
  have hreply := h.answers.acknowledges as hmem
  have hreplies : p₁.replies = p.replies ++ [Arrival.bytes as] := by rw [hp₁]
  have hbytes : Arrival.bytes p₁.inbox = unread (c, p) ++ Arrival.bytes as := by
    rw [hp₁, unread_connected hconnected, ← Arrival.bytes_append]
  rcases readReply_spec hgood hconnected span with
    ⟨p', taken, hstate, hgood', hkept, htaken, hreturned⟩
  have hunread : taken ++ unread (c, p') = unread (c, p) ++ Arrival.bytes as := by
    rw [unread_connected hconnected, htaken, hbytes]
  refine ⟨(c, p'), hstate, hgood', ?_⟩
  rcases hres : ((readReply transport span).runFrom (c, p₁)).1 with f | s
  · exact .failed f _ taken hreply (hkept.trans hreplies) hunread
  · rcases hreturned s hres with ⟨hbs, his⟩
    rw [← hbs] at his hunread
    exact .returned s _ hreply (hkept.trans hreplies) his hunread

/-- A message that cannot be sent costs the client its socket, and all that was unread. -/
theorem transmit_lost {id : SocketId} {data : Bytes} {e : SystemError} {p₁ : Respondent}
    (hsend : (transport.send id data).runFrom p = (.error (.system e), p₁))
    (h₁ : Good r (c, p₁)) (hreplies : p₁.replies = p.replies) (span : Option Seconds) :
    ∃ f q', (transmit transport c id data true span).runFrom (c, p) = (.error f, q') ∧
      Good r q' ∧ Sent r (c, p) q' (.error f) := by
  rcases close_runFrom (c, p₁) with ⟨⟨c', p'⟩, hclose, hc', hreactions, hkept, hinbox⟩
  dsimp only at hc' hreactions hkept hinbox
  refine ⟨.reported (c.sendReport e data.length), (c', p'), ?_, ⟨?_, ?_⟩,
    .unheard _ ?_ (.inl ?_)⟩
  · rw [transmit, Act.runFrom_bind_ok (attempt_onWorld c hsend)]
    dsimp only
    rw [Act.runFrom_bind_ok hclose, Act.runFrom_bind_error (Act.runFrom_throw _ _)]
  · rw [hc']
    exact h₁.rule
  · exact ⟨hreactions ▸ h₁.answers.acknowledges, hreactions ▸ h₁.answers.timely,
      fun a ha => h₁.answers.inbox a (hinbox a ha)⟩
  · exact hkept.trans hreplies
  · rw [hc']
    exact unread_forgotten rfl

/-- What a client with a socket leaves behind when it has sent a message. -/
theorem transmit_spec (h : Good r (c, p)) (hconnected : c.isConnected = true) (id : SocketId)
    (data : Bytes) (span : Option Seconds) :
    ∃ res q', (transmit transport c id data true span).runFrom (c, p) = (res, q') ∧
      Good r q' ∧ Sent r (c, p) q' res := by
  -- A peer that has nothing left to do is gone, one may refuse the bytes, or it answers them.
  rcases hreactions : p.reactions with _ | ⟨e | as, rest⟩
  · have hsend : (transport.send id data).runFrom p =
        (.error (.system (.numbered 32)), p) := by
      change (Act.runFrom (get >>= fun p : Respondent => _) p) = _
      rw [Act.runFrom_bind_ok (Act.runFrom_get _), hreactions]
      rfl
    rcases transmit_lost hsend h rfl span with ⟨f, q', hrun⟩
    exact ⟨_, q', hrun⟩
  · have hsend : (transport.send id data).runFrom p =
        (.error (.system e), { p with reactions := rest }) := by
      change (Act.runFrom (get >>= fun p : Respondent => _) p) = _
      rw [Act.runFrom_bind_ok (Act.runFrom_get _), hreactions]
      rfl
    have hgood : Good r (c, { p with reactions := rest }) := ⟨h.rule, h.answers.tail hreactions⟩
    rcases transmit_lost hsend hgood rfl span with ⟨f, q', hrun⟩
    exact ⟨_, q', hrun⟩
  · rcases answered_spec h hconnected hreactions span rfl with ⟨q', hstate, hgood, hsent⟩
    refine ⟨_, q', ?_, hgood, hsent⟩
    have hattempt : (Act.attempt (onWorld (transport.send id data))).runFrom (c, p) =
        (.ok (.ok ()), (c, { p with
          reactions := rest, inbox := p.inbox ++ as,
          replies := p.replies ++ [Arrival.bytes as] })) := by
      change (Act.runFrom (Act.attempt (onWorld (get >>= fun p : Respondent => _))) (c, p)) = _
      rw [Act.runFrom_attempt, onWorld, Act.runFrom_within,
        Act.runFrom_bind_ok (Act.runFrom_get _), hreactions]
      rfl
    rw [transmit, Act.runFrom_bind_ok hattempt]
    dsimp only
    rw [if_pos rfl, ← hstate]
    exact Act.runFrom_bind_pure _ _ _

/-- What sending bytes leaves behind. -/
theorem sendBytes_spec {q : Client × Respondent} (h : Good r q) (data : Bytes)
    (span : Option Seconds) :
    ∃ res q', (sendBytes transport data true span).runFrom q = (res, q') ∧
      Good r q' ∧ Sent r q q' res := by
  rcases q with ⟨c, p⟩
  rw [sendBytes_eq]
  rcases connect_spec h with
    ⟨f, p', hrun, hgood, hreplies, hunread⟩ |
    ⟨c', p', hrun, hgood, hconnected, hreplies, hunread⟩
  · exact ⟨_, _, Act.runFrom_bind_error hrun _, hgood, .unheard f hreplies (.inl hunread)⟩
  · rw [Act.runFrom_bind_ok hrun, Act.runFrom_bind_ok (log_runFrom _ _ _ _),
      Act.runFrom_bind_ok (Act.runFrom_get _)]
    rcases transmit_spec hgood hconnected (c'.socket.getD 0) data span with
      ⟨res, q', hsent, hgood', hres⟩
    exact ⟨res, q', hsent, hgood', hres.of_connected hreplies hunread⟩

/-- What a message leaves behind. -/
theorem sendMessage_spec {q : Client × Respondent} (h : Good r q) (message : Text ⊕ Bytes)
    (span : Option Seconds) :
    ∃ res q', (sendMessage message span).runFrom q = (res, q') ∧ Good r q' ∧ Sent r q q' res := by
  rcases message with text | data
  · rw [sendMessage, sendText]
    rcases Utf8.encode? text with e | data
    · exact ⟨_, _, rfl, h, .unheard _ rfl (.inr rfl)⟩
    · exact sendBytes_spec h data span
  · exact sendBytes_spec h data span

/-! ### A conversation -/

/-- What comes of a message that leads from one state to another. -/
def exchange (q q' : Client × Respondent) (res : Except Failure (Option MessageStream)) :
    Exchange where
  unread := unread q
  own := (q'.2.replies.drop q.2.replies.length).head?
  result := res

theorem own_of_replies {q q' : Client × Respondent} {reply : Bytes}
    (h : q'.2.replies = q.2.replies ++ [reply]) (res : Except Failure (Option MessageStream)) :
    (exchange q q' res).own = some reply := by
  rw [exchange, h, List.drop_left]
  rfl

variable {q q' : Client × Respondent} {res : Except Failure (Option MessageStream)}

theorem Sent.faithful (hclear : r.Clear) (h : Sent r q q' res) :
    (exchange q q' res).Faithful := by
  cases h with
  | unheard f hreplies hunread => exact ⟨fun _ h => (nomatch h), fun _ _ h => (nomatch h)⟩
  | failed f reply taken hreply hreplies hunread =>
      exact ⟨fun _ h => (nomatch h), fun _ _ h => (nomatch h)⟩
  | returned s reply hreply hreplies hs hunread =>
      have hown := own_of_replies hreplies (.ok (some s))
      refine ⟨fun x hx => ?_, fun hnone s' hs' => ?_⟩
      · cases hx
        exact ⟨s, reply, rfl, hown, hs.nonempty, hunread ▸ List.prefix_append _ _⟩
      · cases hs'
        -- With nothing unread the bytes begin with the reply, and with one reply only.
        have hnone : unread q = [] := hnone
        have hsame : s.toBytes ++ unread q' = reply ++ [] := by
          rw [hunread, hnone, List.nil_append, List.append_nil]
        rw [hown, hs.eq_of_append (hclear.isReply hreply) hsame]

/-- As long as nothing is unread, it takes a reply that could not be read to change that. -/
theorem Sent.unread_or_missed (hclear : r.Clear) (h : Sent r q q' res) (hnone : unread q = []) :
    unread q' = [] ∨ (exchange q q' res).Missed := by
  cases h with
  | unheard f hreplies hunread =>
      rcases hunread with hempty | hsame
      · exact .inl hempty
      · exact .inl (hsame.trans hnone)
  | failed f reply taken hreply hreplies hunread =>
      exact .inr ⟨hnone, ⟨reply, own_of_replies hreplies _⟩, f, rfl⟩
  | returned s reply hreply hreplies hs hunread =>
      have hsame : s.toBytes ++ unread q' = reply ++ [] := by
        rw [hunread, hnone, List.nil_append, List.append_nil]
      have hreturned := hs.eq_of_append (hclear.isReply hreply) hsame
      rw [hreturned] at hsame
      exact .inl (List.append_cancel_left hsame)

/-- A conversation from any state on. What is unread at some point was unread from the start,
    or there was a reply before that could not be read. -/
theorem converse_faithful (hclear : r.Clear)
    (messages : List ((Text ⊕ Bytes) × Option Seconds)) (h : Good r q) :
    ∃ xs q', (converse messages).runFrom q = (.ok xs, q') ∧ xs.length = messages.length ∧
      ∀ before e after, xs = before ++ e :: after →
        e.Faithful ∧ (unread q = [] → e.unread = [] ∨ ∃ e' ∈ before, e'.Missed) := by
  -- The state is general, and so is what is unread in it, which the first message may change.
  induction messages generalizing q with
  | nil =>
      refine ⟨[], q, rfl, rfl, fun before e after hxs => ?_⟩
      exact (List.append_ne_nil_of_right_ne_nil before (List.cons_ne_nil e after) hxs.symm).elim
  | cons m rest ih =>
      rcases m with ⟨message, span⟩
      rcases sendMessage_spec h message span with ⟨res, q₁, hrun, hgood, hsent⟩
      rcases ih hgood with ⟨xs, q', hrest, hlength, hxs⟩
      have hattempt : (Act.attempt (sendMessage message span)).runFrom q = (.ok res, q₁) := by
        rw [Act.runFrom_attempt, hrun]
      refine ⟨exchange q q₁ res :: xs, q', ?_, congrArg (· + 1) hlength, ?_⟩
      · rw [converse, Act.runFrom_bind_ok (Act.runFrom_get _), Act.runFrom_bind_ok hattempt,
          Act.runFrom_bind_ok (Act.runFrom_get _)]
        dsimp only
        rw [Act.runFrom_bind_ok hrest]
        rfl
      · intro before e after heq
        rcases List.cons_eq_append_iff.mp heq with ⟨rfl, hcons⟩ | ⟨before', rfl, hlater⟩
        · injection hcons with he _
          rw [he]
          exact ⟨hsent.faithful hclear, fun hnone => .inl hnone⟩
        · rcases hxs before' e after hlater with ⟨hfaithful, hunread⟩
          refine ⟨hfaithful, fun hnone => ?_⟩
          -- Either the first message leaves nothing unread, or it is itself the one that missed.
          rcases hsent.unread_or_missed hclear hnone with hnone' | hmissed
          · refine (hunread hnone').imp_right fun ⟨e', hmem, hmissed⟩ => ?_
            exact ⟨e', List.mem_cons_of_mem _ hmem, hmissed⟩
          · exact .inr ⟨_, List.mem_cons_self, hmissed⟩

/-- A conversation on one client: what a message returns begins what was unread when it was
    sent, followed by its own reply. It is that reply if nothing was unread, which is so
    unless there was an earlier message whose reply could not be read in time. -/
theorem converse_matched (hclear : c.rule.Clear) (hsocket : c.socket = none)
    (hanswers : p.Answers c.rule) (messages : List ((Text ⊕ Bytes) × Option Seconds)) :
    ∃ xs q', (converse messages).runFrom (c, p) = (.ok xs, q') ∧ xs.length = messages.length ∧
      ∀ before e after, xs = before ++ e :: after →
        e.Faithful ∧ (e.unread = [] ∨ ∃ e' ∈ before, e'.Missed) := by
  have hgood : Good c.rule (c, p) := ⟨rfl, hanswers⟩
  rcases converse_faithful hclear messages hgood with ⟨xs, q', hrun, hlength, hxs⟩
  have hnone : unread (c, p) = [] := unread_forgotten (by rw [isConnected, hsocket]; rfl)
  refine ⟨xs, q', hrun, hlength, fun before e after heq => ?_⟩
  exact (hxs before e after heq).imp_right fun h => h hnone

/-- A client that takes two letters for the acknowledgements. -/
def lettered : Client where
  host := "localhost"
  port := 7001
  timeout := Binary64.ofInt 5
  rule := { ack := [65], nak := [78], terminator := none }

/-- A peer that refuses the first message and answers the next one late. -/
def late : Respondent where
  reactions :=
    [.answered [.byte 78], .answered [.fault (.system .timedOut), .byte 65], .answered [.byte 78]]

theorem lettered_clear : lettered.rule.Clear where
  ack_ne := by decide
  nak_ne := by decide
  ack_nak := by decide
  nak_ack := by decide
  uncut := fun _ _ _ _ _ _ ht => nomatch ht

theorem late_answers : late.Answers lettered.rule where
  acknowledges as has := by
    rcases List.mem_cons.mp has with h | has
    · cases h
      exact .inr rfl
    · rcases List.mem_cons.mp has with h | has
      · cases h
        exact .inl rfl
      · cases List.mem_singleton.mp has
        exact .inr rfl
  timely as has a ha := by
    rcases List.mem_cons.mp has with h | has
    · cases h
      cases List.mem_singleton.mp ha
      trivial
    · rcases List.mem_cons.mp has with h | has
      · cases h
        rcases List.mem_cons.mp ha with rfl | ha
        · rfl
        · cases List.mem_singleton.mp ha
          trivial
      · cases List.mem_singleton.mp has
        cases List.mem_singleton.mp ha
        trivial
  inbox _ ha := (List.not_mem_nil ha).elim

/-- Three messages, each a digit. -/
def three : List ((Text ⊕ Bytes) × Option Seconds) :=
  [(.inr [49], none), (.inr [50], none), (.inr [51], none)]

theorem converse_matched_late :
    ∃ xs q', (converse three).runFrom (lettered, late) = (.ok xs, q') ∧ xs.length = 3 ∧
      ∀ before e after, xs = before ++ e :: after →
        e.Faithful ∧ (e.unread = [] ∨ ∃ e' ∈ before, e'.Missed) :=
  converse_matched lettered_clear rfl late_answers three

/-- A reply that comes too late is returned for the next message. -/
theorem converse_unmatched :
    ¬ ∀ (c : Client) (p : Respondent), c.rule.ack ≠ [] → c.rule.nak ≠ [] →
      ¬ c.rule.ack <+: c.rule.nak → ¬ c.rule.nak <+: c.rule.ack → c.socket = none →
      p.Answers c.rule → ∀ messages xs q', (converse messages).runFrom (c, p) = (.ok xs, q') →
        ∀ e ∈ xs, ∀ s, e.result = .ok (some s) → e.own = some s.toBytes := by
  intro h
  have hlast := h lettered late lettered_clear.ack_ne lettered_clear.nak_ne
    lettered_clear.ack_nak lettered_clear.nak_ack rfl late_answers three _ _ rfl
  have hown := hlast _ (List.mem_cons_of_mem _ (List.mem_cons_of_mem _ List.mem_cons_self)) _ rfl
  exact absurd hown (by decide)

end Respondent

end MockHost
