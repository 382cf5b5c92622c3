import MockHost.Client.Basic

/-!
# The Parts of Sending and Reading

To send a message a client first sees to it that it has a socket, and only then does
anything with it; to read a reply it first takes what there is to be read, and only then
asks what it is. What follows in either case is a part of its own, which whoever argues
about a client can look at by itself.

## Main definitions

* `Client.transmit`: What a client does with its socket to send a message.
* `Client.answer`: What a client makes of what it has read.
* `Client.made`: What this comes to, apart from what is logged.

## Theorems

* `Client.sendBytes_eq`, `Client.readReply_eq`: How sending and reading go on to these parts.
* `Client.readReply_runFrom`, `Client.answer_runFrom`: What reading comes to.
-/

namespace MockHost

/-- What is made of a result in the end does not change what an act leaves behind. -/
theorem Act.runFrom_bind_pure {σ α β : Type} (a : Act σ α) (g : α → β) (s : σ) :
    (a >>= fun x => pure (g x)).runFrom s = ((a.runFrom s).1.map g, (a.runFrom s).2) := by
  rw [Act.runFrom_bind]
  rcases a.runFrom s with ⟨_ | x, s'⟩ <;> rfl

namespace Client

variable {σ : Type} (t : Transport σ)

/-- What a client makes of what it has read. -/
def answer (c : Client) : ReplyEnd → ClientAct σ MessageStream
  | .complete s => return s
  | .finished s => do
    if s.size = 0 then throw (.reported closedByPeer)
    log t .debug "tcp_client_partial_response" [.nat "size" s.size]
    return s
  | .unexpected s => throw (.reported (c.unexpectedReport s))
  | .fault s (.system e) => throw (.reported (c.receiveReport e s.size))
  | .fault _ f => throw f

/-- What a client does with a socket once it has one: it sends and reads the reply. -/
def transmit (c : Client) (id : SocketId) (data : Bytes) (wait : Bool) (span : Option Seconds) :
    ClientAct σ (Option MessageStream) := do
  match ← Act.attempt (onWorld (t.send id data)) with
  | .ok () => pure ()
  | .error (.system e) =>
    close t
    throw (.reported (c.sendReport e data.length))
  | .error f => throw f
  if wait then return some (← readReply t span) else return none

theorem sendBytes_eq (data : Bytes) (wait : Bool) (span : Option Seconds) :
    sendBytes t data wait span = (do
      connect t
      log t .debug "tcp_client_sending" [.nat "size" data.length]
      let q ← get
      transmit t q.1 (q.1.socket.getD 0) data wait span) := rfl

theorem readReply_eq (span : Option Seconds) :
    readReply t span = (do
      let q ← get
      match q.1.socket with
      | none => throw (.reported notConnected)
      | some id =>
        onWorld (t.setTimeout id (span.getD q.1.timeout))
        let q' ← get
        onWorld (t.consume id (q.1.rule.read (t.arrivals id q'.2)).2)
        answer t q.1 (q.1.rule.read (t.arrivals id q'.2)).1) := rfl

/-! ### What reading comes to -/

/-- What a client makes of what it has read, apart from logging it. -/
def made (c : Client) : ReplyEnd → Except Failure MessageStream
  | .complete s => .ok s
  | .finished s => if s.size = 0 then .error (.reported closedByPeer) else .ok s
  | .unexpected s => .error (.reported (c.unexpectedReport s))
  | .fault s (.system e) => .error (.reported (c.receiveReport e s.size))
  | .fault _ f => .error f

section

variable {t} {c : Client} {id : SocketId} {w w' w'' : σ}

/-- What is returned was complete, or all that the peer has sent. -/
theorem eq_of_made {ending : ReplyEnd} {s : MessageStream} (h : c.made ending = .ok s) :
    ending = .complete s ∨ ending = .finished s := by
  cases ending with
  | complete s' =>
      injection h with h
      exact .inl (congrArg _ h)
  | finished s' =>
      rw [made] at h
      split at h
      · injection h
      · injection h with h
        exact .inr (congrArg _ h)
  | unexpected s' => injection h
  | fault s' f => cases f <;> injection h

theorem onWorld_runFrom {α : Type} {a : Act σ α} {res : Except Failure α} (c : Client)
    (h : a.runFrom w = (res, w')) : (onWorld a).runFrom (c, w) = (res, (c, w')) := by
  rw [onWorld, Act.runFrom_within, h]

theorem attempt_onWorld {α : Type} {a : Act σ α} {res : Except Failure α} (c : Client)
    (h : a.runFrom w = (res, w')) :
    (Act.attempt (onWorld a)).runFrom (c, w) = (.ok res, (c, w')) := by
  rw [Act.runFrom_attempt, onWorld_runFrom c h]

/-- Logging does not change what is made of an answer, nor what is true of the world if it is
    true whatever has been logged. -/
theorem answer_runFrom {P : σ → Prop} (hw : P w)
    (hlog : ∀ more, ∃ w', (log t .debug "tcp_client_partial_response" more).runFrom (c, w) =
      (.ok (), (c, w')) ∧ P w') (ending : ReplyEnd) :
    ∃ w', (answer t c ending).runFrom (c, w) = (c.made ending, (c, w')) ∧ P w' := by
  cases ending with
  | complete s => exact ⟨w, rfl, hw⟩
  | finished s =>
      rw [answer, made]
      by_cases hempty : s.size = 0
      · rw [if_pos hempty, if_pos hempty]
        exact ⟨w, rfl, hw⟩
      · rw [if_neg hempty, if_neg hempty]
        rcases hlog [.nat "size" s.size] with ⟨w', hrun, hw'⟩
        exact ⟨w', Act.runFrom_bind_ok hrun _, hw'⟩
  | unexpected s => exact ⟨w, rfl, hw⟩
  | fault s f => cases f <;> exact ⟨w, rfl, hw⟩

/-- Reading takes the arrivals that the rule says, and then asks what they are. -/
theorem readReply_runFrom (hid : c.socket = some id) {span : Option Seconds}
    (htimeout : (t.setTimeout id (span.getD c.timeout)).runFrom w = (.ok (), w'))
    (hconsume : (t.consume id (c.rule.read (t.arrivals id w')).2).runFrom w' = (.ok (), w'')) :
    (readReply t span).runFrom (c, w) =
      (answer t c (c.rule.read (t.arrivals id w')).1).runFrom (c, w'') := by
  rw [readReply_eq, Act.runFrom_bind_ok (Act.runFrom_get _)]
  dsimp only
  rw [hid]
  dsimp only
  rw [Act.runFrom_bind_ok (onWorld_runFrom c htimeout), Act.runFrom_bind_ok (Act.runFrom_get _)]
  dsimp only
  rw [Act.runFrom_bind_ok (onWorld_runFrom c hconsume)]

end

end Client

end MockHost
