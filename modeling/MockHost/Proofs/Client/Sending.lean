import MockHost.Proofs.Client.Replies
import MockHost.Proofs.Dispatch.Trace

/-!
# What a Client Sends

A client connects, sends its message and perhaps reads a reply. Only one of these stages sends
anything, so what has been sent afterwards tells how far it has come. Either it is the message,
and then all that is left to go wrong is the reply, or it is nothing, and then something has
gone wrong before.

That the other stages send nothing is not argued for each of them. They are the same over a
transport that cannot send, and over such a transport nothing is ever sent.

## Main definitions

* `Trace.sent`: What has been sent.
* `Transport.mute`: The transport that sends nothing.
* `Client.answered`: What comes of a message that the peer has taken.

## Theorems

* `ScriptedWorld.transport_silent`: Without its sends a transport sends nothing.
* `Client.sendBytes_taken`: A message that the peer takes has been sent.
* `Client.sendBytes_untaken`: A message that the peer does not take has not.
-/

namespace MockHost

open ScriptedWorld (transport takeScript)

/-! ### What has been sent -/

/-- What an occurrence has sent, with the label of the socket. -/
def Occurrence.sent? : Occurrence → Option (Text × Bytes)
  | .send label data => some (label, data)
  | _ => none

/-- What has been sent. -/
def Trace.sent (t : Trace) : List (Text × Bytes) := t.toList.filterMap Occurrence.sent?

theorem Trace.sent_push (t : Trace) (o : Occurrence) :
    sent (t.push o) = sent t ++ o.sent?.toList := by
  rw [sent, Array.toList_push, List.filterMap_append]
  cases o <;> rfl

/-- The transport that leaves out what would be sent. -/
def Transport.mute {σ : Type} (t : Transport σ) : Transport σ :=
  { t with send := fun _ _ => pure () }

namespace ScriptedWorld

open Act (Moves)

/-- Nothing has been sent between these worlds. -/
def Silent (w w' : ScriptedWorld) : Prop := w'.trace.sent = w.trace.sent

theorem silent_path : Act.Path Silent where
  refl _ := rfl
  trans h h' := h'.trans h

theorem silent_push {o : Occurrence} (h : o.sent? = none) {w w' : ScriptedWorld}
    (hw : w'.trace = w.trace.push o) : Silent w w' := by
  rw [Silent, hw, Trace.sent_push, h]
  exact List.append_nil _

theorem onSocket_silent {id : SocketId} {a : ScriptedSocket → Act ScriptedWorld Unit}
    (ha : ∀ k, Moves Silent (a k)) : Moves Silent (onSocket id a) := by
  intro w
  rw [onSocket_runFrom]
  rcases w.sockets[id]? with _ | k
  · exact silent_path.refl w
  · exact ha k w

/-- Without its sends a transport sends nothing. -/
theorem transport_silent : transport.mute.Moves Silent where
  path := silent_path
  note e _ w := silent_push rfl rfl
  connect host port span w := by
    change Silent w ((connect host port span).runFrom w).2
    rw [connect_runFrom]
    rcases takeScript (host ++ ":" ++ Text.ofInt port) w.endpoints with _ | ⟨script, endpoints⟩
    · exact silent_push rfl rfl
    · dsimp only
      rcases script.connecting with _ | f
      · exact silent_push rfl rfl
      · exact silent_push rfl rfl
  setTimeout id span := onSocket_silent fun k w => silent_push rfl rfl
  send id data := silent_path.refl
  consume id n := onSocket_silent fun k w => rfl
  close id := onSocket_silent fun k => Moves.bind silent_path
    (fun w => silent_push rfl rfl) fun _ => failing_moves silent_path _

end ScriptedWorld

/-! ### Sending -/

/-- What successive reads of one byte give over a socket that follows the script. -/
def Script.arrivals (script : Script) : List Arrival := script.received.flatMap Event.arrivals

namespace Client

section

variable {c : Client} {id : SocketId} {w : ScriptedWorld} {k : ScriptedSocket} {script : Script}
  {endpoints : List (Text × List Script)}

theorem send_taken (hk : w.sockets[id]? = some k) (hsends : ∀ f, k.sends.head? ≠ some (some f))
    (data : Bytes) :
    ∃ w', (transport.send id data).runFrom w = (.ok (), w') ∧
      w'.sockets[id]? = some { k with sends := k.sends.tail } ∧
      w'.trace.sent = w.trace.sent ++ [(k.label, data)] := by
  have hset : (w.sockets.setIfInBounds id { k with sends := k.sends.tail })[id]? =
      some { k with sends := k.sends.tail } :=
    Array.getElem?_setIfInBounds_self_of_lt (Array.getElem?_eq_some_iff.mp hk).1
  change ∃ w', (ScriptedWorld.onSocket id _).runFrom w = _ ∧ _
  rw [ScriptedWorld.onSocket_runFrom, hk]
  dsimp only
  rw [Act.runFrom_bind_ok (ScriptedWorld.setSocket_runFrom id _ w)]
  rcases hhead : k.sends.head? with _ | _ | f
  · exact ⟨_, rfl, hset, Trace.sent_push _ _⟩
  · exact ⟨_, rfl, hset, Trace.sent_push _ _⟩
  · exact (hsends f hhead).elim

theorem send_untaken (hk : w.sockets[id]? = some k) {f : Failure}
    (hsends : k.sends.head? = some (some f)) (data : Bytes) :
    ∃ w', (transport.send id data).runFrom w = (.error f, w') ∧
      w'.trace.sent = w.trace.sent := by
  change ∃ w', (ScriptedWorld.onSocket id _).runFrom w = _ ∧ _
  rw [ScriptedWorld.onSocket_runFrom, hk]
  dsimp only
  rw [Act.runFrom_bind_ok (ScriptedWorld.setSocket_runFrom id _ w), hsends]
  exact ⟨_, rfl, rfl⟩

theorem connect_taken (hc : c.socket = none)
    (htake : takeScript c.endpoint w.endpoints = some (script, endpoints))
    (hconnects : script.connecting = none) :
    ∃ w', (connect transport).runFrom (c, w) =
        (.ok (), ({ c with socket := some w.sockets.size }, w')) ∧
      w'.sockets[w.sockets.size]? = some (script.toSocket c.endpoint) := by
  have hconnect : ∃ w', (transport.connect c.host c.port c.timeout).runFrom w =
      (.ok w.sockets.size, w') ∧
        w'.sockets[w.sockets.size]? = some (script.toSocket c.endpoint) := by
    change ∃ w', (ScriptedWorld.connect c.host c.port c.timeout).runFrom w = _ ∧ _
    rw [ScriptedWorld.connect_runFrom, ← endpoint, htake]
    dsimp only
    rw [hconnects]
    exact ⟨_, rfl, Array.getElem?_push_size⟩
  rcases hconnect with ⟨w₁, hconnect, hk⟩
  rcases log_scripted .debug "tcp_client_connected" []
    { c with socket := some w.sockets.size } w₁ with ⟨w', hlog, hsockets⟩
  refine ⟨w', ?_, hsockets ▸ hk⟩
  rw [connect, Act.runFrom_bind_ok (Act.runFrom_get _)]
  dsimp only
  rw [isConnected, hc, Option.isSome_none, if_neg Bool.false_ne_true,
    Act.runFrom_bind_ok (attempt_onWorld c hconnect)]
  exact hlog

theorem connect_untaken (hc : c.socket = none)
    (hrefused : ∀ script endpoints, takeScript c.endpoint w.endpoints = some (script, endpoints) →
      script.connecting ≠ none) :
    ∃ f q, (connect transport).runFrom (c, w) = (.error f, q) := by
  have hconnect : ∃ f w', (transport.connect c.host c.port c.timeout).runFrom w =
      (.error f, w') := by
    change ∃ f w', (ScriptedWorld.connect c.host c.port c.timeout).runFrom w = _
    rw [ScriptedWorld.connect_runFrom, ← endpoint]
    rcases htake : takeScript c.endpoint w.endpoints with _ | ⟨script, endpoints⟩
    · exact ⟨_, _, rfl⟩
    · dsimp only
      rcases hconnects : script.connecting with _ | f
      · exact (hrefused script endpoints htake hconnects).elim
      · exact ⟨_, _, rfl⟩
  rcases hconnect with ⟨f, w₁, hconnect⟩
  rw [connect, Act.runFrom_bind_ok (Act.runFrom_get _)]
  dsimp only
  rw [isConnected, hc, Option.isSome_none, if_neg Bool.false_ne_true,
    Act.runFrom_bind_ok (attempt_onWorld c hconnect)]
  cases f <;> exact ⟨_, _, rfl⟩

/-- Once it is connected, a client sends its message over the socket of the script. -/
theorem sendBytes_connected (hc : c.socket = none)
    (htake : takeScript c.endpoint w.endpoints = some (script, endpoints))
    (hconnects : script.connecting = none) (data : Bytes) (wait : Bool) (span : Option Seconds) :
    ∃ w', (sendBytes transport data wait span).runFrom (c, w) =
        (transmit transport { c with socket := some w.sockets.size } w.sockets.size data wait
          span).runFrom ({ c with socket := some w.sockets.size }, w') ∧
      w'.sockets[w.sockets.size]? = some (script.toSocket c.endpoint) ∧
      w'.trace.sent = w.trace.sent := by
  rcases connect_taken hc htake hconnects with ⟨w₁, hconnect, hk⟩
  rcases log_scripted .debug "tcp_client_sending" [.nat "size" data.length]
    { c with socket := some w.sockets.size } w₁ with ⟨w', hlog, hsockets⟩
  have hsilent := (connect_moves ScriptedWorld.transport_silent).reaches hconnect
  have hsilent' := (log_moves ScriptedWorld.transport_silent .debug (by decide) _).reaches hlog
  refine ⟨w', ?_, hsockets ▸ hk, Eq.trans hsilent' hsilent⟩
  rw [sendBytes_eq, Act.runFrom_bind_ok hconnect, Act.runFrom_bind_ok hlog]
  rfl

/-- What comes of a message that the peer has taken. -/
def answered (c : Client) (wait : Bool) (script : Script) :
    Except Failure (Option MessageStream) :=
  if wait then (c.made (c.rule.read script.arrivals).1).map some else .ok none

/-- A message that the peer takes has been sent, and only then is an answer to it read. -/
theorem sendBytes_taken (hc : c.socket = none)
    (htake : takeScript c.endpoint w.endpoints = some (script, endpoints))
    (hconnects : script.connecting = none) (hsends : ∀ f, script.sends.head? ≠ some (some f))
    (data : Bytes) (wait : Bool) (span : Option Seconds) :
    ∃ k w', (sendBytes transport data wait span).runFrom (c, w) =
        (c.answered wait script, ({ c with socket := some w.sockets.size }, w')) ∧
      w'.sockets[w.sockets.size]? = some k ∧ k.closing = script.closing ∧
      w'.trace.sent = w.trace.sent ++ [(c.endpoint, data)] := by
  rcases sendBytes_connected hc htake hconnects data wait span with ⟨w₁, hstart, hk₁, hsilent₁⟩
  rcases send_taken hk₁ hsends data with ⟨w₂, hsend, hk₂, hsent₂⟩
  rw [hsilent₁] at hsent₂
  rw [hstart, transmit, Act.runFrom_bind_ok (attempt_onWorld _ hsend), answered]
  cases wait with
  | false => exact ⟨_, w₂, rfl, hk₂, rfl, hsent₂⟩
  | true =>
      rcases readReply_scripted (c := { c with socket := some w.sockets.size }) rfl hk₂ span with
        ⟨w', hread, hk'⟩
      have hsilent := (readReply_moves ScriptedWorld.transport_silent span).reaches hread
      refine ⟨_, w', ?_, hk', rfl, Eq.trans hsilent hsent₂⟩
      have hreply := Act.runFrom_bind_pure (readReply transport span) some
        ({ c with socket := some w.sockets.size }, w₂)
      rw [hread] at hreply
      exact hreply

/-- A message that the peer does not take has not been sent, and this is an error. -/
theorem sendBytes_untaken (hc : c.socket = none)
    (hrefused : ∀ script endpoints, takeScript c.endpoint w.endpoints = some (script, endpoints) →
      script.connecting = none → ∃ f, script.sends.head? = some (some f))
    (data : Bytes) (wait : Bool) (span : Option Seconds) :
    ∃ f q, (sendBytes transport data wait span).runFrom (c, w) = (.error f, q) ∧
      q.2.trace.sent = w.trace.sent := by
  by_cases hconnects : ∃ script endpoints,
      takeScript c.endpoint w.endpoints = some (script, endpoints) ∧ script.connecting = none
  · rcases hconnects with ⟨script, endpoints, htake, hconnects⟩
    rcases hrefused script endpoints htake hconnects with ⟨f, hsends⟩
    rcases sendBytes_connected hc htake hconnects data wait span with ⟨w₁, hstart, hk₁, hsilent₁⟩
    rcases send_untaken hk₁ hsends data with ⟨w₂, hsend, hsent₂⟩
    rw [hstart, transmit, Act.runFrom_bind_ok (attempt_onWorld _ hsend)]
    cases f with
    | system e =>
        -- The socket is closed before the error is reported.
        dsimp only
        rcases hclose : (close transport).runFrom
          ({ c with socket := some w.sockets.size }, w₂) with ⟨g | u, q⟩
        · have hsilent := (close_moves ScriptedWorld.transport_silent).reaches hclose
          refine ⟨g, q, Act.runFrom_bind_error hclose _, ?_⟩
          exact Eq.trans hsilent (hsent₂.trans hsilent₁)
        · have hsilent := (close_moves ScriptedWorld.transport_silent).reaches hclose
          refine ⟨_, q, Act.runFrom_bind_ok hclose _, ?_⟩
          exact Eq.trans hsilent (hsent₂.trans hsilent₁)
    | _ => exact ⟨_, _, rfl, hsent₂.trans hsilent₁⟩
  · rcases connect_untaken hc fun script endpoints htake hconnect =>
      hconnects ⟨script, endpoints, htake, hconnect⟩ with ⟨f, q, hconnect⟩
    have hsilent := (connect_moves ScriptedWorld.transport_silent).reaches hconnect
    exact ⟨f, q, by rw [sendBytes_eq, Act.runFrom_bind_error hconnect], hsilent⟩

end

end Client

end MockHost
