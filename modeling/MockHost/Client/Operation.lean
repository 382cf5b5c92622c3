import MockHost.Client.Basic

/-!
# Operations on a client

What may be done with a client from outside, one thing after another, in any order: it
is connected and closed, it sends messages and reads replies, and it may be entered and
left like a block. An operation that fails keeps nobody from going on.

## Main definitions

* `Client.Operation`: One thing that may be done.
* `Client.operate`, `Client.operateAll`: Doing it, and doing many.
-/

namespace MockHost

namespace Client

/-- What may be done with a client. -/
inductive Operation where
  | connect
  /-- Sends a text or bytes, and waits for the reply if asked to. -/
  | send (message : Text ⊕ Bytes) (wait : Bool) (span : Option Seconds)
  | readReply (span : Option Seconds)
  | close
  /-- A block begins, for which the client is connected. -/
  | enter
  /-- The block ends, in whatever way, and the client is closed. -/
  | leave

section

variable {σ : Type} (t : Transport σ)

/-- Sends a text or bytes. -/
def send (message : Text ⊕ Bytes) (wait : Bool) (span : Option Seconds) :
    ClientAct σ (Option MessageStream) :=
  match message with
  | .inl text => sendText t text wait span
  | .inr data => sendBytes t data wait span

/-- Does one thing. Gives the reply, where there is one. -/
def operate : Operation → ClientAct σ (Option MessageStream)
  | .connect | .enter => do
    connect t
    return none
  | .send message wait span => send t message wait span
  | .readReply span => do
    return some (← readReply t span)
  | .close | .leave => do
    close t
    return none

/-- Does one thing after another, whatever comes of each. -/
def operateAll : List Operation → ClientAct σ (List (Except Failure (Option MessageStream)))
  | [] => return []
  | o :: rest => do
    let result ← Act.attempt (operate t o)
    return result :: (← operateAll rest)

end

end Client

end MockHost
