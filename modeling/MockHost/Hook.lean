import MockHost.Delivery
import MockHost.Error.Failure
import MockHost.Trace

/-!
# Hooks

Hooks observe a connection: they are called when it is accepted, when a message has
come in, when an answer has been sent and when it is closed. Every hook logs the
call; what else it does is a list of actions, which may interfere with the
connection or with its server. The list may differ from call to call.

## Main definitions

* `HookAction`: What a hook does beside logging.
* `HookPlan`: What a hook does each time it is called for one purpose.
* `Hook`: The actions of a hook for each call.
* `Hook.logOf`: What every hook logs.
-/

namespace MockHost

/-- The address of the peer of a connection. -/
structure Peer where
  host : Text
  port : Port
  deriving DecidableEq, Repr

namespace Peer

/-- An address as it is bound to a log. -/
def shown (p : Peer) : Text := p.host ++ ":" ++ Text.ofInt p.port

/-- An address as a value. -/
def toValue (p : Peer) : Value := .list [.text p.host, .int p.port]

end Peer

/-- What a hook does beside logging. -/
inductive HookAction where
  /-- Leaves a mark in the trace. -/
  | record
  /-- Closes the connection. -/
  | close
  /-- Closes the server. -/
  | closeServer
  /-- Changes the behaviour of the server. -/
  | configure (changes : List (Text × Value))
  | fail (f : Failure)

/-- What a hook does each time it is called for one purpose. The peer and the number of
    messages that it has sent so far tell one call from another. -/
def HookPlan : Type := Peer → Nat → List HookAction

/-- The plan to do the same at every call. -/
def HookPlan.always (actions : List HookAction) : HookPlan := fun _ _ => actions

instance : Coe (List HookAction) HookPlan := ⟨HookPlan.always⟩

/-- What a hook does beside logging, for each call. -/
structure Hook where
  onConnect : HookPlan := HookPlan.always []
  onMessage : HookPlan := HookPlan.always []
  afterResponse : HookPlan := HookPlan.always []
  onClose : HookPlan := HookPlan.always []

namespace Hook

/-- The plan for a call. -/
def planFor (h : Hook) : HookCall → HookPlan
  | .onConnect => h.onConnect
  | .onMessage _ => h.onMessage
  | .afterResponse _ => h.afterResponse
  | .onClose => h.onClose

/-- The actions for a call. -/
def actions (h : Hook) (peer : Peer) (received : Nat) (call : HookCall) : List HookAction :=
  h.planFor call peer received

/-- The fields that name a connection in a log entry. -/
def placeOf (serverPort : Port) (peer : Peer) : List LogField :=
  [.int "server_port" serverPort, (Text.ofString "peer", peer.toValue)]

/-- What every hook logs when it is called. -/
def logOf (serverPort : Port) (peer : Peer) (received : Nat) : HookCall → Occurrence
  | .onConnect => .logged .info "connection_accepted" (placeOf serverPort peer)
  | .onMessage m =>
    .logged .info "message_received" (placeOf serverPort peer ++ [.text "message" m.text])
  | .afterResponse r =>
    .logged .debug "response_sent"
      (placeOf serverPort peer ++ [.text "response" (Utf8.decode r)])
  | .onClose =>
    .logged .debug "connection_closed"
      (placeOf serverPort peer ++ [.nat "messages_received" received])

end Hook

end MockHost
