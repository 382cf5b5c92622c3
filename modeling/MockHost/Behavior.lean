import MockHost.Validation.Scalar

/-!
# Behaviour

How a server treats the messages it receives: what ends a message, what it is
answered with, what it has to match, and what happens after the answer. A
connection takes the behaviour that holds when it is accepted.

## Main definitions

* `Behavior`: The behaviour of a server.
* `Behavior.check`: A behaviour read from a value.
* `Behavior.toFields`: The fields of a behaviour.
-/

namespace MockHost

/-- How a server treats the messages it receives. -/
structure Behavior where
  /-- The bytes that end a message; there is at least one. -/
  terminator : Bytes := [13, 10, 10]
  /-- The answer to a message that is accepted. -/
  ack : Bytes := [65]
  /-- The answer to a message that is refused. -/
  nak : Bytes := [78]
  /-- The pattern that every message has to match. -/
  expected : Option Text := none
  /-- Refuses every message. -/
  alwaysNak : Bool := false
  /-- Answers no message. -/
  noResponse : Bool := false
  /-- Forwards the deliveries registered for a message. -/
  sendResponses : Bool := true
  /-- Closes the connection after the next message. -/
  closeAfterNext : Bool := false
  deriving DecidableEq, Repr

namespace Behavior

/-- The kind of document that holds a behaviour. -/
def title : Text := "ServerBehavior"

/-- A terminator holds at least one byte. -/
def checkTerminator (v : Value) : Checked Bytes :=
  match Checked.bytes v with
  | .ok [] => Checked.problem (.refusedValue "terminator must contain at least one byte")
  | checked => checked

/-- A text that may be absent. -/
def checkExpected : Value → Checked (Option Text)
  | .null => .ok none
  | v => (Checked.text v).map some

/-- A behaviour read from a value; what is left out has its usual value. -/
def check (source : Source) : Value → Checked Behavior :=
  Checked.record source title fun fields =>
    let usual : Behavior := {}
    let flag (name : Text) (default : Bool) := Checked.optional fields name default Checked.bool
    .ok Behavior.mk
      |> Checked.next (Checked.optional fields "terminator" usual.terminator checkTerminator)
      |> Checked.next (Checked.optional fields "ack" usual.ack Checked.bytes)
      |> Checked.next (Checked.optional fields "nak" usual.nak Checked.bytes)
      |> Checked.next (Checked.optional fields "expected_message" usual.expected checkExpected)
      |> Checked.next (flag "always_nak" usual.alwaysNak)
      |> Checked.next (flag "no_response" usual.noResponse)
      |> Checked.next (flag "send_responses" usual.sendResponses)
      |> Checked.next (flag "close_after_next_response" usual.closeAfterNext)

/-- The fields of a behaviour. -/
def toFields (b : Behavior) : List (Text × Value) :=
  [(Text.ofString "terminator", .bytes b.terminator),
    (Text.ofString "ack", .bytes b.ack),
    (Text.ofString "nak", .bytes b.nak),
    (Text.ofString "expected_message", Value.ofText? b.expected),
    (Text.ofString "always_nak", .bool b.alwaysNak),
    (Text.ofString "no_response", .bool b.noResponse),
    (Text.ofString "send_responses", .bool b.sendResponses),
    (Text.ofString "close_after_next_response", .bool b.closeAfterNext)]

/-- A behaviour with some fields changed. -/
def change (b : Behavior) (changes : List (Text × Value)) : Except ValidationError Behavior :=
  Checked.titled title (check .values (.record (b.toFields ++ changes)))

end Behavior

end MockHost
