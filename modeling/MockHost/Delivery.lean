import MockHost.Validation.Scalar

/-!
# Deliveries

A delivery is a payload that is forwarded to a downstream endpoint. Every attempt
to make one leaves a record of what came of it.

## Main definitions

* `Port`: The number of a port.
* `Delivery`: A payload with its destination.
* `Outcome`, `DispatchRecord`: What came of an attempt.
* `Delivery.check`: A delivery read from a value.
-/

namespace MockHost

/-- The number of a port. A number that no port can have is refused where it is used. -/
abbrev Port := Int

/-- The ports that a document may name. -/
def Port.check : Value → Checked Port := Checked.between 1 65535

/-- A payload to forward to a downstream endpoint. -/
structure Delivery where
  host : Text
  port : Port
  payload : Text
  deriving DecidableEq, Repr

namespace Delivery

/-- The payload in bytes, unless it holds surrogates. -/
def payloadBytes (d : Delivery) : Except EncodeError Bytes := Utf8.encode? d.payload

/-- How a delivery is shown. -/
def shown (d : Delivery) : Text :=
  "ResponseDelivery [host=" ++ d.host ++ ", port=" ++ Text.ofInt d.port ++ ", payload=" ++
    d.payload.quoted ++ "]"

/-- The kind of document that holds a delivery. -/
def title : Text := "ResponseDelivery"

/-- A delivery read from a value. -/
def check (source : Source) : Value → Checked Delivery :=
  Checked.record source title fun fields =>
    .ok Delivery.mk
      |> Checked.next (Checked.required fields "host" Checked.text)
      |> Checked.next (Checked.required fields "port" Port.check)
      |> Checked.next (Checked.required fields "payload" Checked.text)

/-- The fields of a delivery. -/
def toFields (d : Delivery) : List (Text × Value) :=
  [(Text.ofString "host", .text d.host), (Text.ofString "port", .int d.port),
    (Text.ofString "payload", .text d.payload)]

end Delivery

/-- What came of an attempt to deliver. -/
inductive DispatchOutcome where
  /-- The payload was sent and no answer was waited for. -/
  | sent
  | acknowledged
  | rejected
  | failed
  deriving DecidableEq, Repr

/-- The name of an outcome. -/
def DispatchOutcome.label : DispatchOutcome → Text
  | .sent => "sent"
  | .acknowledged => "acknowledged"
  | .rejected => "rejected"
  | .failed => "failed"

/-- The record of an attempt to deliver. -/
structure DispatchRecord where
  delivery : Delivery
  outcome : DispatchOutcome
  error : Option Text
  deriving DecidableEq, Repr

/-- Whether a record counts as delivered: every outcome does but failure. -/
def DispatchRecord.delivered (r : DispatchRecord) : Bool := r.outcome != .failed

/-- The fields of a record, those of its delivery first. -/
def DispatchRecord.toFields (r : DispatchRecord) : List (Text × Value) :=
  r.delivery.toFields ++
    [(Text.ofString "outcome", .text r.outcome.label),
      (Text.ofString "error", Value.ofText? r.error),
      (Text.ofString "delivered", .bool r.delivered)]

end MockHost
