import MockHost.Client.Basic
import MockHost.Settings.Basic

/-!
# Dispatchers

A dispatcher forwards deliveries to downstream endpoints, each over a connection
of its own. A failure is logged and recorded; it is never tried again and never
keeps the other deliveries from being made.

## Main definitions

* `Dispatcher`: How deliveries are made.
* `Dispatcher.classify`: What a reply says about a delivery.
* `Dispatcher.dispatch`, `Dispatcher.dispatchAll`: Making deliveries.
-/

namespace MockHost

/-- How deliveries are made. -/
structure Dispatcher where
  connectTimeout : Seconds
  /-- Waits for an acknowledgement of every delivery. -/
  waitForAck : Bool
  ackTimeout : Seconds
  ack : Bytes
  nak : Bytes

namespace Dispatcher

/-- The way of making deliveries that the settings state, with given acknowledgements. -/
def usual (s : Settings) (ack nak : Bytes) : Dispatcher where
  connectTimeout := s.connectTimeout
  waitForAck := s.dispatchWaitForAck
  ackTimeout := s.ackTimeout
  ack := ack
  nak := nak

/-- A new way of making deliveries, with what the settings state, apart from what is given. -/
def create (s : Settings) (connectTimeout : Option Seconds := none)
    (waitForAck : Option Bool := none) (ackTimeout : Option Seconds := none)
    (rule : ReplyRule := {}) : Dispatcher :=
  let stated := usual s rule.ack rule.nak
  { stated with
    connectTimeout := connectTimeout.getD stated.connectTimeout
    waitForAck := waitForAck.getD stated.waitForAck
    ackTimeout := ackTimeout.getD stated.ackTimeout }

/-- The client that makes a delivery. It knows no terminator, so that only an
    acknowledgement completes a reply. -/
def client (d : Dispatcher) (delivery : Delivery) : Client where
  host := delivery.host
  port := delivery.port
  timeout := d.connectTimeout
  rule := ⟨d.ack, d.nak, none⟩

/-- What a reply says about a delivery. -/
def classify (d : Dispatcher) : Option Bytes → Except ErrorReport DispatchOutcome
  | none => .ok .sent
  | some reply =>
    if reply = d.ack then .ok .acknowledged
    else if reply = d.nak then .ok .rejected
    else
      .error
        { kind := .dispatch
          message := "Unrecognised acknowledgement"
          details := [LogField.text "reply" (Bytes.hex reply)] }

/-- Whether a failure is one of the transport or of the answer, which is recorded, and
    not one of the program. -/
def isRecorded : Failure → Bool
  | .reported r => r.kind.isUnder .transport || r.kind.isUnder .dispatch
  | .system _ => true
  | _ => false

/-- The record of a failed attempt. -/
def failedRecord (delivery : Delivery) (f : Failure) : DispatchRecord :=
  ⟨delivery, .failed, some f.message⟩

section

variable {σ : Type} (t : Transport σ)

/-- Sends the payload of a delivery and reads what the endpoint answers. -/
def exchange (d : Dispatcher) (delivery : Delivery) : ClientAct σ DispatchOutcome := do
  match delivery.payloadBytes with
  | .error e => throw (.encoding e)
  | .ok data =>
    let reply ← Client.sendBytes t data d.waitForAck (some d.ackTimeout)
    match d.classify (reply.map MessageStream.toBytes) with
    | .ok outcome => return outcome
    | .error e => throw (.reported e)

/-- The outcome of a delivery, or the record of its failure. -/
def outcomeOrRecord (d : Dispatcher) (delivery : Delivery) :
    ClientAct σ (DispatchOutcome ⊕ DispatchRecord) := do
  match ← Act.attempt (exchange t d delivery) with
  | .ok outcome => return .inl outcome
  | .error f =>
    if isRecorded f then
      Client.log t .error "dispatch_failed" [.text "error" f.message, .text "error_type" f.label]
      return .inr (failedRecord delivery f)
    else throw f

/-- Makes one delivery. The client is closed however the attempt ends. -/
def deliver (d : Dispatcher) (delivery : Delivery) : ClientAct σ DispatchRecord := do
  match ← Act.andFinally (outcomeOrRecord t d delivery) (Client.close t) with
  | .inr record => return record
  | .inl outcome =>
    Client.log t .info "dispatch_sent"
      [.nat "size" (Utf8.encode delivery.payload).length, .text "outcome" outcome.label]
    return ⟨delivery, outcome, none⟩

/-- Makes one delivery with a client of its own. -/
def dispatch (d : Dispatcher) (delivery : Delivery) : Act σ DispatchRecord := fun s =>
  let (r, (_, s)) := (deliver t d delivery).runFrom (d.client delivery, s)
  (r, s)

/-- Makes one delivery; whatever goes wrong is recorded. -/
def dispatchSafely (d : Dispatcher) (delivery : Delivery) : Act σ DispatchRecord := do
  match ← Act.attempt (dispatch t d delivery) with
  | .ok record => return record
  | .error f =>
    t.note <| .logged .error "dispatch_crashed"
      [.text "host" delivery.host, .int "port" delivery.port, .withPlace]
    return failedRecord delivery f

/-- Makes all deliveries, in order. -/
def dispatchAll (d : Dispatcher) : List Delivery → Act σ (List DispatchRecord)
  | [] => return []
  | delivery :: rest => do
    let record ← dispatchSafely t d delivery
    return record :: (← dispatchAll d rest)

end

end Dispatcher

end MockHost
