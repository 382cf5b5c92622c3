import MockHost.Error.Failure

/-!
# Replies

A client reads a reply byte by byte. The reply is complete as soon as it equals
one of the two acknowledgements or ends with the terminator, and not a byte more
is taken. Without a terminator only the acknowledgements can complete it, so a
reply that has their length and equals neither is none that could be expected.

## Main definitions

* `Arrival`: What one read of a byte gives.
* `ReplyRule`: When a reply is complete.
* `ReplyEnd`: How reading ended.
* `ReplyRule.read`: Reading a reply from what arrives.
-/

namespace MockHost

/-- What one read of a byte gives. -/
inductive Arrival where
  | byte (b : UInt8)
  /-- The peer has finished sending. -/
  | finished
  | fault (f : Failure)

/-- When a reply is complete. -/
structure ReplyRule where
  ack : Bytes := [65]
  nak : Bytes := [78]
  terminator : Option Bytes := some [13, 10]
  deriving DecidableEq, Repr

/-- How reading a reply ended. -/
inductive ReplyEnd where
  | complete (reply : MessageStream)
  /-- The peer finished before the reply was complete; it may have sent nothing. -/
  | finished (part : MessageStream)
  /-- The reply is none that could be expected. -/
  | unexpected (part : MessageStream)
  | fault (part : MessageStream) (f : Failure)

namespace ReplyRule

/-- The length of the longer acknowledgement. -/
def longest (r : ReplyRule) : Nat := max r.ack.length r.nak.length

/-- Whether a reply is complete. -/
def isComplete (r : ReplyRule) (s : MessageStream) : Bool :=
  (s.size ≤ r.longest && (s.toBytes == r.ack || s.toBytes == r.nak)) ||
    (match r.terminator with
    | some t => s.isTerminated t
    | none => false)

/-- The stream that collects a reply, whose window is as wide as the terminator. -/
def emptyStream (r : ReplyRule) : MessageStream :=
  match r.terminator with
  | some (b :: bs) => MessageStream.empty (b :: bs).length
  | _ => MessageStream.empty 1

/-- Reads on after `s`. Gives how reading ended and how many arrivals were taken. When
    nothing more is to arrive the peer has finished. -/
def readFrom (r : ReplyRule) (s : MessageStream) : List Arrival → ReplyEnd × Nat
  | [] => (.finished s, 0)
  | .finished :: _ => (.finished s, 1)
  | .fault f :: _ => (.fault s f, 1)
  | .byte b :: rest =>
    let s := s.push b
    if r.isComplete s then (.complete s, 1)
    else if r.terminator.isNone && r.longest ≤ s.size then (.unexpected s, 1)
    else
      let (ending, taken) := r.readFrom s rest
      (ending, taken + 1)

/-- Reads a reply. -/
def read (r : ReplyRule) (arrivals : List Arrival) : ReplyEnd × Nat :=
  r.readFrom r.emptyStream arrivals

end ReplyRule

end MockHost
