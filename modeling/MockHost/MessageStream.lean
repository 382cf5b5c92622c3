import MockHost.Text.Quoted
import MockHost.Text.Utf8

/-!
# Message streams

A message stream collects the bytes of one message. Beside the whole content it
keeps a window on the most recent bytes, as wide as the terminator, so that after
each byte the end of the message can be recognised without looking at the rest of
the content again.

## Main definitions

* `MessageStream`: The content and the window.
* `MessageStream.push`, `MessageStream.write?`: Adding a byte.
* `MessageStream.isTerminated`: Whether the window holds a terminator.
* `MessageStream.text`, `MessageStream.body`: The content as text, with and without
  a terminator at its end.
-/

namespace MockHost

/-- The bytes of one message and a window on the most recent of them. -/
structure MessageStream where
  /-- The width of the window. -/
  capacity : Nat
  content : Array UInt8
  /-- The bytes in the window, oldest first. -/
  tail : Bytes
  deriving DecidableEq, Repr

namespace MessageStream

/-- Why a stream refuses an operation. -/
inductive Refusal where
  /-- A window has to hold at least one byte. -/
  | emptyWindow
  /-- A byte lies between 0 and 255. -/
  | notAByte (n : Int)
  deriving DecidableEq, Repr

/-- The text of a refusal. -/
def Refusal.message : Refusal → Text
  | .emptyWindow => "tail_maximum_length must be at least 1"
  | .notAByte n => "byte value out of range: " ++ Text.ofInt n

/-- An empty stream whose window is `capacity` bytes wide. -/
def empty (capacity : Nat) : MessageStream := ⟨capacity, #[], []⟩

/-- An empty stream whose window has the given width, which is at least one. -/
def withWindow? (width : Int) : Except Refusal MessageStream :=
  if width < 1 then .error .emptyWindow else .ok (empty width.toNat)

/-- The width of a window on the usual terminator. -/
def defaultCapacity : Nat := 3

/-- Adds a byte. The oldest byte leaves a full window. -/
def push (s : MessageStream) (b : UInt8) : MessageStream where
  capacity := s.capacity
  content := s.content.push b
  tail := if s.tail.length < s.capacity then s.tail ++ [b] else s.tail.drop 1 ++ [b]

/-- Adds a byte given as a number, unless it is out of range. -/
def write? (s : MessageStream) (n : Int) : Except Refusal MessageStream :=
  if 0 ≤ n ∧ n ≤ 0xFF then .ok (s.push n.toNat.toUInt8) else .error (.notAByte n)

/-- Adds bytes one after another. -/
def pushAll (s : MessageStream) (bs : Bytes) : MessageStream := bs.foldl push s

/-- Forgets all bytes. -/
def reset (s : MessageStream) : MessageStream := empty s.capacity

/-- Whether the window holds exactly the terminator. -/
def isTerminated (s : MessageStream) (terminator : Bytes) : Bool := s.tail == terminator

/-- The most recent byte. -/
def lastByte? (s : MessageStream) : Option UInt8 := s.tail.getLast?

/-- The number of bytes. -/
def size (s : MessageStream) : Nat := s.content.size

/-- The content. -/
def toBytes (s : MessageStream) : Bytes := s.content.toList

/-- The first `n` bytes of the content; all of it for a negative number. -/
def read (s : MessageStream) (n : Int) : Bytes :=
  if n < 0 then s.toBytes else s.toBytes.take n.toNat

/-- The content as text. -/
def text (s : MessageStream) : Text := Utf8.decode s.toBytes

/-- Bytes without a terminator at their end. -/
def withoutTerminator (terminator content : Bytes) : Bytes :=
  if terminator.isSuffixOf content then content.take (content.length - terminator.length)
  else content

/-- The content without a terminator at its end, as text. -/
def body (s : MessageStream) (terminator : Bytes) : Text :=
  Utf8.decode (withoutTerminator terminator s.toBytes)

/-- How a stream is shown. -/
def describe (s : MessageStream) : Text :=
  "MessageStream(size=" ++ Text.ofNat s.size ++ ", tail=" ++ Bytes.quoted s.tail ++ ")"

end MessageStream

end MockHost
