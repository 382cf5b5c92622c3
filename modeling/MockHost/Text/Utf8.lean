import MockHost.Text.Basic

/-!
# UTF-8

Reading UTF-8 one byte at a time. Between two code points the reader owes
nothing; after the first byte of a longer sequence it remembers how many
continuation bytes are owed and the range the next one has to lie in, which is
narrower after the first bytes that could begin an overlong form, a surrogate
or a value past the last code point. A byte that cannot continue a sequence ends
it there and is read again as a first byte, so an invalid part is always as long
as it can be without ruling out a valid continuation, and no longer.

One reading serves both uses: text to show puts one replacement character for
each invalid part, and strict decoding refuses the first of them with its place
and reason.

## Main definitions

* `Utf8.pieces`: The code points and the invalid parts of a byte string.
* `Utf8.decode`: The code points, with a replacement character for each invalid part.
* `Utf8.decode?`: The code points, or the first invalid part.
* `Utf8.encode`: The bytes of a text without surrogates.
* `Utf8.encode?`: The bytes, or the first run of surrogates.
* `DecodeError`, `EncodeError`: The faults, with their messages.
-/

namespace MockHost

namespace Utf8

/-- Why a part of a byte string is not UTF-8. -/
inductive Fault where
  /-- The byte begins no sequence. -/
  | start
  /-- The byte after the part does not continue the sequence. -/
  | continuation
  /-- The bytes end inside the sequence. -/
  | cutShort
  deriving DecidableEq, Repr

/-- The text of a fault. -/
def Fault.reason : Fault → Text
  | .start => "invalid start byte"
  | .continuation => "invalid continuation byte"
  | .cutShort => "unexpected end of data"

/-- A part of a byte string: a code point or something that is not UTF-8. -/
inductive Piece where
  | point (c : CodePoint)
  | invalid (length : Nat) (fault : Fault)
  deriving DecidableEq, Repr

/-- A sequence that has begun: the bytes taken, their value so far, the
    continuation bytes owed after the next one, and the range of the next one. -/
structure Begun where
  taken : Nat
  value : Nat
  owed : Nat
  low : UInt8
  high : UInt8
  deriving DecidableEq, Repr

/-- What the first byte of a sequence is: a code point of its own, the begin of a
    longer sequence, or neither. -/
def first (b : UInt8) : Except Fault (CodePoint ⊕ Begun) :=
  if b ≤ 0x7F then .ok (.inl b.toNat)
  else if b < 0xC2 then .error .start
  else if b ≤ 0xDF then .ok (.inr ⟨1, b.toNat - 0xC0, 0, 0x80, 0xBF⟩)
  else if b ≤ 0xEF then
    .ok (.inr ⟨1, b.toNat - 0xE0, 1, if b = 0xE0 then 0xA0 else 0x80, if b = 0xED then 0x9F else 0xBF⟩)
  else if b ≤ 0xF4 then
    .ok (.inr ⟨1, b.toNat - 0xF0, 2, if b = 0xF0 then 0x90 else 0x80, if b = 0xF4 then 0x8F else 0xBF⟩)
  else .error .start

/-- One byte read between two code points: the pieces it settles and the sequence it begins. -/
def settle (b : UInt8) : List Piece × Option Begun :=
  match first b with
  | .ok (.inl c) => ([.point c], none)
  | .ok (.inr s) => ([], some s)
  | .error fault => ([.invalid 1 fault], none)

/-- One byte read: the pieces it settles and the sequence then under way. -/
def step : Option Begun → UInt8 → List Piece × Option Begun
  | none, b => settle b
  | some s, b =>
    if s.low ≤ b ∧ b ≤ s.high then
      let value := 64 * s.value + (b.toNat - 0x80)
      match s.owed with
      | 0 => ([.point value], none)
      | owed + 1 => ([], some ⟨s.taken + 1, value, owed, 0x80, 0xBF⟩)
    else
      let (settled, begun) := settle b
      (.invalid s.taken .continuation :: settled, begun)

/-- The pieces of a byte string read on from a sequence under way. -/
def piecesFrom : Option Begun → Bytes → List Piece
  | none, [] => []
  | some s, [] => [.invalid s.taken .cutShort]
  | st, b :: bs => (step st b).1 ++ piecesFrom (step st b).2 bs

/-- The code points and the invalid parts of a byte string, in order. -/
def pieces (bs : Bytes) : List Piece := piecesFrom none bs

/-- The character that stands for an invalid part. -/
def replacement : CodePoint := 0xFFFD

/-- The code point that is shown for a piece. -/
def Piece.shown : Piece → CodePoint
  | .point c => c
  | .invalid .. => replacement

/-- The code points of a byte string, with one replacement character for each invalid part. -/
def decode (bs : Bytes) : Text := (pieces bs).map Piece.shown

/-- The bytes of one code point. -/
def encodePoint (c : CodePoint) : Bytes :=
  if c < 0x80 then [c.toUInt8]
  else if c < 0x800 then [(0xC0 + c / 0x40).toUInt8, (0x80 + c % 0x40).toUInt8]
  else if c < 0x10000 then
    [(0xE0 + c / 0x1000).toUInt8, (0x80 + c / 0x40 % 0x40).toUInt8, (0x80 + c % 0x40).toUInt8]
  else
    [(0xF0 + c / 0x40000).toUInt8, (0x80 + c / 0x1000 % 0x40).toUInt8,
      (0x80 + c / 0x40 % 0x40).toUInt8, (0x80 + c % 0x40).toUInt8]

/-- The bytes of a text. -/
def encode (t : Text) : Bytes := t.flatMap encodePoint

end Utf8

/-- The first part of a byte string that is not UTF-8. -/
structure DecodeError where
  start : Nat
  length : Nat
  /-- The first byte of the part. -/
  byte : UInt8
  fault : Utf8.Fault
  deriving DecidableEq, Repr

/-- The text of a decoding error. A part of one byte is shown, a longer one only placed. -/
def DecodeError.message (e : DecodeError) : Text :=
  "'utf-8' codec can't decode " ++
    (if e.length = 1 then
      "byte 0x" ++ Text.hex 2 e.byte.toNat ++ " in position " ++ Text.ofNat e.start
    else
      "bytes in position " ++ Text.ofNat e.start ++ "-" ++ Text.ofNat (e.start + e.length - 1)) ++
    ": " ++ e.fault.reason

/-- The first run of surrogates in a text. -/
structure EncodeError where
  start : Nat
  /-- The surrogates of the run, of which there is at least one. -/
  run : List CodePoint
  deriving DecidableEq, Repr

/-- The text of an encoding error. A single surrogate is shown, a run only placed. -/
def EncodeError.message (e : EncodeError) : Text :=
  "'utf-8' codec can't encode " ++
    (match e.run with
    | [c] => "character '\\u" ++ Text.hex 4 c ++ "' in position " ++ Text.ofNat e.start
    | run => "characters in position " ++ Text.ofNat e.start ++ "-" ++
        Text.ofNat (e.start + run.length - 1)) ++
    ": surrogates not allowed"

namespace Utf8

/-- The code points of pieces that start at byte `start`, or the first invalid part. -/
def strict (bs : Bytes) : Nat → List Piece → Except DecodeError Text
  | _, [] => .ok []
  | start, .point c :: ps => (c :: ·) <$> strict bs (start + (encodePoint c).length) ps
  | start, .invalid length fault :: _ =>
    .error ⟨start, length, bs[start]?.getD 0, fault⟩

/-- The code points of a byte string, or its first part that is not UTF-8. -/
def decode? (bs : Bytes) : Except DecodeError Text := strict bs 0 (pieces bs)

/-- The bytes of a text, or its first run of surrogates. -/
def encode? (t : Text) : Except EncodeError Bytes :=
  match t.findIdx? CodePoint.isSurrogate with
  | none => .ok (encode t)
  | some i => .error ⟨i, (t.drop i).takeWhile CodePoint.isSurrogate⟩

end Utf8

end MockHost
