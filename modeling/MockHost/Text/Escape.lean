import MockHost.Text.Basic
import MockHost.Unicode.Name

/-!
# Escapes in payloads

A payload in a configuration may write any character as an escape after a
backslash. It is read in two stages. First the text is written in single bytes:
a character beyond the first 256 becomes an escape itself. Then the bytes are read
from the left, and every escape is replaced by what it stands for. A backslash
before a character that begins no escape stays, together with that character.

Because escapes are read only in the second stage, a place in an error counts
bytes of the first stage, and a backslash that stands directly before a character
beyond the first 256 takes away the backslash of its escape.

## Main definitions

* `Escape.singleBytes`: The first stage.
* `Escape.decode?`: The second stage.
* `Escape.unescape?`: Both.
* `EscapeError`: The fault of an escape, with its message.
-/

namespace MockHost

/-- Why an escape cannot be read. -/
inductive EscapeFault where
  /-- A backslash ends the text. -/
  | atEnd
  /-- An escape in hexadecimal has fewer than two, four or eight digits. -/
  | truncated (letter : CodePoint) (digits : Nat)
  /-- The number is larger than the last code point. -/
  | illegal
  /-- A name is not written between braces. -/
  | malformedName
  | unknownName
  deriving DecidableEq, Repr

/-- The text of a fault. -/
def EscapeFault.reason : EscapeFault → Text
  | .atEnd => "\\ at end of string"
  | .truncated letter digits =>
    "truncated \\" ++ letter :: Text.replicate digits 88 ++ " escape"
  | .illegal => "illegal Unicode character"
  | .malformedName => "malformed \\N character escape"
  | .unknownName => "unknown Unicode character name"

/-- The escape that cannot be read: where its backslash is and how many bytes it has. -/
structure EscapeError where
  start : Nat
  length : Nat
  fault : EscapeFault
  deriving DecidableEq, Repr

/-- The text of an error. -/
def EscapeError.message (e : EscapeError) : Text :=
  "'unicodeescape' codec can't decode " ++
    (if e.length = 1 then "byte 0x5c in position " ++ Text.ofNat e.start
    else "bytes in position " ++ Text.ofNat e.start ++ "-" ++
      Text.ofNat (e.start + e.length - 1)) ++
    ": " ++ e.fault.reason

namespace Escape

/-- A character in single bytes: its own byte, or an escape in four or eight
    hexadecimal digits. -/
def singleBytesOf (c : CodePoint) : Bytes :=
  if c ≤ 0xFF then [c.toUInt8]
  else if c ≤ 0xFFFF then (Text.ofString "\\u" ++ Text.hex 4 c).map Nat.toUInt8
  else (Text.ofString "\\U" ++ Text.hex 8 c).map Nat.toUInt8

/-- A text in single bytes. -/
def singleBytes (t : Text) : Bytes := t.flatMap singleBytesOf

/-- The character that a byte stands for after a backslash. -/
def single? (b : UInt8) : Option CodePoint :=
  if b = 92 ∨ b = 39 ∨ b = 34 then some b.toNat
  else if b = 97 then some 7
  else if b = 98 then some 8
  else if b = 102 then some 12
  else if b = 110 then some 10
  else if b = 114 then some 13
  else if b = 116 then some 9
  else if b = 118 then some 11
  else none

/-- The number of hexadecimal digits after a letter. -/
def digitCount? (b : UInt8) : Option Nat :=
  if b = 120 then some 2 else if b = 117 then some 4 else if b = 85 then some 8 else none

def isOctal (b : UInt8) : Bool := 48 ≤ b && b ≤ 55

def isHex (b : UInt8) : Bool := (Text.hexDigit? b.toNat).isSome

/-- The number that digits denote. -/
def number (base : Nat) (ds : Bytes) : Nat :=
  ds.foldl (fun n b => base * n + (Text.hexDigit? b.toNat).getD 0) 0

/-- What stands after a backslash: the characters it denotes and the bytes it takes,
    or its fault and the bytes that show it. -/
abbrev Found := Except (EscapeFault × Nat) (Text × Nat)

/-- A name between braces, after the letter for names. -/
def named : Bytes → Found
  | 123 :: rest =>
    let name := rest.takeWhile (· != 125)
    if name.length = rest.length then .error (.malformedName, name.length + 2)
    else if name.isEmpty then .error (.malformedName, 2)
    else
      match Unicode.namedPoint? (name.map UInt8.toNat) with
      | some c => .ok ([c], name.length + 3)
      | none => .error (.unknownName, name.length + 3)
  | _ => .error (.malformedName, 1)

/-- What stands after a backslash. -/
def found : Bytes → Found
  | [] => .error (.atEnd, 0)
  | b :: rest =>
    if b = 10 then .ok ([], 1)
    else if isOctal b then
      let ds := ((b :: rest).take 3).takeWhile isOctal
      .ok ([number 8 ds], ds.length)
    else if b = 78 then named rest
    else
      match single? b, digitCount? b with
      | some c, _ => .ok ([c], 1)
      | none, some n =>
        let ds := (rest.take n).takeWhile isHex
        if ds.length < n then .error (.truncated b.toNat n, ds.length + 1)
        else if number 16 ds > CodePoint.last then .error (.illegal, n + 1)
        else .ok ([number 16 ds], n + 1)
      | none, none => .ok ([92, b.toNat], 1)

/-- The text of bytes from `start` on, in at most `fuel` steps; every step takes a byte. -/
def decodeFrom : Nat → Nat → Bytes → Except EscapeError Text
  | 0, _, _ => .ok []
  | _, _, [] => .ok []
  | fuel + 1, start, b :: rest =>
    if b = 92 then
      match found rest with
      | .error (fault, taken) => .error ⟨start, taken + 1, fault⟩
      | .ok (t, taken) =>
        (t ++ ·) <$> decodeFrom fuel (start + taken + 1) (rest.drop taken)
    else (b.toNat :: ·) <$> decodeFrom fuel (start + 1) rest

/-- The text of bytes, with every escape replaced by what it stands for. -/
def decode? (bs : Bytes) : Except EscapeError Text := decodeFrom bs.length 0 bs

/-- A payload with every escape replaced by what it stands for. -/
def unescape? (t : Text) : Except EscapeError Text := decode? (singleBytes t)

end Escape

end MockHost
