import MockHost.Text.Utf8
import MockHost.Validation.Issue

/-!
# Checking single values

Single values are read generously: a text may denote a number or a truth value, a
number without a fraction may be an integer, and text and bytes stand for each
other as long as the bytes are UTF-8.

## Main definitions

* `Checked.text`, `Checked.bytes`, `Checked.bool`, `Checked.int`, `Checked.float`:
  The kinds of single value.
* `Checked.between`: An integer with bounds.
* `Checked.list`: A list.
* `readInt?`, `readFloat?`: Numbers in text.
-/

namespace MockHost

namespace Checked

/-- A text; bytes are read as UTF-8. -/
def text : Value → Checked Text
  | .text t => .ok t
  | .bytes bs =>
    match Utf8.decode? bs with
    | .ok t => .ok t
    | .error _ => problem .stringUnicode
  | _ => problem .stringType

/-- A byte string; text is written in UTF-8. -/
def bytes : Value → Checked Bytes
  | .bytes bs => .ok bs
  | .text t =>
    match Utf8.encode? t with
    | .ok bs => .ok bs
    | .error _ => problem .stringUnicode
  | _ => problem .bytesType

/-- A text without the white space around it. -/
def trimmed (t : Text) : Text :=
  (((t.dropWhile Unicode.isWhiteSpace).reverse).dropWhile Unicode.isWhiteSpace).reverse

/-- A text without its low lines, each of which has to stand between other characters;
    nothing where there are none. -/
def withoutLowLines? (t : Text) : Option Text :=
  let doubled := (t.zip t.tail).any fun (a, b) => a == 95 && b == 95
  if !t.contains 95 || t.head? == some 95 || t.getLast? == some 95 || doubled then none
  else some (t.filter (· != 95))

/-- The integer that a text denotes in plain digits: no sign but a minus, and no zeros
    in front. -/
def plainInt? (t : Text) : Option Int :=
  let (negative, ds) := match t with
    | 45 :: ds => (true, ds)
    | ds => (false, ds)
  if ds.isEmpty || !ds.all Text.isDigit || (ds.length > 1 && ds.head? == some 48) then none
  else
    let n : Int := Text.digitsValue ds
    some (if negative then -n else n)

/-- A text without the zeros at its start, of which the last stays before a point or at
    the end; nothing where it does not start with a digit or a minus. -/
def withoutZeros? (t : Text) : Option Text :=
  match t with
  | 48 :: rest =>
    let after := rest.dropWhile fun c => c == 48 || c == 95
    match after with
    | [] => some [(48 :: rest).getLast?.getD 48]
    | c :: _ =>
      if 49 ≤ c ∧ c ≤ 57 then some after
      else if c = 46 then
        some (((48 :: rest).drop (rest.length - after.length)))
      else none
  | c :: _ => if (49 ≤ c ∧ c ≤ 57) ∨ c = 45 then some t else none
  | [] => none

/-- A text without a fraction that is zero. -/
def withoutZeroFraction (t : Text) : Text :=
  let whole := t.takeWhile (· != 46)
  let fraction := t.drop (whole.length + 1)
  if whole.length < t.length ∧ fraction ≠ [] ∧ fraction.all (· == 48) then whole else t

/-- The plain digits that a loosely written integer stands for. -/
def cleanInt? (t : Text) : Option Text :=
  let unsigned : Option Text := match t with
    | 43 :: 45 :: _ => none
    | 43 :: rest => some rest
    | _ => some t
  (unsigned.bind withoutZeros?).map fun t =>
    let whole := withoutZeroFraction t
    (withoutLowLines? whole).getD whole

/-- The most digits an integer may have. -/
def maxDigits : Nat := 4300

/-- The integer that a text denotes. -/
def readInt? (t : Text) : Option Int :=
  match plainInt? (trimmed t) with
  | some n => some n
  | none => (cleanInt? (trimmed t)).bind plainInt?

/-- A text as an integer. -/
def intOfText (t : Text) : Checked Int :=
  if t.hasSurrogate then problem .stringUnicode
  else if (trimmed t).length > maxDigits ∧ ((trimmed t).all Text.isDigit) then
    problem .intParsingSize
  else
    match readInt? t with
    | some n => .ok n
    | none => problem .intParsing

/-- The bound on doubles that are taken for integers. -/
def wordBound : Int := Int.pow 2 63

/-- A double-precision number as an integer. -/
def intOfFloat (x : Binary64) : Checked Int :=
  if !x.isFinite then problem .finiteNumber
  else
    match x.integer? with
    | none => problem .intFromFloat
    | some n =>
      if -wordBound ≤ n ∧ n < wordBound then .ok n else problem .intParsingSize

/-- An integer. -/
def int : Value → Checked Int
  | .int n => .ok n
  | .bool b => .ok (if b then 1 else 0)
  | .float x => intOfFloat x
  | .text t => intOfText t
  | .bytes bs =>
    match Utf8.decode? bs with
    | .ok t => intOfText t
    | .error _ => problem .intParsing
  | _ => problem .intType

/-- An integer that two bounds enclose. -/
def between (low high : Int) (v : Value) : Checked Int :=
  match int v with
  | .error issues => .error issues
  | .ok n =>
    if n < low then problem (.below low)
    else if high < n then problem (.above high)
    else .ok n

/-- The words for true and for false, in small letters. -/
def trueWords : List Text := ["true", "t", "yes", "y", "on", "1"]

def falseWords : List Text := ["false", "f", "no", "n", "off", "0"]

/-- A text as a truth value, without regard to case. -/
def boolOfText (t : Text) : Checked Bool :=
  let small := t.map Text.lowerAscii
  if t.hasSurrogate then problem .stringUnicode
  else if trueWords.contains small then .ok true
  else if falseWords.contains small then .ok false
  else problem .boolParsing

/-- An integer of machine size as a truth value. -/
def boolOfInt (n : Int) : Checked Bool :=
  if n = 0 then .ok false
  else if n = 1 then .ok true
  else if -wordBound ≤ n ∧ n < wordBound then problem .boolParsing
  else problem .boolType

/-- A truth value. -/
def bool : Value → Checked Bool
  | .bool b => .ok b
  | .int n => boolOfInt n
  | .float x =>
    match intOfFloat x with
    | .ok n => boolOfInt n
    | .error _ => problem .boolType
  | .text t => boolOfText t
  | .bytes bs =>
    match Utf8.decode? bs with
    | .ok t => boolOfText t
    | .error _ => problem .boolParsing
  | _ => problem .boolType

/-- The number that digits with a point and an exponent denote. -/
def decimal? (t : Text) : Option Binary64 :=
  let whole := t.takeWhile Text.isDigit
  let afterWhole := t.drop whole.length
  let (fraction, afterFraction) := match afterWhole with
    | 46 :: rest => (rest.takeWhile Text.isDigit, rest.dropWhile Text.isDigit)
    | rest => ([], rest)
  if whole.isEmpty && fraction.isEmpty then none
  else
    let value (exponent : Int) :=
      Binary64.ofScientific (Text.digitsValue (whole ++ fraction)) (exponent - fraction.length)
    match afterFraction with
    | [] => some (value 0)
    | c :: rest =>
      if c = 101 ∨ c = 69 then
        let (negative, ds) := match rest with
          | 45 :: ds => (true, ds)
          | 43 :: ds => (false, ds)
          | ds => (false, ds)
        if ds.isEmpty || !ds.all Text.isDigit then none
        else
          let n : Int := Text.digitsValue ds
          some (value (if negative then -n else n))
      else none

/-- The number that a text without white space around it denotes. -/
def signedFloat? (t : Text) : Option Binary64 :=
  let (negative, body) := match t with
    | 45 :: rest => (true, rest)
    | 43 :: rest => (false, rest)
    | rest => (false, rest)
  let small := body.map Text.lowerAscii
  let magnitude :=
    if small = Text.ofString "inf" ∨ small = Text.ofString "infinity" then some Binary64.infinity
    else if small = Text.ofString "nan" then some Binary64.nan
    else decimal? body
  magnitude.map fun x => if negative then x.negate else x

/-- The number that a text denotes. -/
def readFloat? (t : Text) : Option Binary64 :=
  match signedFloat? (trimmed t) with
  | some x => some x
  | none => (withoutLowLines? (trimmed t)).bind signedFloat?

/-- A text as a double-precision number. -/
def floatOfText (t : Text) : Checked Binary64 :=
  match readFloat? t with
  | some x => .ok x
  | none => problem .floatParsing

/-- A double-precision number. -/
def float : Value → Checked Binary64
  | .float x => .ok x
  | .int n => .ok (Binary64.ofInt n)
  | .bool b => .ok (Binary64.ofInt (if b then 1 else 0))
  | .text t => floatOfText t
  | _ => problem .floatType

/-- The items of a list. -/
def list {α : Type} (source : Source) (check : Value → Checked α) : Value → Checked (List α)
  | .list vs => items check 0 vs
  | _ => problem (.listType source)

/-- A field of a record that has to be there. -/
def required {α : Type} (fields : List (Text × Value)) (name : Text)
    (check : Value → Checked α) : Checked α :=
  under (.field name) <|
    match Value.field? fields name with
    | some v => check v
    | none => problem .missing

/-- A field of a record that may be left out. -/
def optional {α : Type} (fields : List (Text × Value)) (name : Text) (default : α)
    (check : Value → Checked α) : Checked α :=
  match Value.field? fields name with
  | some v => under (.field name) (check v)
  | none => .ok default

/-- The fields of a record that holds a document of some kind. -/
def record {α : Type} (source : Source) (model : Text)
    (check : List (Text × Value) → Checked α) : Value → Checked α
  | .record fields => check fields
  | _ => problem (.modelType source model)

end Checked

end MockHost
