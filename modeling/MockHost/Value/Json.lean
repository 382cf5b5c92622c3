import MockHost.Value.Basic

/-!
# Reading JSON

A document is first cut into tokens and then read by a machine with a stack of
the lists and records that are still open, so no recursion is deeper than the
text is long and the depth of nesting is simply the height of the stack. Beyond
the standard the three numbers `NaN`, `Infinity` and `-Infinity` are read. A number
with a fraction or an exponent is a double-precision number, any other an integer
of any size. Of several fields with one name the last counts. An escaped surrogate
has to be one half of a pair.

## Main definitions

* `Json.Token`, `Json.tokens?`: The tokens of a text.
* `Json.Reader`: The machine.
* `Json.read?`: The value of a document whose nesting has a limit.
-/

namespace MockHost

namespace Json

/-- A token of a document. -/
inductive Token where
  | beginRecord
  | endRecord
  | beginList
  | endList
  | comma
  | colon
  | scalar (v : Value)

/-- The value of four hexadecimal digits. -/
def hex4? (a b c d : CodePoint) : Option Nat :=
  match Text.hexDigit? a, Text.hexDigit? b, Text.hexDigit? c, Text.hexDigit? d with
  | some a, some b, some c, some d => some (((a * 16 + b) * 16 + c) * 16 + d)
  | _, _, _, _ => none

/-- The code point that stands for a letter after a backslash. -/
def escaped? (c : CodePoint) : Option CodePoint :=
  if c = 34 ∨ c = 92 ∨ c = 47 then some c
  else if c = 98 then some 8
  else if c = 102 then some 12
  else if c = 110 then some 10
  else if c = 114 then some 13
  else if c = 116 then some 9
  else none

/-- The content of a string up to its closing quote, and the text after the quote. -/
def string? : Text → Option (Text × Text)
  | [] => none
  | 34 :: rest => some ([], rest)
  | 92 :: 117 :: a :: b :: c :: d :: rest =>
    match hex4? a b c d with
    | none => none
    | some unit =>
      if CodePoint.isSurrogate unit then
        match rest with
        | 92 :: 117 :: e :: f :: g :: h :: rest =>
          match hex4? e f g h with
          | none => none
          | some low =>
            if unit < 0xDC00 ∧ 0xDC00 ≤ low ∧ low ≤ 0xDFFF then
              (string? rest).map fun (t, r) =>
                ((0x10000 + (unit - 0xD800) * 0x400 + (low - 0xDC00)) :: t, r)
            else none
        | _ => none
      else (string? rest).map fun (t, r) => (unit :: t, r)
  | 92 :: c :: rest =>
    match escaped? c with
    | some point => (string? rest).map fun (t, r) => (point :: t, r)
    | none => none
  | c :: rest =>
    if c < 32 ∨ c = 92 then none else (string? rest).map fun (t, r) => (c :: t, r)

/-- A run of digits and the text after it. -/
def digits (t : Text) : Text × Text := t.span Text.isDigit

/-- The fraction of a number, without its point, and the text after it; nothing where
    no digit follows the point. -/
def fraction? : Text → Option (Option Text × Text)
  | 46 :: rest =>
    match digits rest with
    | ([], _) => none
    | (ds, rest) => some (some ds, rest)
  | rest => some (none, rest)

/-- The exponent of a number and the text after it; nothing where the mark is not
    followed by a digit. -/
def exponent? : Text → Option (Option Int × Text)
  | [] => some (none, [])
  | c :: rest =>
    if c = 101 ∨ c = 69 then
      let (negative, body) := match rest with
        | 45 :: r => (true, r)
        | 43 :: r => (false, r)
        | r => (false, r)
      match digits body with
      | ([], _) => none
      | (ds, rest) =>
        let n : Int := Text.digitsValue ds
        some (some (if negative then -n else n), rest)
    else some (none, c :: rest)

/-- A number without its sign and the text after it. -/
def magnitude? (negative : Bool) (t : Text) : Option (Value × Text) :=
  match digits t with
  | ([], _) => none
  | (whole, rest) =>
    if whole.length > 1 ∧ whole.head? = some 48 then none
    else do
      let (fraction, rest) ← fraction? rest
      let (exponent, rest) ← exponent? rest
      match fraction, exponent with
      | none, none =>
        let n : Int := Text.digitsValue whole
        return (.int (if negative then -n else n), rest)
      | _, _ =>
        let places := fraction.getD []
        let x := Binary64.ofScientific (Text.digitsValue (whole ++ places))
          (exponent.getD 0 - places.length)
        return (.float (if negative then x.negate else x), rest)

/-- The text after `word`, where it starts with it. -/
def after? (word t : Text) : Option Text :=
  if word.isPrefixOf t then some (t.drop word.length) else none

/-- A number or a word and the text after it. -/
def plain? (t : Text) : Option (Value × Text) :=
  match t with
  | 45 :: rest =>
    match after? "Infinity" rest with
    | some rest => some (.float Binary64.infinity.negate, rest)
    | none => magnitude? true rest
  | _ =>
    match after? "null" t, after? "true" t, after? "false" t, after? "NaN" t,
      after? "Infinity" t with
    | some rest, _, _, _, _ => some (.null, rest)
    | _, some rest, _, _, _ => some (.bool true, rest)
    | _, _, some rest, _, _ => some (.bool false, rest)
    | _, _, _, some rest, _ => some (.float Binary64.nan, rest)
    | _, _, _, _, some rest => some (.float Binary64.infinity, rest)
    | _, _, _, _, _ => magnitude? false t

/-- Whether a code point may stand between tokens. -/
def isSpace (c : CodePoint) : Bool := c == 32 || c == 9 || c == 10 || c == 13

/-- The token at the start of a text and the text after it. -/
def token? : Text → Option (Token × Text)
  | 123 :: rest => some (.beginRecord, rest)
  | 125 :: rest => some (.endRecord, rest)
  | 91 :: rest => some (.beginList, rest)
  | 93 :: rest => some (.endList, rest)
  | 44 :: rest => some (.comma, rest)
  | 58 :: rest => some (.colon, rest)
  | 34 :: rest => (string? rest).map fun (t, rest) => (.scalar (.text t), rest)
  | t => (plain? t).map fun (v, rest) => (.scalar v, rest)

/-- The tokens of a text, read in at most `fuel` steps. Every step drops a space or
    a token and so makes the text shorter. -/
def tokensWithin : Nat → Text → List Token → Option (List Token)
  | _, [], seen => some seen.reverse
  | 0, _, _ => none
  | fuel + 1, c :: rest, seen =>
    if isSpace c then tokensWithin fuel rest seen
    else
      match token? (c :: rest) with
      | some (token, rest) => tokensWithin fuel rest (token :: seen)
      | none => none

/-- The tokens of a text. -/
def tokens? (t : Text) : Option (List Token) := tokensWithin t.length t []

/-- A list or record that is still open, its content newest first. -/
inductive Frame where
  | list (done : List Value)
  | record (done : List (Text × Value)) (name : Text)

/-- What the next token may be. -/
inductive Expected where
  | value
  | valueOrEnd
  | name
  | nameOrEnd
  | colon
  | separator
  | nothing
  deriving DecidableEq

/-- Where reading stands: the open lists and records, innermost first, what may
    come next, and the document once it is complete. -/
structure Reader where
  opened : List Frame
  expected : Expected
  document : Value

/-- The reader before the first token. -/
def Reader.start : Reader := ⟨[], .value, .null⟩

/-- The fields of a record in order, with only the last of each name. -/
def lastOfEach (newestFirst : List (Text × Value)) : List (Text × Value) :=
  newestFirst.foldl (fun kept f => if kept.any (·.1 == f.1) then kept else f :: kept) []

/-- Adds a complete value to the innermost list or record that is open. -/
def Reader.give (r : Reader) (v : Value) : Reader :=
  match r.opened with
  | [] => { r with expected := .nothing, document := v }
  | .list done :: outer => { r with opened := .list (v :: done) :: outer, expected := .separator }
  | .record done name :: outer =>
    { r with opened := .record ((name, v) :: done) [] :: outer, expected := .separator }

/-- Opens a list or a record within the limit on nesting. -/
def Reader.descend (limit : Nat) (r : Reader) (frame : Frame) (expected : Expected) :
    Option Reader :=
  if r.opened.length < limit then
    some { r with opened := frame :: r.opened, expected := expected }
  else none

/-- Closes the innermost list or record. -/
def Reader.close (r : Reader) : Reader :=
  match r.opened with
  | [] => r
  | .list done :: outer => { r with opened := outer }.give (.list done.reverse)
  | .record done _ :: outer => { r with opened := outer }.give (.record (lastOfEach done))

/-- One token read. -/
def Reader.step (limit : Nat) (r : Reader) (token : Token) : Option Reader :=
  match r.expected, token with
  | .value, .scalar v | .valueOrEnd, .scalar v => some (r.give v)
  | .value, .beginList | .valueOrEnd, .beginList => r.descend limit (.list []) .valueOrEnd
  | .value, .beginRecord | .valueOrEnd, .beginRecord =>
    r.descend limit (.record [] []) .nameOrEnd
  | .valueOrEnd, .endList => some r.close
  | .nameOrEnd, .endRecord => some r.close
  | .name, .scalar (.text t) | .nameOrEnd, .scalar (.text t) =>
    match r.opened with
    | .record done _ :: outer =>
      some { r with opened := .record done t :: outer, expected := .colon }
    | _ => none
  | .colon, .colon => some { r with expected := .value }
  | .separator, .comma =>
    match r.opened with
    | .list _ :: _ => some { r with expected := .value }
    | .record .. :: _ => some { r with expected := .name }
    | [] => none
  | .separator, .endList =>
    match r.opened with
    | .list _ :: _ => some r.close
    | _ => none
  | .separator, .endRecord =>
    match r.opened with
    | .record .. :: _ => some r.close
    | _ => none
  | _, _ => none

/-- The value of a document whose lists and records are nested at most `limit` deep. -/
def read? (limit : Nat) (t : Text) : Option Value := do
  let r ← (← tokens? t).foldlM (Reader.step limit) Reader.start
  if r.expected = .nothing then some r.document else none

end Json

end MockHost
