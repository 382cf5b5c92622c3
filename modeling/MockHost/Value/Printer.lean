import MockHost.Value.Basic

/-!
# Writing JSON

Two forms are written. A document that people edit is indented and keeps every
character that need not be escaped; a log line is one line of ASCII, in which a
character beyond the basic plane is a pair of escapes and bytes are shown quoted.

## Main definitions

* `Value.pretty`: The indented form.
* `Value.line`: The form of a log line.
-/

namespace MockHost

namespace Json

/-- The short escape of a code point that JSON cannot hold as it stands. -/
def escape? (c : CodePoint) : Option Text :=
  if c = 34 then some "\\\""
  else if c = 92 then some "\\\\"
  else if c = 8 then some "\\b"
  else if c = 9 then some "\\t"
  else if c = 10 then some "\\n"
  else if c = 12 then some "\\f"
  else if c = 13 then some "\\r"
  else if c < 32 then some ("\\u" ++ Text.hex 4 c)
  else none

/-- A text as a JSON string. -/
def string (t : Text) : Text :=
  34 :: t.flatMap (fun c => (escape? c).getD [c]) ++ [34]

/-- A code point in ASCII: beyond the basic plane it is a pair of UTF-16 units. -/
def asciiPoint (c : CodePoint) : Text :=
  match escape? c with
  | some escape => escape
  | none =>
    if c < 127 then [c]
    else if c < 0x10000 then "\\u" ++ Text.hex 4 c
    else "\\u" ++ Text.hex 4 (0xD800 + (c - 0x10000) / 0x400) ++
      "\\u" ++ Text.hex 4 (0xDC00 + (c - 0x10000) % 0x400)

/-- A text as a JSON string in ASCII. -/
def asciiString (t : Text) : Text := 34 :: t.flatMap asciiPoint ++ [34]

/-- A double-precision number as JSON, with words for those that are not finite. -/
def number (x : Binary64) : Text :=
  match x.content with
  | .nan => "NaN"
  | .infinite negative => if negative then "-Infinity" else "Infinity"
  | .finite .. => x.text

/-- A truth value or nothing as a word. -/
def word : Bool → Text
  | true => "true"
  | false => "false"

end Json

namespace Value

/-- The start of a line at a depth of nesting. -/
def newline (depth : Nat) : Text := 10 :: Text.replicate (2 * depth) 32

mutual

/-- A value in indented JSON. -/
def pretty (depth : Nat) : Value → Text
  | .null => "null"
  | .bool b => Json.word b
  | .int n => Text.ofInt n
  | .float x => Json.number x
  | .text t => Json.string t
  | .bytes bs => Json.string bs.quoted
  | .list [] => "[]"
  | .list (v :: vs) =>
    "[" ++ Text.join "," (prettyItems (depth + 1) (v :: vs)) ++ newline depth ++ "]"
  | .record [] => [123, 125]
  | .record (f :: fs) =>
    123 :: Text.join "," (prettyFields (depth + 1) (f :: fs)) ++ newline depth ++ [125]

/-- The items of a list, each on a line of its own. -/
def prettyItems (depth : Nat) : List Value → List Text
  | [] => []
  | v :: vs => (newline depth ++ pretty depth v) :: prettyItems depth vs

/-- The fields of a record, each on a line of its own. -/
def prettyFields (depth : Nat) : List (Text × Value) → List Text
  | [] => []
  | (name, v) :: rest =>
    (newline depth ++ Json.string name ++ ": " ++ pretty depth v) :: prettyFields depth rest

end

mutual

/-- A value on one line of ASCII. -/
def line : Value → Text
  | .null => "null"
  | .bool b => Json.word b
  | .int n => Text.ofInt n
  | .float x => Json.number x
  | .text t => Json.asciiString t
  | .bytes bs => Json.asciiString bs.quoted
  | .list items => "[" ++ Text.join ", " (lineItems items) ++ "]"
  | .record fields => 123 :: Text.join ", " (lineFields fields) ++ [125]

/-- The items of a list on one line. -/
def lineItems : List Value → List Text
  | [] => []
  | v :: vs => line v :: lineItems vs

/-- The fields of a record on one line. -/
def lineFields : List (Text × Value) → List Text
  | [] => []
  | (name, v) :: rest => (Json.asciiString name ++ ": " ++ line v) :: lineFields rest

end

end Value

end MockHost
