import MockHost.MessageStream
import MockHost.Pattern.Matcher
import MockHost.Value.Basic

/-!
# Expected messages

A host may expect every message to match a pattern. The whole text of the message
counts, its terminator included, and a dot in the pattern accepts line breaks. A
message that does not match leaves a record of what was expected and what came.

## Main definitions

* `Expectation`: A pattern with the text it was written as.
* `Mismatch`: The record of a message that does not match.
* `Expectation.check`: The record for a message, if it does not match.
-/

namespace MockHost

/-- A message that did not match what was expected. -/
structure Mismatch where
  /-- The pattern. -/
  expected : Text
  /-- The text of the message. -/
  actual : Text
  deriving DecidableEq, Repr

/-- The text of a mismatch. -/
def Mismatch.message (m : Mismatch) : Text :=
  "Unexpected message. Expected to match " ++ m.expected.quoted ++ " but received " ++
    m.actual.quoted ++ "."

/-- The fields of a record, and its text. -/
def Mismatch.toFields (m : Mismatch) : List (Text × Value) :=
  [(Text.ofString "expected", .text m.expected), (Text.ofString "actual", .text m.actual),
    (Text.ofString "message", .text m.message)]

/-- A pattern that messages are expected to match. -/
structure Expectation where
  source : Text
  pattern : Pattern

namespace Expectation

/-- The expectation that a text denotes. -/
def compile (source : Text) : Except Pattern.PatternError Expectation := do
  return ⟨source, ← Pattern.compile source⟩

/-- Whether a message matches. -/
def accepts (e : Expectation) (s : MessageStream) : Bool := e.pattern.accepts s.text

/-- The record of a message that does not match. -/
def check (e : Expectation) (s : MessageStream) : Option Mismatch :=
  if e.accepts s then none else some ⟨e.source, s.text⟩

/-- What is expected, in words. -/
def describe (e : Expectation) : Text := "Match the regular expression: " ++ e.source ++ "."

/-- How an expectation is shown. -/
def shown (e : Expectation) : Text := "ExpectedMessage(" ++ e.source.quoted ++ ")"

end Expectation

end MockHost
