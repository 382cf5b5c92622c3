import MockHost.Value.Basic

/-!
# Validation issues

Input is checked against the shape of a document, and everything that does not
fit is reported: each issue has a kind, the place in the document and a text. Two
sources of input are told apart, since a JSON text has objects and arrays where
values handed over directly have dictionaries and lists.

Checks collect: where two parts of a document are both checked, the issues of both
are reported, in the order of the parts.

## Main definitions

* `Source`: Where input comes from.
* `Problem`, `Issue`, `ValidationError`: What is wrong, where, and in which document.
* `Checked`: A value or the issues that prevent it.
-/

namespace MockHost

/-- Where input comes from. -/
inductive Source where
  | json
  | values
  deriving DecidableEq, Repr

/-- What is wrong with an input. -/
inductive Problem where
  | missing
  | stringType
  | stringUnicode
  | bytesType
  | boolType
  | boolParsing
  | intType
  | intParsing
  | intParsingSize
  | intFromFloat
  | finiteNumber
  | floatType
  | floatParsing
  | below (bound : Int)
  | above (bound : Int)
  | listType (source : Source)
  | modelType (source : Source) (model : Text)
  | refusedValue (reason : Text)
  | jsonInvalid
  | frozen
  | extraForbidden
  deriving DecidableEq, Repr

namespace Problem

/-- The kind of a problem, as reports name it. -/
def kind : Problem → Text
  | .missing => "missing"
  | .stringType => "string_type"
  | .stringUnicode => "string_unicode"
  | .bytesType => "bytes_type"
  | .boolType => "bool_type"
  | .boolParsing => "bool_parsing"
  | .intType => "int_type"
  | .intParsing => "int_parsing"
  | .intParsingSize => "int_parsing_size"
  | .intFromFloat => "int_from_float"
  | .finiteNumber => "finite_number"
  | .floatType => "float_type"
  | .floatParsing => "float_parsing"
  | .below _ => "greater_than_equal"
  | .above _ => "less_than_equal"
  | .listType _ => "list_type"
  | .modelType .. => "model_type"
  | .refusedValue _ => "value_error"
  | .jsonInvalid => "json_invalid"
  | .frozen => "frozen_instance"
  | .extraForbidden => "extra_forbidden"

/-- The text of a problem; a fault in the syntax of JSON is reported without one. -/
def message? : Problem → Option Text
  | .missing => some "Field required"
  | .stringType => some "Input should be a valid string"
  | .stringUnicode =>
    some "Input should be a valid string, unable to parse raw data as a unicode string"
  | .bytesType => some "Input should be a valid bytes"
  | .boolType => some "Input should be a valid boolean"
  | .boolParsing => some "Input should be a valid boolean, unable to interpret input"
  | .intType => some "Input should be a valid integer"
  | .intParsing =>
    some "Input should be a valid integer, unable to parse string as an integer"
  | .intParsingSize =>
    some "Unable to parse input string as an integer, exceeded maximum size"
  | .intFromFloat =>
    some "Input should be a valid integer, got a number with a fractional part"
  | .finiteNumber => some "Input should be a finite number"
  | .floatType => some "Input should be a valid number"
  | .floatParsing => some "Input should be a valid number, unable to parse string as a number"
  | .below bound => some ("Input should be greater than or equal to " ++ Text.ofInt bound)
  | .above bound => some ("Input should be less than or equal to " ++ Text.ofInt bound)
  | .listType .json => some "Input should be a valid array"
  | .listType .values => some "Input should be a valid list"
  | .modelType .json _ => some "Input should be an object"
  | .modelType .values model =>
    some ("Input should be a valid dictionary or instance of " ++ model)
  | .refusedValue reason => some ("Value error, " ++ reason)
  | .jsonInvalid => none
  | .frozen => some "Instance is frozen"
  | .extraForbidden => some "Extra inputs are not permitted"

end Problem

/-- A step from a document to one of its parts. -/
inductive Step where
  | field (name : Text)
  | item (index : Nat)
  deriving DecidableEq, Repr

/-- A problem with its place in the document. -/
structure Issue where
  problem : Problem
  /-- The steps to the place, outermost first. -/
  path : List Step
  deriving DecidableEq, Repr

/-- A step as a value. -/
def Step.toValue : Step → Value
  | .field name => .text name
  | .item index => .nat index

/-- An issue as it is reported. -/
def Issue.toValue (i : Issue) : Value :=
  .record <|
    [(Text.ofString "type", .text i.problem.kind),
      (Text.ofString "loc", .list (i.path.map Step.toValue))] ++
    (i.problem.message?.map fun m => (Text.ofString "msg", Value.text m)).toList

/-- The issues found in a document of some kind. -/
structure ValidationError where
  title : Text
  issues : List Issue
  deriving DecidableEq, Repr

/-- A value, or the issues that prevent it. -/
abbrev Checked (α : Type) := Except (List Issue) α

namespace Checked

/-- A problem with the input itself. -/
def problem {α : Type} (p : Problem) : Checked α := .error [⟨p, []⟩]

/-- The issues of a part, with the step to the part. -/
def under {α : Type} (s : Step) : Checked α → Checked α
  | .ok a => .ok a
  | .error issues => .error (issues.map fun i => { i with path := s :: i.path })

/-- A function and its argument, with the issues of both. -/
def app {α β : Type} (f : Checked (α → β)) (a : Checked α) : Checked β :=
  match f, a with
  | .ok f, .ok a => .ok (f a)
  | .ok _, .error issues => .error issues
  | .error issues, .ok _ => .error issues
  | .error issues, .error more => .error (issues ++ more)

/-- The next argument of a function, for writing the arguments one after another. -/
def next {α β : Type} (a : Checked α) (f : Checked (α → β)) : Checked β := app f a

/-- All items of a list, each at its index from `start` on. -/
def items {α : Type} (check : Value → Checked α) : Nat → List Value → Checked (List α)
  | _, [] => .ok []
  | start, v :: vs =>
    app (app (.ok List.cons) (under (.item start) (check v))) (items check (start + 1) vs)

/-- The result for a document of some kind. -/
def titled {α : Type} (title : Text) : Checked α → Except ValidationError α
  | .ok a => .ok a
  | .error issues => .error ⟨title, issues⟩

end Checked

end MockHost
