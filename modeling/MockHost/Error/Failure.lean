import MockHost.Error.Report
import MockHost.Error.System
import MockHost.MessageStream
import MockHost.Path
import MockHost.Pattern.Error
import MockHost.Text.Escape
import MockHost.Validation.Issue

/-!
# Failures

Everything that can end an operation: errors that a host reports, errors of the
system, input that does not validate, text that cannot be encoded, patterns and paths
that cannot be used, and whatever a hook raises.

## Main definitions

* `Failure`: What ended an operation.
* `Failure.message`, `Failure.label`: Its text and the name of its class.
* `Failure.unhandledLabel`: The name of its class where nothing handles it.
-/

namespace MockHost

/-- What ended an operation. -/
inductive Failure where
  | reported (r : ErrorReport)
  | system (e : SystemError)
  | invalid (e : ValidationError)
  | encoding (e : EncodeError)
  | decoding (e : DecodeError)
  | escape (e : EscapeError)
  | pattern (source : Text) (e : Pattern.PatternError)
  | stream (e : MessageStream.Refusal)
  /-- A file was to be accessed by a text that is not a path. -/
  | path (f : Path.Fault)
  /-- A hook failed. -/
  | raised (text : Text)
  /-- An answer had to be sent after the socket was released. -/
  | released
  /-- No socket can be bound to a port outside the range of ports. -/
  | portOutOfRange

namespace Failure

/-- The name of the class of a refused pattern. -/
def patternLabel : Pattern.PatternError → Text
  | .fault .. => "error"
  | .asciiAndUnicode | .tooManyDigits _ => "ValueError"
  | .countTooLarge => "OverflowError"

/-- The name of the class of a failure. -/
def label : Failure → Text
  | .reported r => r.kind.label
  | .system e => e.label
  | .invalid _ => "ValidationError"
  | .encoding _ => "UnicodeEncodeError"
  | .decoding _ | .escape _ => "UnicodeDecodeError"
  | .pattern _ e => patternLabel e
  | .stream _ => "ValueError"
  | .path f => f.label
  | .raised _ => "RuntimeError"
  | .released => "AttributeError"
  | .portOutOfRange => "OverflowError"

/-- The name of the class of a failure that nothing handles. That of a pattern that is refused comes
    with its module. -/
def unhandledLabel : Failure → Text
  | .pattern _ (.fault ..) => "re.error"
  | f => f.label

/-- The text of a failure. -/
def message : Failure → Text
  | .reported r => r.message
  | .system e => e.message
  | .invalid e => Text.ofNat e.issues.length ++ " validation errors for " ++ e.title
  | .encoding e => e.message
  | .decoding e => e.message
  | .escape e => e.message
  | .pattern source e => e.message source
  | .stream e => e.message
  | .path f => f.message
  | .raised text => text
  | .released => "'NoneType' object has no attribute 'sendall'"
  | .portOutOfRange => "bind(): port must be 0-65535."

/-- The system error that a failure is. -/
def system? : Failure → Option SystemError
  | .system e => some e
  | _ => none

/-- Whether a wait ended. -/
def isTimeout (f : Failure) : Bool := (f.system?.map SystemError.isTimeout).getD false

end Failure

end MockHost
