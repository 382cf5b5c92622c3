import MockHost.Text.Quoted
import MockHost.Value.Basic

/-!
# Error reports

The errors that a host reports on its own account form a tree of kinds, so that a
caller may handle a whole branch at once. A report has a kind, a text and details.

## Main definitions

* `ErrorKind`: The kinds of error.
* `ErrorKind.parent?`, `ErrorKind.lineage`: The tree.
* `ErrorReport`: An error with its text and details.
-/

namespace MockHost

/-- The kinds of error that a host reports. -/
inductive ErrorKind where
  | mockServer
  | configuration
  | transport
  | connectTimeout
  | targetRefused
  | send
  | receive
  | receiveTimeout
  | unexpectedResponse
  | dispatch
  | server
  | serverStart
  | serverAlreadyRegistered
  | registry
  | registryFrozen
  deriving DecidableEq, Repr

namespace ErrorKind

/-- The name of a kind. -/
def label : ErrorKind → Text
  | .mockServer => "MockServerError"
  | .configuration => "ConfigurationError"
  | .transport => "TransportError"
  | .connectTimeout => "ConnectTimeoutError"
  | .targetRefused => "TargetRefusedError"
  | .send => "SendError"
  | .receive => "ReceiveError"
  | .receiveTimeout => "ReceiveTimeoutError"
  | .unexpectedResponse => "UnexpectedResponseError"
  | .dispatch => "DispatchError"
  | .server => "ServerError"
  | .serverStart => "ServerStartError"
  | .serverAlreadyRegistered => "ServerAlreadyRegisteredError"
  | .registry => "RegistryError"
  | .registryFrozen => "RegistryFrozenError"

/-- All kinds. -/
def all : List ErrorKind :=
  [.mockServer, .configuration, .transport, .connectTimeout, .targetRefused, .send, .receive,
    .receiveTimeout, .unexpectedResponse, .dispatch, .server, .serverStart,
    .serverAlreadyRegistered, .registry, .registryFrozen]

/-- The kind with this name. -/
def ofLabel? (name : Text) : Option ErrorKind := all.find? fun k => k.label == name

/-- The kind of which this one is a case. -/
def parent? : ErrorKind → Option ErrorKind
  | .mockServer => none
  | .configuration | .transport | .dispatch | .server | .registry => some .mockServer
  | .connectTimeout | .targetRefused | .send | .receive => some .transport
  | .receiveTimeout | .unexpectedResponse => some .receive
  | .serverStart | .serverAlreadyRegistered => some .server
  | .registryFrozen => some .registry

/-- A kind and the kinds above it, nearest first. No kind has more than three above it. -/
def lineage (k : ErrorKind) : List ErrorKind :=
  k :: match k.parent? with
    | none => []
    | some p => p :: match p.parent? with
      | none => []
      | some q => q :: (q.parent?).toList

/-- Whether a kind is `branch` or lies below it. -/
def isUnder (k branch : ErrorKind) : Bool := k.lineage.contains branch

end ErrorKind

/-- An error that a host reports. -/
structure ErrorReport where
  kind : ErrorKind
  message : Text
  details : List (Text × Value) := []

namespace ErrorReport

/-- A report with the details that are given, if any are. -/
def create (kind : ErrorKind) (message : Text) (details : Option (List (Text × Value))) :
    ErrorReport :=
  ⟨kind, message, details.getD []⟩

/-- The answer of a peer was none that could be expected. The details hold its text. -/
def unexpectedResponse (message : Text) (response : Option Text) : ErrorReport where
  kind := .unexpectedResponse
  message := message
  details := [(Text.ofString "response", Value.ofText? response)]

/-- A pool has a server on this port already. -/
def alreadyRegistered (port : Int) : ErrorReport where
  kind := .serverAlreadyRegistered
  message := "A server is already registered on port " ++ Text.ofInt port
  details := [(Text.ofString "port", .int port)]

end ErrorReport

end MockHost
