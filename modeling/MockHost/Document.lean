import MockHost.Delivery
import MockHost.Value.Json

/-!
# Configuration documents

A configuration document names the ports to listen on, and for each port the
messages that may come in with the responses they trigger.

## Main definitions

* `ResponseDefinition`, `IncomingDefinition`, `ServerDefinition`, `Document`: The
  parts of a document, innermost first.
* `Document.check`, `Document.read`: A document read from a value and from a text.
* `Document.toValue`: A document as a value.
-/

namespace MockHost

/-- A response that is sent to another machine when a message comes in. The payload
    is still written with escapes. -/
structure ResponseDefinition where
  host : Text
  port : Port
  message : Text
  deriving DecidableEq, Repr

/-- A message that may come in and the responses it triggers. -/
structure IncomingDefinition where
  message : Text
  responses : List ResponseDefinition
  deriving DecidableEq, Repr

/-- A port to listen on and the messages that may come in there. -/
structure ServerDefinition where
  port : Port
  incoming : List IncomingDefinition
  deriving DecidableEq, Repr

/-- A configuration document. -/
structure Document where
  servers : List ServerDefinition
  deriving DecidableEq, Repr

namespace ResponseDefinition

def title : Text := "ResponseDefinition"

/-- The host may be given under either of two names; the first of them wins, and the
    absence of both is reported under it. -/
def checkHost (fields : List (Text × Value)) : Checked Text :=
  let named (name : Text) := Checked.required fields name Checked.text
  match Value.field? fields "machine", Value.field? fields "host" with
  | none, some _ => named "host"
  | _, _ => named "machine"

/-- A response definition read from a value. -/
def check (source : Source) : Value → Checked ResponseDefinition :=
  Checked.record source title fun fields =>
    .ok ResponseDefinition.mk
      |> Checked.next (checkHost fields)
      |> Checked.next (Checked.required fields "port" Port.check)
      |> Checked.next (Checked.required fields "message" Checked.text)

/-- A response definition as a value. -/
def toValue (r : ResponseDefinition) : Value :=
  .record [(Text.ofString "host", .text r.host), (Text.ofString "port", .int r.port),
    (Text.ofString "message", .text r.message)]

end ResponseDefinition

namespace IncomingDefinition

def title : Text := "IncomingDefinition"

/-- An incoming definition read from a value. -/
def check (source : Source) : Value → Checked IncomingDefinition :=
  Checked.record source title fun fields =>
    .ok IncomingDefinition.mk
      |> Checked.next (Checked.required fields "message" Checked.text)
      |> Checked.next (Checked.optional fields "responses" []
        (Checked.list source (ResponseDefinition.check source)))

/-- An incoming definition as a value. -/
def toValue (i : IncomingDefinition) : Value :=
  .record [(Text.ofString "message", .text i.message),
    (Text.ofString "responses", .list (i.responses.map ResponseDefinition.toValue))]

end IncomingDefinition

namespace ServerDefinition

def title : Text := "ServerDefinition"

/-- A server definition read from a value. -/
def check (source : Source) : Value → Checked ServerDefinition :=
  Checked.record source title fun fields =>
    .ok ServerDefinition.mk
      |> Checked.next (Checked.required fields "port" Port.check)
      |> Checked.next (Checked.optional fields "incoming" []
        (Checked.list source (IncomingDefinition.check source)))

/-- A server definition as a value. -/
def toValue (s : ServerDefinition) : Value :=
  .record [(Text.ofString "port", .int s.port),
    (Text.ofString "incoming", .list (s.incoming.map IncomingDefinition.toValue))]

end ServerDefinition

namespace Document

def title : Text := "ConfigurationFile"

/-- A document read from a value. -/
def check (source : Source) : Value → Checked Document :=
  Checked.record source title fun fields =>
    .ok Document.mk
      |> Checked.next (Checked.optional fields "servers" []
        (Checked.list source (ServerDefinition.check source)))

/-- A document as a value. -/
def toValue (d : Document) : Value :=
  .record [(Text.ofString "servers", .list (d.servers.map ServerDefinition.toValue))]

end Document

/-- The depth to which the lists and records of a JSON text may be nested. -/
def nestingLimit : Nat := 201

/-- A JSON text, checked. -/
def Checked.json {α : Type} (check : Source → Value → Checked α) (t : Text) : Checked α :=
  if t.hasSurrogate then Checked.problem .stringUnicode
  else
    match Json.read? nestingLimit t with
    | some v => check .json v
    | none => Checked.problem .jsonInvalid

/-- A document read from a JSON text. -/
def Document.read (t : Text) : Except ValidationError Document :=
  Checked.titled Document.title (Checked.json Document.check t)

end MockHost
