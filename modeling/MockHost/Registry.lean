import MockHost.Delivery
import MockHost.Error.Report
import MockHost.Trace

/-!
# Response registries

A registry says which deliveries a received message triggers. It is filled while
a host is set up and frozen when a server starts, after which connections read
it. Keys keep the order in which they were first added, and so do the deliveries
of a key, of which no two are equal.

## Main definitions

* `Registry`: Keys with their deliveries.
* `Registry.add?`, `Registry.freeze`: Filling and freezing.
* `Registry.lookup`, `Registry.keys`, `Registry.contains`: Reading.
-/

namespace MockHost

/-- The deliveries that received messages trigger. -/
structure Registry where
  /-- Every key with its deliveries, in the order of first addition. -/
  entries : List (Text × List Delivery) := []
  frozen : Bool := false
  deriving DecidableEq, Repr

namespace Registry

/-- What adding a delivery came to. -/
inductive Addition where
  | added (r : Registry)
  /-- The key had this delivery already. -/
  | duplicate

/-- The deliveries of a message; none where it is not a key. -/
def lookup (r : Registry) (key : Text) : List Delivery := (r.entries.lookup key).getD []

/-- Whether a message is a key. -/
def contains (r : Registry) (key : Text) : Bool := r.entries.any (·.1 == key)

/-- The keys, in the order of first addition. -/
def keys (r : Registry) : List Text := r.entries.map Prod.fst

/-- The number of keys. -/
def size (r : Registry) : Nat := r.entries.length

/-- A registry to which nothing can be added any more. -/
def freeze (r : Registry) : Registry := { r with frozen := true }

/-- The entries with a delivery added to a key, which comes last where it is new. -/
def insert (key : Text) (d : Delivery) :
    List (Text × List Delivery) → List (Text × List Delivery)
  | [] => [(key, [d])]
  | (k, ds) :: rest => if k = key then (k, ds ++ [d]) :: rest else (k, ds) :: insert key d rest

/-- The refusal to add to a registry that is in use. -/
def frozenReport (key : Text) : ErrorReport where
  kind := .registryFrozen
  message := "Responses cannot be added once the registry is in use"
  details := [(Text.ofString "key", .text key)]

/-- Adds a delivery to a key, unless the key has it or the registry is frozen. -/
def add (r : Registry) (key : Text) (d : Delivery) : Except ErrorReport Addition :=
  if r.frozen then .error (frozenReport key)
  else if (r.lookup key).contains d then .ok .duplicate
  else .ok (.added { r with entries := insert key d r.entries })

/-- The log entry on a delivery that a key has already. -/
def duplicateIgnored (key : Text) (d : Delivery) : Occurrence :=
  .logged .debug "response_duplicate_ignored"
    [.text "key" key, .text "host" d.host, .int "port" d.port]

/-- Adds a delivery to a key. Gives the registry after it and what is logged. -/
def addLogged (r : Registry) (key : Text) (d : Delivery) :
    Except ErrorReport (Registry × Trace) := do
  match ← r.add key d with
  | .added r => return (r, #[])
  | .duplicate => return (r, #[duplicateIgnored key d])

/-- How a registry is shown. -/
def shown (r : Registry) : Text :=
  "ResponseRegistry(" ++
    Value.quoted (.record (r.entries.map fun (key, ds) =>
      (key, .list (ds.map fun d => .text d.shown)))) ++ ")"

end Registry

end MockHost
