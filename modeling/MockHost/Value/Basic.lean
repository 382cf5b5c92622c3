import MockHost.Number.Shortest
import MockHost.Text.Quoted

/-!
# Values

Configuration documents, the fields of log entries and the details of errors are
all made of the same few kinds of value. A record keeps its fields in the order
in which they were given, since every way of writing it down shows that order.

## Main definitions

* `Value`: A value.
* `Value.field?`: The value of a field of a record.
* `Value.quoted`: How a value is shown in a message.
-/

namespace MockHost

/-- A value. -/
inductive Value where
  | null
  | bool (b : Bool)
  | int (n : Int)
  | float (x : Binary64)
  | text (t : Text)
  | bytes (bs : Bytes)
  | list (items : List Value)
  | record (fields : List (Text × Value))

namespace Value

instance : Inhabited Value := ⟨.null⟩

/-- The value of the last field of this name. -/
def field? (fields : List (Text × Value)) (name : Text) : Option Value :=
  (fields.reverse.find? fun f => f.1 == name).map Prod.snd

/-- A natural number as a value. -/
def nat (n : Nat) : Value := .int n

/-- A text or nothing. -/
def ofText? : Option Text → Value
  | some t => .text t
  | none => .null

mutual

/-- How a value is shown in a message: text and bytes between quotes, lists and
    records between brackets. -/
def quoted : Value → Text
  | .null => "None"
  | .bool b => if b then "True" else "False"
  | .int n => Text.ofInt n
  | .float x => x.text
  | .text t => t.quoted
  | .bytes bs => bs.quoted
  | .list items => "[" ++ Text.join ", " (quotedItems items) ++ "]"
  | .record fields => 123 :: Text.join ", " (quotedFields fields) ++ [125]

/-- The items of a list as they are shown. -/
def quotedItems : List Value → List Text
  | [] => []
  | v :: vs => quoted v :: quotedItems vs

/-- The fields of a record as they are shown. -/
def quotedFields : List (Text × Value) → List Text
  | [] => []
  | (name, v) :: rest => (name.quoted ++ ": " ++ quoted v) :: quotedFields rest

end

end Value

end MockHost
