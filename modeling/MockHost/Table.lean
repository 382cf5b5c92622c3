import MockHost.Text.Basic

/-!
# Tables

Entries by name in the order in which their names came up. A name that comes up again
keeps its place and takes the new entry.

## Main definitions

* `Table`: Entries by name.
* `Table.put`: Makes an entry.
-/

namespace MockHost

/-- Entries by name, oldest name first. -/
abbrev Table (α : Type) := List (Text × α)

namespace Table

/-- A table with an entry, in the place of the one of this name or at the end. -/
def put {α : Type} (name : Text) (a : α) : Table α → Table α
  | [] => [(name, a)]
  | e :: rest => if e.1 = name then (name, a) :: rest else e :: put name a rest

/-- A table with an entry unless there is one of this name. -/
def putNew {α : Type} (name : Text) (a : α) (t : Table α) : Table α :=
  if t.any (·.1 == name) then t else t ++ [(name, a)]

end Table

end MockHost
