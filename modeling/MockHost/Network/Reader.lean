import MockHost.Network.Basic

/-!
# Reading the records of a server

The records of all deliveries of a server are not read at once. A reader first takes
down, together, the records of the connections that have ended and which connections
are live, and then asks these one after another. In between other threads may go on:
connections add records, end or are accepted.

## Main definitions

* `Reader`: What a reader has found, and what it still has to ask.
* `Reader.begin`, `Reader.next`: Its first step, and each further one.
* `Network.dispatchesOf`: What it finds where nothing comes between.

## Theorems

* `Network.dispatchesOf_eq`: These are the records of ended connections, then of live ones.
-/

namespace MockHost

/-- A reader of the records of a server. -/
structure Reader where
  /-- The records found so far. -/
  found : List DispatchRecord
  /-- The connections that are still to be asked. -/
  unread : List ConnectionId

namespace Reader

/-- What the server itself says, which the first step takes down. -/
def begin (s : Server) : Reader := ⟨s.finishedDispatches, s.live⟩

/-- One more connection is asked. -/
def next (n : Network) (r : Reader) : Reader :=
  match r.unread with
  | [] => r
  | id :: rest => ⟨r.found ++ n.recordsOf id, rest⟩

/-- All connections are asked, one after another. -/
def finish (n : Network) (r : Reader) : Reader := r.unread.foldl (fun r _ => r.next n) r

theorem finish_eq (n : Network) (r : Reader) :
    r.finish n = ⟨r.found ++ r.unread.flatMap n.recordsOf, []⟩ := by
  rcases r with ⟨found, unread⟩
  induction unread generalizing found with
  | nil => rw [List.flatMap_nil, List.append_nil]; rfl
  | cons id rest ih =>
      rw [List.flatMap_cons, ← List.append_assoc]
      exact ih (found ++ n.recordsOf id)

end Reader

namespace Network

/-- The records of all deliveries of a server, as they are found by a reader. -/
def dispatchesOf (n : Network) (s : Server) : List DispatchRecord :=
  ((Reader.begin s).finish n).found

theorem dispatchesOf_eq (n : Network) (s : Server) :
    n.dispatchesOf s = s.finishedDispatches ++ s.live.flatMap n.recordsOf := by
  rw [dispatchesOf, Reader.finish_eq]
  rfl

end Network

end MockHost
