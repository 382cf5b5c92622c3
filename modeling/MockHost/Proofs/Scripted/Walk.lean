import MockHost.Proofs.Connection.Conduct
import MockHost.Scripted.Connection

/-!
# What a Rehearsal Consists Of

In a rehearsal the peer is read piece by piece, and other threads may come in before each
step of the connection to close it. The walk through all this is made once, like the one
through what serving a peer consists of, and for a relation that is left open.

Other threads shut the socket down as the connection does itself, first in its history
and then in the world. A relation may hold for the two together without holding for
either of them, so the walk asks for them together.

## Main definitions

* `Rehearsal.Interrupting`: What a relation has to admit for other threads to follow it.

## Theorems

* `Rehearsal.Interrupting.meanwhile`: What other threads do before a step.
* `Rehearsal.readOn_moves`, `Rehearsal.read_moves`: Reading a peer.
-/

namespace MockHost

namespace Rehearsal

open Act (Moves)

variable {t : Seconds} {R : Rehearsal → Rehearsal → Prop}

/-- What has to be known of a relation for other threads to follow it when they close the
    connection. -/
structure Interrupting (t : Seconds) (R : Rehearsal → Rehearsal → Prop) : Prop where
  path : Act.Path R
  schedule : ∀ r later, R r { r with interruptions := later }
  note : ∀ o : Occurrence, o.isRemark → Moves R (note o)
  request : Moves R (Connection.change (surroundings t)
    fun c => { c with closeRequested := true, status := .closed })
  shutdown : ∀ {next : Except Failure Unit → Act Rehearsal Unit}, (∀ res, Moves R (next res)) →
    Moves R (do
      Connection.record (surroundings t) .shutdown
      let res ← Act.attempt Rehearsal.shutdown
      next res)

namespace Interrupting

theorem interrupt (h : Interrupting t R) (i : Interruption) : Moves R (interrupt t i) := by
  cases i with
  | request =>
      refine Moves.bind h.path (Moves.get h.path) fun r => ?_
      refine Moves.bind h.path h.request fun _ => ?_
      split
      · exact h.note _ rfl
      · exact Moves.pure h.path _
  | shutdown again =>
      refine Moves.bind h.path (Moves.get h.path) fun r => ?_
      -- Whether or not a warning is logged first, the socket is shut down in the same way.
      refine Moves.ifThen h.path (h.note _ rfl) (fun _ => ?_) ?_
      all_goals
        refine h.shutdown fun res => ?_
        cases res with
        | ok _ => exact Moves.pure h.path _
        | error f => exact h.note _ rfl

theorem interruptAll (h : Interrupting t R) (is : List Interruption) :
    Moves R (interruptAll t is) := by
  induction is with
  | nil => exact Moves.pure h.path _
  | cons i rest ih => exact Moves.bind h.path (h.interrupt i) fun _ => ih

theorem meanwhile (h : Interrupting t R) : Moves R (meanwhile t) := by
  refine Moves.bind h.path (Moves.get h.path) fun r => ?_
  split
  · exact Moves.pure h.path _
  · exact Moves.bind h.path (Moves.modify fun _ => h.schedule _ _) fun _ => h.interruptAll _

/-- A connection looks at itself and logs while other threads may come in. -/
theorem telling (h : Interrupting t R) : (surroundings t).Telling R where
  path := h.path
  meanwhile := h.meanwhile
  note := h.note

end Interrupting

/-! ### Reading -/

section

variable (h : (surroundings t).Serving R) (hunread : ∀ r rest, R r { r with unread := rest })

include h hunread

theorem readOn_moves (single : Bool) (begun : MessageStream) (pieces : List Script.Piece) :
    Moves R (readOn (surroundings t) single begun pieces) := by
  induction pieces generalizing begun with
  | nil => exact Moves.bind h.path (h.receive single begun _) fun _ => Moves.pure h.path _
  | cons p rest ih =>
      refine Moves.bind h.path (Moves.modify fun _ => hunread _ _) fun _ => ?_
      refine Moves.bind h.path (h.receive single begun _) fun next => ?_
      split
      · exact Moves.pure h.path _
      · exact ih _

theorem read_moves (single : Bool) : Moves R (read (surroundings t) single) := by
  refine Moves.bind h.path (h.begin single) fun next => ?_
  split
  · exact Moves.pure h.path _
  · exact Moves.bind h.path (Moves.get h.path) fun r => readOn_moves h hunread single _ _

end

end Rehearsal

end MockHost
