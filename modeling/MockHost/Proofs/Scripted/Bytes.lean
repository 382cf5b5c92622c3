import MockHost.Scripted.Connection

/-!
# The Bytes of a Script

A script is a list of events, and a connection reads it in pieces that are no
longer than one read may give. Neither the events nor the pieces matter to what
the peer has sent: that is the data one after another, up to the end of the
stream. Faults may stand anywhere in between.

Which faults may occur is left open. Where only timeouts are allowed, the script
delivers all its bytes; otherwise it may be cut short.

## Main definitions

* `Script.Carries`: The bytes of a list of events.
* `Script.Gives`: The bytes of a list of pieces.

## Theorems

* `Script.flatten_cut`, `Script.ne_nil_of_mem_cut`: Cutting loses nothing, and gives no
  empty piece.
* `Script.Carries.gives`: The pieces of a script give its bytes, whatever their size.
-/

namespace MockHost

namespace Script

/-- The peer sends these bytes and then finishes. Reads fail as far as it is allowed. -/
inductive Carries (allowed : Failure → Prop) : List Event → Bytes → Prop where
  | exhausted : Carries allowed [] []
  | finished (later : List Event) : Carries allowed (.finished :: later) []
  | data {bs later more} (hne : bs ≠ []) (rest : Carries allowed later more) :
      Carries allowed (.data bs :: later) (bs ++ more)
  | fault {f later more} (hf : allowed f) (rest : Carries allowed later more) :
      Carries allowed (.fault f :: later) more

/-- Reads give these bytes and then the end of the stream. -/
inductive Gives (allowed : Failure → Prop) : List Piece → Bytes → Prop where
  | exhausted : Gives allowed [] []
  | finished (starts : Bool) (later : List Piece) :
      Gives allowed (⟨.data [], starts⟩ :: later) []
  | data {b bs starts later more} (rest : Gives allowed later more) :
      Gives allowed (⟨.data (b :: bs), starts⟩ :: later) (b :: bs ++ more)
  | fault {f starts later more} (hf : allowed f) (rest : Gives allowed later more) :
      Gives allowed (⟨.fault f, starts⟩ :: later) more

/-- The pieces together are the bytes that were cut. -/
theorem flatten_cut {size : Nat} (hsize : 1 ≤ size) (bs : Bytes) : (cut size bs).flatten = bs := by
  induction bs using cut.induct size with
  | case1 bs hzero => omega
  | case2 bs _ hshort =>
      rw [cut, dif_neg (by omega), if_pos hshort, List.flatten_singleton]
  | case3 bs _ hlong ih =>
      rw [cut, dif_neg (by omega), if_neg hlong, List.flatten_cons, ih, List.take_append_drop]

/-- No piece is empty, which would read like the end of the stream. -/
theorem ne_nil_of_mem_cut {size : Nat} (hsize : 1 ≤ size) {bs : Bytes} (hne : bs ≠ [])
    {p : Bytes} (hp : p ∈ cut size bs) : p ≠ [] := by
  induction bs using cut.induct size with
  | case1 bs hzero => omega
  | case2 bs _ hshort =>
      rw [cut, dif_neg (by omega), if_pos hshort] at hp
      rwa [List.mem_singleton.mp hp]
  | case3 bs _ hlong ih =>
      rw [cut, dif_neg (by omega), if_neg hlong] at hp
      rcases List.mem_cons.mp hp with hp | hp
      · -- A full piece holds as many bytes as one read may give, and so at least one.
        rw [hp, ne_eq, List.take_eq_nil_iff]
        rintro (hzero | hnil)
        · omega
        · exact hne hnil
      · refine ih ?_ hp
        rw [ne_eq, List.drop_eq_nil_iff]
        omega

theorem Gives.append_data {allowed : Failure → Prop} {later : List Piece} {more : Bytes}
    (h : Gives allowed later more) (ps : List Bytes) (hps : ∀ p ∈ ps, p ≠ []) :
    Gives allowed ((ps.map fun p => ⟨.data p, false⟩) ++ later) (ps.flatten ++ more) := by
  induction ps with
  | nil => exact h
  | cons p ps ih =>
      have hrest := ih fun q hq => hps q (List.mem_cons_of_mem p hq)
      rcases List.exists_cons_of_ne_nil (hps p List.mem_cons_self) with ⟨b, bs, rfl⟩
      rw [List.flatten_cons, List.append_assoc]
      exact .data hrest

/-- The pieces of a script give its bytes, whatever the size of a piece. -/
theorem Carries.gives {allowed : Failure → Prop} {events : List Event} {bytes : Bytes}
    (h : Carries allowed events bytes) {size : Nat} (hsize : 1 ≤ size) :
    Gives allowed (events.flatMap (Event.pieces size)) bytes := by
  induction h with
  | exhausted => exact .exhausted
  | finished later => exact .finished true _
  | @data bs later more hne _ ih =>
      have hall : ∀ p ∈ cut size bs, p ≠ [] := fun p hp => ne_nil_of_mem_cut hsize hne hp
      have hflat := flatten_cut hsize bs
      rw [List.flatMap_cons, Event.pieces]
      rcases hcut : cut size bs with _ | ⟨p, ps⟩
      · -- Only empty bytes would be cut into no pieces at all.
        rw [hcut] at hflat
        exact absurd hflat.symm hne
      · -- The first piece starts the event, and the others go on with it.
        rw [hcut] at hall hflat
        rcases List.exists_cons_of_ne_nil (hall p List.mem_cons_self) with ⟨b, q, rfl⟩
        rw [← hflat, List.flatten_cons, List.append_assoc]
        exact .data (ih.append_data ps fun p hp => hall p (List.mem_cons_of_mem _ hp))
  | fault hf _ ih => exact .fault hf ih

end Script

end MockHost
