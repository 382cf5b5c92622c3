import Mathlib.Data.List.Infix
import MockHost.Client.Reply
import MockHost.Proofs.Stream.Window

/-!
# What Completes a Reply

A client stops reading at the first byte with which the bytes read so far are complete,
and it does not look further. So what it takes for a reply is determined by the bytes that
are there to be read and by nothing else, and in particular not by where one reply ends
and the next one begins.

Where there is no reply among the bytes, one of three things ends the reading: the peer has
finished, a read has failed, or so many bytes have come that none of the acknowledgements
can, which counts only if there is no terminator to wait for.

## Main definitions

* `Arrival.bytes`: The bytes that arrive.
* `Arrival.incoming`, `Arrival.failure?`: The bytes before anything else, and what ends them.
* `ReplyRule.Completes`: Bytes that equal an acknowledgement or end with the terminator.
* `ReplyRule.IsReply`: Bytes that are complete at their end, and not before.
* `ReplyRule.first?`: The reply that some bytes begin with.
* `ReplyRule.Clear`: Acknowledgements that cannot be mistaken for each other.
* `ReplyRule.Reads`: The ways in which reading ends.

## Theorems

* `ReplyRule.IsReply.eq_of_append`: The same bytes begin with one reply only.
* `ReplyRule.Clear.isReply`: Acknowledgements that are clear are replies.
* `ReplyRule.first?_eq_some`, `ReplyRule.first?_eq_none`: Which reply is found.
* `ReplyRule.IsReply.read`: Bytes that begin with a reply are read as this reply.
* `ReplyRule.read_reads`: Reading ends in one of these ways.
* `ReplyRule.read_complete`: What is returned as complete is a reply.
* `ReplyRule.mem_of_read_fault`: What fails a read has arrived.
-/

namespace MockHost

/-- The bytes of some arrivals. -/
def Arrival.bytes (as : List Arrival) : Bytes :=
  as.filterMap fun
    | .byte b => some b
    | _ => none

namespace Arrival

@[simp] theorem bytes_nil : bytes [] = [] := rfl

@[simp] theorem bytes_byte (b : UInt8) (as : List Arrival) :
    bytes (.byte b :: as) = b :: bytes as := rfl

@[simp] theorem bytes_fault (f : Failure) (as : List Arrival) :
    bytes (.fault f :: as) = bytes as := rfl

theorem bytes_append (as as' : List Arrival) : bytes (as ++ as') = bytes as ++ bytes as' :=
  List.filterMap_append

theorem bytes_map (bs : Bytes) : bytes (bs.map .byte) = bs := by
  induction bs with
  | nil => rfl
  | cons b bs ih => exact congrArg (b :: ·) ih

/-- What has been taken and what is left. -/
theorem bytes_take_drop (n : Nat) (as : List Arrival) :
    bytes (as.take n) ++ bytes (as.drop n) = bytes as := by
  rw [← bytes_append, List.take_append_drop]

/-- The bytes that arrive before anything else does. -/
def incoming : List Arrival → Bytes
  | .byte b :: rest => b :: incoming rest
  | _ => []

/-- What ends them: a failure, or nothing but that the peer has finished. -/
def failure? : List Arrival → Option Failure
  | .byte _ :: rest => failure? rest
  | .fault f :: _ => some f
  | _ => none

/-- The arrivals up to the first that is not a byte, and the others. -/
theorem eq_incoming_append (as : List Arrival) :
    as = (incoming as).map .byte ++ as.drop (incoming as).length := by
  induction as with
  | nil => rfl
  | cons a rest ih =>
      cases a with
      | byte b => exact congrArg (.byte b :: ·) ih
      | finished => rfl
      | fault f => rfl

theorem incoming_append (bs : Bytes) (as : List Arrival) :
    incoming (bs.map .byte ++ as) = bs ++ incoming as := by
  induction bs with
  | nil => rfl
  | cons b bs ih => exact congrArg (b :: ·) ih

theorem failure?_append (bs : Bytes) (as : List Arrival) :
    failure? (bs.map .byte ++ as) = failure? as := by
  induction bs with
  | nil => rfl
  | cons b bs ih => exact ih

/-- Nothing gets lost if what has ended the bytes is taken with them. -/
theorem incoming_append_bytes (as : List Arrival) :
    incoming as ++ bytes (as.drop ((incoming as).length + 1)) = bytes as := by
  induction as with
  | nil => rfl
  | cons a rest ih =>
      cases a with
      | byte b => exact congrArg (b :: ·) ih
      | finished => rfl
      | fault f => rfl

theorem eq_append_of_prefix {as : List Arrival} {bs : Bytes} (h : bs <+: incoming as) :
    ∃ later, as = bs.map .byte ++ later := by
  rcases h with ⟨more, hmore⟩
  refine ⟨more.map .byte ++ as.drop (incoming as).length, ?_⟩
  rw [← List.append_assoc, ← List.map_append, hmore]
  exact eq_incoming_append as

/-- What follows the bytes tells what has ended them. -/
theorem drop_incoming (as : List Arrival) :
    (failure? as = none ∧ (as.drop (incoming as).length = [] ∨
      ∃ later, as.drop (incoming as).length = .finished :: later)) ∨
    ∃ f later, failure? as = some f ∧ as.drop (incoming as).length = .fault f :: later := by
  induction as with
  | nil => exact .inl ⟨rfl, .inl rfl⟩
  | cons a rest ih =>
      cases a with
      | byte b => exact ih
      | finished => exact .inl ⟨rfl, .inr ⟨rest, rfl⟩⟩
      | fault f => exact .inr ⟨f, rest, rfl, rfl⟩

end Arrival

namespace ReplyRule

variable {r : ReplyRule} {reply : Bytes}

/-- The bytes equal one of the acknowledgements, or end with the terminator. -/
def Completes (r : ReplyRule) (bs : Bytes) : Prop :=
  bs = r.ack ∨ bs = r.nak ∨ ∃ t, r.terminator = some t ∧ t ≠ [] ∧ t <:+ bs

instance (r : ReplyRule) : DecidablePred r.Completes := fun bs =>
  inferInstanceAs (Decidable (bs = r.ack ∨ bs = r.nak ∨
    ∃ t, t ∈ r.terminator ∧ t ≠ [] ∧ t <:+ bs))

theorem completes_iff (hterm : r.terminator = none) {bs : Bytes} :
    r.Completes bs ↔ bs = r.ack ∨ bs = r.nak := by
  refine ⟨?_, fun h => h.imp_right .inl⟩
  rintro (hack | hnak | ⟨t, ht, -⟩)
  · exact .inl hack
  · exact .inr hnak
  · rw [hterm] at ht
    injection ht

/-- The width of the window on the bytes that have been read. -/
def width (r : ReplyRule) : Nat :=
  match r.terminator with
  | some (b :: bs) => (b :: bs).length
  | _ => 1

theorem emptyStream_eq (r : ReplyRule) : r.emptyStream = MessageStream.holding r.width [] := by
  unfold emptyStream width
  rcases r.terminator with _ | _ | ⟨b, bs⟩ <;> rfl

/-- What the window of a stream tells about the terminator. -/
theorem isTerminated_width {t : Bytes} (ht : r.terminator = some t) {bs : Bytes} (hne : bs ≠ []) :
    (MessageStream.holding r.width bs).isTerminated t = true ↔ t ≠ [] ∧ t <:+ bs := by
  cases t with
  | nil =>
      -- A window is never empty once a byte has been read.
      have hwidth : r.width = 1 := by rw [width, ht]
      have htail := MessageStream.windowed_holding (Nat.le_refl 1) bs
      refine ⟨fun h => ?_, fun h => (h.1 rfl).elim⟩
      rw [hwidth, MessageStream.isTerminated, beq_iff_eq, htail, MessageStream.toBytes_holding,
        MessageStream.size_holding, MessageStream.capacity_holding, List.drop_eq_nil_iff] at h
      have hpos := List.length_pos_iff.mpr hne
      omega
  | cons b t =>
      have hwidth : r.width = (b :: t).length := by rw [width, ht]
      rw [hwidth, MessageStream.isTerminated_holding (List.cons_ne_nil b t)]
      exact ⟨fun h => ⟨List.cons_ne_nil b t, h⟩, fun h => h.2⟩

/-- A stream is complete exactly if its bytes are. -/
theorem isComplete_holding {bs : Bytes} (hne : bs ≠ []) :
    r.isComplete (MessageStream.holding r.width bs) = true ↔ r.Completes bs := by
  have hlongest : (bs = r.ack ∨ bs = r.nak) → bs.length ≤ r.longest := by
    rintro (rfl | rfl)
    · exact Nat.le_max_left _ _
    · exact Nat.le_max_right _ _
  have hacks : (bs.length ≤ r.longest ∧ (bs = r.ack ∨ bs = r.nak)) ↔ (bs = r.ack ∨ bs = r.nak) :=
    ⟨fun h => h.2, fun h => ⟨hlongest h, h⟩⟩
  unfold isComplete
  rw [Bool.or_eq_true, Bool.and_eq_true, Bool.or_eq_true, decide_eq_true_iff, beq_iff_eq,
    beq_iff_eq, MessageStream.toBytes_holding, MessageStream.size_holding, hacks, Completes,
    ← or_assoc]
  refine or_congr_right ?_
  rcases hterm : r.terminator with _ | t
  · exact ⟨(fun h => nomatch h), fun ⟨_, h, _⟩ => nomatch h⟩
  · dsimp only
    rw [isTerminated_width hterm hne]
    refine ⟨fun h => ⟨t, rfl, h⟩, fun ⟨t', ht, h⟩ => ?_⟩
    cases ht
    exact h

/-- The bytes are complete, and would not have been so any earlier. -/
structure IsReply (r : ReplyRule) (bs : Bytes) : Prop where
  nonempty : bs ≠ []
  complete : r.Completes bs
  first : ∀ p, p ≠ [] → p <+: bs → p ≠ bs → ¬ r.Completes p

theorem eq_singleton {p : Bytes} {x : UInt8} (hne : p ≠ []) (hpre : p <+: [x]) : p = [x] := by
  rcases List.prefix_cons_iff.mp hpre with hnil | ⟨t, rfl, ht⟩
  · exact (hne hnil).elim
  · rw [List.prefix_nil.mp ht]

theorem isReply_singleton {x : UInt8} (h : r.Completes [x]) : r.IsReply [x] where
  nonempty := List.cons_ne_nil x []
  complete := h
  first _ hne hpre hshort _ := hshort (eq_singleton hne hpre)

/-- The same bytes begin with one reply only. -/
theorem IsReply.eq_of_append {m m' x x' : Bytes} (h : r.IsReply m) (h' : r.IsReply m')
    (heq : m ++ x = m' ++ x') : m = m' := by
  by_contra hne
  rcases List.prefix_or_prefix_of_prefix (List.prefix_append m x) (heq ▸ List.prefix_append m' x')
    with hpre | hpre
  · exact h'.first m h.nonempty hpre hne h.complete
  · exact h.first m' h'.nonempty hpre (Ne.symm hne) h'.complete

/-- Acknowledgements that cannot be mistaken for each other. The terminator does not stand in
    them before their end. -/
structure Clear (r : ReplyRule) : Prop where
  ack_ne : r.ack ≠ []
  nak_ne : r.nak ≠ []
  ack_nak : ¬ r.ack <+: r.nak
  nak_ack : ¬ r.nak <+: r.ack
  uncut : ∀ reply, reply = r.ack ∨ reply = r.nak → ∀ p, p <+: reply → p ≠ reply →
    ∀ t, r.terminator = some t → t ≠ [] → ¬ t <:+ p

theorem Clear.isReply (h : r.Clear) {reply : Bytes} (hreply : reply = r.ack ∨ reply = r.nak) :
    r.IsReply reply where
  nonempty := by
    rcases hreply with rfl | rfl
    · exact h.ack_ne
    · exact h.nak_ne
  complete := by
    rcases hreply with rfl | rfl
    · exact .inl rfl
    · exact .inr (.inl rfl)
  first := by
    rintro p - hpre hne (rfl | rfl | ⟨t, ht, htne, hsuffix⟩)
    · rcases hreply with rfl | rfl
      · exact hne rfl
      · exact h.ack_nak hpre
    · rcases hreply with rfl | rfl
      · exact h.nak_ack hpre
      · exact hne rfl
    · exact h.uncut reply hreply p hpre hne t ht htne hsuffix

/-- The first of some bytes, as few as there have to be for them to be complete. -/
def first? (r : ReplyRule) (bs : Bytes) : Option Bytes := bs.inits.tail.find? (decide <| r.Completes ·)

theorem mem_inits_tail {α : Type} {l p : List α} : p ∈ l.inits.tail ↔ p ≠ [] ∧ p <+: l := by
  cases l with
  | nil => exact ⟨fun h => (List.not_mem_nil h).elim, fun h => (h.1 (List.prefix_nil.mp h.2)).elim⟩
  | cons a l =>
      change p ∈ l.inits.map (a :: ·) ↔ _
      rw [List.mem_map]
      refine ⟨?_, fun ⟨hne, hpre⟩ => ?_⟩
      · rintro ⟨t, ht, rfl⟩
        exact ⟨List.cons_ne_nil a t, List.cons_prefix_cons.mpr ⟨rfl, (List.mem_inits t l).mp ht⟩⟩
      · rcases List.prefix_cons_iff.mp hpre with hnil | ⟨t, rfl, ht⟩
        · exact (hne hnil).elim
        · exact ⟨t, (List.mem_inits t l).mpr ht, rfl⟩

/-- Among the beginnings of a list but the empty one, the search finds the shortest. -/
theorem find?_inits_tail {α : Type} (q : List α → Bool) (l p : List α) :
    l.inits.tail.find? q = some p ↔ p ≠ [] ∧ p <+: l ∧ q p = true ∧
      ∀ p', p' ≠ [] → p' <+: p → p' ≠ p → ¬ q p' = true := by
  induction l generalizing q p with
  | nil => exact ⟨fun h => (nomatch h), fun ⟨hne, hpre, _⟩ => (hne (List.prefix_nil.mp hpre)).elim⟩
  | cons a l ih =>
      have hsplit : (a :: l).inits.tail = [a] :: l.inits.tail.map (a :: ·) := by
        cases l <;> rfl
      rw [hsplit, List.find?_cons]
      by_cases hone : q [a] = true
      · rw [hone]
        refine ⟨fun h => ?_, fun ⟨hne, hpre, _, hfirst⟩ => ?_⟩
        · cases h
          refine ⟨List.cons_ne_nil a [], ⟨l, rfl⟩, hone, fun p' hne hpre hshort => ?_⟩
          rcases List.prefix_cons_iff.mp hpre with hnil | ⟨t, rfl, ht⟩
          · exact (hne hnil).elim
          · exact (hshort (congrArg (a :: ·) (List.prefix_nil.mp ht))).elim
        · rcases List.prefix_cons_iff.mp hpre with hnil | ⟨t, rfl, -⟩
          · exact (hne hnil).elim
          · by_contra hlong
            exact hfirst [a] (List.cons_ne_nil a []) ⟨t, rfl⟩ (fun h => hlong (congrArg some h)) hone
      · rw [Bool.eq_false_iff.mpr hone, List.find?_map]
        dsimp only
        rw [Option.map_eq_some_iff]
        refine ⟨fun ⟨t, ht, hp⟩ => ?_, fun ⟨hne, hpre, hq, hfirst⟩ => ?_⟩
        · rcases (ih _ t).mp ht with ⟨-, hpre, hq, hfirst⟩
          rw [← hp]
          refine ⟨List.cons_ne_nil a t, List.cons_prefix_cons.mpr ⟨rfl, hpre⟩, hq, ?_⟩
          intro p' hne hpre' hshort
          rcases List.prefix_cons_iff.mp hpre' with hnil | ⟨t', rfl, ht'⟩
          · exact (hne hnil).elim
          · by_cases hnil : t' = []
            · rwa [hnil]
            · exact hfirst t' hnil ht' fun h => hshort (congrArg (a :: ·) h)
        · rcases List.prefix_cons_iff.mp hpre with hnil | ⟨t, rfl, ht⟩
          · exact (hne hnil).elim
          · refine ⟨t, (ih _ t).mpr ⟨?_, ht, hq, fun t' _ ht' hshort => ?_⟩, rfl⟩
            · rintro rfl
              exact hone hq
            · exact hfirst (a :: t') (List.cons_ne_nil a t')
                (List.cons_prefix_cons.mpr ⟨rfl, ht'⟩) fun h => hshort (List.cons.inj h).2

theorem first?_eq_some {bs p : Bytes} : r.first? bs = some p ↔ p <+: bs ∧ r.IsReply p := by
  rw [first?, find?_inits_tail]
  simp only [decide_eq_true_iff]
  exact ⟨fun ⟨hne, hpre, hdone, hfirst⟩ => ⟨hpre, hne, hdone, hfirst⟩,
    fun ⟨hpre, h⟩ => ⟨h.nonempty, hpre, h.complete, h.first⟩⟩

theorem first?_eq_none {bs : Bytes} :
    r.first? bs = none ↔ ∀ p, p ≠ [] → p <+: bs → ¬ r.Completes p := by
  rw [first?, List.find?_eq_none]
  simp only [mem_inits_tail, decide_eq_true_iff]
  exact ⟨fun h p hne hpre => h p ⟨hne, hpre⟩, fun h p hp => h p hp.1 hp.2⟩

theorem first?_of_prefix {bs x : Bytes} (h : r.first? bs = none) (hpre : x <+: bs) :
    r.first? x = none :=
  first?_eq_none.mpr fun p hne hp => first?_eq_none.mp h p hne (hp.trans hpre)

/-! ### Reading -/

/-- A reader that has these bytes reads on. -/
def GoesOn (r : ReplyRule) (bs : Bytes) : Prop :=
  ¬ r.Completes bs ∧ (r.terminator = none → bs.length < r.longest)

theorem readFrom_byte (bs : Bytes) (b : UInt8) (rest : List Arrival) :
    r.readFrom (MessageStream.holding r.width bs) (.byte b :: rest) =
      if r.Completes (bs ++ [b]) then (.complete (MessageStream.holding r.width (bs ++ [b])), 1)
      else if r.terminator = none ∧ r.longest ≤ bs.length + 1 then
        (.unexpected (MessageStream.holding r.width (bs ++ [b])), 1)
      else
        ((r.readFrom (MessageStream.holding r.width (bs ++ [b])) rest).1,
          (r.readFrom (MessageStream.holding r.width (bs ++ [b])) rest).2 + 1) := by
  have hne : bs ++ [b] ≠ [] := List.append_ne_nil_of_right_ne_nil bs (List.cons_ne_nil b [])
  rw [readFrom, MessageStream.push_holding]
  simp only [isComplete_holding hne, MessageStream.size_holding, List.length_append,
    List.length_singleton, Bool.and_eq_true, Option.isNone_iff_eq_none, decide_eq_true_iff]

/-- A reader that goes on after every byte comes to what follows them. -/
theorem readFrom_append {bs x : Bytes} (h : ∀ p, p ≠ [] → p <+: x → r.GoesOn (bs ++ p))
    (rest : List Arrival) :
    r.readFrom (MessageStream.holding r.width bs) (x.map .byte ++ rest) =
      ((r.readFrom (MessageStream.holding r.width (bs ++ x)) rest).1,
        (r.readFrom (MessageStream.holding r.width (bs ++ x)) rest).2 + x.length) := by
  induction x generalizing bs with
  | nil => rw [List.append_nil]; rfl
  | cons b x ih =>
      rcases h [b] (List.cons_ne_nil b []) ⟨x, rfl⟩ with ⟨hnot, hshort⟩
      have hcut : ¬ (r.terminator = none ∧ r.longest ≤ bs.length + 1) := by
        rintro ⟨hterm, hlong⟩
        have hlt := hshort hterm
        rw [List.length_append, List.length_singleton] at hlt
        omega
      have hrest : ∀ p, p ≠ [] → p <+: x → r.GoesOn (bs ++ [b] ++ p) := by
        intro p _ hpre
        rw [List.append_assoc]
        exact h (b :: p) (List.cons_ne_nil b p) (List.cons_prefix_cons.mpr ⟨rfl, hpre⟩)
      rw [List.map_cons, List.cons_append, readFrom_byte, if_neg hnot, if_neg hcut, ih hrest,
        List.append_assoc]
      rfl

/-- A reader that has these bytes still waits: there is no reply among them, and not as many as
    the longer acknowledgement has. -/
def Exhausts (r : ReplyRule) (bs : Bytes) : Prop :=
  r.first? bs = none ∧ (r.terminator = none → bs.length < max 1 r.longest)

/-- The ways in which reading ends, and how many arrivals it has taken then. -/
inductive Reads (r : ReplyRule) (as : List Arrival) : ReplyEnd × Nat → Prop where
  /-- A reply is there. -/
  | complete (p : Bytes) (later : List Arrival) (hp : r.IsReply p)
      (has : as = p.map .byte ++ later) :
      Reads r as (.complete (MessageStream.holding r.width p), p.length)
  /-- There are as many bytes as the longer acknowledgement has, and they are no reply. -/
  | unexpected (bs : Bytes) (later : List Arrival) (hnone : r.first? (Arrival.incoming as) = none)
      (hterm : r.terminator = none) (hlength : bs.length = max 1 r.longest)
      (has : as = bs.map .byte ++ later) :
      Reads r as (.unexpected (MessageStream.holding r.width bs), bs.length)
  /-- The peer has finished before. -/
  | finished (n : Nat) (hall : r.Exhausts (Arrival.incoming as))
      (hend : Arrival.failure? as = none)
      (hn : as.drop n = as.drop ((Arrival.incoming as).length + 1)) :
      Reads r as (.finished (MessageStream.holding r.width (Arrival.incoming as)), n)
  /-- A read has failed before. -/
  | fault (f : Failure) (n : Nat) (hall : r.Exhausts (Arrival.incoming as))
      (hend : Arrival.failure? as = some f)
      (hn : as.drop n = as.drop ((Arrival.incoming as).length + 1)) :
      Reads r as (.fault (MessageStream.holding r.width (Arrival.incoming as)) f, n)

/-- Where only acknowledgements complete a reply, no part of one is too long to go on with. -/
theorem IsReply.longest (h : r.IsReply reply) (hterm : r.terminator = none) :
    reply.length ≤ r.longest := by
  rcases (completes_iff hterm).mp h.complete with hack | hnak
  · rw [hack]
    exact Nat.le_max_left _ _
  · rw [hnak]
    exact Nat.le_max_right _ _

/-- Bytes that begin with a reply are read as this reply, and no further. -/
theorem IsReply.read (h : r.IsReply reply) (more : List Arrival) :
    r.read (reply.map .byte ++ more) =
      (.complete (MessageStream.holding r.width reply), reply.length) := by
  rcases List.eq_nil_or_concat reply with hnil | ⟨x, b, rfl⟩
  · exact (h.nonempty hnil).elim
  rw [List.concat_eq_append] at h ⊢
  have hgoes : ∀ p, p ≠ [] → p <+: x → r.GoesOn ([] ++ p) := by
    intro p hne hpre
    have hlt : p.length < (x ++ [b]).length := by
      rw [List.length_append, List.length_singleton]
      exact Nat.lt_succ_of_le hpre.length_le
    refine ⟨h.first p hne (hpre.trans (List.prefix_append x [b])) ?_, fun hterm => ?_⟩
    · rintro rfl
      exact Nat.lt_irrefl _ hlt
    · exact Nat.lt_of_lt_of_le hlt (h.longest hterm)
  rw [ReplyRule.read, emptyStream_eq, List.map_append, List.append_assoc, readFrom_append hgoes,
    List.nil_append, List.map_singleton, List.singleton_append, readFrom_byte,
    if_pos h.complete, List.length_append, List.length_singleton, Nat.add_comm]

/-- As many bytes as the longer acknowledgement has are not read further if they are no reply. -/
theorem read_unexpected {bs : Bytes} (hnone : r.first? bs = none) (hterm : r.terminator = none)
    (hlength : bs.length = max 1 r.longest) (more : List Arrival) :
    r.read (bs.map .byte ++ more) =
      (.unexpected (MessageStream.holding r.width bs), bs.length) := by
  rcases List.eq_nil_or_concat bs with rfl | ⟨x, b, rfl⟩
  · rw [List.length_nil] at hlength
    omega
  rw [List.concat_eq_append] at hnone hlength ⊢
  rw [List.length_append, List.length_singleton] at hlength
  have hnot := first?_eq_none.mp hnone
  have hgoes : ∀ p, p ≠ [] → p <+: x → r.GoesOn ([] ++ p) := by
    intro p hne hpre
    refine ⟨hnot p hne (hpre.trans (List.prefix_append x [b])), fun _ => ?_⟩
    have hpos := List.length_pos_iff.mpr hne
    have hle := hpre.length_le
    rw [List.nil_append]
    omega
  have hne : x ++ [b] ≠ [] := List.append_ne_nil_of_right_ne_nil x (List.cons_ne_nil b [])
  rw [ReplyRule.read, emptyStream_eq, List.map_append, List.append_assoc, readFrom_append hgoes,
    List.nil_append, List.map_singleton, List.singleton_append, readFrom_byte,
    if_neg (hnot _ hne List.prefix_rfl), if_pos ⟨hterm, by omega⟩, List.length_append,
    List.length_singleton, Nat.add_comm]

/-- Bytes that end before are all read, and then what ends them. -/
theorem Exhausts.read {bs : Bytes} (h : r.Exhausts bs) (more : List Arrival) :
    r.read (bs.map .byte ++ more) =
      ((r.readFrom (MessageStream.holding r.width bs) more).1,
        (r.readFrom (MessageStream.holding r.width bs) more).2 + bs.length) := by
  have hgoes : ∀ p, p ≠ [] → p <+: bs → r.GoesOn ([] ++ p) := by
    intro p hne hpre
    refine ⟨first?_eq_none.mp h.1 p hne hpre, fun hterm => ?_⟩
    have hpos := List.length_pos_iff.mpr hne
    have hle := hpre.length_le
    have hlt := h.2 hterm
    rw [List.nil_append]
    omega
  rw [ReplyRule.read, emptyStream_eq, readFrom_append hgoes, List.nil_append]

theorem read_reads (r : ReplyRule) (as : List Arrival) : r.Reads as (r.read as) := by
  rcases hfirst : r.first? (Arrival.incoming as) with _ | p
  · by_cases hcut : r.terminator = none ∧ max 1 r.longest ≤ (Arrival.incoming as).length
    · have hpre := List.take_prefix (max 1 r.longest) (Arrival.incoming as)
      have hlength := List.length_take_of_le hcut.2
      have hnone := first?_of_prefix hfirst hpre
      rcases Arrival.eq_append_of_prefix hpre with ⟨later, has⟩
      have hread := read_unexpected hnone hcut.1 hlength later
      rw [← has] at hread
      exact hread ▸ .unexpected _ later hfirst hcut.1 hlength has
    · have hall : r.Exhausts (Arrival.incoming as) :=
        ⟨hfirst, fun hterm => Nat.not_le.mp fun hle => hcut ⟨hterm, hle⟩⟩
      have hread := hall.read (as.drop (Arrival.incoming as).length)
      rw [← Arrival.eq_incoming_append] at hread
      rw [hread]
      rcases Arrival.drop_incoming as with ⟨hend, hnil | ⟨later, hlater⟩⟩ |
        ⟨f, later, hend, hlater⟩
      · -- Nothing more is there, so it makes no difference whether an end is taken.
        have hle := List.drop_eq_nil_iff.mp hnil
        rw [hnil]
        refine .finished _ hall hend ?_
        change as.drop (0 + _) = _
        rw [Nat.zero_add, hnil, List.drop_eq_nil_of_le (Nat.le_succ_of_le hle)]
      · rw [hlater]
        exact .finished _ hall hend (congrArg (as.drop ·) (Nat.add_comm 1 _))
      · rw [hlater]
        exact .fault f _ hall hend (congrArg (as.drop ·) (Nat.add_comm 1 _))
  · rcases first?_eq_some.mp hfirst with ⟨hpre, hp⟩
    rcases Arrival.eq_append_of_prefix hpre with ⟨later, has⟩
    have hread := hp.read later
    rw [← has] at hread
    exact hread ▸ .complete p later hp has

/-! ### Bytes that are followed by a failure -/

/-- Whoever reads on gets bytes until a read fails, and never comes to an end. -/
def Pending : List Arrival → Prop
  | [] => False
  | .byte _ :: rest => Pending rest
  | .finished :: _ => False
  | .fault _ :: _ => True

theorem Pending.failure {as : List Arrival} (h : Pending as) :
    ∃ f, Arrival.failure? as = some f := by
  induction as with
  | nil => exact h.elim
  | cons a rest ih =>
      cases a with
      | byte b => exact ih h
      | finished => exact h.elim
      | fault f => exact ⟨f, rfl⟩

/-- What a read returns as complete is a reply, and is what it has taken. -/
theorem read_complete {as : List Arrival} {s : MessageStream}
    (hs : (r.read as).1 = .complete s) :
    r.IsReply s.toBytes ∧ Arrival.bytes (as.take (r.read as).2) = s.toBytes := by
  have hreads := r.read_reads as
  generalize r.read as = found at hs hreads
  cases hreads with
  | complete p later hp has =>
      cases hs
      rw [MessageStream.toBytes_holding, has, List.take_left' (List.length_map _),
        Arrival.bytes_map]
      exact ⟨hp, rfl⟩
  | unexpected => cases hs
  | finished => cases hs
  | fault => cases hs

/-- A failure that ends a read is one of those that have arrived. -/
theorem mem_of_read_fault {as : List Arrival} {s : MessageStream} {f : Failure}
    (hs : (r.read as).1 = .fault s f) : .fault f ∈ as := by
  have hreads := r.read_reads as
  generalize r.read as = found at hs hreads
  cases hreads with
  | fault g n hall hend =>
      cases hs
      rcases Arrival.drop_incoming as with ⟨hnone, -⟩ | ⟨g, later, hsome, hlater⟩
      · cases hend.symm.trans hnone
      · cases hend.symm.trans hsome
        exact List.mem_of_mem_drop (hlater ▸ List.mem_cons_self)
  | complete => cases hs
  | unexpected => cases hs
  | finished => cases hs

theorem read_ne_finished {as : List Arrival} (hpending : Pending as) (s : MessageStream) :
    (r.read as).1 ≠ .finished s := by
  intro hs
  rcases hpending.failure with ⟨f, hf⟩
  have hreads := r.read_reads as
  generalize r.read as = found at hs hreads
  cases hreads with
  | complete => cases hs
  | unexpected => cases hs
  | finished n hall hend => cases hend.symm.trans hf
  | fault => cases hs

end ReplyRule

end MockHost
