import MockHost.Proofs.Stream.Window

/-!
# A Stream over Its History

Bytes are written to a stream one at a time or many at once, a number that is no byte is refused,
and now and then the stream is reset. Whatever has been done with it, what can be seen of it is
known from its content alone: the window is the end of the content, the last byte is the last byte
of both, and the window is recognised as a terminator in two cases only. Either the terminator is
as wide as the window and the content ends with it, or it is shorter and the content is nothing
else.

The content and the window are changed side by side, so neither is computed from the other. That
they agree is carried from one operation to the next together with the width of the window, and a
refused number keeps both, since it leaves the stream as it is.

## Main definitions

* `MessageStream.Operation`, `MessageStream.operate`, `MessageStream.operateAll`: What may be done
  with a stream.
* `MessageStream.contents`: The content that it comes to.
* `MessageStream.Shows`: What can be seen of a stream whose window has some width.

## Theorems

* `MessageStream.Windowed.isTerminated_iff_of_any`: What the window tells, for any terminator.
* `MessageStream.operate_sound`: One operation.
* `MessageStream.operateAll_sound`: Any number of operations.
* `MessageStream.operateAll_shows`: What can be seen of a stream after any history.
-/

namespace MockHost

namespace MessageStream

/-- What may be done with a stream. -/
inductive Operation where
  /-- Writes a byte given as a number, which may be out of range. -/
  | write (n : Int)
  | writeAll (bs : Bytes)
  | reset
  deriving DecidableEq, Repr

/-- Does one thing. Gives what came of it and the stream after it. -/
def operate (s : MessageStream) : Operation → Except Refusal Unit × MessageStream
  | .write n =>
    match s.write? n with
    | .ok s' => (.ok (), s')
    | .error e => (.error e, s)
  | .writeAll bs => (.ok (), s.pushAll bs)
  | .reset => (.ok (), s.reset)

/-- Does one thing after another, whatever comes of each. -/
def operateAll (s : MessageStream) : List Operation → MessageStream
  | [] => s
  | o :: rest => operateAll (s.operate o).2 rest

/-- The content after one thing has been done. -/
def contentAfter (before : Bytes) : Operation → Bytes
  | .write n => if 0 ≤ n ∧ n ≤ 0xFF then before ++ [n.toNat.toUInt8] else before
  | .writeAll bs => before ++ bs
  | .reset => []

/-- The content after one thing and another. -/
def contents (before : Bytes) : List Operation → Bytes
  | [] => before
  | o :: rest => contents (contentAfter before o) rest

/-- What can be seen of a stream that holds some bytes and has a window of some width. -/
structure Shows (s : MessageStream) (width : Nat) (bytes : Bytes) : Prop where
  content : s.toBytes = bytes
  size : s.size = bytes.length
  /-- The window is the end of the content, as much of it as there is room for. -/
  tail : s.tail <:+ bytes
  length_tail : s.tail.length = min bytes.length width
  lastByte : s.lastByte? = bytes.getLast?
  isTerminated : ∀ t, s.isTerminated t = true ↔
    (t.length = width ∧ t <:+ bytes) ∨ (t.length < width ∧ bytes = t)

/-- The stream holds some bytes, and its window has some width and is in place on them. -/
structure Sound (s : MessageStream) (width : Nat) (bytes : Bytes) : Prop where
  capacity : s.capacity = width
  content : s.toBytes = bytes
  windowed : s.Windowed

section

variable {s : MessageStream} {width : Nat} {bytes : Bytes}

/-! ### What the window tells -/

theorem Windowed.length_tail (h : s.Windowed) : s.tail.length = min s.size s.capacity := by
  rw [h, List.length_drop, length_toBytes]
  omega

/-- The last byte of the window is the last byte of the content. -/
theorem Windowed.lastByte (h : s.Windowed) (hroom : 1 ≤ s.capacity) :
    s.lastByte? = s.toBytes.getLast? := by
  rw [lastByte?, h]
  by_cases hempty : s.size = 0
  · -- There is nothing in either.
    have hnil : s.toBytes = [] := List.length_eq_zero_iff.mp hempty
    rw [hnil, List.drop_nil]
  · have hinside : ¬ s.toBytes.length ≤ s.size - s.capacity := by
      rw [length_toBytes]
      omega
    rw [List.getLast?_drop, if_neg hinside]

/-- A window of any width holds a terminator exactly if it is as wide and the content ends with
    it, or if there is room for more and the content is nothing else. -/
theorem Windowed.isTerminated_iff_of_any (h : s.Windowed) (t : Bytes) :
    s.isTerminated t = true ↔
      (t.length = s.capacity ∧ t <:+ s.toBytes) ∨ (t.length < s.capacity ∧ s.toBytes = t) := by
  have hlength := h.length_tail
  rcases Nat.lt_trichotomy t.length s.capacity with hlt | heq | hgt
  · -- The terminator leaves room, so the window holds it only while the content is short.
    rw [isTerminated, beq_iff_eq]
    constructor
    · intro htail
      refine .inr ⟨hlt, ?_⟩
      have hshort : s.size - s.capacity = 0 := by
        rw [htail] at hlength
        omega
      rw [← htail, h, hshort, List.drop_zero]
    · rintro (⟨hwide, -⟩ | ⟨-, hall⟩)
      · omega
      · have hshort : s.size - s.capacity = 0 := by
          rw [← length_toBytes, hall]
          omega
        rw [h, hshort, List.drop_zero, hall]
  · rw [h.isTerminated_iff heq.symm]
    constructor
    · intro hends
      exact .inl ⟨heq, hends⟩
    · rintro (⟨-, hends⟩ | ⟨hlt, -⟩)
      · exact hends
      · omega
  · -- There is no room for the terminator in the window.
    rw [isTerminated, beq_iff_eq]
    constructor
    · intro htail
      rw [htail] at hlength
      omega
    · rintro (⟨hwide, -⟩ | ⟨hshort, -⟩) <;> omega

theorem Sound.shows (h : s.Sound width bytes) (hroom : 1 ≤ width) : s.Shows width bytes := by
  rcases h with ⟨rfl, rfl, hwindowed⟩
  refine ⟨rfl, rfl, ?_, hwindowed.length_tail, hwindowed.lastByte hroom,
    hwindowed.isTerminated_iff_of_any⟩
  rw [hwindowed]
  exact List.drop_suffix _ _

/-! ### One operation -/

theorem sound_empty (width : Nat) : (empty width).Sound width [] :=
  ⟨rfl, rfl, windowed_empty width⟩

theorem Sound.push (h : s.Sound width bytes) (hroom : 1 ≤ width) (b : UInt8) :
    (s.push b).Sound width (bytes ++ [b]) := by
  refine ⟨h.capacity, ?_, h.windowed.push ?_ b⟩
  · rw [toBytes_push, h.content]
  · rw [h.capacity]
    exact hroom

theorem Sound.pushAll (h : s.Sound width bytes) (hroom : 1 ≤ width) (bs : Bytes) :
    (s.pushAll bs).Sound width (bytes ++ bs) := by
  -- On the bytes that are left. Those written so far have joined the content.
  induction bs generalizing s bytes with
  | nil => rwa [List.append_nil]
  | cons b bs ih =>
      rw [List.append_cons]
      exact ih (h.push hroom b)

/-- A number that is no byte is refused, and leaves the stream as it is. -/
theorem operate_refused (s : MessageStream) {n : Int} (hrange : ¬ (0 ≤ n ∧ n ≤ 0xFF)) :
    s.operate (.write n) = (.error (.notAByte n), s) := by
  rw [operate, write?, if_neg hrange]

theorem operate_sound (h : s.Sound width bytes) (hroom : 1 ≤ width) (o : Operation) :
    (s.operate o).2.Sound width (contentAfter bytes o) := by
  cases o with
  | write n =>
      rw [contentAfter]
      by_cases hrange : 0 ≤ n ∧ n ≤ 0xFF
      · rw [if_pos hrange, operate, write?, if_pos hrange]
        exact h.push hroom _
      · rw [if_neg hrange, operate_refused s hrange]
        exact h
  | writeAll bs => exact h.pushAll hroom bs
  | reset =>
      rw [contentAfter, operate, reset, h.capacity]
      exact sound_empty width

/-! ### Any number of operations -/

theorem operateAll_sound (h : s.Sound width bytes) (hroom : 1 ≤ width) (ops : List Operation) :
    (s.operateAll ops).Sound width (contents bytes ops) := by
  induction ops generalizing s bytes with
  | nil => exact h
  | cons o rest ih => exact ih (operate_sound h hroom o)

end

/-- What can be seen of a stream, from what has been done with it since it was made. A number that
    is no byte changes nothing of that, and for a terminator as wide as the window it is as if the
    whole content had been looked at. -/
theorem operateAll_shows {width : Int} (h : 1 ≤ width) (ops : List Operation) :
    ∃ s, withWindow? width = .ok s ∧
      (s.operateAll ops).Shows width.toNat (contents [] ops) ∧
      (∀ n : Int, ¬ (0 ≤ n ∧ n ≤ 0xFF) →
        (s.operateAll ops).operate (.write n) = (.error (.notAByte n), s.operateAll ops)) ∧
      ∀ t : Bytes, t.length = width.toNat →
        ((s.operateAll ops).isTerminated t = true ↔ t <:+ contents [] ops) := by
  have hroom : 1 ≤ width.toNat := by omega
  have hsound := operateAll_sound (sound_empty width.toNat) hroom ops
  refine ⟨empty width.toNat, if_neg (by omega), hsound.shows hroom,
    fun n => operate_refused _, fun t hwidth => ?_⟩
  rw [hsound.windowed.isTerminated_iff (hsound.capacity.trans hwidth.symm), hsound.content]

/-- After a reset, a message that is written in parts and with a refused number in between is
    recognised by its terminator. -/
theorem operateAll_shows_refused :
    let ops : List Operation :=
      [.writeAll [120, 13, 10, 10], .reset, .write 97, .write 256, .write 13, .writeAll [10, 10]]
    (1 : Int) ≤ 3 ∧ contents [] ops = [97, 13, 10, 10] ∧
      ∃ s, withWindow? 3 = .ok s ∧ (s.operateAll ops).tail.length = 3 ∧
        (s.operateAll ops).lastByte? = some 10 ∧
        (s.operateAll ops).operate (.write (-1)) = (.error (.notAByte (-1)), s.operateAll ops) ∧
        (s.operateAll ops).isTerminated [13, 10, 10] = true := by
  intro ops
  have hwidth : (1 : Int) ≤ 3 := by decide
  have hcontents : contents [] ops = [97, 13, 10, 10] := rfl
  rcases operateAll_shows hwidth ops with ⟨s, hs, hshows, hrefused, hends⟩
  rw [hcontents] at hshows hends
  refine ⟨hwidth, hcontents, s, hs, hshows.length_tail, hshows.lastByte, ?_, ?_⟩
  · exact hrefused (-1) (by decide)
  · exact (hends [13, 10, 10] rfl).mpr ⟨[97], rfl⟩

end MessageStream

end MockHost
