import MockHost.MessageStream
import Mathlib.Data.List.Induction

/-!
# The Window of a Stream

A stream decides whether its message is complete by looking at its window alone,
never at the whole content again. That is sound because the window always holds
the end of the content: all of it while it is short, and its last bytes, as many
as the window is wide, from then on. A terminator as wide as the window is
therefore in the window exactly if the content ends with it.

## Main definitions

* `MessageStream.Windowed`: The window holds the end of the content.
* `MessageStream.holding`: The stream that some bytes have been written to.

## Theorems

* `MessageStream.Windowed.push`: Adding a byte keeps the window in place.
* `MessageStream.windowed_holding`: The window of every stream is in place.
* `MessageStream.isTerminated_holding`: What the window tells about the content.
-/

namespace MockHost

namespace MessageStream

/-- The window holds the end of the content, as much of it as it has room for. -/
def Windowed (s : MessageStream) : Prop := s.tail = s.toBytes.drop (s.size - s.capacity)

@[simp] theorem toBytes_empty (n : Nat) : (empty n).toBytes = [] := rfl

@[simp] theorem toBytes_push (s : MessageStream) (b : UInt8) :
    (s.push b).toBytes = s.toBytes ++ [b] := Array.toList_push

@[simp] theorem capacity_push (s : MessageStream) (b : UInt8) :
    (s.push b).capacity = s.capacity := rfl

theorem length_toBytes (s : MessageStream) : s.toBytes.length = s.size := rfl

theorem size_push (s : MessageStream) (b : UInt8) : (s.push b).size = s.size + 1 :=
  Array.size_push b

theorem windowed_empty (n : Nat) : (empty n).Windowed := by
  rw [Windowed, toBytes_empty, List.drop_nil]
  rfl

/-- Adding a byte keeps the window in place, if there is room in it for any byte at all. -/
theorem Windowed.push {s : MessageStream} (h : s.Windowed) (hroom : 1 ≤ s.capacity) (b : UInt8) :
    (s.push b).Windowed := by
  have hlen : s.tail.length = s.size - (s.size - s.capacity) := by
    rw [h, List.length_drop, length_toBytes]
  rw [Windowed, toBytes_push, size_push, capacity_push]
  by_cases hfull : s.tail.length < s.capacity
  · -- All of the content is in the window, and stays there.
    have hkeep : s.size + 1 - s.capacity = s.size - s.capacity := by omega
    have hinside : s.size - s.capacity ≤ s.toBytes.length := by
      rw [length_toBytes]
      omega
    rw [hkeep, List.drop_append_of_le_length hinside, ← h]
    simp only [MessageStream.push, hfull, if_true]
  · -- The oldest byte of the window makes room.
    have hshift : s.size + 1 - s.capacity = s.size - s.capacity + 1 := by omega
    have hinside : s.size - s.capacity + 1 ≤ s.toBytes.length := by
      rw [length_toBytes]
      omega
    rw [hshift, List.drop_append_of_le_length hinside, ← List.drop_drop, ← h]
    simp only [MessageStream.push, hfull, if_false]

/-- A window as wide as a terminator holds it exactly if the content ends with it. -/
theorem Windowed.isTerminated_iff {s : MessageStream} (h : s.Windowed) {terminator : Bytes}
    (hwidth : s.capacity = terminator.length) :
    s.isTerminated terminator ↔ terminator <:+ s.toBytes := by
  rw [isTerminated, beq_iff_eq, h, List.suffix_iff_eq_drop, hwidth, length_toBytes]
  exact eq_comm

/-- The stream that some bytes have been written to, one after another. -/
def holding (n : Nat) (bs : Bytes) : MessageStream := (empty n).pushAll bs

theorem push_holding (n : Nat) (bs : Bytes) (b : UInt8) :
    (holding n bs).push b = holding n (bs ++ [b]) := by
  rw [holding, holding, pushAll, pushAll, List.foldl_append]
  rfl

@[simp] theorem toBytes_holding (n : Nat) (bs : Bytes) : (holding n bs).toBytes = bs := by
  induction bs using List.reverseRecOn with
  | nil => rfl
  | append_singleton bs b ih => rw [← push_holding, toBytes_push, ih]

@[simp] theorem capacity_holding (n : Nat) (bs : Bytes) : (holding n bs).capacity = n := by
  induction bs using List.reverseRecOn with
  | nil => rfl
  | append_singleton bs b ih => rw [← push_holding, capacity_push, ih]

theorem size_holding (n : Nat) (bs : Bytes) : (holding n bs).size = bs.length := by
  rw [← length_toBytes, toBytes_holding]

theorem windowed_holding {n : Nat} (hroom : 1 ≤ n) (bs : Bytes) : (holding n bs).Windowed := by
  induction bs using List.reverseRecOn with
  | nil => exact windowed_empty n
  | append_singleton bs b ih =>
      rw [← push_holding]
      exact ih.push (by rw [capacity_holding]; exact hroom) b

/-- Written to a stream as wide as the terminator, bytes are recognised as a message exactly
    if they end with the terminator. -/
theorem isTerminated_holding {terminator : Bytes} (hne : terminator ≠ []) (bs : Bytes) :
    (holding terminator.length bs).isTerminated terminator ↔ terminator <:+ bs := by
  have hroom : 1 ≤ terminator.length := List.length_pos_iff.mpr hne
  rw [(windowed_holding hroom bs).isTerminated_iff (capacity_holding _ _), toBytes_holding]

end MessageStream

end MockHost
