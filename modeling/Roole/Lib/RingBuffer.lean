import Mathlib.Data.Nat.ModEq
import Mathlib.Logic.Function.Basic

/-!
# Bounded ring buffers

A fixed array of slots with a head, a tail and a count. The two facts that
make the indices agree are part of the structure, so a buffer always stands
for the list of its items, oldest first.
-/

structure RingBuffer (α : Type*) (capacity : Nat) where
  slots : Nat → α
  head : Nat
  tail : Nat
  count : Nat
  count_le : count ≤ capacity
  tail_eq : tail % capacity = (head + count) % capacity

namespace RingBuffer

variable {α : Type*} {capacity : Nat}

def empty (zero : α) : RingBuffer α capacity where
  slots := fun _ => zero
  head := 0
  tail := 0
  count := 0
  count_le := Nat.zero_le _
  tail_eq := rfl

def item (buffer : RingBuffer α capacity) (i : Nat) : α :=
  buffer.slots ((buffer.head + i) % capacity)

def toList (buffer : RingBuffer α capacity) : List α :=
  (List.range buffer.count).map buffer.item

def push (buffer : RingBuffer α capacity) (a : α) : Option (RingBuffer α capacity) :=
  if h : buffer.count < capacity then
    some {
      slots := Function.update buffer.slots (buffer.tail % capacity) a
      head := buffer.head
      tail := (buffer.tail + 1) % capacity
      count := buffer.count + 1
      count_le := h
      tail_eq := by
        rw [Nat.mod_mod, Nat.add_mod, buffer.tail_eq, ← Nat.add_mod]
        rfl }
  else none

def pop (buffer : RingBuffer α capacity) : Option (α × RingBuffer α capacity) :=
  if h : 0 < buffer.count then
    some (buffer.slots (buffer.head % capacity), {
      slots := buffer.slots
      head := (buffer.head + 1) % capacity
      tail := buffer.tail
      count := buffer.count - 1
      count_le := Nat.le_trans (Nat.sub_le _ _) buffer.count_le
      tail_eq := by
        have hcount : buffer.head + buffer.count = buffer.head + 1 + (buffer.count - 1) := by omega
        rw [buffer.tail_eq, hcount, Nat.mod_add_mod] })
  else none

def popBatch : Nat → RingBuffer α capacity → List α × RingBuffer α capacity
  | 0, buffer => ([], buffer)
  | n + 1, buffer =>
    match buffer.pop with
    | none => ([], buffer)
    | some (a, rest) =>
      let (items, rest) := popBatch n rest
      (a :: items, rest)

@[simp] theorem toList_length (buffer : RingBuffer α capacity) :
    buffer.toList.length = buffer.count := by
  simp [toList]

@[simp] theorem toList_empty (zero : α) : (empty zero : RingBuffer α capacity).toList = [] := rfl

theorem push_eq_none {buffer : RingBuffer α capacity} :
    push buffer a = none ↔ buffer.toList.length = capacity := by
  have hle := buffer.count_le
  unfold push
  split
  · simp only [reduceCtorEq, toList_length, false_iff]
    omega
  · simp only [toList_length, true_iff]
    omega

theorem tail_ne_item (buffer : RingBuffer α capacity) (hfree : buffer.count < capacity)
    (hi : i < buffer.count) : (buffer.head + i) % capacity ≠ buffer.tail % capacity := by
  rw [buffer.tail_eq]
  intro h
  have hmod := Nat.ModEq.add_left_cancel' buffer.head h
  rw [Nat.ModEq, Nat.mod_eq_of_lt (by omega), Nat.mod_eq_of_lt hfree] at hmod
  omega

theorem toList_push (h : push buffer a = some buffer') :
    buffer'.toList = buffer.toList ++ [a] := by
  unfold push at h
  split at h
  · rename_i hfree
    cases h
    simp only [toList, List.range_succ, List.map_append, List.map_cons, List.map_nil]
    congr 1
    · refine List.map_congr_left fun i hi => ?_
      have hne := buffer.tail_ne_item hfree (List.mem_range.mp hi)
      simp [item, Function.update_of_ne hne]
    · simp [item, ← buffer.tail_eq]
  · cases h

theorem toList_length_le (buffer : RingBuffer α capacity) : buffer.toList.length ≤ capacity := by
  rw [toList_length]
  exact buffer.count_le

theorem take_append_take (n : Nat) (l r : List α) : (l.take n ++ r).take n = (l ++ r).take n := by
  rw [List.take_append, List.take_append, List.take_take, Nat.min_self, List.length_take]
  congr 2
  omega

theorem toList_push_getD (buffer : RingBuffer α capacity) (a : α) :
    ((push buffer a).getD buffer).toList = (buffer.toList ++ [a]).take capacity := by
  have hle := buffer.toList_length_le
  cases hpush : push buffer a with
  | none =>
    rw [push_eq_none] at hpush
    simp [hpush]
  | some stored =>
    have hlength : (buffer.toList ++ [a]).length ≤ capacity := by
      rw [← toList_push hpush]
      exact stored.toList_length_le
    rw [Option.getD_some, toList_push hpush, List.take_of_length_le hlength]

theorem toList_of_pop_none (h : pop buffer = none) : buffer.toList = [] := by
  unfold pop at h
  split at h
  · cases h
  · simp only [toList, List.map_eq_nil_iff, List.range_eq_nil]
    omega

theorem toList_pop (h : pop buffer = some (a, buffer')) : buffer.toList = a :: buffer'.toList := by
  unfold pop at h
  split at h
  · rename_i hpos
    cases h
    obtain ⟨n, hn⟩ : ∃ n, buffer.count = n + 1 := ⟨buffer.count - 1, by omega⟩
    simp only [toList, hn, List.range_succ_eq_map, List.map_cons, List.map_map, Nat.add_sub_cancel]
    congr 1
    refine List.map_congr_left fun i _ => ?_
    simp only [item, Function.comp_apply, Nat.mod_add_mod]
    congr 2
    omega
  · cases h

theorem popBatch_eq (n : Nat) (buffer : RingBuffer α capacity) :
    (popBatch n buffer).1 = buffer.toList.take n ∧
      (popBatch n buffer).2.toList = buffer.toList.drop n := by
  induction n generalizing buffer with
  | zero => simp [popBatch]
  | succ n ih =>
    unfold popBatch
    cases hpop : buffer.pop with
    | none => simp [toList_of_pop_none hpop]
    | some popped =>
      obtain ⟨a, rest⟩ := popped
      obtain ⟨hitems, hrest⟩ := ih rest
      simp [toList_pop hpop, hitems, hrest]

end RingBuffer
