import Mathlib.Algebra.Ring.Nat
import Mathlib.Tactic.SplitIfs

/-!
# Printing piece by piece into a buffer

Each piece is printed behind the ones before it, with what the buffer has left as
its size, and the place moves by the length of the whole piece, whether or not it
fits. A place behind the end of the buffer is one where the size would wrap.
-/

namespace Printing

/-- `text` is what the buffer holds, and `starts` are the places where pieces began. -/
structure Printer (α : Type*) where
  offset : Nat
  text : List α
  starts : List Nat

variable {α : Type*} {size : Nat}

namespace Printer

def start : Printer α := ⟨0, [], []⟩

def put (size : Nat) (p : Printer α) (piece : List α) : Printer α :=
  { p with
    text := (p.text ++ piece).take (size - 1)
    starts := p.starts ++ [p.offset] }

def print (size : Nat) (p : Printer α) (piece : List α) : Printer α :=
  { p.put size piece with offset := p.offset + piece.length }

def printAll (size : Nat) (pieces : List (List α)) (p : Printer α) : Printer α :=
  pieces.foldl (print size) p

/-- Stops at a piece that does not fit, without moving on. -/
def tryAll (size : Nat) : List (List α) → Printer α → Printer α × Bool
  | [], p => (p, true)
  | piece :: rest, p =>
    if size - p.offset ≤ piece.length then (p.put size piece, false)
    else tryAll size rest (p.print size piece)

def InBounds (size : Nat) (p : Printer α) : Prop := ∀ place ∈ p.starts, place < size

instance (size : Nat) (p : Printer α) : Decidable (p.InBounds size) :=
  inferInstanceAs (Decidable (∀ place ∈ p.starts, place < size))

@[simp] theorem start_inBounds : (start : Printer α).InBounds size := List.forall_mem_nil _

theorem put_inBounds_iff (p : Printer α) (piece : List α) :
    (p.put size piece).InBounds size ↔ p.InBounds size ∧ p.offset < size := by
  simp only [InBounds, put, List.forall_mem_append, List.forall_mem_singleton]

theorem print_inBounds_iff (p : Printer α) (piece : List α) :
    (p.print size piece).InBounds size ↔ p.InBounds size ∧ p.offset < size :=
  put_inBounds_iff p piece

@[simp] theorem print_offset (p : Printer α) (piece : List α) :
    (p.print size piece).offset = p.offset + piece.length := rfl

theorem printAll_cons (piece : List α) (pieces : List (List α)) (p : Printer α) :
    printAll size (piece :: pieces) p = printAll size pieces (p.print size piece) := rfl

theorem printAll_append (first second : List (List α)) (p : Printer α) :
    printAll size (first ++ second) p = printAll size second (printAll size first p) :=
  List.foldl_append

@[simp] theorem printAll_offset (pieces : List (List α)) (p : Printer α) :
    (printAll size pieces p).offset = p.offset + pieces.flatten.length := by
  induction pieces generalizing p with
  | nil => rfl
  | cons piece pieces ih =>
    rw [printAll_cons, ih, print_offset, List.flatten_cons, List.length_append, Nat.add_assoc]

theorem inBounds_of_printAll {p : Printer α} {pieces : List (List α)}
    (h : (printAll size pieces p).InBounds size) : p.InBounds size := by
  induction pieces generalizing p with
  | nil => exact h
  | cons piece pieces ih => exact ((print_inBounds_iff p piece).mp (ih h)).1

theorem printAll_concat_inBounds_iff (size : Nat) (pieces : List (List α)) (last : List α)
    (p : Printer α) :
    (printAll size (pieces ++ [last]) p).InBounds size ↔
      p.InBounds size ∧ p.offset + pieces.flatten.length < size := by
  induction pieces generalizing p with
  | nil => exact print_inBounds_iff p last
  | cons piece pieces ih =>
    rw [List.cons_append, printAll_cons, ih, print_inBounds_iff, print_offset, List.flatten_cons,
      List.length_append, ← Nat.add_assoc, and_assoc, and_congr_right_iff]
    intro _
    omega

theorem printAll_inBounds_iff {pieces : List (List α)} (hne : pieces ≠ []) (p : Printer α) :
    (printAll size pieces p).InBounds size ↔
      p.InBounds size ∧ p.offset + pieces.dropLast.flatten.length < size := by
  have hconcat := printAll_concat_inBounds_iff size pieces.dropLast
    (pieces.getLast hne) p
  rwa [List.dropLast_concat_getLast hne] at hconcat

theorem printAll_text (pieces : List (List α)) (p : Printer α)
    (h : p.text.length ≤ size - 1) :
    (printAll size pieces p).text = (p.text ++ pieces.flatten).take (size - 1) := by
  induction pieces generalizing p with
  | nil =>
    rw [List.flatten_nil, List.append_nil, List.take_of_length_le h]
    rfl
  | cons piece pieces ih =>
    have hcut : (p.print size piece).text.length ≤ size - 1 := List.length_take_le _ _
    rw [printAll_cons, ih _ hcut]
    show ((p.text ++ piece).take (size - 1) ++ pieces.flatten).take (size - 1) = _
    rw [List.flatten_cons, ← List.append_assoc]
    generalize p.text ++ piece = front
    rw [List.take_append, List.take_append, List.take_take, Nat.min_self, List.length_take]
    congr 2
    omega

/-- Pieces that are checked all begin inside the buffer; if one is left out, the rest
of the buffer is not longer than it. -/
theorem tryAll_cases (pieces : List (List α)) {p : Printer α} (h : p.InBounds size)
    (hoffset : p.offset < size) : ∃ q : Printer α, q.InBounds size ∧
      (tryAll size pieces p = (q, true) ∧ q.offset = p.offset + pieces.flatten.length ∧
          q.offset < size ∨
        tryAll size pieces p = (q, false) ∧ size ≤ p.offset + pieces.flatten.length ∧
          ∃ piece ∈ pieces, size ≤ q.offset + piece.length) := by
  induction pieces generalizing p with
  | nil => exact ⟨p, h, .inl ⟨rfl, rfl, hoffset⟩⟩
  | cons piece pieces ih =>
    rw [tryAll, List.flatten_cons, List.length_append]
    split_ifs with hfull
    · refine ⟨p.put size piece, (put_inBounds_iff p piece).mpr ⟨h, hoffset⟩,
        .inr ⟨rfl, by omega, piece, List.mem_cons_self, ?_⟩⟩
      show size ≤ p.offset + piece.length
      omega
    · have hnext : (p.print size piece).offset < size := by
        rw [print_offset]
        omega
      obtain ⟨q, hq, ⟨hall, hend, hlt⟩ | ⟨hpart, hlong, other, hother, hleft⟩⟩ :=
        ih ((print_inBounds_iff p piece).mpr ⟨h, hoffset⟩) hnext
      · rw [print_offset] at hend
        exact ⟨q, hq, .inl ⟨hall, by omega, hlt⟩⟩
      · rw [print_offset] at hlong
        exact ⟨q, hq, .inr ⟨hpart, by omega, other, List.mem_cons_of_mem _ hother, hleft⟩⟩

theorem tryAll_fits (pieces : List (List α)) {p : Printer α}
    (h : p.offset + pieces.flatten.length < size) :
    tryAll size pieces p = (printAll size pieces p, true) := by
  induction pieces generalizing p with
  | nil => rfl
  | cons piece pieces ih =>
    rw [List.flatten_cons, List.length_append] at h
    rw [tryAll, if_neg (by omega), ih (by rw [print_offset]; omega)]
    rfl

end Printer

end Printing
