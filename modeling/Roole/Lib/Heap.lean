import Roole.Lib.KeyedList

/-!
# Blocks of memory

The live blocks of a heap, by number, with what they hold. A block that is freed
is no longer live, and an allocator hands out any block that is not.
-/

structure Heap (α : Type*) where
  blocks : List (Nat × α)
  deriving DecidableEq

namespace Heap

variable {α : Type*} {heap : Heap α} {block other : Nat}

def read (heap : Heap α) (block : Nat) : Option α :=
  (KeyedList.lookup Prod.fst heap.blocks block).map Prod.snd

def store (heap : Heap α) (block : Nat) (a : α) : Heap α := ⟨(block, a) :: heap.blocks⟩

def free (heap : Heap α) (block : Nat) : Heap α :=
  ⟨heap.blocks.filter fun entry => entry.1 ≠ block⟩

def Extends (larger smaller : Heap α) : Prop :=
  ∀ block, (smaller.read block).isSome → larger.read block = smaller.read block

@[simp] theorem read_store (heap : Heap α) (block other : Nat) (a : α) :
    (heap.store block a).read other = if block = other then some a else heap.read other := by
  unfold read store
  rw [KeyedList.lookup_cons]
  split_ifs <;> rfl

@[simp] theorem read_free (heap : Heap α) (block other : Nat) :
    (heap.free block).read other = if other = block then none else heap.read other := by
  obtain ⟨blocks⟩ := heap
  induction blocks with
  | nil => simp [read, free]
  | cons entry rest ih =>
    simp only [read, free, KeyedList.lookup_cons] at ih ⊢
    by_cases hblock : entry.1 = block
    · by_cases hother : other = block
      · simpa [List.filter_cons, hblock, hother] using ih
      · have hne : ¬block = other := fun h => hother h.symm
        simpa [List.filter_cons, hblock, hother, hne] using ih
    · by_cases hother : entry.1 = other
      · have hne : ¬other = block := fun h => hblock (hother.trans h)
        simp [hother, hne, KeyedList.lookup_cons]
      · simpa [List.filter_cons, hblock, hother, KeyedList.lookup_cons] using ih

theorem Extends.refl (heap : Heap α) : heap.Extends heap := fun _ _ => rfl

theorem Extends.trans {first second third : Heap α} (h : second.Extends first)
    (h' : third.Extends second) : third.Extends first := by
  intro block hlive
  rw [h' block (by rwa [h block hlive]), h block hlive]

theorem Extends.live {larger smaller : Heap α} (h : larger.Extends smaller)
    (hlive : (smaller.read block).isSome) : (larger.read block).isSome := by
  rwa [h block hlive]

theorem Extends.none {larger smaller : Heap α} (h : larger.Extends smaller)
    (hfree : larger.read block = Option.none) : smaller.read block = Option.none := by
  cases hread : smaller.read block with
  | none => rfl
  | some a =>
    have hsame := h block (by simp [hread])
    rw [hfree, hread] at hsame
    cases hsame

theorem extends_store (hfresh : heap.read block = none) (a : α) :
    (heap.store block a).Extends heap := by
  intro other hlive
  have hne : block ≠ other := by
    rintro rfl
    simp [hfresh] at hlive
  simp [hne]

def beyond (heap : Heap α) : Nat := heap.blocks.foldr (fun entry n => max (entry.1 + 1) n) 0

theorem read_beyond (heap : Heap α) (h : heap.beyond ≤ block) : heap.read block = none := by
  obtain ⟨blocks⟩ := heap
  induction blocks with
  | nil => rfl
  | cons entry rest ih =>
    simp only [beyond, List.foldr_cons, Nat.max_le] at h
    have hne : entry.1 ≠ block := Nat.ne_of_lt h.1
    simp only [read, KeyedList.lookup_cons, if_neg hne]
    exact ih h.2

end Heap

/-- What `malloc` answers where it succeeds. -/
structure Allocator (α : Type*) where
  pick : Heap α → Nat → Nat
  pick_fresh : ∀ (heap : Heap α) (size : Nat), heap.read (pick heap size) = none

def Allocator.preferring {α : Type*} (block : Nat) : Allocator α where
  pick := fun heap _ => if (heap.read block).isNone then block else heap.beyond
  pick_fresh := by
    intro heap size
    by_cases hfree : (heap.read block).isNone
    · rw [if_pos hfree]
      exact Option.isNone_iff_eq_none.mp hfree
    · rw [if_neg hfree]
      exact heap.read_beyond (Nat.le_refl _)
