import Mathlib.Data.List.Basic

/-!
# Writes into memory

A list that is built by appending to it and by patching it, as the writes that
build it in memory from address zero on.
-/

/-- A piece is copied to this address and the ones after it. -/
structure Write (τ : Type*) where
  start : Nat
  piece : List τ

namespace Write

variable {τ : Type*} {memory : Nat → τ} {out : List τ} {limit : Nat}

def Within (limit : Nat) (write : Write τ) : Prop := write.start + write.piece.length ≤ limit

instance (limit : Nat) (write : Write τ) : Decidable (write.Within limit) := Nat.decLe ..

def apply (memory : Nat → τ) (write : Write τ) : Nat → τ := fun address =>
  if write.start ≤ address then write.piece[address - write.start]?.getD (memory address)
  else memory address

def applyAll (memory : Nat → τ) (writes : List (Write τ)) : Nat → τ := writes.foldl apply memory

def Holds (memory : Nat → τ) (out : List τ) : Prop := ∀ i b, out[i]? = some b → memory i = b

theorem holds_nil (memory : Nat → τ) : Holds memory [] := fun _ _ h => nomatch h

theorem Holds.append (h : Holds memory out) (piece : List τ) :
    Holds (apply memory ⟨out.length, piece⟩) (out ++ piece) := by
  intro i b hb
  by_cases hi : i < out.length
  · rw [List.getElem?_append_left hi] at hb
    exact (if_neg (Nat.not_le.mpr hi)).trans (h i b hb)
  · rw [List.getElem?_append_right (Nat.not_lt.mp hi)] at hb
    exact (if_pos (Nat.not_lt.mp hi)).trans (by rw [hb, Option.getD_some])

theorem Holds.set (h : Holds memory out) (at' : Nat) (b : τ) :
    Holds (apply memory ⟨at', [b]⟩) (out.set at' b) := by
  intro i c hc
  by_cases hi : at' = i
  · subst hi
    rw [List.getElem?_set_self'] at hc
    obtain ⟨_, -, rfl⟩ := Option.map_eq_some_iff.mp hc
    simp [apply]
  · rw [List.getElem?_set_ne hi] at hc
    have hother : apply memory ⟨at', [b]⟩ i = memory i := by
      by_cases hle : at' ≤ i
      · obtain ⟨n, hn⟩ : ∃ n, i - at' = n + 1 := Nat.exists_eq_succ_of_ne_zero (by omega)
        simp [apply, hn]
      · exact if_neg hle
    exact hother.trans (h i c hc)

end Write
