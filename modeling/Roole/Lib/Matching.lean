import Mathlib.Data.Finset.Card
import Mathlib.Data.Finset.Range

/-!
# Requests and their answers

Requests are made at the positions `asked` of a run, each of them is answered at
a later position, and no position answers two of them. The requests that are
outstanding at a position are those that have been made and not been answered
before it.
-/

namespace Matching

open Classical

variable {asked : Nat → Prop} {answer : Nat → Nat} {P : Nat → Prop} {k : Nat}

/-- The outstanding requests among those that satisfy `P`. -/
noncomputable def outstanding (asked : Nat → Prop) (answer : Nat → Nat) (P : Nat → Prop)
    (k : Nat) : Finset Nat :=
  (Finset.range k).filter fun i => asked i ∧ P i ∧ k ≤ answer i

theorem mem_outstanding :
    i ∈ outstanding asked answer P k ↔ i < k ∧ asked i ∧ P i ∧ k ≤ answer i := by
  simp [outstanding]

@[simp] theorem outstanding_zero : outstanding asked answer P 0 = ∅ := rfl

theorem outstanding_subset (hnone : ∀ i, asked i → answer i ≠ k) :
    outstanding asked answer P k ⊆ outstanding asked answer P (k + 1) := by
  intro i hi
  obtain ⟨hlt, hasked, hP, hle⟩ := mem_outstanding.mp hi
  exact mem_outstanding.mpr ⟨Nat.lt_succ_of_lt hlt, hasked, hP,
    Nat.lt_of_le_of_ne hle (hnone i hasked).symm⟩

theorem card_outstanding_le (hnone : ∀ i, asked i → answer i ≠ k) :
    (outstanding asked answer P k).card ≤ (outstanding asked answer P (k + 1)).card :=
  Finset.card_le_card (outstanding_subset hnone)

theorem card_outstanding_asked (hnone : ∀ i, asked i → answer i ≠ k) (hasked : asked k)
    (hP : P k) (hlater : k < answer k) :
    (outstanding asked answer P k).card + 1 ≤ (outstanding asked answer P (k + 1)).card := by
  have hfresh : k ∉ outstanding asked answer P k :=
    fun hk => Nat.lt_irrefl k (mem_outstanding.mp hk).1
  rw [← Finset.card_insert_of_notMem hfresh]
  refine Finset.card_le_card (Finset.insert_subset ?_ (outstanding_subset hnone))
  exact mem_outstanding.mpr ⟨Nat.lt_succ_self k, hasked, hP, hlater⟩

theorem card_outstanding_answered
    (hinj : ∀ i j, asked i → asked j → answer i = answer j → i = j) :
    (outstanding asked answer P k).card ≤ (outstanding asked answer P (k + 1)).card + 1 := by
  by_cases hsettled : ∃ j, asked j ∧ answer j = k
  · obtain ⟨j, hj, hanswer⟩ := hsettled
    have hsubset : (outstanding asked answer P k).erase j ⊆ outstanding asked answer P (k + 1) := by
      intro i hi
      obtain ⟨hne, hi⟩ := Finset.mem_erase.mp hi
      obtain ⟨hlt, hasked, hP, hle⟩ := mem_outstanding.mp hi
      have hother : answer i ≠ k := fun heq => hne (hinj i j hasked hj (heq.trans hanswer.symm))
      exact mem_outstanding.mpr ⟨Nat.lt_succ_of_lt hlt, hasked, hP,
        Nat.lt_of_le_of_ne hle hother.symm⟩
    have hcard := Finset.card_le_card hsubset
    have herase := Finset.pred_card_le_card_erase (s := outstanding asked answer P k) (a := j)
    omega
  · have hnone : ∀ i, asked i → answer i ≠ k := fun i hi heq => hsettled ⟨i, hi, heq⟩
    exact Nat.le_succ_of_le (card_outstanding_le hnone)

end Matching
