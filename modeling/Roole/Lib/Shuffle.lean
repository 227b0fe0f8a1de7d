import Mathlib.Data.Finset.Card
import Mathlib.Data.Finset.Dedup
import Mathlib.Data.List.Perm.Basic

/-!
# Drawing without replacement

A partial shuffle: for one place after the other an item is drawn among those
from the place on and swapped with the one that is there. What has been drawn
stays where it is, and every selection can be drawn.
-/

namespace Shuffle

variable {α : Type*} {x y : α} {xs items : List α} {k : Nat}

/-- The item drawn from `x :: xs`, and what is left when it has swapped places
with `x`. -/
def pick (x : α) (xs : List α) : Nat → α × List α
  | 0 => (x, xs)
  | k + 1 => (xs.getD k x, xs.set k x)

def draws : List Nat → List α → List α
  | [], _ => []
  | _, [] => []
  | r :: rs, x :: xs =>
    let (y, rest) := pick x xs (r % (xs.length + 1))
    y :: draws rs rest

theorem pick_perm (hk : k ≤ xs.length) : ((pick x xs k).1 :: (pick x xs k).2).Perm (x :: xs) := by
  cases k with
  | zero => exact .refl _
  | succ k =>
    obtain ⟨before, b, after, rfl, rfl⟩ : ∃ before b after,
        xs = before ++ b :: after ∧ k = before.length :=
      ⟨xs.take k, xs[k], xs.drop (k + 1), by simp, by simp; omega⟩
    have hpick : pick x (before ++ b :: after) (before.length + 1) =
        (b, before ++ x :: after) := by
      simp [pick, List.getD_eq_getElem?_getD]
    rw [hpick]
    calc (b :: (before ++ x :: after)).Perm (b :: x :: (before ++ after)) :=
          List.perm_middle.cons b
      _ |>.Perm (x :: b :: (before ++ after)) := .swap x b _
      _ |>.Perm (x :: (before ++ b :: after)) := List.perm_middle.symm.cons x

theorem pick_length (x : α) (xs : List α) (k : Nat) : (pick x xs k).2.length = xs.length := by
  cases k with
  | zero => rfl
  | succ k => exact List.length_set

theorem exists_pick (hy : y ∈ x :: xs) : ∃ k ≤ xs.length, (pick x xs k).1 = y := by
  rcases List.mem_cons.mp hy with rfl | hy
  · exact ⟨0, Nat.zero_le _, rfl⟩
  · obtain ⟨k, hk, rfl⟩ := List.getElem_of_mem hy
    exact ⟨k + 1, hk, by simp [pick, List.getD_eq_getElem?_getD, hk]⟩

theorem draws_perm {rs : List Nat} (hrs : rs.length ≤ items.length) :
    (draws rs items).length = rs.length ∧ ∃ rest, (draws rs items ++ rest).Perm items := by
  induction rs generalizing items with
  | nil => exact ⟨rfl, items, .refl _⟩
  | cons r rs ih =>
    cases items with
    | nil => cases hrs
    | cons x xs =>
      have hk : r % (xs.length + 1) ≤ xs.length :=
        Nat.le_of_lt_succ (Nat.mod_lt _ (Nat.succ_pos _))
      have hrest : rs.length ≤ (pick x xs (r % (xs.length + 1))).2.length := by
        rw [pick_length]
        exact Nat.le_of_succ_le_succ hrs
      obtain ⟨hcount, rest, hperm⟩ := ih hrest
      exact ⟨congrArg Nat.succ hcount, rest, (hperm.cons _).trans (pick_perm hk)⟩

theorem exists_draws {selection rest : List α} (h : (selection ++ rest).Perm items) :
    ∃ rs : List Nat, rs.length = selection.length ∧ (∀ r ∈ rs, r < items.length) ∧
      draws rs items = selection := by
  induction selection generalizing items with
  | nil => exact ⟨[], rfl, by simp, rfl⟩
  | cons y selection ih =>
    cases items with
    | nil => cases h.eq_nil
    | cons x xs =>
      obtain ⟨k, hk, hpick⟩ := exists_pick (h.mem_iff.mp List.mem_cons_self)
      have hperm : (y :: (pick x xs k).2).Perm (x :: xs) := hpick ▸ pick_perm hk
      obtain ⟨rs, hcount, hbound, hdraws⟩ := ih (h.trans hperm.symm).cons_inv
      refine ⟨k :: rs, congrArg Nat.succ hcount, ?_, ?_⟩
      · intro r hr
        rcases List.mem_cons.mp hr with rfl | hr
        · exact Nat.lt_succ_of_le hk
        · have hlt := hbound r hr
          rw [pick_length] at hlt
          exact Nat.lt_succ_of_lt hlt
      · simp only [draws, Nat.mod_eq_of_lt (Nat.lt_succ_of_le hk), hpick, hdraws]

theorem draws_nodup {rs : List Nat} (hrs : rs.length ≤ items.length) (hitems : items.Nodup) :
    (draws rs items).Nodup := by
  obtain ⟨-, rest, hperm⟩ := draws_perm hrs
  exact (hperm.nodup_iff.mpr hitems).of_append_left

theorem mem_of_mem_draws {rs : List Nat} (hrs : rs.length ≤ items.length)
    (h : y ∈ draws rs items) : y ∈ items := by
  obtain ⟨-, rest, hperm⟩ := draws_perm hrs
  exact hperm.mem_iff.mp (List.mem_append_left _ h)

theorem exists_draws_finset [DecidableEq α] (selection : Finset α)
    (hitems : ∀ a ∈ selection, a ∈ items) :
    ∃ rand : Nat → Nat, (∀ i, rand i ≤ items.length) ∧
      (draws ((List.range selection.card).map rand) items).toFinset = selection := by
  have hsubset : selection.toList ⊆ items := fun a ha => hitems a (Finset.mem_toList.mp ha)
  obtain ⟨order, horder, hsublist⟩ := List.subperm_of_subset selection.nodup_toList hsubset
  obtain ⟨rest, hrest⟩ := hsublist.exists_perm_append
  obtain ⟨rs, hcount, hbound, hdraws⟩ := exists_draws hrest.symm
  have hlength : rs.length = selection.card := by
    rw [hcount, horder.length_eq, Finset.length_toList]
  have hrs : (List.range selection.card).map (fun i => rs.getD i 0) = rs := by
    refine List.ext_getElem (by simp [hlength]) fun i _ hi => ?_
    simp [List.getD_eq_getElem?_getD, hi]
  refine ⟨fun i => rs.getD i 0, fun i => ?_, ?_⟩
  · dsimp only
    rw [List.getD_eq_getElem?_getD]
    cases hget : rs[i]? with
    | none => exact Nat.zero_le _
    | some r => exact Nat.le_of_lt (hbound r (List.mem_of_getElem? hget))
  · rw [hrs, hdraws]
    ext a
    rw [List.mem_toFinset, horder.mem_iff, Finset.mem_toList]

end Shuffle
