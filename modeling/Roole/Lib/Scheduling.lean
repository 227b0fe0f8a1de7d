import Mathlib.Data.Fintype.Card
import Mathlib.Data.Set.Finite.Basic
import Mathlib.Data.Set.Finite.Lattice
import Mathlib.Logic.Relation

/-!
# Running items after the items they depend on

`r a b` reads "`a` depends on `b`". A schedule is a list in which every item
comes after all its dependencies; a schedule is stuck when no further item is
ready. Over a finite dependency relation the items of a stuck schedule are
exactly those from which no cycle can be reached.
-/

namespace Scheduling

open Relation (ReflTransGen TransGen)

variable {α : Type*} {r : α → α → Prop}

/-- No dependency cycle can be reached from `a`. -/
def Grounded (r : α → α → Prop) (a : α) : Prop :=
  ∀ b, ReflTransGen r a b → ¬ TransGen r b b

theorem Grounded.dependency (h : Grounded r a) (hab : r a b) : Grounded r b :=
  fun c hbc => h c (.head hab hbc)

theorem acyclic_iff_grounded : (∀ a, ¬ TransGen r a a) ↔ ∀ a, Grounded r a :=
  ⟨fun h _ b _ => h b, fun h a => h a a .refl⟩

theorem not_cycle_of_acc (h : Acc (Function.swap r) a) : ¬ TransGen r a a := by
  intro hcycle
  have hacc := h.transGen
  induction hacc with
  | intro a _ ih => exact ih a (Relation.transGen_swap.mpr hcycle) (h.inv_of_transGen
      (Relation.transGen_swap.mpr hcycle)) hcycle

theorem grounded_of_acc (h : Acc (Function.swap r) a) : Grounded r a := by
  intro b hab
  refine not_cycle_of_acc ?_
  induction hab with
  | refl => exact h
  | tail _ hbc ih => exact ih.inv hbc

theorem acc_of_grounded (hfin : {b | ReflTransGen r a b}.Finite) (h : Grounded r a) :
    Acc (Function.swap r) a := by
  let Reach := {b // ReflTransGen r a b}
  have : Finite Reach := hfin.to_subtype
  let below : Reach → Reach → Prop := fun x y => TransGen r y.1 x.1
  have : IsTrans Reach below := ⟨fun _ _ _ hxy hyz => hyz.trans hxy⟩
  have : Std.Irrefl below := ⟨fun x => h x.1 x.2⟩
  have hwf : WellFounded below := Finite.wellFounded_of_trans_of_irrefl below
  have hall : ∀ x : Reach, Acc (Function.swap r) x.1 := by
    intro x
    induction x using hwf.induction with
    | _ x ih =>
      refine ⟨_, fun y hxy => ?_⟩
      exact ih ⟨y, x.2.tail hxy⟩ (.single hxy)
  exact hall ⟨a, .refl⟩

/-- A list without repetition in which every item comes after all its
dependencies; new items are added at the end. -/
inductive Schedule (r : α → α → Prop) : List α → Prop
  | nil : Schedule r []
  | snoc : Schedule r l → a ∉ l → (∀ b, r a b → b ∈ l) → Schedule r (l ++ [a])

theorem Schedule.nodup (h : Schedule r l) : l.Nodup := by
  induction h with
  | nil => exact List.nodup_nil
  | snoc _ hnew _ ih =>
    rw [List.nodup_append]
    refine ⟨ih, List.nodup_singleton _, ?_⟩
    intro x hx y hy heq
    rw [List.mem_singleton] at hy
    exact hnew (hy ▸ heq ▸ hx)

theorem Schedule.dependencies_before (h : Schedule r l) (hl : l = pre ++ a :: post)
    (hab : r a b) : b ∈ pre := by
  induction h generalizing post with
  | nil => simp at hl
  | @snoc l c hs _ hdeps ih =>
    rcases List.eq_nil_or_concat post with rfl | ⟨post, d, rfl⟩
    · obtain ⟨rfl, hca⟩ := List.append_inj' hl rfl
      obtain rfl : c = a := by simpa using hca
      exact hdeps b hab
    · have hl' : l ++ [c] = (pre ++ a :: post) ++ [d] := by simpa using hl
      exact ih (List.append_inj' hl' rfl).1

theorem Schedule.acc (h : Schedule r l) (ha : a ∈ l) : Acc (Function.swap r) a := by
  induction h generalizing a with
  | nil => simp at ha
  | snoc _ _ hdeps ih =>
    rcases List.mem_append.mp ha with ha | ha
    · exact ih ha
    · rw [List.mem_singleton] at ha
      subst ha
      exact ⟨_, fun b hab => ih (hdeps b hab)⟩

/-- Among the items of `S`, everything not yet in `l` still waits for an item
of `S` that is not in `l` either. -/
def Stuck (r : α → α → Prop) (S : Set α) (l : List α) : Prop :=
  ∀ a ∈ S, a ∉ l → ∃ b ∈ S, r a b ∧ b ∉ l

theorem Stuck.mem_of_acc (hstuck : Stuck r S l) (h : Acc (Function.swap r) a) (hS : a ∈ S) :
    a ∈ l := by
  induction h with
  | intro a _ ih =>
    by_contra ha
    obtain ⟨b, hb, hab, hbl⟩ := hstuck a hS ha
    exact hbl (ih b hab hb)

theorem reachable_finite {S : Set α} (hS : S.Finite) (hclosed : ∀ x ∈ S, ∀ y, r x y → y ∈ S)
    (ha : a ∈ S) : {b | ReflTransGen r a b}.Finite := by
  refine hS.subset ?_
  intro b hab
  change ReflTransGen r a b at hab
  induction hab with
  | refl => exact ha
  | tail _ hbc ih => exact hclosed _ ih _ hbc

theorem Schedule.mem_iff_grounded {S : Set α} (h : Schedule r l) (hstuck : Stuck r S l)
    (hS : S.Finite) (hclosed : ∀ x ∈ S, ∀ y, r x y → y ∈ S) (ha : a ∈ S) :
    a ∈ l ↔ Grounded r a := by
  constructor
  · exact fun hal => grounded_of_acc (h.acc hal)
  · exact fun hg => hstuck.mem_of_acc (acc_of_grounded (reachable_finite hS hclosed ha) hg) ha

end Scheduling
