import Mathlib.Data.List.Basic

/-!
# Runs of a deterministic system

A run takes a list of actions from a state on, one after the other. A condition
on steps is read in the state that each step starts from; a run whose steps all
meet it keeps the invariants and the relations that such steps keep.
-/

namespace Runs

variable {σ α : Type*} {step : σ → α → σ}

def run (step : σ → α → σ) (s : σ) (actions : List α) : σ := actions.foldl step s

/-- Every step meets the condition in the state it starts from. -/
def Meets (step : σ → α → σ) (cond : σ → α → Prop) : σ → List α → Prop
  | _, [] => True
  | s, action :: rest => cond s action ∧ Meets step cond (step s action) rest

instance instDecidableMeets {cond : σ → α → Prop} [∀ s action, Decidable (cond s action)] :
    (s : σ) → (actions : List α) → Decidable (Meets step cond s actions)
  | _, [] => inferInstanceAs (Decidable True)
  | s, action :: rest =>
    haveI : Decidable (Meets step cond (step s action) rest) := instDecidableMeets _ rest
    inferInstanceAs (Decidable (cond s action ∧ Meets step cond (step s action) rest))

@[simp] theorem run_nil (s : σ) : run step s [] = s := rfl

theorem invariant {P : σ → Prop} {cond : σ → α → Prop}
    (hstep : ∀ s action, P s → cond s action → P (step s action)) {s : σ} (hstart : P s)
    {actions : List α} (hmeets : Meets step cond s actions) (i : Nat) :
    P (run step s (actions.take i)) := by
  induction actions generalizing s i with
  | nil => simpa using hstart
  | cons action rest ih =>
    obtain ⟨hcond, hrest⟩ := hmeets
    cases i with
    | zero => exact hstart
    | succ i => exact ih (hstep s action hstart hcond) hrest i

theorem related {R : σ → σ → Prop} {cond : σ → α → Prop} (hrefl : ∀ s, R s s)
    (htrans : ∀ {a b c}, R a b → R b c → R a c) {actions : List α}
    (hstep : ∀ action ∈ actions, ∀ s, cond s action → R s (step s action)) {s : σ}
    (hmeets : Meets step cond s actions) {i j : Nat} (hij : i ≤ j) :
    R (run step s (actions.take i)) (run step s (actions.take j)) := by
  induction actions generalizing s i j with
  | nil => simpa using hrefl s
  | cons action rest ih =>
    have hrest := @ih (fun b hb => hstep b (List.mem_cons_of_mem _ hb)) _ hmeets.2
    cases j with
    | zero =>
      cases hij
      exact hrefl s
    | succ j =>
      cases i with
      | zero =>
        exact htrans (hstep action List.mem_cons_self s hmeets.1) (hrest (Nat.zero_le j))
      | succ i => exact hrest (Nat.le_of_succ_le_succ hij)

theorem run_take_succ (step : σ → α → σ) (s : σ) {actions : List α} (hi : i < actions.length) :
    run step s (actions.take (i + 1)) = step (run step s (actions.take i)) actions[i] := by
  unfold run
  rw [List.take_succ_eq_append_getElem hi, List.foldl_append]
  rfl

theorem Meets.get {cond : σ → α → Prop} {s : σ} {actions : List α}
    (h : Meets step cond s actions) {i : Nat} (hi : i < actions.length) :
    cond (run step s (actions.take i)) actions[i] := by
  induction actions generalizing s i with
  | nil => cases hi
  | cons action rest ih =>
    cases i with
    | zero => exact h.1
    | succ i => exact ih h.2 (Nat.lt_of_succ_lt_succ hi)

theorem Meets.and {cond cond' : σ → α → Prop} {s : σ} {actions : List α}
    (h : Meets step cond s actions) (h' : Meets step cond' s actions) :
    Meets step (fun s action => cond s action ∧ cond' s action) s actions := by
  induction actions generalizing s with
  | nil => trivial
  | cons action rest ih => exact ⟨⟨h.1, h'.1⟩, ih h.2 h'.2⟩

theorem Meets.mono {cond cond' : σ → α → Prop} (hle : ∀ s action, cond s action → cond' s action)
    {s : σ} {actions : List α} (h : Meets step cond s actions) : Meets step cond' s actions := by
  induction actions generalizing s with
  | nil => trivial
  | cons action rest ih => exact ⟨hle s action h.1, ih h.2⟩

theorem Meets.and_mem {cond : σ → α → Prop} {allowed : α → Prop} {s : σ} {actions : List α}
    (h : Meets step cond s actions) (hallowed : ∀ action ∈ actions, allowed action) :
    Meets step (fun s action => cond s action ∧ allowed action) s actions := by
  induction actions generalizing s with
  | nil => trivial
  | cons action rest ih =>
    exact ⟨⟨h.1, hallowed action List.mem_cons_self⟩,
      ih h.2 fun b hb => hallowed b (List.mem_cons_of_mem _ hb)⟩

theorem invariant_iff_meets_of {P : σ → Prop} {allowed cond : σ → α → Prop}
    (hstep : ∀ s action, P s → allowed s action → (P (step s action) ↔ cond s action)) {s : σ}
    (hstart : P s) {actions : List α} (hallowed : Meets step allowed s actions) :
    (∀ i, P (run step s (actions.take i))) ↔ Meets step cond s actions := by
  induction actions generalizing s with
  | nil => exact iff_of_true (fun i => by simpa using hstart) trivial
  | cons action rest ih =>
    obtain ⟨hfirst, hrest⟩ := hallowed
    constructor
    · intro h
      have hnext : P (step s action) := h 1
      exact ⟨(hstep s action hstart hfirst).mp hnext,
        (ih hnext hrest).mp fun i => h (i + 1)⟩
    · rintro ⟨hcond, hmeets⟩ i
      have hnext := (hstep s action hstart hfirst).mpr hcond
      cases i with
      | zero => exact hstart
      | succ i => exact (ih hnext hrest).mpr hmeets i

theorem Meets.of_forall {cond : σ → α → Prop} (h : ∀ s action, cond s action) (s : σ)
    (actions : List α) : Meets step cond s actions := by
  induction actions generalizing s with
  | nil => trivial
  | cons action rest ih => exact ⟨h s action, ih (step s action)⟩

theorem invariant_iff_meets {P : σ → Prop} {cond : σ → α → Prop}
    (hstep : ∀ s action, P s → (P (step s action) ↔ cond s action)) {s : σ} (hstart : P s)
    (actions : List α) :
    (∀ i, P (run step s (actions.take i))) ↔ Meets step cond s actions :=
  invariant_iff_meets_of (fun s action hs (_ : True) => hstep s action hs) hstart
    (Meets.of_forall (fun _ _ => trivial) s actions)

theorem steps_iff_meets {P : σ → Prop} {Q : σ → σ → Prop} {cond : σ → α → Prop}
    (hkeep : ∀ s action, P s → P (step s action))
    (hstep : ∀ s action, P s → (Q s (step s action) ↔ cond s action)) {s : σ} (hstart : P s)
    (actions : List α) :
    (∀ i < actions.length,
      Q (run step s (actions.take i)) (run step s (actions.take (i + 1)))) ↔
        Meets step cond s actions := by
  induction actions generalizing s with
  | nil => exact iff_of_true (fun i hi => absurd hi (Nat.not_lt_zero i)) trivial
  | cons action rest ih =>
    unfold Meets
    rw [← hstep s action hstart, ← ih (hkeep s action hstart)]
    constructor
    · intro h
      exact ⟨h 0 (Nat.zero_lt_succ _), fun i hi => h (i + 1) (Nat.succ_lt_succ hi)⟩
    · rintro ⟨hfirst, hrest⟩ i hi
      cases i with
      | zero => exact hfirst
      | succ i => exact hrest i (Nat.lt_of_succ_lt_succ hi)

theorem side_by_side_iff {τ : Type*} {other : τ → α → τ} {R : σ → τ → Prop}
    {cond : σ → α → Prop}
    (hstep : ∀ s t action, R s t → (R (step s action) (other t action) ↔ cond s action)) {s : σ}
    {t : τ} (hstart : R s t) (actions : List α) :
    (∀ i, R (run step s (actions.take i)) (run other t (actions.take i))) ↔
      Meets step cond s actions := by
  induction actions generalizing s t with
  | nil => exact iff_of_true (fun i => by simpa using hstart) trivial
  | cons action rest ih =>
    constructor
    · intro h
      have hnext : R (step s action) (other t action) := h 1
      exact ⟨(hstep s t action hstart).mp hnext, (ih hnext).mp fun i => h (i + 1)⟩
    · rintro ⟨hcond, hmeets⟩ i
      cases i with
      | zero => exact hstart
      | succ i => exact (ih ((hstep s t action hstart).mpr hcond)).mpr hmeets i

theorem observed_iff {τ : Type*} {other : τ → α → τ} {R P : σ → τ → Prop}
    {cond : σ → α → Prop} (hshow : ∀ s t, R s t → P s t)
    (hkeep : ∀ s t action, R s t → cond s action → R (step s action) (other t action))
    (hbreak : ∀ s t action, R s t → P (step s action) (other t action) → cond s action) {s : σ}
    {t : τ} (hstart : R s t) (actions : List α) :
    (∀ i, P (run step s (actions.take i)) (run other t (actions.take i))) ↔
      Meets step cond s actions := by
  induction actions generalizing s t with
  | nil => exact iff_of_true (fun i => by simpa using hshow s t hstart) trivial
  | cons action rest ih =>
    constructor
    · intro h
      have hcond : cond s action := hbreak s t action hstart (h 1)
      have hnext := hkeep s t action hstart hcond
      exact ⟨hcond, (ih hnext).mp fun i => h (i + 1)⟩
    · rintro ⟨hcond, hmeets⟩ i
      cases i with
      | zero => exact hshow s t hstart
      | succ i => exact (ih (hkeep s t action hstart hcond)).mpr hmeets i

theorem meets_of_steps {Q : σ → σ → Prop} {cond : σ → α → Prop} {actions : List α}
    (hstep : ∀ action ∈ actions, ∀ s, Q s (step s action) → cond s action) {s : σ}
    (h : ∀ i, Q (run step s (actions.take i)) (run step s (actions.take (i + 1)))) :
    Meets step cond s actions := by
  induction actions generalizing s with
  | nil => trivial
  | cons action rest ih =>
    exact ⟨hstep action List.mem_cons_self s (h 0),
      ih (fun b hb => hstep b (List.mem_cons_of_mem _ hb)) fun i => h (i + 1)⟩

theorem le_run (potential : σ → Nat) (hle : ∀ s action, potential s ≤ potential (step s action))
    (s : σ) (actions : List α) :
    potential s ≤ potential (run step s actions) := by
  induction actions generalizing s with
  | nil => exact Nat.le_refl _
  | cons action rest ih => exact Nat.le_trans (hle s action) (ih (step s action))

theorem meets_of_unraised (potential : σ → Nat) {P : σ → Prop} {cond : σ → α → Prop}
    (hkeep : ∀ s action, P s → P (step s action))
    (hle : ∀ s action, potential s ≤ potential (step s action))
    (hstep : ∀ s action, P s → potential (step s action) = potential s → cond s action) {s : σ}
    (hstart : P s) {actions : List α}
    (hend : potential (run step s actions) = potential s) : Meets step cond s actions := by
  induction actions generalizing s with
  | nil => trivial
  | cons action rest ih =>
    have hrest := le_run potential hle (step s action) rest
    have hfirst : potential (step s action) = potential s :=
      Nat.le_antisymm (hend ▸ hrest) (hle s action)
    exact ⟨hstep s action hstart hfirst, ih (hkeep s action hstart) (hend.trans hfirst.symm)⟩

theorem stays_until_iff (step : σ → α → σ) (s : σ) (actions : List α) {Q R : σ → Prop} :
    (∀ i j, i ≤ j → j ≤ actions.length → Q (run step s (actions.take i)) →
      Q (run step s (actions.take j)) ∨
        ∃ k, i < k ∧ k ≤ j ∧ R (run step s (actions.take k))) ↔
    ∀ i < actions.length, Q (run step s (actions.take i)) →
      Q (run step s (actions.take (i + 1))) ∨ R (run step s (actions.take (i + 1))) := by
  constructor
  · intro h i hi hholds
    rcases h i (i + 1) (Nat.le_succ i) hi hholds with hstays | ⟨k, hik, hki, hreleased⟩
    · exact .inl hstays
    · obtain rfl : k = i + 1 := Nat.le_antisymm hki hik
      exact .inr hreleased
  · intro h i j hij hj hholds
    induction hij with
    | refl => exact .inl hholds
    | @step j hij ih =>
      rcases ih (Nat.le_of_succ_le hj) with hstays | ⟨k, hik, hkj, hreleased⟩
      · rcases h j hj hstays with hnext | hreleased
        · exact .inl hnext
        · exact .inr ⟨j + 1, Nat.lt_succ_of_le hij, Nat.le_refl _, hreleased⟩
      · exact .inr ⟨k, hik, Nat.le_succ_of_le hkj, hreleased⟩

section Moments

variable {P Q : Nat → Prop} {a b : Nat}

theorem kept_until (hstart : P a) (hstep : ∀ k, a ≤ k → k < b → P k → P (k + 1)) :
    ∀ k, a ≤ k → k ≤ b → P k := by
  intro k hk
  induction hk with
  | refl => exact fun _ => hstart
  | @step k hk ih => exact fun hlt => hstep k hk hlt (ih (Nat.le_of_succ_le hlt))

theorem gives_way (hstart : P a ∨ Q a)
    (hfirst : ∀ k, a ≤ k → k < b → P k → P (k + 1) ∨ Q (k + 1))
    (hsecond : ∀ k, a ≤ k → k < b → Q k → Q (k + 1))
    (hend : ∃ k, a ≤ k ∧ k < b ∧ (P k → Q (k + 1))) : Q b := by
  have heither : ∀ k, a ≤ k → k ≤ b → P k ∨ Q k := by
    refine kept_until hstart fun k hk hlt h => ?_
    rcases h with hP | hQ
    · exact hfirst k hk hlt hP
    · exact .inr (hsecond k hk hlt hQ)
  obtain ⟨k, hk, hlt, hgives⟩ := hend
  have hnext : Q (k + 1) := by
    rcases heither k hk (Nat.le_of_lt hlt) with hP | hQ
    · exact hgives hP
    · exact hsecond k hk hlt hQ
  exact kept_until hnext (fun k' hk' hlt' => hsecond k' (by omega) hlt') b hlt (Nat.le_refl b)

end Moments

end Runs
