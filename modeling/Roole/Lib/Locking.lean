import Mathlib.Data.List.Basic

/-!
# Paths that take and release a lock

What one path does with a lock that is not reentrant: a search takes it, and
either leaves it locked for the caller or gives it back itself.
-/

namespace Locking

inductive Event
  /-- A search returns with the lock held. -/
  | acquired
  /-- A search has taken the lock and given it back. -/
  | missed
  | released
  deriving DecidableEq, Repr

/-- The lock is taken only while the path does not hold it and released only
while it does, and in the end the path does not hold it. -/
def LockBalanced : Bool → List Event → Prop
  | held, [] => held = false
  | held, .acquired :: rest => held = false ∧ LockBalanced true rest
  | held, .missed :: rest => held = false ∧ LockBalanced false rest
  | held, .released :: rest => held = true ∧ LockBalanced false rest

instance instDecidableLockBalanced : (held : Bool) → (events : List Event) →
    Decidable (LockBalanced held events)
  | held, [] => inferInstanceAs (Decidable (held = false))
  | held, .acquired :: rest =>
    haveI := instDecidableLockBalanced true rest
    inferInstanceAs (Decidable (held = false ∧ LockBalanced true rest))
  | held, .missed :: rest =>
    haveI := instDecidableLockBalanced false rest
    inferInstanceAs (Decidable (held = false ∧ LockBalanced false rest))
  | held, .released :: rest =>
    haveI := instDecidableLockBalanced false rest
    inferInstanceAs (Decidable (held = true ∧ LockBalanced false rest))

theorem balanced_search (event : Event) (rest : List Event) :
    LockBalanced false (event :: .released :: rest) ↔
      event = .acquired ∧ LockBalanced false rest := by
  cases event <;> simp [LockBalanced]

/-- How often the lock has been taken and kept, less how often it was released. -/
def net (events : List Event) : Int := events.count .acquired - events.count .released

@[simp] theorem net_nil : net [] = 0 := rfl

theorem net_cons (event : Event) (rest : List Event) :
    net (event :: rest) = net [event] + net rest := by
  unfold net
  cases event <;> simp <;> omega

theorem net_append (events later : List Event) :
    net (events ++ later) = net events + net later := by
  unfold net
  simp only [List.count_append]
  omega

theorem LockBalanced.net_eq (h : LockBalanced held events) :
    net events = if held then -1 else 0 := by
  induction events generalizing held with
  | nil =>
    cases h
    rfl
  | cons event rest ih =>
    rw [net_cons]
    cases event with
    | acquired =>
      obtain ⟨rfl, hrest⟩ := h
      rw [ih hrest]
      rfl
    | missed =>
      obtain ⟨rfl, hrest⟩ := h
      rw [ih hrest]
      rfl
    | released =>
      obtain ⟨rfl, hrest⟩ := h
      rw [ih hrest]
      rfl

end Locking
