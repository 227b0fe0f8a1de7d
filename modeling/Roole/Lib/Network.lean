import Mathlib.Logic.Function.Basic
import Roole.Lib.Runs

/-!
# Parties on an unreliable network

Parties take steps on states of their own. A step may read messages, which must
have been sent before, and sends messages. Nothing else is promised: a message
may be lost, delayed, overtaken or repeated, and any party may read it.
-/

namespace Network

variable {ι σ α μ : Type*}

structure Protocol (ι σ α μ : Type*) where
  /-- What a party does with an action: its next state and what it sends. -/
  act : ι → σ → α → σ × List μ
  /-- The messages that the action reads. -/
  reads : α → List μ

structure State (ι σ μ : Type*) where
  party : ι → σ
  sent : List μ

namespace Protocol

variable [DecidableEq ι] {protocol : Protocol ι σ α μ}

def step (protocol : Protocol ι σ α μ) (s : State ι σ μ) (action : ι × α) : State ι σ μ where
  party := Function.update s.party action.1
    (protocol.act action.1 (s.party action.1) action.2).1
  sent := s.sent ++ (protocol.act action.1 (s.party action.1) action.2).2

def before (protocol : Protocol ι σ α μ) (s : State ι σ μ) (actions : List (ι × α)) (k : Nat) :
    State ι σ μ :=
  Runs.run protocol.step s (actions.take k)

def Delivers (protocol : Protocol ι σ α μ) (s : State ι σ μ) (action : ι × α) : Prop :=
  ∀ message ∈ protocol.reads action.2, message ∈ s.sent

instance [DecidableEq μ] (s : State ι σ μ) (action : ι × α) :
    Decidable (protocol.Delivers s action) :=
  inferInstanceAs (Decidable (∀ message ∈ protocol.reads action.2, message ∈ s.sent))

@[simp] theorem step_self (s : State ι σ μ) (i : ι) (a : α) :
    (protocol.step s (i, a)).party i = (protocol.act i (s.party i) a).1 :=
  Function.update_self ..

theorem step_of_ne (s : State ι σ μ) {i j : ι} (a : α) (hne : j ≠ i) :
    (protocol.step s (i, a)).party j = s.party j :=
  Function.update_of_ne hne ..

/-- Every party satisfies its invariant and every message that was ever sent
satisfies that of messages. -/
structure Keeps (I : ι → σ → Prop) (J : μ → Prop) (s : State ι σ μ) : Prop where
  party : ∀ i, I i (s.party i)
  sent : ∀ message ∈ s.sent, J message

def Local (protocol : Protocol ι σ α μ) (I : ι → σ → Prop) (J : μ → Prop)
    (cond : ι → σ → α → Prop) : Prop :=
  ∀ i s a, I i s → cond i s a → (∀ message ∈ protocol.reads a, J message) →
    I i (protocol.act i s a).1 ∧ ∀ message ∈ (protocol.act i s a).2, J message

/-- Steps that read only what was sent and meet a condition of the acting party. -/
def Allows (protocol : Protocol ι σ α μ) (cond : ι → σ → α → Prop) (s : State ι σ μ)
    (action : ι × α) : Prop :=
  protocol.Delivers s action ∧ cond action.1 (s.party action.1) action.2

variable {I : ι → σ → Prop} {J : μ → Prop} {cond : ι → σ → α → Prop} {s : State ι σ μ}
  {actions : List (ι × α)}

theorem Keeps.step (hlocal : protocol.Local I J cond) (h : Keeps I J s) {action : ι × α}
    (hallows : protocol.Allows cond s action) : Keeps I J (protocol.step s action) := by
  obtain ⟨i, a⟩ := action
  obtain ⟨hdelivers, hcond⟩ := hallows
  obtain ⟨hparty, hsent⟩ := hlocal i (s.party i) a (h.party i) hcond
    fun message hread => h.sent message (hdelivers message hread)
  constructor
  · intro j
    by_cases hne : j = i
    · subst hne
      rwa [step_self]
    · rw [step_of_ne s a hne]
      exact h.party j
  · intro message hmem
    rcases List.mem_append.mp hmem with hold | hnew
    · exact h.sent message hold
    · exact hsent message hnew

theorem invariant (hlocal : protocol.Local I J cond) (hstart : Keeps I J s)
    (hmeets : Runs.Meets protocol.step (protocol.Allows cond) s actions) (k : Nat) :
    Keeps I J (protocol.before s actions k) :=
  Runs.invariant (P := Keeps I J) (fun _ _ h hallows => h.step hlocal hallows) hstart hmeets k

theorem allows_at (hmeets : Runs.Meets protocol.step (protocol.Allows cond) s actions)
    (hk : k < actions.length) :
    protocol.Allows cond (protocol.before s actions k) actions[k] :=
  hmeets.get hk

theorem before_succ (protocol : Protocol ι σ α μ) (s : State ι σ μ) {actions : List (ι × α)}
    (hk : k < actions.length) :
    protocol.before s actions (k + 1) =
      protocol.step (protocol.before s actions k) actions[k] :=
  Runs.run_take_succ protocol.step s hk

end Protocol

end Network
