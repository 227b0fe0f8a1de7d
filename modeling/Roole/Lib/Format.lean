import Mathlib.Data.List.Basic

/-!
# Decoders and the formats they accept

A decoder reads a value from the front of its input and returns the rest. A
format relates a value to the tokens it may be written with. `Decodes` says that
a decoder accepts exactly the inputs that begin with something of its format and
fails in one way on all others; the rules follow the ways decoders are put
together, and the format of a sequence is the concatenation of the formats.
-/

namespace Format

abbrev Decoder (τ ε α : Type) := List τ → Except ε (α × List τ)

structure Decodes (failure : ε) (decode : Decoder τ ε α) (format : α → List τ → Prop) :
    Prop where
  ok_iff : ∀ {input a rest},
    decode input = .ok (a, rest) ↔ ∃ front, format a front ∧ input = front ++ rest
  error_eq : ∀ {input e}, decode input = .error e → e = failure

/-- The value of the first format, then that of the second, which may depend on
it. -/
def Seq (first : α → List τ → Prop) (second : α → β → List τ → Prop) (b : β)
    (tokens : List τ) : Prop :=
  ∃ a front back, first a front ∧ second a b back ∧ tokens = front ++ back

def Many (format : α → List τ → Prop) : List α → List τ → Prop
  | [], tokens => tokens = []
  | a :: rest, tokens => ∃ front back, format a front ∧ Many format rest back ∧ tokens = front ++ back

theorem many_iff {encode : α → List τ} {valid : α → Prop}
    (h : ∀ a tokens, format a tokens ↔ valid a ∧ tokens = encode a) :
    Many format values tokens ↔ (∀ a ∈ values, valid a) ∧ tokens = values.flatMap encode := by
  induction values generalizing tokens with
  | nil => simp [Many]
  | cons a rest ih =>
    simp only [Many, h, ih, List.forall_mem_cons, List.flatMap_cons]
    constructor
    · rintro ⟨_, _, ⟨hvalid, rfl⟩, ⟨hall, rfl⟩, rfl⟩
      exact ⟨⟨hvalid, hall⟩, rfl⟩
    · rintro ⟨⟨hvalid, hall⟩, rfl⟩
      exact ⟨_, _, ⟨hvalid, rfl⟩, ⟨hall, rfl⟩, rfl⟩

namespace Decodes

variable {failure : ε} {decode : Decoder τ ε α} {format : α → List τ → Prop}

theorem ok_append (h : Decodes failure decode format) (hformat : format a front) (rest : List τ) :
    decode (front ++ rest) = .ok (a, rest) := h.ok_iff.mpr ⟨front, hformat, rfl⟩

theorem congr (h : Decodes failure decode format)
    (hiff : ∀ a front, format a front ↔ format' a front) : Decodes failure decode format' where
  ok_iff := by
    intro input a rest
    simp only [h.ok_iff, hiff]
  error_eq := h.error_eq

theorem pure (a : α) :
    Decodes failure (fun input : List τ => .ok (a, input)) fun b tokens => b = a ∧ tokens = [] where
  ok_iff := by
    intro input b rest
    constructor
    · intro h
      cases h
      exact ⟨[], ⟨rfl, rfl⟩, rfl⟩
    · rintro ⟨_, ⟨rfl, rfl⟩, rfl⟩
      rfl
  error_eq := by
    intro input e h
    cases h

theorem ofOption {read : List τ → Option (α × List τ)}
    (h : ∀ {input a rest},
      read input = some (a, rest) ↔ ∃ front, format a front ∧ input = front ++ rest) :
    Decodes failure (fun input => (read input).elim (.error failure) .ok) format where
  ok_iff := by
    intro input a rest
    rw [← h]
    cases read input <;> simp
  error_eq := by
    intro input e herror
    cases hresult : read input with
    | none =>
      rw [hresult] at herror
      cases herror
      rfl
    | some result =>
      rw [hresult] at herror
      cases herror

/-- `next` takes a pair, as the pattern of a `do` block does. -/
theorem bind (h : Decodes failure decode format)
    {next : α × List τ → Except ε (β × List τ)}
    (hnext : ∀ a, Decodes failure (fun rest => next (a, rest)) (format' a)) :
    Decodes failure (fun input => decode input >>= next) (Seq format format') where
  ok_iff := by
    intro input b rest
    cases hresult : decode input with
    | error e =>
      refine iff_of_false (fun hok => by cases hok) ?_
      rintro ⟨_, ⟨a, front, back, hformat, -, rfl⟩, rfl⟩
      rw [List.append_assoc, h.ok_append hformat] at hresult
      cases hresult
    | ok result =>
      obtain ⟨a, middle⟩ := result
      change next (a, middle) = .ok (b, rest) ↔ _
      rw [(hnext a).ok_iff]
      constructor
      · rintro ⟨back, hback, rfl⟩
        obtain ⟨front, hfront, rfl⟩ := h.ok_iff.mp hresult
        exact ⟨front ++ back, ⟨a, front, back, hfront, hback, rfl⟩, (List.append_assoc ..).symm⟩
      · rintro ⟨_, ⟨a', front, back, hfront, hback, rfl⟩, rfl⟩
        rw [List.append_assoc, h.ok_append hfront] at hresult
        cases hresult
        exact ⟨back, hback, rfl⟩
  error_eq := by
    intro input e herror
    cases hresult : decode input with
    | error e' =>
      rw [hresult] at herror
      cases herror
      exact h.error_eq hresult
    | ok result =>
      rw [hresult] at herror
      exact (hnext result.1).error_eq herror

theorem guard {c : Prop} [Decidable c] (h : ¬ c → Decodes failure decode format) :
    Decodes failure (fun input => if c then .error failure else decode input)
      fun a tokens => ¬ c ∧ format a tokens := by
  by_cases hc : c
  · simp only [hc, if_true, not_true_eq_false, false_and]
    exact ⟨by simp, by simp⟩
  · simp only [hc, if_false, not_false_eq_true, true_and]
    exact h hc

theorem ite {c : Prop} [Decidable c] (h : c → Decodes failure decode format)
    (h' : ¬ c → Decodes failure decode' format') :
    Decodes failure (fun input => if c then decode input else decode' input)
      fun a tokens => if c then format a tokens else format' a tokens := by
  by_cases hc : c
  · simp only [hc, if_true]
    exact h hc
  · simp only [hc, if_false]
    exact h' hc

theorem nil : Decodes failure (fun input : List τ => .ok ([], input))
    fun values tokens => values.length = 0 ∧ Many format values tokens :=
  (pure []).congr fun values tokens => by
    cases values with
    | nil => simp [Many]
    | cons a rest => simp

theorem cons (h : Decodes failure decode format) {decodeRest : Decoder τ ε (List α)}
    (hrest : Decodes failure decodeRest
      fun values tokens => values.length = n ∧ Many format values tokens) :
    Decodes failure (fun input => do
      let (a, rest) ← decode input
      let (values, rest) ← decodeRest rest
      .ok (a :: values, rest))
      fun values tokens => values.length = n + 1 ∧ Many format values tokens := by
  refine (h.bind fun a => hrest.bind fun values => pure (a :: values)).congr ?_
  intro values tokens
  constructor
  · rintro ⟨a, front, _, hfront, ⟨rest, back, _, ⟨hlen, hback⟩, ⟨rfl, rfl⟩, rfl⟩, rfl⟩
    exact ⟨congrArg (· + 1) hlen, front, back, hfront, hback, by rw [List.append_nil]⟩
  · rintro ⟨hlen, hmany⟩
    cases values with
    | nil => cases hlen
    | cons a rest =>
      obtain ⟨front, back, hfront, hback, rfl⟩ := hmany
      have hlen : rest.length = n := Nat.succ.inj hlen
      exact ⟨a, front, back, hfront, ⟨rest, back, [], ⟨hlen, hback⟩, ⟨rfl, rfl⟩, by simp⟩, rfl⟩

theorem unique (h : Decodes failure decode format) (hfront : format a front)
    (hfront' : format a' front') (heq : front ++ rest = front' ++ rest') :
    a = a' ∧ front = front' ∧ rest = rest' := by
  have hok := h.ok_append hfront rest
  rw [heq, h.ok_append hfront' rest'] at hok
  cases hok
  exact ⟨rfl, List.append_cancel_right heq, rfl⟩

end Decodes

end Format
