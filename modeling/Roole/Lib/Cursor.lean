import Roole.Lib.Format

/-!
# Reading memory through a pointer

A reader moves a pointer through memory whose buffer ends at a limit. Checking
that enough of the buffer is left and reading are separate steps, and nothing
but the check keeps the reads inside the buffer. `Implements` says that a reader
stays inside and yields what a decoder makes of the bytes up to the limit.
-/

namespace Cursor

open Format

structure Run (ε α : Type) where
  reads : List Nat
  outcome : Except ε (α × Nat)

def Run.result (run : Run ε α) : Except ε α := run.outcome.map Prod.fst

/-- Depends on the memory, the limit and the offset of the pointer. -/
def Reader (τ ε α : Type) := (Nat → τ) → Nat → Nat → Run ε α

namespace Reader

def bind (reader : Reader τ ε α) (next : α → Reader τ ε β) : Reader τ ε β :=
  fun memory limit pos =>
    let first := reader memory limit pos
    match first.outcome with
    | .error e => ⟨first.reads, .error e⟩
    | .ok (a, pos) =>
      let second := next a memory limit pos
      ⟨first.reads ++ second.reads, second.outcome⟩

instance : Monad (Reader τ ε) where
  pure a := fun _ _ pos => ⟨[], .ok (a, pos)⟩
  bind := bind

def fail (e : ε) : Reader τ ε α := fun _ _ _ => ⟨[], .error e⟩

def need (e : ε) (n : Nat) : Reader τ ε Unit := fun _ limit pos =>
  if pos + n > limit then ⟨[], .error e⟩ else ⟨[], .ok ((), pos)⟩

def next (n : Nat) : Reader τ ε (List τ) := fun memory _ pos =>
  ⟨List.range' pos n, .ok ((List.range' pos n).map memory, pos + n)⟩

theorem bind_assoc (reader : Reader τ ε α) (f : α → Reader τ ε β) (g : β → Reader τ ε γ) :
    reader >>= f >>= g = reader >>= fun a => f a >>= g := by
  funext memory limit pos
  change ((reader.bind f).bind g) memory limit pos = reader.bind (fun a => (f a).bind g) memory limit pos
  simp only [Reader.bind]
  obtain ⟨reads, outcome⟩ := reader memory limit pos
  cases outcome with
  | error e => rfl
  | ok result =>
    obtain ⟨a, pos⟩ := result
    dsimp only
    obtain ⟨reads', outcome⟩ := f a memory limit pos
    cases outcome with
    | error e => rfl
    | ok result => simp only [List.append_assoc]

theorem need_next (e : ε) (n : Nat) (memory : Nat → τ) (limit pos : Nat) :
    (need e n >>= fun _ => next n) memory limit pos =
      if pos + n > limit then ⟨[], .error e⟩
      else ⟨List.range' pos n, .ok ((List.range' pos n).map memory, pos + n)⟩ := by
  change (need e n).bind (fun _ => next n) memory limit pos = _
  unfold Reader.bind need next
  split_ifs <;> rfl

end Reader

def window (memory : Nat → τ) (limit pos : Nat) : List τ :=
  (List.range' pos (limit - pos)).map memory

@[simp] theorem window_length (memory : Nat → τ) (limit pos : Nat) :
    (window memory limit pos).length = limit - pos := by
  simp [window]

theorem window_append (memory : Nat → τ) (h : pos + n ≤ limit) :
    window memory limit pos = (List.range' pos n).map memory ++ window memory limit (pos + n) := by
  have hlen : limit - pos = n + (limit - (pos + n)) := by omega
  rw [window, hlen, ← List.range'_append_1, List.map_append, window]

structure Implements (reader : Reader τ ε α) (decode : Decoder τ ε α) : Prop where
  reads_lt : ∀ {memory limit pos}, pos ≤ limit →
    ∀ offset ∈ (reader memory limit pos).reads, offset < limit
  pos_le : ∀ {memory limit pos a pos'}, pos ≤ limit →
    (reader memory limit pos).outcome = .ok (a, pos') → pos' ≤ limit
  outcome_eq : ∀ memory {limit pos}, pos ≤ limit →
    (reader memory limit pos).outcome.map (fun (a, pos') => (a, window memory limit pos')) =
      decode (window memory limit pos)

namespace Implements

theorem pure (a : α) : Implements (pure a : Reader τ ε α) (fun input => .ok (a, input)) where
  reads_lt := by
    intro _ _ _ _ _ h
    cases h
  pos_le := by
    intro _ _ _ _ _ hpos h
    cases h
    exact hpos
  outcome_eq := fun _ _ _ _ => rfl

theorem fail (e : ε) : Implements (.fail e : Reader τ ε α) (fun _ => .error e) where
  reads_lt := by
    intro _ _ _ _ _ h
    cases h
  pos_le := by
    intro _ _ _ _ _ _ h
    cases h
  outcome_eq := fun _ _ _ _ => rfl

theorem bind {reader : Reader τ ε α} {decode : Decoder τ ε α} {next : α → Reader τ ε β}
    {decodeNext : α × List τ → Except ε (β × List τ)} (h : Implements reader decode)
    (hnext : ∀ a, Implements (next a) fun rest => decodeNext (a, rest)) :
    Implements (reader >>= next) (fun input => decode input >>= decodeNext) where
  reads_lt := by
    intro memory limit pos hpos offset hoffset
    change offset ∈ (reader.bind next memory limit pos).reads at hoffset
    unfold Reader.bind at hoffset
    dsimp only at hoffset
    split at hoffset
    · exact h.reads_lt hpos offset hoffset
    · rename_i hresult
      rcases List.mem_append.mp hoffset with hoffset | hoffset
      · exact h.reads_lt hpos offset hoffset
      · exact (hnext _).reads_lt (h.pos_le hpos hresult) offset hoffset
  pos_le := by
    intro memory limit pos b pos' hpos hok
    change (reader.bind next memory limit pos).outcome = _ at hok
    unfold Reader.bind at hok
    dsimp only at hok
    split at hok
    · cases hok
    · rename_i hresult
      exact (hnext _).pos_le (h.pos_le hpos hresult) hok
  outcome_eq := by
    intro memory limit pos hpos
    have hfirst := h.outcome_eq memory hpos
    change (reader.bind next memory limit pos).outcome.map _ = _
    unfold Reader.bind
    dsimp only
    split
    · rename_i hresult
      rw [hresult] at hfirst
      rw [← hfirst]
      rfl
    · rename_i a pos' hresult
      rw [hresult] at hfirst
      rw [← hfirst]
      exact (hnext a).outcome_eq memory (h.pos_le hpos hresult)

theorem ite {c : Prop} [Decidable c] {reader reader' : Reader τ ε α} {decode decode' : Decoder τ ε α}
    (h : Implements reader decode) (h' : Implements reader' decode') :
    Implements (if c then reader else reader')
      (fun input => if c then decode input else decode' input) := by
  by_cases hc : c
  · simpa only [hc, if_true] using h
  · simpa only [hc, if_false] using h'

theorem congr {reader : Reader τ ε α} {decode decode' : Decoder τ ε α} (h : Implements reader decode)
    (heq : ∀ input, decode input = decode' input) : Implements reader decode' :=
  funext heq ▸ h

theorem need (e : ε) (n : Nat) : Implements (.need e n : Reader τ ε Unit)
    (fun input => if input.length < n then .error e else .ok ((), input)) where
  reads_lt := by
    intro _ _ _ _ offset hoffset
    unfold Reader.need at hoffset
    split_ifs at hoffset <;> cases hoffset
  pos_le := by
    intro _ _ _ _ _ hpos hok
    unfold Reader.need at hok
    split_ifs at hok
    cases hok
    exact hpos
  outcome_eq := by
    intro memory limit pos hpos
    have hiff : pos + n > limit ↔ limit - pos < n := by omega
    unfold Reader.need
    simp only [window_length, hiff]
    split_ifs <;> rfl

theorem need_next (e : ε) (n : Nat) :
    Implements (Reader.need e n >>= fun _ => Reader.next n : Reader τ ε (List τ))
      (fun input => if input.length < n then .error e else .ok (input.take n, input.drop n)) where
  reads_lt := by
    intro memory limit pos hpos offset hoffset
    rw [Reader.need_next] at hoffset
    split_ifs at hoffset with hlimit
    · cases hoffset
    · have hlt := (List.mem_range'_1.mp hoffset).2
      omega
  pos_le := by
    intro memory limit pos a pos' hpos hok
    rw [Reader.need_next] at hok
    split_ifs at hok with hlimit
    cases hok
    exact Nat.not_lt.mp hlimit
  outcome_eq := by
    intro memory limit pos hpos
    rw [Reader.need_next, window_length]
    by_cases hlimit : pos + n > limit
    · have hshort : limit - pos < n := by omega
      simp only [hlimit, hshort, if_true]
      rfl
    · have hlong : ¬ limit - pos < n := by omega
      have hlen : ((List.range' pos n).map memory).length = n := by simp
      simp only [hlimit, hlong, if_false, window_append memory (Nat.not_lt.mp hlimit),
        List.take_left' hlen, List.drop_left' hlen]
      rfl

theorem result_eq {reader : Reader τ ε α} {decode : Decoder τ ε α} (h : Implements reader decode)
    (memory : Nat → τ) (hpos : pos ≤ limit) :
    (reader memory limit pos).result = (decode (window memory limit pos)).map Prod.fst := by
  rw [← h.outcome_eq memory hpos, Run.result]
  cases (reader memory limit pos).outcome <;> rfl

end Implements

end Cursor
