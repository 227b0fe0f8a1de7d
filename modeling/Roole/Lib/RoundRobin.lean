import Mathlib.Data.List.Rotate

/-!
# Turns around a ring

The items of a ring are looked at one after the other, from a place on that only
grows, and the first one that is eligible takes the turn. The eligible items, in
the order in which they come from the place on, are those that wait; whoever takes
a turn goes to their end.
-/

namespace RoundRobin

variable {α : Type*} {p : α → Bool} {ring : List α}

/-- Looks at as many items as are left from place `i` on: the item that takes
the turn, and the place after the last item looked at. -/
def scan (p : α → Bool) (ring : List α) (i : Nat) : Nat → Option α × Nat
  | 0 => (none, i)
  | left + 1 =>
    match ring[i % ring.length]? with
    | some a => if p a then (some a, i + 1) else scan p ring (i + 1) left
    | none => (none, i)

def turn (p : α → Bool) (ring : List α) (i : Nat) : Option α × Nat := scan p ring i ring.length

def waiting (p : α → Bool) (ring : List α) (i : Nat) : List α := (ring.rotate i).filter p

theorem waiting_perm (p : α → Bool) (ring : List α) (i : Nat) :
    (waiting p ring i).Perm (ring.filter p) := (List.rotate_perm ring i).filter p

theorem rotate_cons (h : ring.rotate i = a :: rest) :
    ring[i % ring.length]? = some a ∧ ring.rotate (i + 1) = rest ++ [a] := by
  have hlen : 0 < ring.length := by
    rw [← List.length_rotate ring i, h]
    exact Nat.zero_lt_succ _
  constructor
  · have hhead := List.getElem?_rotate (n := i) hlen
    rw [h] at hhead
    simpa using hhead.symm
  · rw [← List.rotate_rotate, h]
    simp

theorem scan_found (hsplit : (ring.rotate i).take left = before ++ a :: after)
    (hbefore : ∀ b ∈ before, p b = false) (ha : p a = true) (hleft : left ≤ ring.length) :
    scan p ring i left = (some a, i + before.length + 1) := by
  induction left generalizing i before with
  | zero => simp at hsplit
  | succ left ih =>
    cases hring : ring.rotate i with
    | nil =>
      rw [hring] at hsplit
      simp at hsplit
    | cons b rest =>
      obtain ⟨hget, hnext⟩ := rotate_cons hring
      have hrest : left ≤ rest.length := by
        have hlen := List.length_rotate ring i
        rw [hring, List.length_cons] at hlen
        omega
      rw [hring, List.take_succ_cons] at hsplit
      simp only [scan, hget]
      cases before with
      | nil =>
        obtain ⟨rfl, -⟩ := List.cons.inj hsplit
        rw [if_pos ha]
        rfl
      | cons b' before =>
        obtain ⟨rfl, htail⟩ := List.cons.inj hsplit
        rw [if_neg (by simp [hbefore b List.mem_cons_self])]
        have htake : (rest ++ [b]).take left = rest.take left :=
          List.take_append_of_le_length hrest
        rw [← htake, ← hnext] at htail
        rw [ih htail (fun c hc => hbefore c (List.mem_cons_of_mem _ hc)) (by omega),
          List.length_cons]
        congr 1
        omega

theorem turn_spec (h : waiting p ring i = a :: rest) :
    (turn p ring i).1 = some a ∧ waiting p ring (turn p ring i).2 = rest ++ [a] := by
  obtain ⟨before, after, hsplit, hbefore, ha, hafter⟩ := List.filter_eq_cons_iff.mp h
  have htake : (ring.rotate i).take ring.length = before ++ a :: after := by
    rw [← List.length_rotate ring i, List.take_length, hsplit]
  have hbefore' : ∀ b ∈ before, p b = false := fun b hb => by simpa using hbefore b hb
  unfold turn
  rw [scan_found htake hbefore' ha (Nat.le_refl _)]
  refine ⟨rfl, ?_⟩
  have hrotated : ring.rotate (i + (before.length + 1)) = after ++ (before ++ [a]) := by
    have hlen : (before ++ [a]).length = before.length + 1 := by simp
    rw [← List.rotate_rotate, hsplit, ← hlen, List.append_cons, List.rotate_append_length_eq]
  unfold waiting
  rw [Nat.add_assoc, hrotated, List.filter_append, List.filter_append, hafter,
    List.filter_eq_nil_iff.mpr hbefore, List.nil_append, List.filter_cons_of_pos ha,
    List.filter_nil]

section
variable {queue : List α} (next : Nat → Nat)

theorem waiting_after (hqueue : waiting p ring (next 0) = queue)
    (hnext : ∀ j < queue.length, next (j + 1) = (turn p ring (next j)).2) {j : Nat}
    (hj : j ≤ queue.length) : waiting p ring (next j) = queue.rotate j := by
  induction j with
  | zero => rw [hqueue, List.rotate_zero]
  | succ j ih =>
    have hwaiting := ih (Nat.le_of_succ_le hj)
    cases hrotated : queue.rotate j with
    | nil =>
      rw [List.rotate_eq_nil_iff] at hrotated
      rw [hrotated] at hj
      cases hj
    | cons a rest =>
      rw [hrotated] at hwaiting
      rw [hnext j hj, (turn_spec hwaiting).2, (rotate_cons hrotated).2]

theorem turn_after (hqueue : waiting p ring (next 0) = queue)
    (hnext : ∀ j < queue.length, next (j + 1) = (turn p ring (next j)).2) {j : Nat}
    (hj : j < queue.length) : (turn p ring (next j)).1 = some queue[j] := by
  have hwaiting := waiting_after next hqueue hnext (Nat.le_of_lt hj)
  cases hrotated : queue.rotate j with
  | nil =>
    rw [List.rotate_eq_nil_iff] at hrotated
    rw [hrotated] at hj
    cases hj
  | cons a rest =>
    rw [hrotated] at hwaiting
    have hget := (rotate_cons hrotated).1
    rw [Nat.mod_eq_of_lt hj, List.getElem?_eq_getElem hj] at hget
    rw [(turn_spec hwaiting).1, hget]

end

end RoundRobin
