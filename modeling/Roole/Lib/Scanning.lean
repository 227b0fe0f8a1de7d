import Mathlib.Data.List.Forall2
import Mathlib.Data.List.TakeWhile

/-!
# Reading a text from its front

A reader takes a piece from the front of a text and leaves the rest. Pieces that
are read in whatever stands behind them are read one after the other.
-/

namespace Scanning

def asciiBytes (text : String) : List UInt8 := text.toList.map fun c => .ofNat c.toNat

section Marks

variable [DecidableEq α]

def upTo (mark : α) : List α → Option (List α × List α)
  | [] => none
  | b :: rest =>
    if b = mark then some ([], rest)
    else (upTo mark rest).map fun (front, rest) => (b :: front, rest)

@[simp] theorem upTo_append {front : List α} (h : mark ∉ front) (rest : List α) :
    upTo mark (front ++ mark :: rest) = some (front, rest) := by
  induction front with
  | nil => simp [upTo]
  | cons b front ih =>
    rw [List.mem_cons, not_or] at h
    rw [List.cons_append, upTo, if_neg (Ne.symm h.1), ih h.2]
    rfl

def skip (expected text : List α) : Option (List α) := text.dropPrefix? expected

@[simp] theorem skip_append (expected rest : List α) :
    skip expected (expected ++ rest) = some rest :=
  List.dropPrefix?_append_of_beq rest (by simp)

theorem skip_eq_some {expected text rest : List α} :
    skip expected text = some rest ↔ text = expected ++ rest := by
  rw [skip, List.dropPrefix?_eq_some_iff]
  constructor
  · rintro ⟨_, rfl, h⟩
    rw [eq_of_beq h]
  · rintro rfl
    exact ⟨expected, rfl, by simp⟩

theorem skip_cons_ne {a b : α} (h : a ≠ b) (expected rest : List α) :
    skip (a :: expected) (b :: rest) = none := by
  rw [Option.eq_none_iff_forall_ne_some]
  intro after hafter
  obtain ⟨rfl, -⟩ := List.cons.inj (skip_eq_some.mp hafter)
  exact h rfl

end Marks

section Words

variable {blank : α → Bool}

/-- The text begins with a word, perhaps behind blanks, and goes on with `rest`. -/
structure BeginsWith (blank : α → Bool) (word rest text : List α) : Prop where
  front : ∃ gap, (∀ b ∈ gap, blank b = true) ∧ text = gap ++ (word ++ rest)
  ne_nil : word ≠ []
  solid : ∀ b ∈ word, blank b = false
  ends : ∀ b ∈ rest.head?, blank b = true

def nextWord (blank : α → Bool) (width : Nat) (text : List α) : Option (List α × List α) :=
  match text.dropWhile blank with
  | [] => none
  | text =>
    let word := (text.takeWhile fun b => !blank b).take width
    some (word, text.drop word.length)

theorem nextWord_blank (h : ∀ b ∈ text, blank b = true) (width : Nat) :
    nextWord blank width text = none := by
  have hnil : text.dropWhile blank = [] := List.dropWhile_eq_nil_iff.mpr h
  rw [nextWord, hnil]

theorem exists_beginsWith (h : ¬ ∀ b ∈ text, blank b = true) :
    ∃ word rest, BeginsWith blank word rest text := by
  have hne : text.dropWhile blank ≠ [] := fun hnil => h (List.dropWhile_eq_nil_iff.mp hnil)
  refine ⟨(text.dropWhile blank).takeWhile fun b => !blank b,
    (text.dropWhile blank).dropWhile fun b => !blank b, ?_, ?_, ?_, ?_⟩
  · refine ⟨text.takeWhile blank, fun b hb => List.mem_takeWhile_imp hb, ?_⟩
    rw [List.takeWhile_append_dropWhile, List.takeWhile_append_dropWhile]
  · obtain ⟨b, rest, hfront⟩ := List.exists_cons_of_ne_nil hne
    have hhead := List.head?_dropWhile_not blank text
    rw [hfront] at hhead ⊢
    have hsolid : blank b = false := by simpa using hhead
    simp [hsolid]
  · intro b hb
    simpa using List.mem_takeWhile_imp hb
  · intro b hb
    have hhead := List.head?_dropWhile_not (fun b => !blank b) (text.dropWhile blank)
    rw [Option.mem_def.mp hb] at hhead
    simpa using hhead

theorem BeginsWith.nextWord (h : BeginsWith blank word rest text) (width : Nat) :
    nextWord blank width text = some (word.take width, word.drop width ++ rest) := by
  obtain ⟨gap, hgap, rfl⟩ := h.front
  obtain ⟨b, front, rfl⟩ := List.exists_cons_of_ne_nil h.ne_nil
  have hdrop : (gap ++ (b :: front ++ rest)).dropWhile blank = b :: (front ++ rest) := by
    rw [List.dropWhile_append_of_pos hgap, List.cons_append,
      List.dropWhile_cons_of_neg (by simp [h.solid b List.mem_cons_self])]
  have hrest : rest.takeWhile (fun b => !blank b) = [] := by
    cases rest with
    | nil => rfl
    | cons c rest => exact List.takeWhile_cons_of_neg (by simp [h.ends c rfl])
  have hword : (b :: front ++ rest).takeWhile (fun b => !blank b) = b :: front := by
    rw [List.takeWhile_append_of_pos fun c hc => by simp [h.solid c hc], hrest, List.append_nil]
  rw [Scanning.nextWord, hdrop]
  simp only [← List.cons_append, hword]
  rw [List.length_take, List.drop_append_of_le_length (Nat.min_le_right _ _)]
  rcases Nat.le_total width (b :: front).length with hle | hle
  · rw [Nat.min_eq_left hle]
  · rw [Nat.min_eq_right hle, List.drop_length, List.drop_of_length_le hle]

end Words

section Many

def many (read : List α → Option (β × List α)) : Nat → List α → Option (List β)
  | _, [] => some []
  | 0, _ :: _ => none
  | fuel + 1, b :: text =>
    (read (b :: text)).bind fun (value, rest) => (many read fuel rest).map (value :: ·)

/-- The text is read as the value, whatever stands behind it. -/
structure ReadAs (read : List α → Option (β × List α)) (value : β) (text : List α) : Prop where
  ne_nil : text ≠ []
  read : ∀ rest, read (text ++ rest) = some (value, rest)

theorem many_flatten {read : List α → Option (β × List α)}
    (h : List.Forall₂ (ReadAs read) values texts) (hfuel : values.length ≤ fuel) :
    many read fuel texts.flatten = some values := by
  induction h generalizing fuel with
  | nil => cases fuel <;> rfl
  | @cons value text values texts hone _ ih =>
    cases fuel with
    | zero => cases hfuel
    | succ fuel =>
      have hmore := ih (Nat.le_of_succ_le_succ hfuel)
      obtain ⟨b, front, hfront⟩ := List.exists_cons_of_ne_nil hone.ne_nil
      rw [List.flatten_cons, hfront, List.cons_append, many, ← List.cons_append, ← hfront,
        hone.read, Option.bind_some]
      simp only [hmore, Option.map_some]

theorem length_le_flatten {read : List α → Option (β × List α)}
    (h : List.Forall₂ (ReadAs read) values texts) : values.length ≤ texts.flatten.length := by
  induction h with
  | nil => exact Nat.le_refl 0
  | cons hone _ ih =>
    have hpos := List.length_pos_of_ne_nil hone.ne_nil
    rw [List.flatten_cons, List.length_append, List.length_cons]
    omega

end Many

end Scanning
