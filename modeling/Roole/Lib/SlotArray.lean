import Roole.Lib.KeyedList

/-!
# Arrays with a count

An array of slots of which the first ones are in use. It is searched slot by
slot for a key, written in place, extended at its end, and closed up over a slot
that is removed. Each of these is the list operation on the items in use.
-/

structure SlotArray (α : Type*) where
  slots : List α
  count : Nat

namespace SlotArray

variable {α κ : Type*} [DecidableEq κ]

def items (array : SlotArray α) : List α := array.slots.take array.count

def searchFrom (key : α → κ) (slots : List α) (k : κ) (i : Nat) : Nat → Option (Nat × α)
  | 0 => none
  | left + 1 =>
    match slots[i]? with
    | some a => if key a = k then some (i, a) else searchFrom key slots k (i + 1) left
    | none => none

def search (key : α → κ) (array : SlotArray α) (k : κ) : Option (Nat × α) :=
  searchFrom key array.slots k 0 array.count

def write (array : SlotArray α) (i : Nat) (a : α) : SlotArray α :=
  { array with slots := array.slots.set i a }

def push (array : SlotArray α) (a : α) : SlotArray α where
  slots := array.slots.set array.count a
  count := array.count + 1

def memmove (slots : List α) (dst src n : Nat) : List α :=
  slots.take dst ++ (slots.drop src).take n ++ slots.drop (dst + n)

/-- The slots behind the removed one move up; where there are none, nothing
moves. -/
def removeAt (array : SlotArray α) (i : Nat) : SlotArray α where
  slots :=
    if i < array.count - 1 then memmove array.slots i (i + 1) (array.count - i - 1)
    else array.slots
  count := array.count - 1

variable {array : SlotArray α} {key : α → κ} {slots : List α} {k : κ} {i left : Nat} {a : α}

-- ----------------------------------------------------------------------------
-- Searching
-- ----------------------------------------------------------------------------

theorem searchFrom_none (h : searchFrom key slots k i left = none) :
    KeyedList.lookup key ((slots.drop i).take left) k = none := by
  induction left generalizing i with
  | zero => simp
  | succ left ih =>
    rw [searchFrom] at h
    cases hslot : slots[i]? with
    | none =>
      rw [List.drop_eq_nil_of_le (List.getElem?_eq_none_iff.mp hslot)]
      rfl
    | some a =>
      simp only [hslot] at h
      obtain ⟨hi, rfl⟩ := List.getElem?_eq_some_iff.mp hslot
      rw [List.drop_eq_getElem_cons hi, List.take_succ_cons, KeyedList.lookup_cons]
      split_ifs at h ⊢
      exact ih h

theorem searchFrom_some (h : searchFrom key slots k i left = some (j, a)) :
    ∃ before after, (slots.drop i).take left = before ++ a :: after ∧ j = i + before.length ∧
      key a = k ∧ ∀ b ∈ before, key b ≠ k := by
  induction left generalizing i with
  | zero => cases h
  | succ left ih =>
    rw [searchFrom] at h
    cases hslot : slots[i]? with
    | none => simp [hslot] at h
    | some b =>
      simp only [hslot] at h
      obtain ⟨hi, rfl⟩ := List.getElem?_eq_some_iff.mp hslot
      rw [List.drop_eq_getElem_cons hi, List.take_succ_cons]
      split_ifs at h with hkey
      · cases h
        exact ⟨[], _, rfl, rfl, hkey, fun _ hb => nomatch hb⟩
      · obtain ⟨before, after, hsplit, hj, hfound, hfirst⟩ := ih h
        refine ⟨slots[i] :: before, after, by rw [hsplit]; rfl, ?_, hfound, ?_⟩
        · rw [hj, List.length_cons]
          omega
        · intro b hb
          rcases List.mem_cons.mp hb with rfl | hb
          · exact hkey
          · exact hfirst b hb

theorem search_none (h : search key array k = none) :
    KeyedList.lookup key array.items k = none := searchFrom_none h

theorem search_some (h : search key array k = some (i, a)) :
    ∃ before after, array.items = before ++ a :: after ∧ i = before.length ∧ key a = k ∧
      ∀ b ∈ before, key b ≠ k := by
  obtain ⟨before, after, hitems, hi, hfound⟩ := searchFrom_some h
  exact ⟨before, after, hitems, hi.trans (Nat.zero_add _), hfound⟩

theorem search_eq (key : α → κ) (array : SlotArray α) (k : κ) :
    (search key array k).map Prod.snd = KeyedList.lookup key array.items k := by
  cases h : search key array k with
  | none => exact (search_none h).symm
  | some found =>
    obtain ⟨before, after, hitems, -, hkey, hfirst⟩ := search_some h
    have hbefore : KeyedList.lookup key before k = none := KeyedList.lookup_eq_none.mpr hfirst
    rw [hitems, KeyedList.lookup_append, hbefore, KeyedList.lookup_cons, if_pos hkey]
    rfl

-- ----------------------------------------------------------------------------
-- Changes
-- ----------------------------------------------------------------------------

theorem items_length (hcount : array.count ≤ array.slots.length) :
    array.items.length = array.count := by
  rw [items, List.length_take, Nat.min_eq_left hcount]

@[simp] theorem write_count (array : SlotArray α) (i : Nat) (a : α) :
    (array.write i a).count = array.count := rfl

@[simp] theorem write_length (array : SlotArray α) (i : Nat) (a : α) :
    (array.write i a).slots.length = array.slots.length := List.length_set

@[simp] theorem push_length (array : SlotArray α) (a : α) :
    (array.push a).slots.length = array.slots.length := List.length_set

theorem removeAt_length (hi : i < array.count) (hcount : array.count ≤ array.slots.length) :
    (array.removeAt i).slots.length = array.slots.length := by
  unfold removeAt memmove
  dsimp only
  split_ifs
  · simp only [List.length_append, List.length_take, List.length_drop]
    omega
  · rfl

theorem items_push (hroom : array.count < array.slots.length) :
    (array.push a).items = array.items ++ [a] := by
  have hset : array.count < (array.slots.set array.count a).length := by
    rw [List.length_set]
    exact hroom
  simp only [items, push, List.take_succ_eq_append_getElem hset, List.take_set,
    List.getElem_set_self]
  rw [List.set_eq_of_length_le (List.length_take_le _ _)]

theorem items_write_found (h : search key array k = some (i, a)) (f : α → α) :
    (array.write i (f a)).items = KeyedList.modify key k f array.items := by
  obtain ⟨before, after, hitems, rfl, hkey, hfirst⟩ := search_some h
  rw [items, write_count, write, List.take_set, ← items, hitems,
    KeyedList.modify_of_first hfirst hkey]
  simp

theorem items_removeAt (hi : i < array.count) (hcount : array.count ≤ array.slots.length) :
    (array.removeAt i).items = array.items.eraseIdx i := by
  rw [List.eraseIdx_eq_take_drop_succ]
  unfold items removeAt memmove
  dsimp only
  rw [List.drop_take, List.take_take, Nat.min_eq_left (Nat.le_of_lt hi)]
  have hkept : (array.slots.take i).length = i := by
    rw [List.length_take]
    omega
  split_ifs with hlast
  · have hmoved : ((array.slots.drop (i + 1)).take (array.count - i - 1)).length =
        array.count - i - 1 := by
      rw [List.length_take, List.length_drop]
      omega
    rw [List.take_left' (by rw [List.length_append, hkept, hmoved]; omega), Nat.sub_sub]
  · have hnone : array.count - (i + 1) = 0 := by omega
    rw [hnone, List.take_zero, List.append_nil, show array.count - 1 = i by omega]

theorem search_lt (h : search key array k = some (i, a))
    (hcount : array.count ≤ array.slots.length) : i < array.count := by
  obtain ⟨before, after, hitems, rfl, -⟩ := search_some h
  rw [← items_length hcount, hitems, List.length_append, List.length_cons]
  omega

theorem items_remove_found (h : search key array k = some (i, a))
    (hcount : array.count ≤ array.slots.length) :
    (array.removeAt i).items = KeyedList.remove key k array.items := by
  rw [items_removeAt (search_lt h hcount) hcount]
  obtain ⟨before, after, hitems, rfl, hkey, hfirst⟩ := search_some h
  rw [hitems, KeyedList.remove_of_first hfirst hkey,
    List.eraseIdx_append_of_length_le (Nat.le_refl _)]
  simp

end SlotArray
