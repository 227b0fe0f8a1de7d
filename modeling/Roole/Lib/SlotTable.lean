import Mathlib.Data.List.ReduceOption
import Roole.Lib.KeyedList

/-!
# Tables of slots that are free or taken

A fixed number of slots, each of them free or holding an item. A new item goes
into the first free slot; an item is released by freeing the first slot whose item
is asked for. The items in slot order are what a search sees.
-/

structure SlotTable (α : Type*) (size : Nat) where
  slots : List (Option α)
  length_slots : slots.length = size

namespace SlotTable

variable {α κ : Type*} {size : Nat}

def items (table : SlotTable α size) : List α := table.slots.reduceOption

def empty (size : Nat) : SlotTable α size where
  slots := List.replicate size none
  length_slots := List.length_replicate

def fill (a : α) : List (Option α) → Option (List (Option α))
  | [] => none
  | none :: rest => some (some a :: rest)
  | some b :: rest => (fill a rest).map (some b :: ·)

def vacate (p : α → Bool) : List (Option α) → Option (List (Option α))
  | [] => none
  | none :: rest => (vacate p rest).map (none :: ·)
  | some b :: rest => if p b then some (none :: rest) else (vacate p rest).map (some b :: ·)

variable {slots slots' : List (Option α)} {p : α → Bool} {a : α}

theorem length_of_fill (h : fill a slots = some slots') : slots'.length = slots.length := by
  induction slots generalizing slots' with
  | nil => cases h
  | cons slot rest ih =>
    cases slot with
    | none =>
      cases h
      rfl
    | some b =>
      obtain ⟨rest', hrest, rfl⟩ := Option.map_eq_some_iff.mp h
      rw [List.length_cons, ih hrest, List.length_cons]

theorem length_of_vacate (h : vacate p slots = some slots') : slots'.length = slots.length := by
  induction slots generalizing slots' with
  | nil => cases h
  | cons slot rest ih =>
    cases slot with
    | none =>
      obtain ⟨rest', hrest, rfl⟩ := Option.map_eq_some_iff.mp h
      rw [List.length_cons, ih hrest, List.length_cons]
    | some b =>
      rw [vacate] at h
      split_ifs at h
      · cases h
        rfl
      · obtain ⟨rest', hrest, rfl⟩ := Option.map_eq_some_iff.mp h
        rw [List.length_cons, ih hrest, List.length_cons]

def store (table : SlotTable α size) (a : α) : Option (SlotTable α size) :=
  match h : fill a table.slots with
  | none => none
  | some slots => some ⟨slots, (length_of_fill h).trans table.length_slots⟩

def release (table : SlotTable α size) (p : α → Bool) : Option (SlotTable α size) :=
  match h : vacate p table.slots with
  | none => none
  | some slots => some ⟨slots, (length_of_vacate h).trans table.length_slots⟩

def search [DecidableEq κ] (key : α → κ) (table : SlotTable α size) (k : κ) : Option α :=
  KeyedList.lookup key table.items k

-- ----------------------------------------------------------------------------
-- Storing
-- ----------------------------------------------------------------------------

@[simp] theorem items_empty : (empty size : SlotTable α size).items = [] := by
  simp [items, empty]

theorem length_items_le (table : SlotTable α size) : table.items.length ≤ size := by
  have hle := List.reduceOption_length_le table.slots
  rwa [table.length_slots] at hle

theorem fill_eq_none (a : α) (slots : List (Option α)) :
    fill a slots = none ↔ (slots.reduceOption).length = slots.length := by
  induction slots with
  | nil => simp [fill]
  | cons slot rest ih =>
    cases slot with
    | none =>
      have hle := List.reduceOption_length_le rest
      simp only [fill, List.reduceOption_cons_of_none, List.length_cons, reduceCtorEq, false_iff]
      omega
    | some b => simp [fill, ih]

theorem fill_eq_some (h : fill a slots = some slots') :
    ∃ before after, slots.reduceOption = before ++ after ∧
      slots'.reduceOption = before ++ a :: after := by
  induction slots generalizing slots' with
  | nil => cases h
  | cons slot rest ih =>
    cases slot with
    | none =>
      cases h
      exact ⟨[], rest.reduceOption, rfl, rfl⟩
    | some b =>
      obtain ⟨rest', hrest, rfl⟩ := Option.map_eq_some_iff.mp h
      obtain ⟨before, after, hitems, hitems'⟩ := ih hrest
      exact ⟨b :: before, after, by simp [hitems], by simp [hitems']⟩

theorem store_eq_none {table : SlotTable α size} :
    table.store a = none ↔ table.items.length = size := by
  have hfull := fill_eq_none a table.slots
  rw [table.length_slots] at hfull
  unfold store items
  split
  case h_1 h => simp [← hfull, h]
  case h_2 h => simp [← hfull, h]

theorem store_eq_some {table table' : SlotTable α size} (h : table.store a = some table') :
    ∃ before after, table.items = before ++ after ∧ table'.items = before ++ a :: after := by
  unfold store at h
  split at h
  case h_1 => cases h
  case h_2 hfill =>
    cases h
    exact fill_eq_some hfill

-- ----------------------------------------------------------------------------
-- Releasing
-- ----------------------------------------------------------------------------

theorem vacate_eq_none (p : α → Bool) (slots : List (Option α)) :
    vacate p slots = none ↔ ∀ a ∈ slots.reduceOption, p a = false := by
  induction slots with
  | nil => simp [vacate]
  | cons slot rest ih =>
    cases slot with
    | none => simpa [vacate] using ih
    | some b =>
      rw [vacate]
      split_ifs with hp
      · simp [hp]
      · simp [hp, ih]

theorem vacate_eq_some (h : vacate p slots = some slots') :
    ∃ before a after, slots.reduceOption = before ++ a :: after ∧ p a = true ∧
      (∀ b ∈ before, p b = false) ∧ slots'.reduceOption = before ++ after := by
  induction slots generalizing slots' with
  | nil => cases h
  | cons slot rest ih =>
    cases slot with
    | none =>
      obtain ⟨rest', hrest, rfl⟩ := Option.map_eq_some_iff.mp h
      obtain ⟨before, a, after, hitems, hfound⟩ := ih hrest
      exact ⟨before, a, after, hitems, hfound⟩
    | some b =>
      rw [vacate] at h
      split_ifs at h with hp
      · cases h
        exact ⟨[], b, rest.reduceOption, rfl, hp, by simp, rfl⟩
      · obtain ⟨rest', hrest, rfl⟩ := Option.map_eq_some_iff.mp h
        obtain ⟨before, a, after, hitems, ha, hfirst, hitems'⟩ := ih hrest
        refine ⟨b :: before, a, after, by simp [hitems], ha, ?_, by simp [hitems']⟩
        intro c hc
        rcases List.mem_cons.mp hc with rfl | hc
        · simpa using hp
        · exact hfirst c hc

theorem release_eq_none {table : SlotTable α size} :
    table.release p = none ↔ ∀ a ∈ table.items, p a = false := by
  have hnone := vacate_eq_none p table.slots
  unfold release items
  split
  case h_1 h => simp [← hnone, h]
  case h_2 h => simp [← hnone, h]

theorem release_eq_some {table table' : SlotTable α size} (h : table.release p = some table') :
    ∃ before a after, table.items = before ++ a :: after ∧ p a = true ∧
      (∀ b ∈ before, p b = false) ∧ table'.items = before ++ after := by
  unfold release at h
  split at h
  case h_1 => cases h
  case h_2 hvacate =>
    cases h
    exact vacate_eq_some hvacate

-- ----------------------------------------------------------------------------
-- Searching
-- ----------------------------------------------------------------------------

section
variable [DecidableEq κ] {key : α → κ} {table table' : SlotTable α size}

theorem lookup_between {before after : List α}
    (hnew : KeyedList.lookup key (before ++ after) (key a) = none) (k : κ) :
    KeyedList.lookup key (before ++ a :: after) k =
      if key a = k then some a else KeyedList.lookup key (before ++ after) k := by
  rw [KeyedList.lookup_append, Option.or_eq_none_iff] at hnew
  rw [KeyedList.lookup_append, KeyedList.lookup_append, KeyedList.lookup_cons]
  split_ifs with hkey
  · rw [← hkey, hnew.1]
    rfl
  · rfl

theorem search_store (h : table.store a = some table') (hnew : table.search key (key a) = none)
    (k : κ) : table'.search key k = if key a = k then some a else table.search key k := by
  obtain ⟨before, after, hitems, hitems'⟩ := store_eq_some h
  unfold search at hnew ⊢
  rw [hitems] at hnew ⊢
  rw [hitems', lookup_between hnew]

theorem items_store_perm (h : table.store a = some table') :
    table'.items.Perm (a :: table.items) := by
  obtain ⟨before, after, hitems, hitems'⟩ := store_eq_some h
  rw [hitems, hitems']
  exact List.perm_middle

theorem items_release_perm (h : table.release (fun a => decide (key a = k)) = some table') :
    ∃ a, key a = k ∧ table.items.Perm (a :: table'.items) := by
  obtain ⟨before, a, after, hitems, hkey, -, hitems'⟩ := release_eq_some h
  refine ⟨a, of_decide_eq_true hkey, ?_⟩
  rw [hitems, hitems']
  exact List.perm_middle

theorem search_release (h : table.release (fun a => decide (key a = k)) = some table')
    (hdistinct : (table.items.map key).Nodup) (k' : κ) :
    table'.search key k' = if k = k' then none else table.search key k' := by
  obtain ⟨before, a, after, hitems, hkey, -, hitems'⟩ := release_eq_some h
  obtain rfl := of_decide_eq_true hkey
  have hnew : KeyedList.lookup key (before ++ after) (key a) = none := by
    rw [hitems, (List.perm_middle.map key).nodup_iff, List.map_cons, List.nodup_cons] at hdistinct
    refine KeyedList.lookup_eq_none.mpr fun b hb heq => hdistinct.1 ?_
    exact heq ▸ List.mem_map_of_mem hb
  unfold search
  rw [hitems, hitems', lookup_between hnew]
  split_ifs with heq
  · exact heq ▸ hnew
  · rfl

theorem release_eq_none_iff :
    table.release (fun a => decide (key a = k)) = none ↔ table.search key k = none := by
  rw [release_eq_none, search, KeyedList.lookup_eq_none]
  simp

end

end SlotTable
