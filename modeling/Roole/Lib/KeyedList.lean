import Mathlib.Data.List.Basic

/-!
# Lists searched by a key

Arrays whose entries are found by scanning for the first one with a given key,
and changed in place at that entry.
-/

namespace KeyedList

variable {α κ : Type*} [DecidableEq κ] (key : α → κ)

def lookup (l : List α) (k : κ) : Option α := l.find? fun a => decide (key a = k)

def modify (k : κ) (f : α → α) : List α → List α
  | [] => []
  | a :: rest => if key a = k then f a :: rest else a :: modify k f rest

def remove (k : κ) : List α → List α
  | [] => []
  | a :: rest => if key a = k then rest else a :: remove k rest

variable {key}

@[simp] theorem lookup_nil (k : κ) : lookup key [] k = none := rfl

theorem lookup_cons (a : α) (rest : List α) (k : κ) :
    lookup key (a :: rest) k = if key a = k then some a else lookup key rest k := by
  simp only [lookup, List.find?_cons]
  split <;> simp_all

theorem lookup_key (h : lookup key l k = some a) : key a = k := by
  simpa using List.find?_some h

theorem lookup_mem (h : lookup key l k = some a) : a ∈ l := List.mem_of_find?_eq_some h

theorem lookup_eq_none : lookup key l k = none ↔ ∀ a ∈ l, key a ≠ k := by
  simp [lookup]

theorem lookup_of_mem (hnodup : (l.map key).Nodup) (h : a ∈ l) : lookup key l (key a) = some a := by
  induction l with
  | nil => cases h
  | cons b rest ih =>
    rw [List.map_cons, List.nodup_cons] at hnodup
    rw [lookup_cons]
    cases h with
    | head => simp
    | tail _ h =>
      have hne : key b ≠ key a := fun heq => hnodup.1 (heq ▸ List.mem_map_of_mem h)
      simp [hne, ih hnodup.2 h]

theorem lookup_append (l l' : List α) (k : κ) :
    lookup key (l ++ l') k = (lookup key l k).or (lookup key l' k) := by
  simp [lookup, List.find?_append]

theorem nodup_map_concat (hnodup : (l.map key).Nodup) (hnew : lookup key l (key a) = none) :
    ((l ++ [a]).map key).Nodup := by
  rw [lookup_eq_none] at hnew
  rw [List.map_append, List.map_singleton]
  refine List.nodup_append.mpr ⟨hnodup, by simp, ?_⟩
  intro k hk other hother heq
  obtain ⟨existing, hmem, rfl⟩ := List.mem_map.mp hk
  exact hnew existing hmem (heq.trans (List.mem_singleton.mp hother))

@[simp] theorem modify_length (k : κ) (f : α → α) (l : List α) :
    (modify key k f l).length = l.length := by
  induction l with
  | nil => rfl
  | cons a rest ih =>
    simp only [modify]
    split <;> simp [ih]

theorem mem_modify (h : b ∈ modify key k f l) : b ∈ l ∨ ∃ a ∈ l, key a = k ∧ b = f a := by
  induction l with
  | nil => cases h
  | cons a rest ih =>
    simp only [modify] at h
    split_ifs at h with hkey
    · rcases List.mem_cons.mp h with rfl | hmem
      · exact .inr ⟨a, List.mem_cons_self, hkey, rfl⟩
      · exact .inl (List.mem_cons_of_mem _ hmem)
    · rcases List.mem_cons.mp h with rfl | hmem
      · exact .inl List.mem_cons_self
      · rcases ih hmem with hold | ⟨c, hc, hchanged⟩
        · exact .inl (List.mem_cons_of_mem _ hold)
        · exact .inr ⟨c, List.mem_cons_of_mem _ hc, hchanged⟩

theorem modify_append (h : lookup key l k = some a) (l' : List α) :
    modify key k f (l ++ l') = modify key k f l ++ l' := by
  induction l with
  | nil => cases h
  | cons b rest ih =>
    rw [lookup_cons] at h
    simp only [List.cons_append, modify]
    split_ifs at h ⊢ with hkey
    · rfl
    · rw [ih h, List.cons_append]

theorem lookup_modify (hf : ∀ a, key a = k → key (f a) = k) (l : List α) :
    lookup key (modify key k f l) k = (lookup key l k).map f := by
  induction l with
  | nil => rfl
  | cons a rest ih =>
    by_cases h : key a = k
    · simp [modify, lookup_cons, h, hf a h]
    · simp [modify, lookup_cons, h, ih]

theorem lookup_modify_of_ne (hf : ∀ a, key a = k → key (f a) = k) (hne : k' ≠ k) (l : List α) :
    lookup key (modify key k f l) k' = lookup key l k' := by
  induction l with
  | nil => rfl
  | cons a rest ih =>
    by_cases h : key a = k
    · simp [modify, lookup_cons, h, hf a h, hne.symm]
    · simp [modify, lookup_cons, h, ih]

theorem modify_of_first (hfirst : ∀ b ∈ before, key b ≠ k) (hkey : key a = k) (f : α → α)
    (after : List α) : modify key k f (before ++ a :: after) = before ++ f a :: after := by
  induction before with
  | nil => exact if_pos hkey
  | cons b rest ih =>
    have hb := hfirst b List.mem_cons_self
    rw [List.cons_append, modify, if_neg hb, ih fun c hc => hfirst c (List.mem_cons_of_mem b hc)]
    rfl

theorem modify_eq_set (h : lookup key l k = some a) :
    ∃ i, l[i]? = some a ∧ ∀ f, modify key k f l = l.set i (f a) := by
  induction l with
  | nil => cases h
  | cons b rest ih =>
    rw [lookup_cons] at h
    by_cases hkey : key b = k
    · rw [if_pos hkey, Option.some.injEq] at h
      subst h
      exact ⟨0, rfl, fun f => by simp [modify, hkey]⟩
    · rw [if_neg hkey] at h
      obtain ⟨i, hget, hset⟩ := ih h
      exact ⟨i + 1, hget, fun f => by simp [modify, hkey, hset]⟩


theorem modify_of_none (h : ∀ a ∈ l, key a ≠ k) (f : α → α) : modify key k f l = l := by
  induction l with
  | nil => rfl
  | cons a rest ih =>
    rw [modify, if_neg (h a List.mem_cons_self), ih fun b hb => h b (List.mem_cons_of_mem a hb)]

theorem remove_of_first (hfirst : ∀ b ∈ before, key b ≠ k) (hkey : key a = k) (after : List α) :
    remove key k (before ++ a :: after) = before ++ after := by
  induction before with
  | nil => exact if_pos hkey
  | cons b rest ih =>
    have hb := hfirst b List.mem_cons_self
    rw [List.cons_append, remove, if_neg hb, ih fun c hc => hfirst c (List.mem_cons_of_mem b hc)]
    rfl

theorem remove_sublist (k : κ) (l : List α) : List.Sublist (remove key k l) l := by
  induction l with
  | nil => exact List.Sublist.slnil
  | cons a rest ih =>
    unfold remove
    split_ifs
    · exact List.sublist_cons_self a rest
    · exact ih.cons_cons a

theorem remove_eq_filter (hnodup : (l.map key).Nodup) (k : κ) :
    remove key k l = l.filter fun a => key a ≠ k := by
  induction l with
  | nil => rfl
  | cons a rest ih =>
    rw [List.map_cons, List.nodup_cons] at hnodup
    by_cases hkey : key a = k
    · have hrest : ∀ b ∈ rest, key b ≠ k := fun b hb heq =>
        hnodup.1 (hkey.trans heq.symm ▸ List.mem_map_of_mem hb)
      rw [remove, if_pos hkey, List.filter_cons_of_neg (by simpa using hkey)]
      exact (List.filter_eq_self.mpr fun b hb => by simpa using hrest b hb).symm
    · simp [remove, hkey, ih hnodup.2]

theorem filter_modify (hf : ∀ a, key a = k → key (f a) = k) (l : List α) :
    ((modify key k f l).filter fun a => key a ≠ k) = l.filter fun a => key a ≠ k := by
  induction l with
  | nil => rfl
  | cons a rest ih =>
    by_cases h : key a = k
    · simp [modify, h, hf a h]
    · simp only [modify, if_neg h, List.filter_cons, ih]

theorem map_key_modify (hf : ∀ a, key a = k → key (f a) = k) (l : List α) :
    (modify key k f l).map key = l.map key := by
  induction l with
  | nil => rfl
  | cons a rest ih =>
    by_cases h : key a = k
    · simp [modify, h, hf a h]
    · simp [modify, h, ih]

-- ----------------------------------------------------------------------------
-- Another key of the same value
-- ----------------------------------------------------------------------------

variable {β : Type*} {key' : β → κ} {g : α → β}

theorem lookup_map (hg : ∀ a, key' (g a) = key a) (l : List α) (k : κ) :
    lookup key' (l.map g) k = (lookup key l k).map g := by
  induction l with
  | nil => rfl
  | cons a rest ih =>
    rw [List.map_cons, lookup_cons, lookup_cons, hg, ih]
    split_ifs <;> rfl

theorem modify_map (hg : ∀ a, key' (g a) = key a) {f : α → α} {f' : β → β}
    (hf : ∀ a, g (f a) = f' (g a)) (k : κ) (l : List α) :
    (modify key k f l).map g = modify key' k f' (l.map g) := by
  induction l with
  | nil => rfl
  | cons a rest ih =>
    rw [List.map_cons, modify, modify, hg]
    split_ifs
    · rw [List.map_cons, hf]
    · rw [List.map_cons, ih]

-- ----------------------------------------------------------------------------
-- Slots with a key while they are in use
-- ----------------------------------------------------------------------------

section

variable {slotKey : α → Option κ}

theorem lookup_slot_iff (hnodup : (l.filterMap slotKey).Nodup) :
    lookup slotKey l (some k) = some a ↔ a ∈ l ∧ slotKey a = some k := by
  refine ⟨fun h => ⟨lookup_mem h, lookup_key h⟩, fun h => ?_⟩
  induction l with
  | nil => cases h.1
  | cons b rest ih =>
    obtain ⟨hmem, hkey⟩ := h
    rw [lookup_cons]
    rcases List.mem_cons.mp hmem with rfl | hmem
    · exact if_pos hkey
    · cases hb : slotKey b with
      | none =>
        rw [List.filterMap_cons_none hb] at hnodup
        simpa using ih hnodup ⟨hmem, hkey⟩
      | some k' =>
        rw [List.filterMap_cons_some hb, List.nodup_cons] at hnodup
        have hne : k' ≠ k := by
          rintro rfl
          exact hnodup.1 (List.mem_filterMap.mpr ⟨a, hmem, hkey⟩)
        simpa [hne] using ih hnodup.2 ⟨hmem, hkey⟩

theorem modify_slot_eq_map (hnodup : (l.filterMap slotKey).Nodup) (k : κ) (f : α → α) :
    modify slotKey (some k) f l = l.map fun a => if slotKey a = some k then f a else a := by
  induction l with
  | nil => rfl
  | cons a rest ih =>
    by_cases hkey : slotKey a = some k
    · rw [List.filterMap_cons_some hkey, List.nodup_cons] at hnodup
      have hrest : ∀ b ∈ rest, slotKey b ≠ some k := fun b hb heq =>
        hnodup.1 (List.mem_filterMap.mpr ⟨b, hb, heq⟩)
      have hsame : (rest.map fun b => if slotKey b = some k then f b else b) = rest :=
        (List.map_congr_left fun b hb => if_neg (hrest b hb)).trans (List.map_id' rest)
      simp [modify, hkey, hsame]
    · have hrest : (rest.filterMap slotKey).Nodup := by
        cases hnone : slotKey a with
        | none => rwa [List.filterMap_cons_none hnone] at hnodup
        | some k' =>
          rw [List.filterMap_cons_some hnone] at hnodup
          exact (List.nodup_cons.mp hnodup).2
      simp [modify, hkey, ih hrest]

variable {slotMap : α → α}

omit [DecidableEq κ] in
theorem filterMap_map_sublist
    (hmap : ∀ a, slotKey (slotMap a) = slotKey a ∨ slotKey (slotMap a) = none) (l : List α) :
    List.Sublist ((l.map slotMap).filterMap slotKey) (l.filterMap slotKey) := by
  induction l with
  | nil => exact .slnil
  | cons a rest ih =>
    rw [List.map_cons, List.filterMap_cons, List.filterMap_cons]
    rcases hmap a with hkey | hkey
    · rw [hkey]
      cases slotKey a with
      | none => exact ih
      | some k => exact ih.cons_cons k
    · rw [hkey]
      cases slotKey a with
      | none => exact ih
      | some k => exact ih.cons k

theorem lookup_map_slot (hnodup : (l.filterMap slotKey).Nodup)
    (hmap : ∀ a, slotKey (slotMap a) = slotKey a ∨ slotKey (slotMap a) = none) (k : κ) :
    lookup slotKey (l.map slotMap) (some k) =
      ((lookup slotKey l (some k)).map slotMap).filter fun a => decide (slotKey a = some k) := by
  have hnodup' := hnodup.sublist (filterMap_map_sublist hmap l)
  ext b
  rw [lookup_slot_iff hnodup']
  simp only [List.mem_map, Option.filter_eq_some_iff, Option.map_eq_some_iff, decide_eq_true_eq]
  constructor
  · rintro ⟨⟨a, hmem, rfl⟩, hkey⟩
    refine ⟨⟨a, (lookup_slot_iff hnodup).mpr ⟨hmem, ?_⟩, rfl⟩, hkey⟩
    rcases hmap a with hsame | hnone
    · rw [← hsame, hkey]
    · rw [hnone] at hkey
      cases hkey
  · rintro ⟨⟨a, hlookup, rfl⟩, hkey⟩
    exact ⟨⟨a, lookup_mem hlookup, rfl⟩, hkey⟩

end

end KeyedList
