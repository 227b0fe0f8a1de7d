import Mathlib.Data.Finmap
import Mathlib.Data.List.Infix
import Roole.Common
import Roole.Lib.Runs
import Roole.Lib.SlotTable

/-!
# The service registry

For every service type a table of sixteen slots. A name is compared in full with
the stored ones and cut to its first 63 bytes when it is stored. The map that the
registry stands for has a finite map from names to pointers for every type.
-/

namespace Roole

inductive ServiceType
  | nodeState
  | rpcServer
  | eventBus
  | metrics
  | dagCatalog
  | clusterView
  | peerPool
  | executorPool
  /-- Any number from `SERVICE_TYPE_MAX` on. -/
  | max
  deriving DecidableEq, Repr

def maxServicesPerType : Nat := 16
def maxServiceName : Nat := 64

structure ServiceEntry (α : Type*) where
  name : List UInt8
  servicePtr : α

/-- The entries that are active; nothing reads what an inactive one holds. -/
structure ServiceRegistry (α : Type*) where
  services : ServiceType → SlotTable (ServiceEntry α) maxServicesPerType

namespace ServiceRegistry

variable {α : Type*}

def create : ServiceRegistry α where
  services _ := SlotTable.empty maxServicesPerType

def register (registry : ServiceRegistry α) (type : ServiceType) (name : Option (List UInt8))
    (servicePtr : Option α) : ServiceRegistry α × Int :=
  match name, servicePtr with
  | some name, some servicePtr =>
    if type = .max then (registry, -1)
    else
      match (registry.services type).search ServiceEntry.name (cString name) with
      | some _ => (registry, -1)
      | none =>
        match (registry.services type).store ⟨safeStrncpy name maxServiceName, servicePtr⟩ with
        | none => (registry, -1)
        | some table => ({ services := Function.update registry.services type table }, 0)
  | _, _ => (registry, -1)

def unregister (registry : ServiceRegistry α) (type : ServiceType) (name : Option (List UInt8)) :
    ServiceRegistry α × Int :=
  match name with
  | some name =>
    if type = .max then (registry, -1)
    else
      match (registry.services type).release fun entry => decide (entry.name = cString name) with
      | some table => ({ services := Function.update registry.services type table }, 0)
      | none => (registry, -1)
  | none => (registry, -1)

def get (registry : ServiceRegistry α) (type : ServiceType) (name : Option (List UInt8)) :
    Option α :=
  match name with
  | some name =>
    if type = .max then none
    else
      ((registry.services type).search ServiceEntry.name (cString name)).map ServiceEntry.servicePtr
  | none => none

end ServiceRegistry

inductive ServiceCall (α : Type*)
  | register (type : ServiceType) (name : Option (List UInt8)) (servicePtr : Option α)
  | unregister (type : ServiceType) (name : Option (List UInt8))
  deriving DecidableEq

def ServiceRegistry.call (registry : ServiceRegistry α) : ServiceCall α → ServiceRegistry α
  | .register type name servicePtr => (registry.register type name servicePtr).1
  | .unregister type name => (registry.unregister type name).1

-- ----------------------------------------------------------------------------
-- The map that the registry stands for
-- ----------------------------------------------------------------------------

abbrev ServiceNames (α : Type*) := Finmap fun _ : List UInt8 => α

abbrev ServiceMap (α : Type*) := ServiceType → ServiceNames α

namespace ServiceMap

variable {α : Type*}

def empty : ServiceMap α := fun _ => ∅

/-- A new name is added while its type has fewer than sixteen; what is no type has
no names. -/
def register (map : ServiceMap α) (type : ServiceType) (name : Option (List UInt8))
    (servicePtr : Option α) : ServiceMap α × Int :=
  match name, servicePtr with
  | some name, some servicePtr =>
    if type ≠ .max ∧ cString name ∉ map type ∧ (map type).keys.card < maxServicesPerType then
      (Function.update map type ((map type).insert (cString name) servicePtr), 0)
    else (map, -1)
  | _, _ => (map, -1)

def unregister (map : ServiceMap α) (type : ServiceType) (name : Option (List UInt8)) :
    ServiceMap α × Int :=
  match name with
  | some name =>
    if cString name ∈ map type then
      (Function.update map type ((map type).erase (cString name)), 0)
    else (map, -1)
  | none => (map, -1)

def get (map : ServiceMap α) (type : ServiceType) (name : Option (List UInt8)) : Option α :=
  match name with
  | some name => (map type).lookup (cString name)
  | none => none

def call (map : ServiceMap α) : ServiceCall α → ServiceMap α
  | .register type name servicePtr => (map.register type name servicePtr).1
  | .unregister type name => (map.unregister type name).1

end ServiceMap

/-- Whatever is called next returns what the map says, and no type has more
names than slots. -/
structure AnswersAsMap (registry : ServiceRegistry α) (map : ServiceMap α) : Prop where
  register : ∀ type name servicePtr,
    (registry.register type name servicePtr).2 = (map.register type name servicePtr).2
  unregister : ∀ type name, (registry.unregister type name).2 = (map.unregister type name).2
  get : ∀ type name, registry.get type name = map.get type name
  bounded : ∀ type, (map type).keys.card ≤ maxServicesPerType

-- ----------------------------------------------------------------------------
-- Tables and the names they hold
-- ----------------------------------------------------------------------------

theorem keys_insert (names : ServiceNames α) (name : List UInt8) (servicePtr : α) :
    (names.insert name servicePtr).keys = insert name names.keys := by
  ext other
  simp [Finmap.mem_keys]

structure HoldsNames (table : SlotTable (ServiceEntry α) maxServicesPerType)
    (names : ServiceNames α) : Prop where
  search : ∀ name,
    (table.search ServiceEntry.name name).map ServiceEntry.servicePtr = names.lookup name
  count : table.items.length = names.keys.card
  distinct : (table.items.map ServiceEntry.name).Nodup
  short : ∀ entry ∈ table.items, entry.name.length < maxServiceName

namespace HoldsNames

variable {table table' : SlotTable (ServiceEntry α) maxServicesPerType} {names : ServiceNames α}

theorem empty : HoldsNames (SlotTable.empty maxServicesPerType) (∅ : ServiceNames α) where
  search name := by simp [SlotTable.search]
  count := by simp
  distinct := by simp
  short := by simp

theorem search_eq_none (h : HoldsNames table names) (name : List UInt8) :
    table.search ServiceEntry.name name = none ↔ name ∉ names := by
  rw [← Finmap.lookup_eq_none, ← h.search, Option.map_eq_none_iff]

theorem store (h : HoldsNames table names) (hnew : name ∉ names)
    (hlen : name.length < maxServiceName) (hstore : table.store ⟨name, servicePtr⟩ = some table') :
    HoldsNames table' (names.insert name servicePtr) := by
  have hperm := SlotTable.items_store_perm hstore
  have habsent : table.search ServiceEntry.name name = none := (h.search_eq_none name).mpr hnew
  constructor
  case search =>
    intro other
    rw [SlotTable.search_store hstore habsent]
    split_ifs with heq
    · rw [← heq, Finmap.lookup_insert]
      rfl
    · rw [h.search, Finmap.lookup_insert_of_ne _ (Ne.symm heq)]
  case count =>
    rw [hperm.length_eq, List.length_cons, h.count, keys_insert, Finset.card_insert_of_notMem]
    exact fun hmem => hnew (Finmap.mem_keys.mp hmem)
  case distinct =>
    rw [(hperm.map _).nodup_iff, List.map_cons, List.nodup_cons]
    refine ⟨fun hmem => ?_, h.distinct⟩
    obtain ⟨entry, hentry, hname⟩ := List.mem_map.mp hmem
    exact KeyedList.lookup_eq_none.mp habsent entry hentry hname
  case short =>
    intro entry hentry
    rcases List.mem_cons.mp (hperm.mem_iff.mp hentry) with rfl | hentry
    · exact hlen
    · exact h.short entry hentry

theorem release (h : HoldsNames table names) (hmem : name ∈ names)
    (hrelease : table.release (fun entry => decide (entry.name = name)) = some table') :
    HoldsNames table' (names.erase name) := by
  obtain ⟨entry, hname, hperm⟩ := SlotTable.items_release_perm hrelease
  constructor
  case search =>
    intro other
    rw [SlotTable.search_release hrelease h.distinct]
    split_ifs with heq
    · rw [← heq, Finmap.lookup_erase]
      rfl
    · rw [h.search, Finmap.lookup_erase_ne (Ne.symm heq)]
  case count =>
    have hlength := hperm.length_eq
    rw [Finmap.keys_erase, Finset.card_erase_of_mem (Finmap.mem_keys.mpr hmem), ← h.count, hlength]
    rfl
  case distinct =>
    have hdistinct := h.distinct
    rw [(hperm.map _).nodup_iff] at hdistinct
    exact hdistinct.of_cons
  case short =>
    intro other hother
    exact h.short other (hperm.mem_iff.mpr (List.mem_cons_of_mem _ hother))

theorem full_iff (h : HoldsNames table names) (entry : ServiceEntry α) :
    table.store entry = none ↔ ¬names.keys.card < maxServicesPerType := by
  have hle := table.length_items_le
  rw [SlotTable.store_eq_none, ← h.count]
  omega

theorem search_long (h : HoldsNames table names) (hlong : maxServiceName ≤ name.length) :
    table.search ServiceEntry.name name = none := by
  refine KeyedList.lookup_eq_none.mpr fun entry hentry hname => ?_
  have hshort := h.short entry hentry
  rw [hname] at hshort
  omega

theorem search_cut (h : HoldsNames table names) (hlong : maxServiceName ≤ strlen name)
    (hstore : table.store ⟨safeStrncpy name maxServiceName, servicePtr⟩ = some table') :
    table'.search ServiceEntry.name (cString name) = none := by
  have hcut : (safeStrncpy name maxServiceName).length < maxServiceName :=
    Nat.lt_of_le_of_lt (List.length_take_le _ _) (by decide)
  have hne : safeStrncpy name maxServiceName ≠ cString name := by
    intro heq
    rw [heq] at hcut
    exact absurd hlong (Nat.not_le.mpr hcut)
  refine KeyedList.lookup_eq_none.mpr fun entry hentry => ?_
  rcases List.mem_cons.mp ((SlotTable.items_store_perm hstore).mem_iff.mp hentry) with rfl | hold
  · exact hne
  · exact KeyedList.lookup_eq_none.mp (h.search_long hlong) entry hold

end HoldsNames

-- ----------------------------------------------------------------------------
-- Calls
-- ----------------------------------------------------------------------------

structure Simulates (registry : ServiceRegistry α) (map : ServiceMap α) : Prop where
  holds : ∀ type, HoldsNames (registry.services type) (map type)
  max : map .max = ∅

/-- No name that is cut is given a slot. -/
def NameFits (registry : ServiceRegistry α) : ServiceCall α → Prop
  | .register type (some name) (some _) =>
    type = .max ∨ strlen name < maxServiceName ∨
      (registry.services type).items.length = maxServicesPerType
  | _ => True

section
variable {registry : ServiceRegistry α} {map : ServiceMap α}

/-- The three ways a registration ends, each seen in the map. -/
theorem register_cases (h : Simulates registry map) (type : ServiceType) (name : List UInt8)
    (servicePtr : α) :
    ((type = .max ∨ cString name ∈ map type ∨
        (registry.services type).items.length = maxServicesPerType) ∧
      registry.register type (some name) (some servicePtr) = (registry, -1) ∧
      map.register type (some name) (some servicePtr) = (map, -1)) ∨
    ∃ table, type ≠ .max ∧ cString name ∉ map type ∧
      (registry.services type).store ⟨safeStrncpy name maxServiceName, servicePtr⟩ = some table ∧
      registry.register type (some name) (some servicePtr) =
        (⟨Function.update registry.services type table⟩, 0) ∧
      map.register type (some name) (some servicePtr) =
        (Function.update map type ((map type).insert (cString name) servicePtr), 0) := by
  have hnone := (h.holds type).search_eq_none (cString name)
  have hfull := (h.holds type).full_iff ⟨safeStrncpy name maxServiceName, servicePtr⟩
  unfold ServiceRegistry.register ServiceMap.register
  dsimp only
  by_cases htype : type = .max
  · rw [if_pos htype, if_neg fun hfree => hfree.1 htype]
    exact .inl ⟨.inl htype, rfl, rfl⟩
  rw [if_neg htype]
  cases hsearch : (registry.services type).search ServiceEntry.name (cString name) with
  | some entry =>
    have hmem : cString name ∈ map type := by
      by_contra habsent
      rw [hnone.mpr habsent] at hsearch
      cases hsearch
    rw [if_neg fun hfree => hfree.2.1 hmem]
    exact .inl ⟨.inr (.inl hmem), rfl, rfl⟩
  | none =>
    have habsent := hnone.mp hsearch
    cases hstore : (registry.services type).store ⟨safeStrncpy name maxServiceName, servicePtr⟩ with
    | none =>
      rw [if_neg fun hfree => hfull.mp hstore hfree.2.2]
      exact .inl ⟨.inr (.inr (SlotTable.store_eq_none.mp hstore)), rfl, rfl⟩
    | some table =>
      have hroom : (map type).keys.card < maxServicesPerType := by
        by_contra hcard
        rw [hfull.mpr hcard] at hstore
        cases hstore
      rw [if_pos ⟨htype, habsent, hroom⟩]
      exact .inr ⟨table, htype, habsent, rfl, rfl, rfl⟩

theorem unregister_cases (h : Simulates registry map) (type : ServiceType) (name : List UInt8) :
    (registry.unregister type (some name) = (registry, -1) ∧
      map.unregister type (some name) = (map, -1)) ∨
    ∃ table, type ≠ .max ∧ cString name ∈ map type ∧
      (registry.services type).release (fun entry => decide (entry.name = cString name)) =
        some table ∧
      registry.unregister type (some name) =
        (⟨Function.update registry.services type table⟩, 0) ∧
      map.unregister type (some name) =
        (Function.update map type ((map type).erase (cString name)), 0) := by
  have hnone := (h.holds type).search_eq_none (cString name)
  rw [← SlotTable.release_eq_none_iff] at hnone
  unfold ServiceRegistry.unregister ServiceMap.unregister
  dsimp only
  by_cases htype : type = .max
  · have habsent : cString name ∉ map type := by
      rw [htype, h.max]
      exact Finmap.notMem_empty
    rw [if_pos htype, if_neg habsent]
    exact .inl ⟨rfl, rfl⟩
  rw [if_neg htype]
  cases hrelease : (registry.services type).release
      fun entry => decide (entry.name = cString name) with
  | none =>
    rw [if_neg (hnone.mp hrelease)]
    exact .inl ⟨rfl, rfl⟩
  | some table =>
    have hmem : cString name ∈ map type := by
      by_contra habsent
      rw [hnone.mpr habsent] at hrelease
      cases hrelease
    rw [if_pos hmem]
    exact .inr ⟨table, htype, hmem, rfl, rfl, rfl⟩

theorem Simulates.get (h : Simulates registry map) (type : ServiceType)
    (name : Option (List UInt8)) : registry.get type name = map.get type name := by
  cases name with
  | none => rfl
  | some name =>
    unfold ServiceRegistry.get ServiceMap.get
    dsimp only
    split_ifs with htype
    · rw [htype, h.max]
      rfl
    · exact (h.holds type).search (cString name)

theorem Simulates.update (h : Simulates registry map) (htype : type ≠ .max)
    (htable : HoldsNames table names) :
    Simulates ⟨Function.update registry.services type table⟩
      (Function.update map type names) where
  holds other := by
    dsimp only
    by_cases heq : other = type
    · subst heq
      rw [Function.update_self, Function.update_self]
      exact htable
    · rw [Function.update_of_ne heq, Function.update_of_ne heq]
      exact h.holds other
  max := by
    rw [Function.update_of_ne htype.symm]
    exact h.max

theorem Simulates.answers (h : Simulates registry map) : AnswersAsMap registry map where
  register type name servicePtr := by
    cases name with
    | none => rfl
    | some name =>
      cases servicePtr with
      | none => rfl
      | some servicePtr =>
        rcases register_cases h type name servicePtr with
          ⟨-, hcode, hmap⟩ | ⟨table, -, -, -, hcode, hmap⟩
        · rw [hcode, hmap]
        · rw [hcode, hmap]
  unregister type name := by
    cases name with
    | none => rfl
    | some name =>
      rcases unregister_cases h type name with ⟨hcode, hmap⟩ | ⟨table, -, -, -, hcode, hmap⟩
      · rw [hcode, hmap]
      · rw [hcode, hmap]
  get := h.get
  bounded type := (h.holds type).count ▸ (registry.services type).length_items_le

theorem Simulates.call (h : Simulates registry map) (c : ServiceCall α)
    (hfits : NameFits registry c) : Simulates (registry.call c) (map.call c) := by
  cases c with
  | register type name servicePtr =>
    cases name with
    | none => exact h
    | some name =>
      cases servicePtr with
      | none => exact h
      | some servicePtr =>
        unfold ServiceRegistry.call ServiceMap.call
        dsimp only
        rcases register_cases h type name servicePtr with
          ⟨-, hcode, hmap⟩ | ⟨table, htype, hnew, hstore, hcode, hmap⟩
        · rw [hcode, hmap]
          exact h
        · rw [hcode, hmap]
          have hlen : strlen name < maxServiceName :=
            (hfits.resolve_left htype).resolve_right fun hfull => by
              rw [SlotTable.store_eq_none.mpr hfull] at hstore
              cases hstore
          have huncut : safeStrncpy name maxServiceName = cString name :=
            List.take_of_length_le (Nat.le_sub_one_of_lt hlen)
          rw [huncut] at hstore
          exact h.update htype ((h.holds type).store hnew hlen hstore)
  | unregister type name =>
    cases name with
    | none => exact h
    | some name =>
      unfold ServiceRegistry.call ServiceMap.call
      dsimp only
      rcases unregister_cases h type name with
        ⟨hcode, hmap⟩ | ⟨table, htype, hmem, hrelease, hcode, hmap⟩
      · rw [hcode, hmap]
        exact h
      · rw [hcode, hmap]
        exact h.update htype ((h.holds type).release hmem hrelease)

theorem Simulates.fits (h : Simulates registry map) (c : ServiceCall α)
    (hanswers : AnswersAsMap (registry.call c) (map.call c)) : NameFits registry c := by
  cases c with
  | unregister type name => trivial
  | register type name servicePtr =>
    cases name with
    | none => trivial
    | some name =>
      cases servicePtr with
      | none => trivial
      | some servicePtr =>
        by_contra hcut
        obtain ⟨htype, hcut⟩ := not_or.mp hcut
        obtain ⟨hlong, hroom⟩ := not_or.mp hcut
        have hlong : maxServiceName ≤ strlen name := Nat.le_of_not_lt hlong
        have hget := hanswers.get type (some name)
        unfold ServiceRegistry.call ServiceMap.call at hget
        dsimp only at hget
        rcases register_cases h type name servicePtr with
          ⟨hmax | hmem | hfull, -⟩ | ⟨table, -, -, hstore, hcode, hmap⟩
        · exact htype hmax
        · exact ((h.holds type).search_eq_none _).mp ((h.holds type).search_long hlong) hmem
        · exact hroom hfull
        · rw [hcode, hmap] at hget
          unfold ServiceRegistry.get ServiceMap.get at hget
          dsimp only at hget
          rw [if_neg htype, Function.update_self, Function.update_self,
            (h.holds type).search_cut hlong hstore, Finmap.lookup_insert] at hget
          cases hget

end

-- ----------------------------------------------------------------------------
-- Runs
-- ----------------------------------------------------------------------------

/-- The registry is the map as long as no name of 64 bytes or more is given a
slot, and no longer. -/
theorem serviceRegistry_asMap_iff (calls : List (ServiceCall α)) :
    (∀ i, AnswersAsMap (Runs.run ServiceRegistry.call .create (calls.take i))
      (Runs.run ServiceMap.call .empty (calls.take i))) ↔
      Runs.Meets ServiceRegistry.call NameFits .create calls := by
  have hstart : Simulates (ServiceRegistry.create : ServiceRegistry α) .empty :=
    ⟨fun _ => HoldsNames.empty, rfl⟩
  exact Runs.observed_iff (fun _ _ h => h.answers) (fun _ _ c h hfits => h.call c hfits)
    (fun _ _ c h hanswers => h.fits c hanswers) hstart calls

/-- A name of 64 bytes is gone once it is registered. -/
theorem serviceRegistry_longName :
    let name := List.replicate 64 97
    let calls := [ServiceCall.register .metrics (some name) (some 7)]
    ¬AnswersAsMap (Runs.run ServiceRegistry.call .create calls)
      (Runs.run ServiceMap.call .empty calls) := by
  intro name calls h
  have hget := h.get .metrics (some name)
  revert hget
  decide

end Roole
