import Roole.Dag.Catalog
import Roole.Lib.Heap
import Roole.Lib.Runs
import Roole.Lib.SlotArray

/-!
# The array of the DAGs and its memory

`dag_catalog.c` keeps the DAGs in an array and the configurations of their steps
in blocks of their own. An addition or an update copies the configurations it is
given; an update or a removal frees those of the DAG that goes. As long as every
configuration that it accepts is copied, from a block that it has not freed
before, the blocks belong to one step each, and every operation does to the array
what the operation of the catalog does to its DAGs.
-/

namespace Roole

open KeyedList SlotArray

abbrev ByteHeap := Heap (List UInt8)

/-- A `dag_step_t`; its configuration is a pointer, or NULL. -/
structure StepSlot where
  stepId : UInt32
  name : List UInt8
  functionName : List UInt8
  config : Option Nat
  configLen : Nat
  dependencies : List UInt32
  dependencyCount : Nat
  timeoutMs : UInt32
  maxRetries : UInt8
  deriving DecidableEq, Repr

/-- A `dag_t` with the steps that `step_count` counts. -/
structure DagSlot where
  dagId : RuleId
  name : List UInt8
  version : UInt64
  steps : List StepSlot
  createdAtMs : UInt64
  updatedAtMs : UInt64
  steps_le : steps.length ≤ maxDagSteps
  deriving DecidableEq

def DagSlot.zero : DagSlot where
  dagId := 0
  name := []
  version := 0
  steps := []
  createdAtMs := 0
  updatedAtMs := 0
  steps_le := Nat.zero_le _

/-- The step, with the configuration that its pointer leads to. -/
def StepSlot.value (heap : ByteHeap) (slot : StepSlot) : DagStep where
  stepId := slot.stepId
  name := slot.name
  functionName := slot.functionName
  configData := (slot.config.bind heap.read).map (·.take slot.configLen)
  configLen := slot.configLen
  dependencies := slot.dependencies
  dependencyCount := slot.dependencyCount
  timeoutMs := slot.timeoutMs
  maxRetries := slot.maxRetries

def DagSlot.value (heap : ByteHeap) (slot : DagSlot) : Dag where
  dagId := slot.dagId
  name := slot.name
  version := slot.version
  steps := slot.steps.map (·.value heap)
  stepCount := slot.steps.length
  createdAtMs := slot.createdAtMs
  updatedAtMs := slot.updatedAtMs

@[simp] theorem DagSlot.value_dagId (heap : ByteHeap) (slot : DagSlot) :
    (slot.value heap).dagId = slot.dagId := rfl

def stepBlocks (steps : List StepSlot) : List Nat := steps.filterMap StepSlot.config

structure DagTable where
  dags : SlotArray DagSlot
  capacity : Nat
  hasCallback : Bool
  notified : List Nat

/-- One round of the loop that copies the configurations. -/
def copyConfig (allocator : Allocator (List UInt8)) (heap : ByteHeap) (step : StepSlot) :
    StepSlot × ByteHeap :=
  match step.config with
  | some block =>
    if step.configLen > 0 then
      let copy := allocator.pick heap step.configLen
      ({ step with config := some copy },
        heap.store copy (((heap.read block).getD []).take step.configLen))
    else (step, heap)
  | none => (step, heap)

def copyConfigs (allocator : Allocator (List UInt8)) : ByteHeap → List StepSlot →
    List StepSlot × ByteHeap
  | heap, [] => ([], heap)
  | heap, step :: rest =>
    let (copy, heap) := copyConfig allocator heap step
    let (copies, heap) := copyConfigs allocator heap rest
    (copy :: copies, heap)

def freeConfigs (heap : ByteHeap) (steps : List StepSlot) : ByteHeap :=
  (stepBlocks steps).foldl Heap.free heap

theorem copyConfigs_length (allocator : Allocator (List UInt8)) (heap : ByteHeap)
    (steps : List StepSlot) : (copyConfigs allocator heap steps).1.length = steps.length := by
  induction steps generalizing heap with
  | nil => rfl
  | cons step rest ih => simp [copyConfigs, ih]

def DagSlot.copy (allocator : Allocator (List UInt8)) (heap : ByteHeap) (dag : DagSlot) :
    DagSlot × ByteHeap :=
  ({ dag with
      steps := (copyConfigs allocator heap dag.steps).1
      steps_le := (copyConfigs_length allocator heap dag.steps).symm ▸ dag.steps_le },
    (copyConfigs allocator heap dag.steps).2)

namespace DagTable

def init (capacity : Nat) (hasCallback : Bool) : DagTable where
  dags := ⟨List.replicate capacity .zero, 0⟩
  capacity := capacity
  hasCallback := hasCallback
  notified := []

def items (table : DagTable) : List DagSlot := table.dags.items

def find (table : DagTable) (dagId : RuleId) : Option (Nat × DagSlot) :=
  table.dags.search DagSlot.dagId dagId

def notify (table : DagTable) : DagTable :=
  if table.hasCallback then { table with notified := table.notified ++ [table.dags.count] }
  else table

/-- `dag_catalog_add`, with every allocation succeeding. -/
def add (allocator : Allocator (List UInt8)) (heap : ByteHeap) (table : DagTable) (dag : DagSlot) :
    ResultStatus × ByteHeap × DagTable :=
  match table.find dag.dagId with
  | some _ => (.errExists, heap, table)
  | none =>
    if table.dags.count ≥ table.capacity then (.errFull, heap, table)
    else
      let (copy, heap) := dag.copy allocator heap
      (.ok, heap, { table with dags := table.dags.push copy }.notify)

def update (allocator : Allocator (List UInt8)) (now : UInt64) (heap : ByteHeap)
    (table : DagTable) (dag : DagSlot) : ResultStatus × ByteHeap × DagTable :=
  match table.find dag.dagId with
  | none => (.errNotfound, heap, table)
  | some (i, existing) =>
    let heap := freeConfigs heap existing.steps
    let (copy, heap) := dag.copy allocator heap
    (.ok, heap, { table with dags := table.dags.write i { copy with updatedAtMs := now } })

def remove (heap : ByteHeap) (table : DagTable) (dagId : RuleId) :
    ResultStatus × ByteHeap × DagTable :=
  match table.find dagId with
  | none => (.errNotfound, heap, table)
  | some (i, existing) =>
    let heap := freeConfigs heap existing.steps
    (.ok, heap, { table with dags := table.dags.removeAt i }.notify)

def get (table : DagTable) (dagId : RuleId) : Option DagSlot := (table.find dagId).map Prod.snd

def list (table : DagTable) (maxCount : Nat) : List RuleId :=
  (table.dags.slots.take (min table.dags.count maxCount)).map DagSlot.dagId

end DagTable

def DagCatalog.without (catalog : DagCatalog) (dagId : RuleId) : DagCatalog where
  dags := KeyedList.remove Dag.dagId dagId catalog.dags
  capacity := catalog.capacity
  nodup := catalog.nodup.sublist ((remove_sublist dagId catalog.dags).map Dag.dagId)
  length_le := (remove_sublist dagId catalog.dags).length_le.trans catalog.length_le

@[simp] theorem DagCatalog.append_dags (catalog : DagCatalog) (dag : Dag)
    (hnew : dagCatalogGet catalog dag.dagId = none)
    (hroom : catalog.dags.length < catalog.capacity) :
    (catalog.append dag hnew hroom).dags = catalog.dags ++ [dag] := rfl

@[simp] theorem DagCatalog.replace_dags (catalog : DagCatalog) (dag : Dag) :
    (catalog.replace dag).dags = modify Dag.dagId dag.dagId (fun _ => dag) catalog.dags := rfl

@[simp] theorem DagCatalog.without_dags (catalog : DagCatalog) (dagId : RuleId) :
    (catalog.without dagId).dags = KeyedList.remove Dag.dagId dagId catalog.dags := rfl

@[simp] theorem DagCatalog.append_capacity (catalog : DagCatalog) (dag : Dag)
    (hnew : dagCatalogGet catalog dag.dagId = none)
    (hroom : catalog.dags.length < catalog.capacity) :
    (catalog.append dag hnew hroom).capacity = catalog.capacity := rfl

@[simp] theorem DagCatalog.replace_capacity (catalog : DagCatalog) (dag : Dag) :
    (catalog.replace dag).capacity = catalog.capacity := rfl

@[simp] theorem DagCatalog.without_capacity (catalog : DagCatalog) (dagId : RuleId) :
    (catalog.without dagId).capacity = catalog.capacity := rfl

def dagCatalogRemove (catalog : DagCatalog) (dagId : RuleId) : ResultStatus × DagCatalog :=
  match dagCatalogGet catalog dagId with
  | none => (.errNotfound, catalog)
  | some _ => (.ok, catalog.without dagId)

-- ----------------------------------------------------------------------------
-- Blocks
-- ----------------------------------------------------------------------------

variable {heap heap' : ByteHeap} {allocator : Allocator (List UInt8)}

/-- The step's configuration is NULL, or a live block of a length above zero. -/
def Copyable (heap : ByteHeap) (step : StepSlot) : Prop :=
  ∀ block, step.config = some block → (heap.read block).isSome ∧ 0 < step.configLen

theorem StepSlot.value_congr {step : StepSlot}
    (h : ∀ block, step.config = some block → heap'.read block = heap.read block) :
    step.value heap' = step.value heap := by
  unfold value
  cases hconfig : step.config with
  | none => rfl
  | some block => simp [h block hconfig]

theorem mem_stepBlocks {steps : List StepSlot} :
    block ∈ stepBlocks steps ↔ ∃ step ∈ steps, step.config = some block := by
  simp [stepBlocks]

theorem DagSlot.value_congr {dag : DagSlot}
    (h : ∀ block ∈ stepBlocks dag.steps, heap'.read block = heap.read block) :
    dag.value heap' = dag.value heap := by
  have hsteps : dag.steps.map (·.value heap') = dag.steps.map (·.value heap) :=
    List.map_congr_left fun step hstep => StepSlot.value_congr fun block hconfig =>
      h block (mem_stepBlocks.mpr ⟨step, hstep, hconfig⟩)
  simp [value, hsteps]

def blocksOf (dags : List DagSlot) : List Nat := dags.flatMap fun dag => stepBlocks dag.steps

@[simp] theorem blocksOf_append (dags rest : List DagSlot) :
    blocksOf (dags ++ rest) = blocksOf dags ++ blocksOf rest := List.flatMap_append

@[simp] theorem blocksOf_nil : blocksOf [] = [] := rfl

@[simp] theorem blocksOf_cons (dag : DagSlot) (rest : List DagSlot) :
    blocksOf (dag :: rest) = stepBlocks dag.steps ++ blocksOf rest := rfl

theorem freeConfigs_read (heap : ByteHeap) (steps : List StepSlot) (block : Nat) :
    (freeConfigs heap steps).read block =
      if block ∈ stepBlocks steps then none else heap.read block := by
  unfold freeConfigs
  induction stepBlocks steps generalizing heap with
  | nil => simp
  | cons first rest ih =>
    rw [List.foldl_cons, ih, Heap.read_free]
    by_cases hrest : block ∈ rest
    · simp [hrest]
    · simp [hrest]

theorem freeConfigs_other (heap : ByteHeap) (dag : DagSlot) (block : Nat)
    (h : block ∉ blocksOf [dag]) :
    (freeConfigs heap dag.steps).read block = heap.read block := by
  rw [blocksOf_cons, blocksOf_nil, List.append_nil] at h
  rw [freeConfigs_read, if_neg h]

structure CopySpec (heap : ByteHeap) (steps copies : List StepSlot) (heap' : ByteHeap) : Prop where
  keeps : heap'.Extends heap
  nodup : (stepBlocks copies).Nodup
  fresh : ∀ block ∈ stepBlocks copies, heap.read block = none
  live : ∀ block ∈ stepBlocks copies, (heap'.read block).isSome
  values : copies.map (·.value heap') = steps.map (·.value heap)
  sized : ∀ copy ∈ copies, copy.configLen = 0 → copy.config = none

theorem copyConfig_spec (allocator : Allocator (List UInt8)) (heap : ByteHeap) {step : StepSlot}
    (h : Copyable heap step) :
    CopySpec heap [step] [(copyConfig allocator heap step).1]
      (copyConfig allocator heap step).2 := by
  unfold copyConfig
  cases hconfig : step.config with
  | none =>
    have hblocks : stepBlocks [step] = [] := by simp [stepBlocks, hconfig]
    exact ⟨.refl heap, by simp [hblocks], by simp [hblocks], by simp [hblocks], rfl,
      by simp [hconfig]⟩
  | some block =>
    obtain ⟨hlive, hlen⟩ := h block hconfig
    obtain ⟨bytes, hbytes⟩ := Option.isSome_iff_exists.mp hlive
    have hfresh := allocator.pick_fresh heap step.configLen
    refine ⟨?_, ?_, ?_, ?_, ?_, ?_⟩
    · simpa [hlen] using Heap.extends_store hfresh _
    · simp [hlen, stepBlocks]
    · simpa [hlen, stepBlocks] using hfresh
    · simp [hlen, stepBlocks]
    · simp [hlen, StepSlot.value, hconfig, hbytes, List.take_take]
    · simp [hlen, hlen.ne']

theorem Copyable.of_extends {step : StepSlot} (hkeeps : heap'.Extends heap)
    (h : Copyable heap step) : Copyable heap' step := fun block hconfig =>
  ⟨hkeeps.live (h block hconfig).1, (h block hconfig).2⟩

theorem stepBlocks_append (steps rest : List StepSlot) :
    stepBlocks (steps ++ rest) = stepBlocks steps ++ stepBlocks rest := List.filterMap_append

theorem CopySpec.append (hfirst : CopySpec heap steps copies heap')
    (hrest : CopySpec heap' steps' copies' heap'') (hlive : ∀ step ∈ steps', Copyable heap step) :
    CopySpec heap (steps ++ steps') (copies ++ copies') heap'' where
  keeps := hfirst.keeps.trans hrest.keeps
  nodup := by
    rw [stepBlocks_append, List.nodup_append]
    refine ⟨hfirst.nodup, hrest.nodup, ?_⟩
    rintro block hblock _ hblock' rfl
    have hused := hfirst.live block hblock
    rw [hrest.fresh block hblock'] at hused
    cases hused
  fresh := by
    intro block hblock
    rw [stepBlocks_append] at hblock
    rcases List.mem_append.mp hblock with hmem | hmem
    · exact hfirst.fresh block hmem
    · exact hfirst.keeps.none (hrest.fresh block hmem)
  live := by
    intro block hblock
    rw [stepBlocks_append] at hblock
    rcases List.mem_append.mp hblock with hmem | hmem
    · exact hrest.keeps.live (hfirst.live block hmem)
    · exact hrest.live block hmem
  values := by
    have hkept : copies.map (·.value heap'') = copies.map (·.value heap') :=
      List.map_congr_left fun copy hcopy => StepSlot.value_congr fun block hconfig =>
        hrest.keeps block (hfirst.live block (mem_stepBlocks.mpr ⟨copy, hcopy, hconfig⟩))
    have hgiven : steps'.map (·.value heap') = steps'.map (·.value heap) :=
      List.map_congr_left fun step hstep => StepSlot.value_congr fun block hconfig =>
        hfirst.keeps block (hlive step hstep block hconfig).1
    rw [List.map_append, List.map_append, hkept, hfirst.values, hrest.values, hgiven]
  sized := List.forall_mem_append.mpr ⟨hfirst.sized, hrest.sized⟩

theorem copyConfigs_spec (allocator : Allocator (List UInt8)) (heap : ByteHeap)
    {steps : List StepSlot} (h : ∀ step ∈ steps, Copyable heap step) :
    CopySpec heap steps (copyConfigs allocator heap steps).1
      (copyConfigs allocator heap steps).2 := by
  induction steps generalizing heap with
  | nil => exact ⟨.refl heap, List.nodup_nil, by simp [copyConfigs, stepBlocks], by
      simp [copyConfigs, stepBlocks], rfl, by simp [copyConfigs]⟩
  | cons step rest ih =>
    have hrest : ∀ later ∈ rest, Copyable heap later := fun later hlater =>
      h later (List.mem_cons_of_mem _ hlater)
    have hfirst := copyConfig_spec allocator heap (h step List.mem_cons_self)
    exact hfirst.append (ih _ fun later hlater => (hrest later hlater).of_extends hfirst.keeps)
      hrest

-- ----------------------------------------------------------------------------
-- The catalog that the array stores
-- ----------------------------------------------------------------------------

theorem values_congr {dags : List DagSlot}
    (h : ∀ block ∈ blocksOf dags, heap'.read block = heap.read block) :
    dags.map (·.value heap') = dags.map (·.value heap) :=
  List.map_congr_left fun dag hdag => DagSlot.value_congr fun block hblock =>
    h block (List.mem_flatMap.mpr ⟨dag, hdag, hblock⟩)

/-- The blocks of some DAGs belong to one step each and are live, and there is
none for a configuration of length zero. -/
structure Owns (heap : ByteHeap) (dags : List DagSlot) : Prop where
  nodup : (blocksOf dags).Nodup
  live : ∀ block ∈ blocksOf dags, (heap.read block).isSome
  sized : ∀ dag ∈ dags, ∀ step ∈ dag.steps, step.configLen = 0 → step.config = none

theorem Owns.perm (h : Owns heap dags) (hperm : dags.Perm dags') : Owns heap dags' where
  nodup := (hperm.flatMap_right _).nodup_iff.mp h.nodup
  live := fun block hblock => h.live block ((hperm.flatMap_right _).mem_iff.mpr hblock)
  sized := fun dag hdag => h.sized dag (hperm.mem_iff.mpr hdag)

theorem Owns.append (h : Owns heap dags) (hrest : Owns heap rest)
    (hapart : ∀ block ∈ blocksOf dags, block ∉ blocksOf rest) : Owns heap (dags ++ rest) where
  nodup := by
    rw [blocksOf_append, List.nodup_append]
    refine ⟨h.nodup, hrest.nodup, ?_⟩
    rintro block hblock _ hblock' rfl
    exact hapart block hblock hblock'
  live := by
    intro block hblock
    rw [blocksOf_append] at hblock
    rcases List.mem_append.mp hblock with hmem | hmem
    · exact h.live block hmem
    · exact hrest.live block hmem
  sized := List.forall_mem_append.mpr ⟨h.sized, hrest.sized⟩

theorem Owns.of_append_right (h : Owns heap (dags ++ rest)) :
    Owns heap rest ∧ ∀ block ∈ blocksOf rest, block ∉ blocksOf dags := by
  obtain ⟨hnodup, hlive, hsized⟩ := h
  rw [blocksOf_append] at hnodup hlive
  obtain ⟨_, hrest, hapart⟩ := List.nodup_append.mp hnodup
  refine ⟨⟨hrest, fun block hblock => hlive block (List.mem_append_right _ hblock), ?_⟩, ?_⟩
  · exact (List.forall_mem_append.mp hsized).2
  · exact fun block hblock hother => hapart block hother block hblock rfl

theorem Owns.of_same (h : Owns heap dags)
    (hsame : ∀ block ∈ blocksOf dags, heap'.read block = heap.read block) : Owns heap' dags where
  nodup := h.nodup
  live := fun block hblock => by
    rw [hsame block hblock]
    exact h.live block hblock
  sized := h.sized

/-- The memory when the blocks of `old` are freed and then those of `new` taken:
nobody else's have changed. -/
theorem Owns.splice (h : Owns heap (before ++ old ++ after)) {freed : ByteHeap}
    (hfreed : ∀ block, block ∉ blocksOf old → freed.read block = heap.read block)
    (hkeeps : heap'.Extends freed) (hnodup : (blocksOf new).Nodup)
    (hfresh : ∀ block ∈ blocksOf new, freed.read block = none)
    (hlive : ∀ block ∈ blocksOf new, (heap'.read block).isSome)
    (hsized : ∀ dag ∈ new, ∀ step ∈ dag.steps, step.configLen = 0 → step.config = none) :
    Owns heap' (before ++ new ++ after) ∧
      ∀ block ∈ blocksOf (before ++ after), heap'.read block = heap.read block := by
  have hmiddle : ∀ dags, (before ++ dags ++ after).Perm (dags ++ (before ++ after)) := by
    intro dags
    rw [← List.append_assoc]
    exact List.perm_append_comm.append_right after
  obtain ⟨hothers, hapart⟩ := (h.perm (hmiddle old)).of_append_right
  have hfreedSame : ∀ block ∈ blocksOf (before ++ after),
      freed.read block = heap.read block ∧ (freed.read block).isSome := by
    intro block hblock
    have hsame := hfreed block (hapart block hblock)
    exact ⟨hsame, hsame ▸ hothers.live block hblock⟩
  have hsame : ∀ block ∈ blocksOf (before ++ after), heap'.read block = heap.read block := by
    intro block hblock
    obtain ⟨hfreedRead, hlive⟩ := hfreedSame block hblock
    rw [hkeeps block hlive, hfreedRead]
  refine ⟨?_, hsame⟩
  refine (Owns.append ⟨hnodup, hlive, hsized⟩ (hothers.of_same hsame) ?_).perm (hmiddle new).symm
  intro block hnew hother
  have hused := (hfreedSame block hother).2
  rw [hfresh block hnew] at hused
  cases hused

/-- The slots in use hold the DAGs of the catalog, each with blocks of its own. -/
structure Stores (heap : ByteHeap) (table : DagTable) (catalog : DagCatalog) : Prop where
  items : table.items.map (·.value heap) = catalog.dags
  capacity : table.capacity = catalog.capacity
  slots : table.dags.slots.length = table.capacity
  count_le : table.dags.count ≤ table.capacity
  owns : Owns heap table.items

theorem find_split {table : DagTable} (h : table.find dagId = some (i, existing)) :
    ∃ before after, table.items = before ++ existing :: after ∧
      (∀ dag ∈ before, dag.dagId ≠ dagId) ∧ existing.dagId = dagId := by
  obtain ⟨before, after, hitems, -, hkey, hfirst⟩ := search_some h
  exact ⟨before, after, hitems, hfirst, hkey⟩

namespace Stores

variable {table : DagTable} {catalog : DagCatalog} {dagId : RuleId}

theorem init (heap : ByteHeap) (capacity : Nat) (hasCallback : Bool) :
    Stores heap (.init capacity hasCallback) (dagCatalogInit capacity) where
  items := rfl
  capacity := rfl
  slots := List.length_replicate
  count_le := Nat.zero_le capacity
  owns := ⟨List.nodup_nil, fun _ hblock => absurd hblock List.not_mem_nil,
    fun _ hdag => absurd hdag List.not_mem_nil⟩

theorem get (h : Stores heap table catalog) (dagId : RuleId) :
    (table.get dagId).map (·.value heap) = dagCatalogGet catalog dagId := by
  have hlookup : lookup Dag.dagId (table.items.map (DagSlot.value heap)) dagId =
      (lookup DagSlot.dagId table.items dagId).map (DagSlot.value heap) :=
    lookup_map (fun _ => rfl) table.items dagId
  rw [h.items] at hlookup
  rw [dagCatalogGet, hlookup, DagTable.get, DagTable.find, search_eq]
  rfl

theorem count (h : Stores heap table catalog) : table.dags.count = catalog.dags.length := by
  rw [← h.items, List.length_map]
  exact (items_length (h.slots ▸ h.count_le)).symm

theorem list (h : Stores heap table catalog) (maxCount : Nat) :
    table.list maxCount =
      (catalog.dags.map Dag.dagId).take (min catalog.dags.length maxCount) := by
  have hids : catalog.dags.map Dag.dagId = table.items.map DagSlot.dagId := by
    rw [← h.items, List.map_map]
    rfl
  rw [hids, ← h.count, DagTable.list, ← List.map_take, DagTable.items, SlotArray.items,
    List.take_take,
    Nat.min_right_comm, Nat.min_self]

theorem find_none (h : Stores heap table catalog) (hfind : table.find dagId = none) :
    dagCatalogGet catalog dagId = none := by
  rw [← h.get, DagTable.get, hfind]
  rfl

theorem find_some (h : Stores heap table catalog) (hfind : table.find dagId = some (i, existing)) :
    dagCatalogGet catalog dagId = some (existing.value heap) := by
  rw [← h.get, DagTable.get, hfind]
  rfl

theorem dags_split (h : Stores heap table catalog)
    (hitems : table.items = before ++ existing :: after)
    (hfirst : ∀ dag ∈ before, dag.dagId ≠ dagId) (hkey : existing.dagId = dagId) :
    catalog.dags = before.map (·.value heap) ++ existing.value heap :: after.map (·.value heap) ∧
      (∀ dag ∈ before.map (·.value heap), dag.dagId ≠ dagId) ∧
      (existing.value heap).dagId = dagId := by
  refine ⟨?_, ?_, hkey⟩
  · rw [← h.items, hitems, List.map_append, List.map_cons]
  · intro dag hdag
    obtain ⟨slot, hslot, rfl⟩ := List.mem_map.mp hdag
    exact hfirst slot hslot

theorem notify (h : Stores heap table catalog) : Stores heap table.notify catalog := by
  unfold DagTable.notify
  split_ifs
  · exact ⟨h.items, h.capacity, h.slots, h.count_le, h.owns⟩
  · exact h

end Stores

theorem dagCatalogAdd_exists {catalog : DagCatalog} {dag : Dag}
    (h : dagCatalogGet catalog dag.dagId = some existing) (copyAlloc : Nat → Bool) :
    dagCatalogAdd copyAlloc catalog dag = (.errExists, catalog) := by
  unfold dagCatalogAdd
  split
  · rfl
  · rename_i hnew
    rw [h] at hnew
    cases hnew

theorem dagCatalogAdd_full {catalog : DagCatalog} {dag : Dag}
    (hnew : dagCatalogGet catalog dag.dagId = none)
    (hfull : catalog.capacity ≤ catalog.dags.length) (copyAlloc : Nat → Bool) :
    dagCatalogAdd copyAlloc catalog dag = (.errFull, catalog) := by
  unfold dagCatalogAdd
  split
  · rename_i hsome
    rw [hnew] at hsome
    cases hsome
  · rw [dif_neg (Nat.not_lt.mpr hfull)]

theorem dagCatalogAdd_new {catalog : DagCatalog} {dag : Dag}
    (hnew : dagCatalogGet catalog dag.dagId = none)
    (hroom : catalog.dags.length < catalog.capacity) :
    dagCatalogAdd (fun _ => true) catalog dag = (.ok, catalog.append dag hnew hroom) := by
  unfold dagCatalogAdd
  split
  · rename_i hsome
    rw [hnew] at hsome
    cases hsome
  · simp [hroom]

theorem dagCatalogUpdate_found {catalog : DagCatalog} {dag : Dag}
    (h : dagCatalogGet catalog dag.dagId = some existing) (now : UInt64) :
    dagCatalogUpdate (fun _ => true) now catalog dag =
      (.ok, catalog.replace { dag with updatedAtMs := now }) := by
  simp only [dagCatalogUpdate, h, Bool.not_true, Bool.false_eq_true, and_false, if_false]
  rw [show dag.steps.mapIdx (fun _ step => step) = dag.steps by
    simp [List.mapIdx_eq_iff]]

theorem dagCatalogUpdate_notfound {catalog : DagCatalog} {dag : Dag}
    (h : dagCatalogGet catalog dag.dagId = none) (copyAlloc : Nat → Bool) (now : UInt64) :
    dagCatalogUpdate copyAlloc now catalog dag = (.errNotfound, catalog) := by
  simp [dagCatalogUpdate, h]

theorem DagSlot.copy_spec (allocator : Allocator (List UInt8)) (heap : ByteHeap) {dag : DagSlot}
    (h : ∀ step ∈ dag.steps, Copyable heap step) :
    CopySpec heap dag.steps (dag.copy allocator heap).1.steps (dag.copy allocator heap).2 :=
  copyConfigs_spec allocator heap h

theorem DagSlot.copy_value (allocator : Allocator (List UInt8)) (heap : ByteHeap) {dag : DagSlot}
    (h : ∀ step ∈ dag.steps, Copyable heap step) :
    (dag.copy allocator heap).1.value (dag.copy allocator heap).2 = dag.value heap := by
  have hvalues := (dag.copy_spec allocator heap h).values
  simp only [copy] at hvalues
  simp [copy, value, hvalues, copyConfigs_length]

namespace Stores

variable {table : DagTable} {catalog : DagCatalog} {dagId : RuleId} {dag : DagSlot}

/-- The array after `old` has gone from it and `new` has come in its place. -/
theorem splice (h : Stores heap table catalog) (before old new after : List DagSlot)
    (hsplit : table.items = before ++ old ++ after)
    {freed : ByteHeap}
    (hfreed : ∀ block, block ∉ blocksOf old → freed.read block = heap.read block)
    (hkeeps : heap'.Extends freed) (hnodup : (blocksOf new).Nodup)
    (hfresh : ∀ block ∈ blocksOf new, freed.read block = none)
    (hlive : ∀ block ∈ blocksOf new, (heap'.read block).isSome)
    (hsized : ∀ dag ∈ new, ∀ step ∈ dag.steps, step.configLen = 0 → step.config = none)
    {dags : SlotArray DagSlot}
    (hitems : dags.items = before ++ new ++ after)
    (hslots : dags.slots.length = table.dags.slots.length) (hcount : dags.count ≤ table.capacity)
    {catalog' : DagCatalog} (hcapacity : catalog'.capacity = catalog.capacity)
    (hdags : catalog'.dags = before.map (·.value heap) ++ new.map (·.value heap') ++
      after.map (·.value heap)) :
    Stores heap' { table with dags := dags } catalog' := by
  obtain ⟨howns, hkept⟩ := (hsplit ▸ h.owns).splice hfreed hkeeps hnodup hfresh hlive hsized
  rw [blocksOf_append] at hkept
  have hbefore := values_congr fun block hblock => hkept block (List.mem_append_left _ hblock)
  have hafter := values_congr fun block hblock => hkept block (List.mem_append_right _ hblock)
  refine ⟨?_, h.capacity.trans hcapacity.symm, hslots.trans h.slots, hcount, ?_⟩
  · rw [DagTable.items, hitems, hdags, List.map_append, List.map_append, hbefore, hafter]
  · rw [DagTable.items, hitems]
    exact howns

theorem add (h : Stores heap table catalog) (allocator : Allocator (List UInt8))
    (hdag : table.find dag.dagId = none → table.dags.count < table.capacity →
      ∀ step ∈ dag.steps, Copyable heap step) :
    (table.add allocator heap dag).1 =
        (dagCatalogAdd (fun _ => true) catalog (dag.value heap)).1 ∧
      Stores (table.add allocator heap dag).2.1 (table.add allocator heap dag).2.2
        (dagCatalogAdd (fun _ => true) catalog (dag.value heap)).2 := by
  unfold DagTable.add
  cases hfind : table.find dag.dagId with
  | some found =>
    have hget : dagCatalogGet catalog (dag.value heap).dagId = some (found.2.value heap) :=
      h.find_some hfind
    rw [dagCatalogAdd_exists hget]
    exact ⟨rfl, h⟩
  | none =>
    have hget : dagCatalogGet catalog (dag.value heap).dagId = none := h.find_none hfind
    have hcount := h.count
    by_cases hfull : table.dags.count ≥ table.capacity
    · rw [dagCatalogAdd_full hget (by rw [← hcount, ← h.capacity]; exact hfull)]
      simpa [hfull] using h
    · have hroom : catalog.dags.length < catalog.capacity := by
        rw [← hcount, ← h.capacity]
        exact Nat.not_le.mp hfull
      have hdag := hdag hfind (Nat.not_le.mp hfull)
      have hcopy := dag.copy_spec allocator heap hdag
      have hvalue := dag.copy_value allocator heap hdag
      rw [dagCatalogAdd_new hget hroom]
      simp only [hfull, if_false, true_and]
      refine Stores.notify (h.splice table.items [] [(dag.copy allocator heap).1] []
        (by simp) (fun _ _ => rfl) hcopy.keeps
        (by simpa using hcopy.nodup) (by simpa using hcopy.fresh) (by simpa using hcopy.live)
        (by simpa using hcopy.sized) ?_ (push_length _ _) (Nat.not_le.mp hfull) rfl ?_)
      · rw [items_push (h.slots ▸ Nat.not_le.mp hfull), List.append_nil]
        rfl
      · rw [h.items, List.map_nil, List.append_nil, List.map_singleton, hvalue]
        rfl

theorem update (h : Stores heap table catalog) (allocator : Allocator (List UInt8))
    (now : UInt64) (hdag : ∀ found ∈ table.find dag.dagId, ∀ step ∈ dag.steps,
      Copyable heap step ∧ ∀ block ∈ step.config, block ∉ stepBlocks found.2.steps) :
    (table.update allocator now heap dag).1 =
        (dagCatalogUpdate (fun _ => true) now catalog (dag.value heap)).1 ∧
      Stores (table.update allocator now heap dag).2.1 (table.update allocator now heap dag).2.2
        (dagCatalogUpdate (fun _ => true) now catalog (dag.value heap)).2 := by
  unfold DagTable.update
  cases hfind : table.find dag.dagId with
  | none =>
    have hget : dagCatalogGet catalog (dag.value heap).dagId = none := h.find_none hfind
    rw [dagCatalogUpdate_notfound hget]
    exact ⟨rfl, h⟩
  | some found =>
    obtain ⟨i, existing⟩ := found
    have hget : dagCatalogGet catalog (dag.value heap).dagId = some (existing.value heap) :=
      h.find_some hfind
    obtain ⟨before, after, hitems, hfirst, hkey⟩ := find_split hfind
    have hfreed := freeConfigs_other heap existing
    have hgiven : ∀ block ∈ stepBlocks dag.steps,
        (freeConfigs heap existing.steps).read block = heap.read block := by
      intro block hblock
      obtain ⟨step, hstep, hconfig⟩ := mem_stepBlocks.mp hblock
      rw [freeConfigs_read, if_neg ((hdag _ hfind step hstep).2 block hconfig)]
    have hsteps : ∀ step ∈ dag.steps, Copyable (freeConfigs heap existing.steps) step := by
      intro step hstep block hconfig
      rw [hgiven block (mem_stepBlocks.mpr ⟨step, hstep, hconfig⟩)]
      exact (hdag _ hfind step hstep).1 block hconfig
    have hcopy := dag.copy_spec allocator _ hsteps
    have hvalue := (dag.copy_value allocator _ hsteps).trans (DagSlot.value_congr hgiven)
    rw [dagCatalogUpdate_found hget]
    refine ⟨rfl, h.splice before [existing]
      [{ (dag.copy allocator (freeConfigs heap existing.steps)).1 with updatedAtMs := now }] after
      (by simpa using hitems) hfreed hcopy.keeps
      (by simpa using hcopy.nodup) (by simpa using hcopy.fresh) (by simpa using hcopy.live)
      (by simpa using hcopy.sized) ?_ (write_length _ _ _) h.count_le rfl ?_⟩
    · rw [items_write_found hfind fun _ => _, ← DagTable.items, hitems,
        modify_of_first hfirst hkey, List.append_assoc]
      rfl
    · obtain ⟨hdags, hfirst, hkey⟩ := h.dags_split hitems hfirst hkey
      simp only [DagCatalog.replace_dags]
      rw [hdags, ← hvalue, List.append_assoc]
      exact modify_of_first hfirst hkey _ _

theorem remove (h : Stores heap table catalog) (dagId : RuleId) :
    (table.remove heap dagId).1 = (dagCatalogRemove catalog dagId).1 ∧
      Stores (table.remove heap dagId).2.1 (table.remove heap dagId).2.2
        (dagCatalogRemove catalog dagId).2 := by
  unfold DagTable.remove
  cases hfind : table.find dagId with
  | none => simpa [dagCatalogRemove, h.find_none hfind] using h
  | some found =>
    obtain ⟨i, existing⟩ := found
    obtain ⟨before, after, hitems, hfirst, hkey⟩ := find_split hfind
    have hlt : i < table.dags.count := search_lt hfind (h.slots ▸ h.count_le)
    simp only [dagCatalogRemove, h.find_some hfind, true_and]
    refine Stores.notify (h.splice before [existing] [] after
      (by simpa using hitems) ?_ (.refl _) List.nodup_nil (by simp) (by simp)
      (by simp) ?_
      (removeAt_length hlt (h.slots ▸ h.count_le)) ?_ rfl ?_)
    · exact freeConfigs_other heap existing
    · rw [items_remove_found hfind (h.slots ▸ h.count_le), ← DagTable.items, hitems,
        remove_of_first hfirst hkey, List.append_nil]
    · exact (Nat.sub_le _ _).trans h.count_le
    · obtain ⟨hdags, hfirst, hkey⟩ := h.dags_split hitems hfirst hkey
      simp only [DagCatalog.without_dags]
      rw [hdags, remove_of_first hfirst hkey, List.map_nil, List.append_nil]

end Stores

-- ----------------------------------------------------------------------------
-- Runs of catalog calls
-- ----------------------------------------------------------------------------

structure CatalogMemory where
  heap : ByteHeap
  table : DagTable

inductive DagCall
  | add (dag : DagSlot)
  | update (dag : DagSlot) (now : UInt64)
  | remove (dagId : RuleId)
  | get (dagId : RuleId)
  | list (maxCount : Nat)
  /-- What the rest of the program does to the memory between the calls. -/
  | memory (heap : ByteHeap)

inductive DagReply
  | status (result : ResultStatus)
  | found (dag : Option Dag)
  | ids (ids : List RuleId)
  | none
  deriving DecidableEq

def CatalogMemory.init (heap : ByteHeap) (capacity : Nat) (hasCallback : Bool) : CatalogMemory where
  heap := heap
  table := .init capacity hasCallback

def CatalogMemory.dags (memory : CatalogMemory) : List Dag :=
  memory.table.items.map (·.value memory.heap)

def catalogServe (allocator : Allocator (List UInt8)) (memory : CatalogMemory) :
    DagCall → DagReply × CatalogMemory
  | .add dag =>
    let (result, heap, table) := memory.table.add allocator memory.heap dag
    (.status result, ⟨heap, table⟩)
  | .update dag now =>
    let (result, heap, table) := memory.table.update allocator now memory.heap dag
    (.status result, ⟨heap, table⟩)
  | .remove dagId =>
    let (result, heap, table) := memory.table.remove memory.heap dagId
    (.status result, ⟨heap, table⟩)
  | .get dagId => (.found ((memory.table.get dagId).map (·.value memory.heap)), memory)
  | .list maxCount => (.ids (memory.table.list maxCount), memory)
  | .memory heap => (.none, { memory with heap := heap })

def copiedBlocks (dags : List DagSlot) : List Nat :=
  dags.flatMap fun dag => stepBlocks (dag.steps.filter fun step => 0 < step.configLen)

/-- The pointers of a call lead to live blocks that the catalog has not
allocated, and nobody else touches those it has. -/
def ValidCall (memory : CatalogMemory) : DagCall → Prop
  | .add dag | .update dag _ => ∀ block ∈ stepBlocks dag.steps,
    (memory.heap.read block).isSome ∧ block ∉ copiedBlocks memory.table.items
  | .memory heap => ∀ block ∈ copiedBlocks memory.table.items,
    heap.read block = memory.heap.read block
  | _ => True

instance (memory : CatalogMemory) : (call : DagCall) → Decidable (ValidCall memory call)
  | .add _ | .update _ _ | .memory _ => inferInstanceAs (Decidable (∀ _ ∈ _, _))
  | .remove _ | .get _ | .list _ => inferInstanceAs (Decidable True)

instance (heap : ByteHeap) (step : StepSlot) : Decidable (Copyable heap step) :=
  inferInstanceAs (Decidable (∀ block ∈ step.config, _))

/-- Every configuration of a DAG that the call accepts is copied, and is still
there when it is; nobody else touches the blocks that the catalog has allocated. -/
def CopiesAll (memory : CatalogMemory) : DagCall → Prop
  | .add dag => memory.table.find dag.dagId = none →
    memory.table.dags.count < memory.table.capacity → ∀ step ∈ dag.steps, Copyable memory.heap step
  | .update dag _ => ∀ found ∈ memory.table.find dag.dagId, ∀ step ∈ dag.steps,
    Copyable memory.heap step ∧ ∀ block ∈ step.config, block ∉ stepBlocks found.2.steps
  | .memory heap => ∀ block ∈ copiedBlocks memory.table.items,
    heap.read block = memory.heap.read block
  | _ => True

instance (memory : CatalogMemory) : (call : DagCall) → Decidable (CopiesAll memory call)
  | .add _ => inferInstanceAs (Decidable (_ → _ → _))
  | .update _ _ => inferInstanceAs (Decidable (∀ found ∈ memory.table.find _, _))
  | .memory _ => inferInstanceAs (Decidable (∀ _ ∈ _, _))
  | .remove _ | .get _ | .list _ => inferInstanceAs (Decidable True)

/-- What a bounded map in insertion order answers to a call whose DAG is read in
this memory: the reply, the DAGs after it, and whether their number changed. -/
def dagMapServe (capacity : Nat) (heap : ByteHeap) (dags : List Dag) :
    DagCall → DagReply × List Dag × Bool
  | .add dag =>
    if (lookup Dag.dagId dags dag.dagId).isSome then (.status .errExists, dags, false)
    else if dags.length ≥ capacity then (.status .errFull, dags, false)
    else (.status .ok, dags ++ [dag.value heap], true)
  | .update dag now =>
    if (lookup Dag.dagId dags dag.dagId).isSome then
      (.status .ok,
        modify Dag.dagId dag.dagId
          (fun _ => { dag.value heap with updatedAtMs := now }) dags, false)
    else (.status .errNotfound, dags, false)
  | .remove dagId =>
    if (lookup Dag.dagId dags dagId).isSome then
      (.status .ok, KeyedList.remove Dag.dagId dagId dags, true)
    else (.status .errNotfound, dags, false)
  | .get dagId => (.found (lookup Dag.dagId dags dagId), dags, false)
  | .list maxCount => (.ids ((dags.map Dag.dagId).take (min dags.length maxCount)), dags, false)
  | .memory _ => (.none, dags, false)

/-- The catalog answers a call as the map does, and gives the callback the new
count where the map's has changed. -/
structure ServedAsMap (capacity : Nat) (before : CatalogMemory) (call : DagCall)
    (answer : DagReply × CatalogMemory) : Prop where
  distinct : (before.dags.map Dag.dagId).Nodup
  bounded : before.dags.length ≤ capacity
  reply : answer.1 = (dagMapServe capacity before.heap before.dags call).1
  dags : answer.2.dags = (dagMapServe capacity before.heap before.dags call).2.1
  notified : answer.2.table.notified = before.table.notified ++
    if before.table.hasCallback ∧ (dagMapServe capacity before.heap before.dags call).2.2 then
      [answer.2.dags.length]
    else []

def StoresCatalog (capacity : Nat) (memory : CatalogMemory) : Prop :=
  ∃ catalog : DagCatalog, Stores memory.heap memory.table catalog ∧ catalog.capacity = capacity

@[simp] theorem notify_dags (table : DagTable) : table.notify.dags = table.dags := by
  unfold DagTable.notify
  split_ifs <;> rfl

theorem notify_notified (table : DagTable) : table.notify.notified =
    table.notified ++ if table.hasCallback then [table.dags.count] else [] := by
  unfold DagTable.notify
  split_ifs <;> simp

theorem copiedBlocks_eq (h : Owns heap dags) : copiedBlocks dags = blocksOf dags := by
  obtain ⟨-, -, hsized⟩ := h
  induction dags with
  | nil => rfl
  | cons dag rest ih =>
    obtain ⟨hdag, hrest⟩ := List.forall_mem_cons.mp hsized
    have hsteps : stepBlocks (dag.steps.filter fun step => 0 < step.configLen) =
        stepBlocks dag.steps := by
      refine List.filterMap_filter.trans (List.filterMap_congr fun step hstep => ?_)
      by_cases hlen : step.configLen = 0
      · simp [hlen, hdag step hstep hlen]
      · simp [Nat.pos_of_ne_zero hlen]
    show stepBlocks _ ++ copiedBlocks rest = stepBlocks _ ++ blocksOf rest
    rw [hsteps, ih hrest]

theorem Stores.served {memory : CatalogMemory} {answer : DagReply × CatalogMemory}
    (h : Stores memory.heap memory.table catalog)
    (hafter : Stores answer.2.heap answer.2.table after)
    (hreply : answer.1 = (dagMapServe catalog.capacity memory.heap catalog.dags call).1)
    (hdags : after.dags = (dagMapServe catalog.capacity memory.heap catalog.dags call).2.1)
    (hcapacity : after.capacity = catalog.capacity)
    (hnotified : answer.2.table.notified = memory.table.notified ++
      if memory.table.hasCallback ∧
          (dagMapServe catalog.capacity memory.heap catalog.dags call).2.2 then
        [answer.2.table.dags.count]
      else []) :
    StoresCatalog catalog.capacity answer.2 ∧
      ServedAsMap catalog.capacity memory call answer := by
  have hbefore : memory.dags = catalog.dags := h.items
  have hcount : answer.2.table.dags.count = answer.2.dags.length := by
    rw [hafter.count, ← hafter.items]
    rfl
  refine ⟨⟨after, hafter, hcapacity⟩, ?_, ?_, ?_, ?_, ?_⟩
  · rw [hbefore]
    exact catalog.nodup
  · rw [hbefore]
    exact catalog.length_le
  · rw [hbefore, hreply]
  · rw [hbefore, ← hdags]
    exact hafter.items
  · rw [hbefore, hnotified, hcount]

theorem dagCatalogAdd_serve (catalog : DagCatalog) (heap : ByteHeap) (dag : DagSlot) :
    DagReply.status (dagCatalogAdd (fun _ => true) catalog (dag.value heap)).1 =
        (dagMapServe catalog.capacity heap catalog.dags (.add dag)).1 ∧
      (dagCatalogAdd (fun _ => true) catalog (dag.value heap)).2.dags =
        (dagMapServe catalog.capacity heap catalog.dags (.add dag)).2.1 ∧
      (dagCatalogAdd (fun _ => true) catalog (dag.value heap)).2.capacity = catalog.capacity := by
  cases hget : dagCatalogGet catalog (dag.value heap).dagId with
  | some existing =>
    have hlookup : lookup Dag.dagId catalog.dags dag.dagId = some existing := hget
    simp [dagCatalogAdd_exists hget, dagMapServe, hlookup]
  | none =>
    have hlookup : lookup Dag.dagId catalog.dags dag.dagId = none := hget
    by_cases hfull : catalog.dags.length ≥ catalog.capacity
    · simp [dagCatalogAdd_full hget hfull, dagMapServe, hlookup, hfull]
    · simp [dagCatalogAdd_new hget (Nat.not_le.mp hfull), dagMapServe, hlookup, hfull]

theorem dagCatalogUpdate_serve (catalog : DagCatalog) (heap : ByteHeap) (dag : DagSlot)
    (now : UInt64) :
    DagReply.status (dagCatalogUpdate (fun _ => true) now catalog (dag.value heap)).1 =
        (dagMapServe catalog.capacity heap catalog.dags (.update dag now)).1 ∧
      (dagCatalogUpdate (fun _ => true) now catalog (dag.value heap)).2.dags =
        (dagMapServe catalog.capacity heap catalog.dags (.update dag now)).2.1 ∧
      (dagCatalogUpdate (fun _ => true) now catalog (dag.value heap)).2.capacity =
        catalog.capacity := by
  cases hget : dagCatalogGet catalog (dag.value heap).dagId with
  | some existing =>
    have hlookup : lookup Dag.dagId catalog.dags dag.dagId = some existing := hget
    simp [dagCatalogUpdate_found hget, dagMapServe, hlookup]
  | none =>
    have hlookup : lookup Dag.dagId catalog.dags dag.dagId = none := hget
    simp [dagCatalogUpdate_notfound hget, dagMapServe, hlookup]

theorem dagCatalogRemove_serve (catalog : DagCatalog) (heap : ByteHeap) (dagId : RuleId) :
    DagReply.status (dagCatalogRemove catalog dagId).1 =
        (dagMapServe catalog.capacity heap catalog.dags (.remove dagId)).1 ∧
      (dagCatalogRemove catalog dagId).2.dags =
        (dagMapServe catalog.capacity heap catalog.dags (.remove dagId)).2.1 ∧
      (dagCatalogRemove catalog dagId).2.capacity = catalog.capacity := by
  cases hget : dagCatalogGet catalog dagId with
  | some existing =>
    have hlookup : lookup Dag.dagId catalog.dags dagId = some existing := hget
    simp [dagCatalogRemove, hget, dagMapServe, hlookup]
  | none =>
    have hlookup : lookup Dag.dagId catalog.dags dagId = none := hget
    simp [dagCatalogRemove, hget, dagMapServe, hlookup]

theorem dagMapServe_changed (capacity : Nat) (heap : ByteHeap) (dags : List Dag) :
    (∀ dag, (dagMapServe capacity heap dags (.add dag)).2.2 = true ↔
      (dagMapServe capacity heap dags (.add dag)).1 = .status .ok) ∧
    (∀ dagId, (dagMapServe capacity heap dags (.remove dagId)).2.2 = true ↔
      (dagMapServe capacity heap dags (.remove dagId)).1 = .status .ok) ∧
    ∀ dag now, (dagMapServe capacity heap dags (.update dag now)).2.2 = false := by
  refine ⟨fun dag => ?_, fun dagId => ?_, fun dag now => ?_⟩ <;> unfold dagMapServe <;>
    dsimp only <;> split_ifs <;> simp

theorem add_notified (allocator : Allocator (List UInt8)) (heap : ByteHeap) (table : DagTable)
    (dag : DagSlot) : (table.add allocator heap dag).2.2.notified = table.notified ++
      if table.hasCallback ∧ (table.add allocator heap dag).1 = .ok then
        [(table.add allocator heap dag).2.2.dags.count]
      else [] := by
  unfold DagTable.add
  cases table.find dag.dagId with
  | some found => simp
  | none =>
    by_cases hfull : table.dags.count ≥ table.capacity
    · simp [hfull]
    · simp [hfull, notify_notified]

theorem remove_notified (heap : ByteHeap) (table : DagTable) (dagId : RuleId) :
    (table.remove heap dagId).2.2.notified = table.notified ++
      if table.hasCallback ∧ (table.remove heap dagId).1 = .ok then
        [(table.remove heap dagId).2.2.dags.count]
      else [] := by
  unfold DagTable.remove
  cases table.find dagId with
  | none => simp
  | some found => simp [notify_notified]

theorem update_notified (allocator : Allocator (List UInt8)) (now : UInt64) (heap : ByteHeap)
    (table : DagTable) (dag : DagSlot) :
    (table.update allocator now heap dag).2.2.notified = table.notified := by
  unfold DagTable.update
  cases table.find dag.dagId <;> rfl

/-- A call that copies every configuration it accepts is served as the map serves
it. -/
theorem catalogServe_stores {memory : CatalogMemory} (hstores : StoresCatalog capacity memory)
    (allocator : Allocator (List UInt8)) {call : DagCall} (hcopies : CopiesAll memory call) :
    StoresCatalog capacity (catalogServe allocator memory call).2 ∧
      ServedAsMap capacity memory call (catalogServe allocator memory call) := by
  obtain ⟨catalog, h, rfl⟩ := hstores
  obtain ⟨hadd, hremove, hupdate⟩ :=
    dagMapServe_changed catalog.capacity memory.heap catalog.dags
  cases call with
  | add dag =>
    obtain ⟨hresult, hafter⟩ := h.add allocator hcopies
    obtain ⟨hreply, hdags, hcapacity⟩ := dagCatalogAdd_serve catalog memory.heap dag
    rw [← hresult] at hreply
    refine h.served hafter hreply hdags hcapacity ?_
    simp only [hadd, ← hreply, DagReply.status.injEq]
    exact add_notified allocator memory.heap memory.table dag
  | update dag now =>
    obtain ⟨hresult, hafter⟩ := h.update allocator now hcopies
    obtain ⟨hreply, hdags, hcapacity⟩ := dagCatalogUpdate_serve catalog memory.heap dag now
    rw [← hresult] at hreply
    refine h.served hafter hreply hdags hcapacity ?_
    simp only [hupdate, Bool.false_eq_true, and_false, if_false, List.append_nil]
    exact update_notified allocator now memory.heap memory.table dag
  | remove dagId =>
    obtain ⟨hresult, hafter⟩ := h.remove dagId
    obtain ⟨hreply, hdags, hcapacity⟩ := dagCatalogRemove_serve catalog memory.heap dagId
    rw [← hresult] at hreply
    refine h.served hafter hreply hdags hcapacity ?_
    simp only [hremove, ← hreply, DagReply.status.injEq]
    exact remove_notified memory.heap memory.table dagId
  | get dagId =>
    refine h.served h ?_ rfl rfl (by simp [catalogServe, dagMapServe])
    exact congrArg DagReply.found (h.get dagId)
  | list maxCount =>
    refine h.served h (congrArg DagReply.ids ?_) rfl rfl (by simp [catalogServe, dagMapServe])
    exact h.list maxCount
  | memory heap =>
    have hstores : Stores heap memory.table catalog := by
      refine ⟨?_, h.capacity, h.slots, h.count_le, ?_⟩
      · exact (values_congr fun block hblock =>
          hcopies block (copiedBlocks_eq h.owns ▸ hblock)).trans h.items
      · refine ⟨h.owns.nodup, fun block hblock => ?_, h.owns.sized⟩
        rw [hcopies block (copiedBlocks_eq h.owns ▸ hblock)]
        exact h.owns.live block hblock
    exact h.served hstores rfl rfl rfl (by simp [catalogServe, dagMapServe])

def catalogStep (allocator : Allocator (List UInt8)) (memory : CatalogMemory) (call : DagCall) :
    CatalogMemory := (catalogServe allocator memory call).2

/-- Every call of a run is served as the map serves it, if every configuration of
a DAG that is accepted is copied and not freed before. -/
theorem catalogRun_servedAsMap (allocator : Allocator (List UInt8)) (heap : ByteHeap)
    (capacity : Nat) (hasCallback : Bool) (calls : List DagCall)
    (hcopies : Runs.Meets (catalogStep allocator) CopiesAll (.init heap capacity hasCallback) calls)
    (i : Nat) (hi : i < calls.length) :
    ServedAsMap capacity
      (Runs.run (catalogStep allocator) (.init heap capacity hasCallback) (calls.take i)) calls[i]
      (catalogServe allocator
        (Runs.run (catalogStep allocator) (.init heap capacity hasCallback) (calls.take i))
        calls[i]) := by
  have hstart : StoresCatalog capacity (.init heap capacity hasCallback) :=
    ⟨dagCatalogInit capacity, .init heap capacity hasCallback, rfl⟩
  have hstores := Runs.invariant (P := StoresCatalog capacity)
    (fun memory call hstores hcall => (catalogServe_stores hstores allocator hcall).1) hstart
    hcopies i
  exact (catalogServe_stores hstores allocator (hcopies.get hi)).2

theorem oneStep_le : 1 ≤ maxDagSteps := Nat.succ_le_succ (Nat.zero_le _)

def oneStepDag (dagId : RuleId) (config : Option Nat) (configLen : Nat) : DagSlot where
  dagId := dagId
  name := []
  version := 1
  steps := [{
    stepId := 1
    name := []
    functionName := []
    config := config
    configLen := configLen
    dependencies := []
    dependencyCount := 0
    timeoutMs := 0
    maxRetries := 0 }]
  createdAtMs := 0
  updatedAtMs := 0
  steps_le := oneStep_le

/-- Two DAGs with a pointer to an empty block, and one with a byte of its own. -/
def sharingCalls : List DagCall :=
  [.add (oneStepDag 1 (some 1) 0), .add (oneStepDag 2 (some 1) 0), .remove 1,
    .add (oneStepDag 3 (some 2) 1), .remove 2]

/-- The first removal frees the empty block, the third DAG's byte is copied to
it, and the second removal frees it again. -/
theorem catalogRun_loses_config :
    Runs.Meets (catalogStep (.preferring 1)) ValidCall (.init ⟨[(1, []), (2, [7])]⟩ 4 true)
        sharingCalls ∧
      ¬∀ (i : Nat) (hi : i < sharingCalls.length), ServedAsMap 4
        (Runs.run (catalogStep (.preferring 1)) (.init ⟨[(1, []), (2, [7])]⟩ 4 true)
          (sharingCalls.take i)) sharingCalls[i]
        (catalogServe (.preferring 1)
          (Runs.run (catalogStep (.preferring 1)) (.init ⟨[(1, []), (2, [7])]⟩ 4 true)
            (sharingCalls.take i)) sharingCalls[i]) := by
  refine ⟨by decide, fun h => ?_⟩
  exact absurd (h 4 (by decide)).dags (by decide)

/-- A DAG is added and updated, the caller's memory changing in between; the
update of an absent id with a pointer to an empty block is refused. -/
def copyingCalls : List DagCall :=
  [.add (oneStepDag 3 (some 2) 1), .memory ⟨[(1, [7]), (4, [9])]⟩,
    .update (oneStepDag 3 (some 4) 1) 5, .update (oneStepDag 6 (some 4) 0) 5, .get 3]

theorem catalogRun_servedAsMap_copies :
    ServedAsMap 4
      (Runs.run (catalogStep (.preferring 1)) (.init ⟨[(2, [7])]⟩ 4 true) (copyingCalls.take 4))
      (.get 3)
      (catalogServe (.preferring 1)
        (Runs.run (catalogStep (.preferring 1)) (.init ⟨[(2, [7])]⟩ 4 true) (copyingCalls.take 4))
        (.get 3)) :=
  catalogRun_servedAsMap (.preferring 1) ⟨[(2, [7])]⟩ 4 true copyingCalls (by decide) 4 (by decide)

end Roole
