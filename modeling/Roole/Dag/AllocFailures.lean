import Roole.Dag.Table

/-!
# Copies that run out of memory

The addition and the update of a DAG when allocations of the copy fail. The
addition stops at the first failure and frees what it has copied; the slot that
it wrote is not in use. The update has then already freed the old
configurations, and leaves a NULL where an allocation fails.
-/

namespace Roole

open KeyedList SlotArray

def StepSlot.hasConfig (step : StepSlot) : Bool := step.config.isSome && 0 < step.configLen

/-- The loop of the addition from step `i` on; `allocs i` is whether the
allocation for step `i` succeeds. The copies, the steps of the new slot from the
one on that finds no memory, and the memory. -/
def deepCopy (allocator : Allocator (List UInt8)) (allocs : Nat → Bool) :
    Nat → ByteHeap → List StepSlot → List StepSlot × List StepSlot × ByteHeap
  | _, heap, [] => ([], [], heap)
  | i, heap, step :: rest =>
    if step.hasConfig && !allocs i then ([], { step with config := none } :: rest, heap)
    else
      let (copy, heap) := copyConfig allocator heap step
      let (copies, left, heap) := deepCopy allocator allocs (i + 1) heap rest
      (copy :: copies, left, heap)

def copyOrNull (allocator : Allocator (List UInt8)) (allocs : Nat → Bool) :
    Nat → ByteHeap → List StepSlot → List StepSlot × ByteHeap
  | _, heap, [] => ([], heap)
  | i, heap, step :: rest =>
    let (copy, heap) :=
      if step.hasConfig && !allocs i then ({ step with config := none }, heap)
      else copyConfig allocator heap step
    let (copies, heap) := copyOrNull allocator allocs (i + 1) heap rest
    (copy :: copies, heap)

theorem deepCopy_length (allocator : Allocator (List UInt8)) (allocs : Nat → Bool) (i : Nat)
    (heap : ByteHeap) (steps : List StepSlot) :
    ((deepCopy allocator allocs i heap steps).1 ++
      (deepCopy allocator allocs i heap steps).2.1).length = steps.length := by
  induction steps generalizing i heap with
  | nil => rfl
  | cons step rest ih =>
    rw [deepCopy]
    split
    · rfl
    · exact congrArg Nat.succ (ih (i + 1) (copyConfig allocator heap step).2)

theorem copyOrNull_length (allocator : Allocator (List UInt8)) (allocs : Nat → Bool) (i : Nat)
    (heap : ByteHeap) (steps : List StepSlot) :
    (copyOrNull allocator allocs i heap steps).1.length = steps.length := by
  induction steps generalizing i heap with
  | nil => rfl
  | cons step rest ih => simp [copyOrNull, ih]

/-- The slot that the addition writes. -/
def DagSlot.partialCopy (allocator : Allocator (List UInt8)) (allocs : Nat → Bool)
    (heap : ByteHeap) (dag : DagSlot) : DagSlot :=
  { dag with
    steps := (deepCopy allocator allocs 0 heap dag.steps).1 ++
      (deepCopy allocator allocs 0 heap dag.steps).2.1
    steps_le := (deepCopy_length allocator allocs 0 heap dag.steps).symm ▸ dag.steps_le }

/-- The slot that the update writes. -/
def DagSlot.copyWithNulls (allocator : Allocator (List UInt8)) (allocs : Nat → Bool)
    (now : UInt64) (heap : ByteHeap) (dag : DagSlot) : DagSlot :=
  { dag with
    steps := (copyOrNull allocator allocs 0 heap dag.steps).1
    updatedAtMs := now
    steps_le := (copyOrNull_length allocator allocs 0 heap dag.steps).symm ▸ dag.steps_le }

namespace DagTable

/-- `dag_catalog_add` -/
def addCopying (allocator : Allocator (List UInt8)) (allocs : Nat → Bool) (heap : ByteHeap)
    (table : DagTable) (dag : DagSlot) : ResultStatus × ByteHeap × DagTable :=
  match table.find dag.dagId with
  | some _ => (.errExists, heap, table)
  | none =>
    if table.dags.count ≥ table.capacity then (.errFull, heap, table)
    else
      let newDag := dag.partialCopy allocator allocs heap
      match deepCopy allocator allocs 0 heap dag.steps with
      | (_, [], heap) => (.ok, heap, { table with dags := table.dags.push newDag }.notify)
      | (copies, _, heap) =>
        -- the configurations copied so far, and those that were not to be copied
        (.errNomem, freeConfigs heap copies,
          { table with dags := table.dags.write table.dags.count newDag })

/-- `dag_catalog_update` -/
def updateCopying (allocator : Allocator (List UInt8)) (allocs : Nat → Bool) (now : UInt64)
    (heap : ByteHeap) (table : DagTable) (dag : DagSlot) : ResultStatus × ByteHeap × DagTable :=
  match table.find dag.dagId with
  | none => (.errNotfound, heap, table)
  | some (i, existing) =>
    let heap := freeConfigs heap existing.steps
    (.ok, (copyOrNull allocator allocs 0 heap dag.steps).2,
      { table with
        dags := table.dags.write i (dag.copyWithNulls allocator allocs now heap) })

end DagTable

-- ----------------------------------------------------------------------------
-- The two loops
-- ----------------------------------------------------------------------------

/-- Memory is found for every configuration that is to be copied. -/
def AllCopied (allocs : Nat → Bool) (i : Nat) (steps : List StepSlot) : Prop :=
  ∀ j step, steps[j]? = some step → step.hasConfig = true → allocs (i + j) = true

theorem allCopied_cons (allocs : Nat → Bool) (i : Nat) (step : StepSlot) (rest : List StepSlot) :
    AllCopied allocs i (step :: rest) ↔
      (step.hasConfig && !allocs i) = false ∧ AllCopied allocs (i + 1) rest := by
  constructor
  · intro h
    refine ⟨?_, fun j later hlater hconfig => ?_⟩
    · cases hconfig : step.hasConfig with
      | false => rfl
      | true => simpa using h 0 step rfl hconfig
    · have hlater := h (j + 1) later hlater hconfig
      rwa [Nat.add_assoc, Nat.add_comm 1 j]
  · rintro ⟨hfirst, hrest⟩ j later hlater hconfig
    cases j with
    | zero =>
      obtain rfl := Option.some.inj hlater
      simpa [hconfig] using hfirst
    | succ j =>
      have hlater := hrest j later hlater hconfig
      rwa [Nat.add_assoc, Nat.add_comm 1 j] at hlater

section Loops

variable {allocator : Allocator (List UInt8)} {allocs : Nat → Bool} {heap : ByteHeap}

theorem deepCopy_all (h : AllCopied allocs i steps) :
    deepCopy allocator allocs i heap steps =
      ((copyConfigs allocator heap steps).1, [], (copyConfigs allocator heap steps).2) := by
  induction steps generalizing i heap with
  | nil => rfl
  | cons step rest ih =>
    obtain ⟨hfirst, hrest⟩ := (allCopied_cons allocs i step rest).mp h
    simp [deepCopy, hfirst, copyConfigs, ih hrest]

theorem copyOrNull_all (h : AllCopied allocs i steps) :
    copyOrNull allocator allocs i heap steps = copyConfigs allocator heap steps := by
  induction steps generalizing i heap with
  | nil => rfl
  | cons step rest ih =>
    obtain ⟨hfirst, hrest⟩ := (allCopied_cons allocs i step rest).mp h
    simp [copyOrNull, hfirst, copyConfigs, ih hrest]

theorem deepCopy_left (h : ¬ AllCopied allocs i steps) :
    (deepCopy allocator allocs i heap steps).2.1 ≠ [] := by
  induction steps generalizing i heap with
  | nil => exact absurd (fun _ _ hstep => nomatch hstep) h
  | cons step rest ih =>
    rw [allCopied_cons, not_and] at h
    rw [deepCopy]
    split
    · simp
    case isFalse hfirst => exact ih (h (Bool.eq_false_iff.mpr hfirst))

theorem copyConfig_cases (allocator : Allocator (List UInt8)) (heap : ByteHeap)
    (step : StepSlot) :
    copyConfig allocator heap step = (step, heap) ∨
      step.config.isSome = true ∧ ∃ copy bytes, heap.read copy = none ∧
        copyConfig allocator heap step =
          ({ step with config := some copy }, heap.store copy bytes) := by
  cases hconfig : step.config with
  | none => exact .inl (by rw [copyConfig, hconfig])
  | some block =>
    by_cases hlen : step.configLen > 0
    · refine .inr ⟨rfl, allocator.pick heap step.configLen,
        ((heap.read block).getD []).take step.configLen,
        allocator.pick_fresh heap step.configLen, ?_⟩
      simp only [copyConfig, hconfig, if_pos hlen]
    · refine .inl ?_
      simp only [copyConfig, hconfig, if_neg hlen]

theorem copyConfig_config (allocator : Allocator (List UInt8)) (heap : ByteHeap)
    (step : StepSlot) :
    (copyConfig allocator heap step).1.config.isSome = step.config.isSome ∧
      (copyConfig allocator heap step).1.configLen = step.configLen := by
  rcases copyConfig_cases allocator heap step with hsame | ⟨hconfig, copy, bytes, -, hcopy⟩
  · rw [hsame]
    exact ⟨rfl, rfl⟩
  · rw [hcopy, hconfig]
    exact ⟨rfl, rfl⟩

def StepSlot.Complete (step : StepSlot) : Prop := step.config.isSome ↔ 0 < step.configLen

instance (step : StepSlot) : Decidable step.Complete := inferInstanceAs (Decidable (_ ↔ _))

theorem copyOrNull_complete_iff (steps : List StepSlot) :
    (∀ copy ∈ (copyOrNull allocator allocs i heap steps).1, copy.Complete) ↔
      (∀ step ∈ steps, step.Complete) ∧ AllCopied allocs i steps := by
  induction steps generalizing i heap with
  | nil => simp [copyOrNull, AllCopied]
  | cons step rest ih =>
    rw [allCopied_cons, copyOrNull, List.forall_mem_cons, List.forall_mem_cons, ih]
    cases hfails : step.hasConfig && !allocs i with
    | true =>
      have hlen : 0 < step.configLen := by simp_all [StepSlot.hasConfig]
      have hnull : ¬ StepSlot.Complete { step with config := none } := by
        simp [StepSlot.Complete, hlen.ne']
      simp [hnull]
    | false =>
      obtain ⟨hconfig, hlen⟩ := copyConfig_config allocator heap step
      have hcopy : (copyConfig allocator heap step).1.Complete ↔ step.Complete := by
        rw [StepSlot.Complete, StepSlot.Complete, hconfig, hlen]
      simp [hcopy, and_assoc]

theorem copyConfigs_complete_iff (steps : List StepSlot) :
    (∀ copy ∈ (copyConfigs allocator heap steps).1, copy.Complete) ↔
      ∀ step ∈ steps, step.Complete := by
  have hall : AllCopied (fun _ => true) 0 steps := fun _ _ _ _ => rfl
  rw [← copyOrNull_all hall, copyOrNull_complete_iff, and_iff_left hall]

/-- What a copy does to the memory: only its own block has changed, and that is
fresh or the one it was given. -/
structure CopyFrame (heap : ByteHeap) (steps copies : List StepSlot) (heap' : ByteHeap) : Prop where
  keeps : heap'.Extends heap
  others : ∀ block ∉ stepBlocks copies, heap'.read block = heap.read block
  fresh : ∀ block ∈ stepBlocks copies, heap.read block = none ∨ block ∈ stepBlocks steps

theorem copyConfig_frame (allocator : Allocator (List UInt8)) (heap : ByteHeap)
    (step : StepSlot) :
    CopyFrame heap [step] [(copyConfig allocator heap step).1]
      (copyConfig allocator heap step).2 := by
  rcases copyConfig_cases allocator heap step with hsame | ⟨-, copy, bytes, hfresh, hcopy⟩
  · rw [hsame]
    exact ⟨.refl heap, fun _ _ => rfl, fun _ hblock => .inr hblock⟩
  · rw [hcopy]
    refine ⟨Heap.extends_store hfresh _, fun block hblock => ?_, fun block hblock => .inl ?_⟩
    · have hne : copy ≠ block := by
        simpa [stepBlocks, eq_comm] using hblock
      rw [Heap.read_store, if_neg hne]
    · have heq : block = copy := by simpa [stepBlocks] using hblock
      rw [heq, hfresh]

theorem CopyFrame.cons {step copy : StepSlot} (hfirst : CopyFrame heap [step] [copy] heap')
    (hrest : CopyFrame heap' rest copies heap'') :
    CopyFrame heap (step :: rest) (copy :: copies) heap'' where
  keeps := hfirst.keeps.trans hrest.keeps
  others := by
    intro block hblock
    rw [← List.singleton_append, stepBlocks_append, List.mem_append, not_or] at hblock
    rw [hrest.others block hblock.2, hfirst.others block hblock.1]
  fresh := by
    intro block hblock
    rw [← List.singleton_append, stepBlocks_append] at hblock ⊢
    rcases List.mem_append.mp hblock with hmem | hmem
    · exact (hfirst.fresh block hmem).imp_right (List.mem_append_left _)
    · exact (hrest.fresh block hmem).imp hfirst.keeps.none (List.mem_append_right _)

theorem deepCopy_frame (allocs : Nat → Bool) (i : Nat) (heap : ByteHeap)
    (steps : List StepSlot) :
    CopyFrame heap steps (deepCopy allocator allocs i heap steps).1
      (deepCopy allocator allocs i heap steps).2.2 := by
  induction steps generalizing i heap with
  | nil => exact ⟨.refl heap, fun _ _ => rfl, fun _ hblock => nomatch hblock⟩
  | cons step rest ih =>
    rw [deepCopy]
    split
    · exact ⟨.refl heap, fun _ _ => rfl, fun _ hblock => nomatch hblock⟩
    · exact (copyConfig_frame allocator heap step).cons (ih (i + 1) _)

theorem deepCopy_undone (allocs : Nat → Bool) (heap : ByteHeap) (steps : List StepSlot)
    (hblock : block ∉ stepBlocks steps) :
    (freeConfigs (deepCopy allocator allocs i heap steps).2.2
      (deepCopy allocator allocs i heap steps).1).read block = heap.read block := by
  have hframe := @deepCopy_frame allocator allocs i heap steps
  rw [freeConfigs_read]
  split
  case isTrue hcopy => exact ((hframe.fresh block hcopy).resolve_right hblock).symm
  case isFalse hcopy => exact hframe.others block hcopy

end Loops

-- ----------------------------------------------------------------------------
-- All or nothing
-- ----------------------------------------------------------------------------

structure HasConfigsOf (heap : ByteHeap) (dag : DagSlot) (heap' : ByteHeap) (stored : DagSlot) :
    Prop where
  equal : stored.steps.map (fun step => (step.value heap').configData) =
    dag.steps.map fun step => (step.value heap).configData
  present : ∀ step ∈ stored.steps, step.Complete

structure SameCatalog (heap : ByteHeap) (table : DagTable) (heap' : ByteHeap)
    (table' : DagTable) : Prop where
  items : table'.items = table.items
  blocks : ∀ block ∈ blocksOf table.items, heap'.read block = heap.read block

/-- The operation stores the DAG with all its configurations, or fails and
changes nothing. -/
def AllOrNothing (heap : ByteHeap) (table : DagTable) (dag : DagSlot)
    (outcome : ResultStatus × ByteHeap × DagTable) : Prop :=
  (outcome.1 = .ok ∧ ∃ stored, outcome.2.2.get dag.dagId = some stored ∧
    HasConfigsOf heap dag outcome.2.1 stored) ∨
  (outcome.1 ≠ .ok ∧ SameCatalog heap table outcome.2.1 outcome.2.2)

structure DagTable.Shaped (table : DagTable) : Prop where
  slots : table.dags.slots.length = table.capacity
  count_le : table.dags.count ≤ table.capacity

/-- The configurations of the given DAG are live, and none is the catalog's. -/
def Presented (heap : ByteHeap) (table : DagTable) (dag : DagSlot) : Prop :=
  ∀ block ∈ stepBlocks dag.steps, (heap.read block).isSome ∧ block ∉ blocksOf table.items

theorem DagTable.get_eq (table : DagTable) (dagId : RuleId) :
    table.get dagId = lookup DagSlot.dagId table.items dagId := by
  rw [get, find, search_eq]
  rfl

section Operations

variable {allocator : Allocator (List UInt8)} {allocs : Nat → Bool} {heap : ByteHeap}
  {table : DagTable} {dag : DagSlot}

theorem Presented.copyable (h : Presented heap table dag)
    (hcomplete : ∀ step ∈ dag.steps, step.Complete) :
    ∀ step ∈ dag.steps, Copyable heap step := by
  intro step hstep block hconfig
  refine ⟨(h block (mem_stepBlocks.mpr ⟨step, hstep, hconfig⟩)).1, ?_⟩
  exact (hcomplete step hstep).mp (by rw [hconfig]; rfl)

theorem copyConfigs_hasConfigsOf {heap : ByteHeap} {stored : DagSlot}
    (hcopyable : ∀ step ∈ dag.steps, Copyable heap step)
    (hsteps : stored.steps = (copyConfigs allocator heap dag.steps).1)
    (hcomplete : ∀ step ∈ dag.steps, step.Complete) :
    HasConfigsOf heap dag (copyConfigs allocator heap dag.steps).2 stored where
  equal := by
    have hvalues := congrArg (List.map DagStep.configData)
      (copyConfigs_spec allocator heap hcopyable).values
    rw [List.map_map, List.map_map] at hvalues
    rw [hsteps]
    exact hvalues
  present := by
    rw [hsteps]
    exact (copyConfigs_complete_iff dag.steps).mpr hcomplete

theorem addCopying_copied (hfind : table.find dag.dagId = none)
    (hroom : table.dags.count < table.capacity) (hall : AllCopied allocs 0 dag.steps) :
    table.addCopying allocator allocs heap dag =
      (.ok, (copyConfigs allocator heap dag.steps).2,
        DagTable.notify { table with
          dags := table.dags.push (dag.partialCopy allocator allocs heap) }) := by
  simp only [DagTable.addCopying, hfind, if_neg (Nat.not_le.mpr hroom), deepCopy_all hall]

theorem addCopying_undone (hfind : table.find dag.dagId = none)
    (hroom : table.dags.count < table.capacity) (hall : ¬ AllCopied allocs 0 dag.steps) :
    table.addCopying allocator allocs heap dag =
      (.errNomem, freeConfigs (deepCopy allocator allocs 0 heap dag.steps).2.2
          (deepCopy allocator allocs 0 heap dag.steps).1,
        { table with
          dags := table.dags.write table.dags.count (dag.partialCopy allocator allocs heap) }) := by
  have hleft := @deepCopy_left allocator allocs heap 0 dag.steps hall
  cases hcopies : deepCopy allocator allocs 0 heap dag.steps with
  | mk copies rest =>
    obtain ⟨left, heap'⟩ := rest
    rw [hcopies] at hleft
    cases left with
    | nil => exact absurd rfl hleft
    | cons step left =>
      simp only [DagTable.addCopying, hfind, if_neg (Nat.not_le.mpr hroom), hcopies]

theorem addCopying_get (hshape : table.Shaped) (hfind : table.find dag.dagId = none)
    (hroom : table.dags.count < table.capacity) {added : DagSlot} (hid : added.dagId = dag.dagId) :
    (DagTable.notify { table with dags := table.dags.push added }).get dag.dagId =
      some added := by
  have hnew : lookup DagSlot.dagId table.items dag.dagId = none := by
    rw [← DagTable.get_eq, DagTable.get, hfind]
    rfl
  rw [DagTable.get_eq, DagTable.items, notify_dags, items_push (hshape.slots ▸ hroom),
    lookup_append, ← DagTable.items, hnew]
  exact (lookup_cons ..).trans (if_pos hid)

theorem updateCopying_get (hfind : table.find dag.dagId = some (i, existing)) {updated : DagSlot}
    (hid : updated.dagId = dag.dagId) :
    DagTable.get { table with dags := table.dags.write i updated } dag.dagId = some updated := by
  have hkeeps : ∀ slot : DagSlot, slot.dagId = dag.dagId → updated.dagId = dag.dagId :=
    fun _ _ => hid
  rw [DagTable.get_eq, DagTable.items, items_write_found hfind fun _ => updated,
    lookup_modify hkeeps, ← DagTable.items, ← DagTable.get_eq, DagTable.get, hfind]
  rfl

theorem Presented.read_freed (h : Presented heap table dag)
    (hfind : table.find dag.dagId = some (i, existing)) :
    ∀ block ∈ stepBlocks dag.steps,
      (freeConfigs heap existing.steps).read block = heap.read block := by
  obtain ⟨before, after, hitems, -, -⟩ := find_split hfind
  intro block hblock
  refine freeConfigs_other heap existing block fun hin => (h block hblock).2 ?_
  rw [hitems, blocksOf_append]
  exact List.mem_append_right _ (List.mem_append_left _ (by simpa using hin))

theorem items_write_count (array : SlotArray α) (a : α) :
    (array.write array.count a).items = array.items := by
  rw [SlotArray.items, write_count, SlotArray.write, List.take_set,
    List.set_eq_of_length_le (List.length_take_le _ _), SlotArray.items]

theorem addCopying_allOrNothing_iff (hshape : table.Shaped) (hgiven : Presented heap table dag) :
    AllOrNothing heap table dag (table.addCopying allocator allocs heap dag) ↔
      (table.find dag.dagId = none → table.dags.count < table.capacity →
        AllCopied allocs 0 dag.steps → ∀ step ∈ dag.steps, step.Complete) := by
  have hunchanged : SameCatalog heap table heap table := ⟨rfl, fun _ _ => rfl⟩
  cases hfind : table.find dag.dagId with
  | some found =>
    have hout : table.addCopying allocator allocs heap dag = (.errExists, heap, table) := by
      simp only [DagTable.addCopying, hfind]
    rw [hout]
    exact iff_of_true (.inr ⟨by simp, hunchanged⟩) fun hnone => nomatch hnone
  | none =>
    by_cases hroom : table.dags.count < table.capacity
    case neg =>
      have hout : table.addCopying allocator allocs heap dag = (.errFull, heap, table) := by
        simp only [DagTable.addCopying, hfind, if_pos (Nat.not_lt.mp hroom)]
      rw [hout]
      exact iff_of_true (.inr ⟨by simp, hunchanged⟩) fun _ hlt => absurd hlt hroom
    simp only [hroom, forall_const]
    by_cases hall : AllCopied allocs 0 dag.steps
    · have hsteps : (dag.partialCopy allocator allocs heap).steps =
          (copyConfigs allocator heap dag.steps).1 := by
        simp [DagSlot.partialCopy, deepCopy_all hall]
      have hid : (dag.partialCopy allocator allocs heap).dagId = dag.dagId := rfl
      have hstored := addCopying_get hshape hfind hroom hid
      rw [addCopying_copied hfind hroom hall]
      simp only [hall, forall_const]
      constructor
      · rintro (⟨-, stored, hget, hconfigs⟩ | ⟨hne, -⟩)
        · obtain rfl := Option.some.inj (hstored.symm.trans hget)
          have hpresent := hconfigs.present
          rw [hsteps, copyConfigs_complete_iff] at hpresent
          exact hpresent
        · exact absurd rfl hne
      · intro hcomplete
        exact .inl ⟨rfl, _, hstored,
          copyConfigs_hasConfigsOf (hgiven.copyable hcomplete) hsteps hcomplete⟩
    · rw [addCopying_undone hfind hroom hall]
      refine iff_of_true (.inr ⟨by simp, items_write_count _ _, fun block hblock => ?_⟩)
        fun hcopied => absurd hcopied hall
      exact deepCopy_undone allocs heap dag.steps fun hgivenBlock =>
        (hgiven block hgivenBlock).2 hblock

theorem updateCopying_allOrNothing_iff (now : UInt64) (hgiven : Presented heap table dag) :
    AllOrNothing heap table dag (table.updateCopying allocator allocs now heap dag) ↔
      ((table.find dag.dagId).isSome = true →
        (∀ step ∈ dag.steps, step.Complete) ∧ AllCopied allocs 0 dag.steps) := by
  unfold DagTable.updateCopying
  cases hfind : table.find dag.dagId with
  | none => exact iff_of_true (.inr ⟨by simp, rfl, fun _ _ => rfl⟩) (by simp)
  | some found =>
    obtain ⟨i, existing⟩ := found
    have hfreed := hgiven.read_freed hfind
    dsimp only
    generalize freeConfigs heap existing.steps = freed at hfreed ⊢
    have hid : (dag.copyWithNulls allocator allocs now freed).dagId = dag.dagId := rfl
    have hstored := updateCopying_get hfind hid
    simp only [Option.isSome_some, forall_const]
    constructor
    · rintro (⟨-, stored, hget, hconfigs⟩ | ⟨hne, -⟩)
      · obtain rfl := Option.some.inj (hstored.symm.trans hget)
        exact (copyOrNull_complete_iff dag.steps).mp hconfigs.present
      · exact absurd rfl hne
    · rintro ⟨hcomplete, hall⟩
      have hsteps : (dag.copyWithNulls allocator allocs now freed).steps =
          (copyConfigs allocator freed dag.steps).1 := by
        simp [DagSlot.copyWithNulls, copyOrNull_all hall]
      have hcopyable : ∀ step ∈ dag.steps, Copyable freed step := by
        intro step hstep block hconfig
        rw [hfreed block (mem_stepBlocks.mpr ⟨step, hstep, hconfig⟩)]
        exact hgiven.copyable hcomplete step hstep block hconfig
      obtain ⟨hequal, hpresent⟩ := copyConfigs_hasConfigsOf hcopyable hsteps hcomplete
      have hsame : dag.steps.map (fun step => (step.value freed).configData) =
          dag.steps.map fun step => (step.value heap).configData :=
        List.map_congr_left fun step hstep => congrArg DagStep.configData
          (StepSlot.value_congr fun block hconfig =>
            hfreed block (mem_stepBlocks.mpr ⟨step, hstep, hconfig⟩))
      rw [hsame] at hequal
      rw [copyOrNull_all hall]
      exact .inl ⟨rfl, _, hstored, hequal, hpresent⟩

/-- An addition keeps all or nothing exactly if it fails or the given DAG has a
configuration for each length; an update of a DAG that is there also needs memory
for all of them. -/
theorem catalogCopy_allOrNothing_iff (hshape : table.Shaped) (hgiven : Presented heap table dag)
    (now : UInt64) :
    (AllOrNothing heap table dag (table.addCopying allocator allocs heap dag) ↔
      (table.find dag.dagId = none → table.dags.count < table.capacity →
        AllCopied allocs 0 dag.steps → ∀ step ∈ dag.steps, step.Complete)) ∧
    (AllOrNothing heap table dag (table.updateCopying allocator allocs now heap dag) ↔
      ((table.find dag.dagId).isSome = true →
        (∀ step ∈ dag.steps, step.Complete) ∧ AllCopied allocs 0 dag.steps)) :=
  ⟨addCopying_allOrNothing_iff hshape hgiven, updateCopying_allOrNothing_iff now hgiven⟩

end Operations

theorem copying_allocated (allocator : Allocator (List UInt8)) (now : UInt64) (heap : ByteHeap)
    (table : DagTable) (dag : DagSlot) :
    table.addCopying allocator (fun _ => true) heap dag = table.add allocator heap dag ∧
      table.updateCopying allocator (fun _ => true) now heap dag =
        table.update allocator now heap dag := by
  have hall : AllCopied (fun _ => true) 0 dag.steps := fun _ _ _ _ => rfl
  constructor
  · have hcopy : dag.partialCopy allocator (fun _ => true) heap = (dag.copy allocator heap).1 := by
      simp [DagSlot.partialCopy, DagSlot.copy, deepCopy_all hall]
    unfold DagTable.addCopying DagTable.add
    cases table.find dag.dagId with
    | some found => rfl
    | none => simp only [deepCopy_all hall, hcopy, DagSlot.copy]
  · unfold DagTable.updateCopying DagTable.update
    cases table.find dag.dagId with
    | none => rfl
    | some found => simp only [DagSlot.copyWithNulls, copyOrNull_all hall, DagSlot.copy]

def configuredTable : DagTable where
  dags := ⟨[oneStepDag 1 (some 1) 1, .zero, .zero, .zero], 1⟩
  capacity := 4
  hasCallback := false
  notified := []

def configuredHeap : ByteHeap := ⟨[(1, [7]), (2, [8])]⟩

theorem configuredTable_shaped : configuredTable.Shaped := ⟨rfl, by decide⟩

theorem catalogCopy_allOrNothing_iff_configured :
    (AllOrNothing configuredHeap configuredTable (oneStepDag 1 (some 2) 1)
        (configuredTable.addCopying (.preferring 1) (fun _ => false) configuredHeap
          (oneStepDag 1 (some 2) 1)) ↔
      (configuredTable.find 1 = none → configuredTable.dags.count < configuredTable.capacity →
        AllCopied (fun _ => false) 0 (oneStepDag 1 (some 2) 1).steps →
          ∀ step ∈ (oneStepDag 1 (some 2) 1).steps, step.Complete)) ∧
    (AllOrNothing configuredHeap configuredTable (oneStepDag 1 (some 2) 1)
        (configuredTable.updateCopying (.preferring 1) (fun _ => false) 0 configuredHeap
          (oneStepDag 1 (some 2) 1)) ↔
      ((configuredTable.find 1).isSome = true →
        (∀ step ∈ (oneStepDag 1 (some 2) 1).steps, step.Complete) ∧
          AllCopied (fun _ => false) 0 (oneStepDag 1 (some 2) 1).steps)) :=
  catalogCopy_allOrNothing_iff configuredTable_shaped (by unfold Presented; decide) 0

/-- The update frees the byte of the DAG, finds no memory for the new one, and
reports success. -/
theorem updateCopying_loses_config :
    configuredTable.Shaped ∧
      Presented configuredHeap configuredTable (oneStepDag 1 (some 2) 1) ∧
      ¬ AllOrNothing configuredHeap configuredTable (oneStepDag 1 (some 2) 1)
        (configuredTable.updateCopying (.preferring 1) (fun _ => false) 0 configuredHeap
          (oneStepDag 1 (some 2) 1)) := by
  refine ⟨configuredTable_shaped, by unfold Presented; decide, ?_⟩
  rintro (⟨-, stored, hget, hconfigs⟩ | ⟨hne, -⟩)
  · cases hget
    exact absurd hconfigs.present (by decide)
  · exact hne rfl

end Roole
