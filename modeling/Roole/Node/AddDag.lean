import Mathlib.Data.Nat.Find
import Roole.Node.Handlers

/-!
# Registering a DAG

What `handle_add_dag` makes of a payload. The payload is described by the
values that the handler reads off it, and the handler's effect by those values.
-/

namespace Roole

open Bytes

-- ----------------------------------------------------------------------------
-- The payload
-- ----------------------------------------------------------------------------

/-- A stage as it stands in a payload, up to the last dependency that is read. -/
structure AddDagStage where
  stageId : UInt32
  dependencyCount : UInt32
  dependencies : List UInt32
  deriving DecidableEq, Repr

structure AddDagPayload where
  dagId : UInt32
  name : List UInt8
  numStages : UInt32
  stages : List AddDagStage
  deriving DecidableEq, Repr

def AddDagStage.encode (stage : AddDagStage) : List UInt8 :=
  writeBe32 stage.stageId ++ (writeBe32 stage.dependencyCount ++
    stage.dependencies.flatMap writeBe32)

def AddDagStage.step (stage : AddDagStage) : DagStep where
  stepId := stage.stageId
  name := stageName stage.stageId
  functionName := stageFunctionName stage.stageId
  configData := none
  configLen := 0
  dependencies := stage.dependencies
  dependencyCount := stage.dependencyCount.toNat
  timeoutMs := 30000
  maxRetries := 3

namespace AddDagPayload

def encode (payload : AddDagPayload) : List UInt8 :=
  writeBe32 payload.dagId ++ (writeBe32 (.ofNat payload.name.length) ++ (payload.name ++
    (writeBe32 payload.numStages ++ payload.stages.flatMap AddDagStage.encode)))

def dag (now : UInt64) (payload : AddDagPayload) : Dag where
  dagId := payload.dagId
  name := safeStrncpy payload.name maxDagName
  version := 1
  steps := payload.stages.map AddDagStage.step
  stepCount := payload.numStages.toNat
  createdAtMs := now
  updatedAtMs := now

/-- The lists have the lengths that the two clamped loops give them. -/
structure Clamped (payload : AddDagPayload) : Prop where
  name_lt : payload.name.length < maxDagName
  stages : payload.stages.length = min payload.numStages.toNat maxDagSteps
  dependencies : ∀ stage ∈ payload.stages,
    stage.dependencies.length = min stage.dependencyCount.toNat maxStepDependencies

structure WellFormed (payload : AddDagPayload) : Prop where
  name_lt : payload.name.length < maxDagName
  stages : payload.stages.length = payload.numStages.toNat
  stages_le : payload.stages.length ≤ maxDagSteps
  dependencies : ∀ stage ∈ payload.stages,
    stage.dependencies.length = stage.dependencyCount.toNat
  dependencies_le : ∀ stage ∈ payload.stages,
    stage.dependencies.length ≤ maxStepDependencies

end AddDagPayload

theorem parseDependencies_eq_some : parseDependencies n bytes = some (dependencies, rest) ↔
    bytes = dependencies.flatMap writeBe32 ++ rest ∧ dependencies.length = n := by
  induction n generalizing bytes dependencies rest with
  | zero =>
    simp only [parseDependencies, Option.some.injEq, Prod.mk.injEq, List.length_eq_zero_iff]
    constructor
    · rintro ⟨rfl, rfl⟩
      exact ⟨rfl, rfl⟩
    · rintro ⟨rfl, rfl⟩
      exact ⟨rfl, rfl⟩
  | succ n ih =>
    simp only [parseDependencies, Option.bind_eq_bind, Option.bind_eq_some_iff, Prod.exists,
      takeBe32_eq_some, ih, Option.some.injEq, Prod.mk.injEq]
    constructor
    · rintro ⟨x, _, rfl, xs, _, ⟨rfl, rfl⟩, rfl, rfl⟩
      simp
    · rintro ⟨rfl, hlen⟩
      obtain ⟨x, xs, rfl⟩ := List.exists_cons_of_length_eq_add_one hlen
      exact ⟨x, _, by simp, xs, rest, ⟨rfl, by simpa using hlen⟩, rfl, rfl⟩

theorem parseStage_eq_some : parseStage bytes = some (step, rest) ↔
    ∃ stage : AddDagStage, bytes = stage.encode ++ rest ∧ step = stage.step ∧
      stage.dependencies.length = min stage.dependencyCount.toNat maxStepDependencies := by
  simp only [parseStage, Option.bind_eq_bind, Option.bind_eq_some_iff, Prod.exists,
    takeBe32_eq_some, parseDependencies_eq_some, Option.some.injEq, Prod.mk.injEq]
  constructor
  · rintro ⟨stageId, _, rfl, count, _, rfl, dependencies, _, ⟨rfl, hlen⟩, rfl, rfl⟩
    exact ⟨⟨stageId, count, dependencies⟩, by simp [AddDagStage.encode], rfl, hlen⟩
  · rintro ⟨⟨stageId, count, dependencies⟩, rfl, rfl, hlen⟩
    refine ⟨stageId, _, ?_, count, _, rfl, dependencies, rest, ⟨rfl, hlen⟩, rfl, rfl⟩
    simp [AddDagStage.encode]

theorem parseStages_eq_some : parseStages n bytes = some (steps, rest) ↔
    ∃ stages : List AddDagStage, bytes = stages.flatMap AddDagStage.encode ++ rest ∧
      stages.length = n ∧ steps = stages.map AddDagStage.step ∧ ∀ stage ∈ stages,
        stage.dependencies.length = min stage.dependencyCount.toNat maxStepDependencies := by
  induction n generalizing bytes steps rest with
  | zero =>
    simp only [parseStages, Option.some.injEq, Prod.mk.injEq]
    constructor
    · rintro ⟨rfl, rfl⟩
      exact ⟨[], by simp⟩
    · rintro ⟨stages, rfl, hlen, rfl, -⟩
      obtain rfl := List.length_eq_zero_iff.mp hlen
      exact ⟨rfl, rfl⟩
  | succ n ih =>
    simp only [parseStages, Option.bind_eq_bind, Option.bind_eq_some_iff, Prod.exists,
      parseStage_eq_some, ih, Option.some.injEq, Prod.mk.injEq]
    constructor
    · rintro ⟨_, _, ⟨stage, rfl, rfl, hstage⟩, _, _, ⟨stages, rfl, rfl, rfl, hstages⟩, rfl, rfl⟩
      exact ⟨stage :: stages, by simp, rfl, rfl, by simpa using ⟨hstage, hstages⟩⟩
    · rintro ⟨stages, rfl, hlen, rfl, hall⟩
      obtain ⟨stage, stages, rfl⟩ := List.exists_cons_of_length_eq_add_one hlen
      rw [List.forall_mem_cons] at hall
      exact ⟨_, _, ⟨stage, by simp, rfl, hall.1⟩, _, rest,
        ⟨stages, rfl, by simpa using hlen, rfl, hall.2⟩, rfl, rfl⟩

/-- The parser accepts what begins with the encoding of a payload. -/
theorem parseAddDag_eq_some : parseAddDag now inData = some dag ↔
    ∃ (payload : AddDagPayload) (rest : List UInt8), inData = payload.encode ++ rest ∧
      payload.Clamped ∧ dag = payload.dag now := by
  simp only [parseAddDag, Option.bind_eq_bind, Option.bind_eq_some_iff, Prod.exists,
    takeBe32_eq_some]
  constructor
  · rintro ⟨dagId, _, rfl, nameLen, _, rfl, h⟩
    split_ifs at h with hname
    simp only [Option.bind_eq_some_iff, Prod.exists, takeBe32_eq_some, takeBytes_eq_some,
      parseStages_eq_some, Option.some.injEq] at h
    obtain ⟨name, _, ⟨rfl, hlen⟩, numStages, _, rfl, _, rest, ⟨stages, rfl, hstages, rfl, hdeps⟩,
      rfl⟩ := h
    refine ⟨⟨dagId, name, numStages, stages⟩, rest, ?_, ⟨?_, hstages, hdeps⟩, rfl⟩
    · simp [AddDagPayload.encode, hlen]
    · exact hlen ▸ Nat.not_le.mp hname
  · rintro ⟨⟨dagId, name, numStages, stages⟩, rest, rfl, ⟨hname, hstages, hdeps⟩, rfl⟩
    have hlen : (UInt32.ofNat name.length).toNat = name.length :=
      UInt32.toNat_ofNat_of_lt' (Nat.lt_trans hname (by decide))
    simp only [AddDagPayload.encode, List.append_assoc]
    refine ⟨dagId, _, rfl, .ofNat name.length, _, rfl, ?_⟩
    rw [hlen, if_neg (Nat.not_le.mpr hname)]
    simp only [Option.bind_eq_some_iff, Prod.exists, takeBe32_eq_some, takeBytes_eq_some,
      parseStages_eq_some, Option.some.injEq]
    exact ⟨name, _, ⟨rfl, rfl⟩, numStages, _, rfl, _, rest, ⟨stages, rfl, hstages, rfl, hdeps⟩,
      rfl⟩

theorem parseAddDag_encode {payload : AddDagPayload} (hclamped : payload.Clamped) (now : UInt64)
    (rest : List UInt8) : parseAddDag now (payload.encode ++ rest) = some (payload.dag now) :=
  parseAddDag_eq_some.mpr ⟨payload, rest, rfl, hclamped, rfl⟩

-- ----------------------------------------------------------------------------
-- The DAG of a payload
-- ----------------------------------------------------------------------------

namespace AddDagPayload

def Names (payload : AddDagPayload) (id : UInt32) : Prop :=
  id ∈ payload.stages.map AddDagStage.stageId

/-- The validator gets behind the array of a stage: the stage says it has more
dependencies than fit, and nothing up to the end of its array stops the
validator. -/
def Overruns (payload : AddDagPayload) : Prop :=
  payload.numStages.toNat ≠ 0 ∧ payload.numStages.toNat ≤ maxDagSteps ∧
    ∃ i stage, payload.stages[i]? = some stage ∧
      maxStepDependencies < stage.dependencyCount.toNat ∧
      ∀ earlier ∈ payload.stages.take (i + 1), ∀ id ∈ earlier.dependencies, payload.Names id

structure CutsName (payload : AddDagPayload) (catalog : DagCatalog) : Prop where
  wellFormed : payload.WellFormed
  nonempty : payload.stages ≠ []
  named : ∀ stage ∈ payload.stages, ∀ id ∈ stage.dependencies, payload.Names id
  new : dagCatalogGet catalog payload.dagId = none
  room : catalog.dags.length < catalog.capacity
  nul : (0 : UInt8) ∈ payload.name

variable {payload : AddDagPayload} {now : UInt64} {past : PastSlots}

theorem WellFormed.clamped (h : payload.WellFormed) : payload.Clamped where
  name_lt := h.name_lt
  stages := by
    rw [← h.stages, min_eq_left h.stages_le]
  dependencies := fun stage hstage => by
    rw [← h.dependencies stage hstage, min_eq_left (h.dependencies_le stage hstage)]

theorem dag_step (h : payload.stages[i]? = some stage) :
    (payload.dag now).step i = stage.step := by
  simp [Dag.step, dag, h]

theorem dag_step_none (h : payload.stages[i]? = none) : (payload.dag now).step i = .zero := by
  simp [Dag.step, dag, h]

theorem dag_hasConfig (payload : AddDagPayload) (now : UInt64) (i : Nat) :
    ((payload.dag now).step i).hasConfig = false := by
  cases h : payload.stages[i]? with
  | none => rw [dag_step_none h]; rfl
  | some stage => rw [dag_step h]; rfl

variable (hclamped : payload.Clamped) (hle : payload.numStages.toNat ≤ maxDagSteps)
include hclamped hle

theorem stages_length : payload.stages.length = payload.numStages.toNat := by
  rw [hclamped.stages, min_eq_left hle]

theorem exists_stage (hi : i < payload.numStages.toNat) :
    ∃ stage, payload.stages[i]? = some stage :=
  ⟨_, List.getElem?_eq_getElem (hi.trans_eq (stages_length hclamped hle).symm)⟩

theorem dag_hasStep (stageId : UInt32) :
    (payload.dag now).hasStep stageId = true ↔ payload.Names stageId := by
  rw [Dag.hasStep_iff]
  have hlen := stages_length hclamped hle
  constructor
  · rintro ⟨k, hk, rfl⟩
    obtain ⟨stage, hget⟩ := exists_stage hclamped hle hk
    rw [dag_step hget]
    exact List.mem_map_of_mem (List.mem_of_getElem? hget)
  · intro hnamed
    obtain ⟨stage, hmem, rfl⟩ := List.mem_map.mp hnamed
    obtain ⟨k, hget⟩ := List.mem_iff_getElem?.mp hmem
    refine ⟨k, ?_, by rw [dag_step hget]; rfl⟩
    obtain ⟨hk, -⟩ := List.getElem?_eq_some_iff.mp hget
    exact hk.trans_eq hlen

theorem mem_dag_slots : (i, j) ∈ (payload.dag now).dependencySlots ↔
    ∃ stage, payload.stages[i]? = some stage ∧ j < stage.dependencyCount.toNat := by
  rw [Dag.mem_dependencySlots]
  have hlen := stages_length hclamped hle
  constructor
  · rintro ⟨hi, hj⟩
    obtain ⟨stage, hget⟩ := exists_stage hclamped hle hi
    rw [dag_step hget] at hj
    exact ⟨_, hget, hj⟩
  · rintro ⟨stage, hget, hj⟩
    obtain ⟨hi, -⟩ := List.getElem?_eq_some_iff.mp hget
    exact ⟨hi.trans_eq hlen, by rw [dag_step hget]; exact hj⟩

omit hle in
theorem dag_dependency (hget : payload.stages[i]? = some stage)
    (hj : j < stage.dependencies.length) :
    (payload.dag now).dependency past i j = stage.dependencies[j] := by
  have hlen := hclamped.dependencies stage (List.mem_of_getElem? hget)
  have hslot : j < maxStepDependencies := hj.trans_le (hlen ▸ min_le_right _ _)
  rw [Dag.dependency, if_pos hslot, dag_step hget]
  exact (List.getElem_eq_getD 0).symm

theorem dag_named_of_slots
    (hslots : ∀ q ∈ (payload.dag now).dependencySlots, SlotBefore q (i, maxStepDependencies) →
      (payload.dag now).hasStep ((payload.dag now).dependency past q.1 q.2) = true) :
    ∀ earlier ∈ payload.stages.take (i + 1), ∀ stageId ∈ earlier.dependencies,
      payload.Names stageId := by
  intro earlier hearlier stageId hdep
  obtain ⟨i', hget'⟩ := List.mem_iff_getElem?.mp hearlier
  rw [List.getElem?_take] at hget'
  split_ifs at hget' with hi'
  obtain ⟨j, hj, rfl⟩ := List.mem_iff_getElem.mp hdep
  have hlen := hclamped.dependencies earlier (List.mem_of_getElem? hget')
  have hmem : (i', j) ∈ (payload.dag now).dependencySlots :=
    (mem_dag_slots hclamped hle).mpr ⟨earlier, hget', by omega⟩
  have hstep := hslots _ hmem (by unfold SlotBefore; omega)
  rw [dag_dependency hclamped hget' hj] at hstep
  exact (dag_hasStep hclamped hle _).mp hstep

theorem dag_slots_of_named
    (hfirst : ∀ i' < i, ∀ earlier, payload.stages[i']? = some earlier →
      earlier.dependencyCount.toNat ≤ maxStepDependencies)
    (hnamed : ∀ earlier ∈ payload.stages.take (i + 1), ∀ stageId ∈ earlier.dependencies,
      payload.Names stageId) :
    ∀ q ∈ (payload.dag now).dependencySlots, SlotBefore q (i, maxStepDependencies) →
      (payload.dag now).hasStep ((payload.dag now).dependency past q.1 q.2) = true := by
  rintro ⟨i', j⟩ hmem hbefore
  obtain ⟨earlier, hget', hj⟩ := (mem_dag_slots hclamped hle).mp hmem
  have hlen := hclamped.dependencies earlier (List.mem_of_getElem? hget')
  have hj' : j < earlier.dependencies.length := by
    rcases hbefore with hlt | ⟨heq, hlt⟩
    · have hfits := hfirst i' hlt earlier hget'
      omega
    · dsimp only at hlt
      omega
  have hi' : i' < i + 1 := by unfold SlotBefore at hbefore; omega
  have htake : (payload.stages.take (i + 1))[i']? = some earlier := by
    rw [List.getElem?_take_of_lt hi', hget']
  rw [dag_dependency hclamped hget' hj', dag_hasStep hclamped hle]
  exact hnamed earlier (List.mem_of_getElem? htake) _ (List.getElem_mem hj')

theorem dag_valid_named (hvalid : dagValidate past (payload.dag now) = .ok) :
    ∀ stage ∈ payload.stages, ∀ stageId ∈ stage.dependencies, payload.Names stageId := by
  intro stage hstage
  obtain ⟨i, hget⟩ := List.mem_iff_getElem?.mp hstage
  have hslots := Dag.dependenciesExist_iff.mp (dagValidate_ok.mp hvalid).2.2
  refine dag_named_of_slots (i := i) hclamped hle (fun q hq _ => hslots q hq) stage ?_
  refine List.mem_of_getElem? (i := i) ?_
  rw [List.getElem?_take_of_lt (Nat.lt_succ_self i), hget]

omit hclamped hle in
theorem dag_valid (h : payload.WellFormed) (hne : payload.stages ≠ [])
    (hnamed : ∀ stage ∈ payload.stages, ∀ stageId ∈ stage.dependencies, payload.Names stageId) :
    dagValidate past (payload.dag now) = .ok := by
  have hle : payload.numStages.toNat ≤ maxDagSteps := h.stages ▸ h.stages_le
  have hpos := List.length_pos_of_ne_nil hne
  refine dagValidate_ok.mpr ⟨(h.stages ▸ hpos).ne', hle, Dag.dependenciesExist_iff.mpr ?_⟩
  rintro ⟨i, j⟩ hmem
  obtain ⟨stage, hget, hj⟩ := (mem_dag_slots h.clamped hle).mp hmem
  have hstage := List.mem_of_getElem? hget
  rw [← h.dependencies stage hstage] at hj
  rw [dag_dependency h.clamped hget hj, dag_hasStep h.clamped hle]
  exact hnamed stage hstage _ (List.getElem_mem hj)

omit hclamped hle in
theorem encode_name {other : AddDagPayload} (hname : payload.name.length < maxDagName)
    (hother : other.name.length < maxDagName)
    (h : payload.encode ++ rest = other.encode ++ rest') : payload.name = other.name := by
  have hlen : ∀ n < maxDagName, (UInt32.ofNat n).toNat = n := fun n hn =>
    UInt32.toNat_ofNat_of_lt' (Nat.lt_trans hn (by decide))
  simp only [encode, List.append_assoc] at h
  obtain ⟨-, h⟩ := List.append_inj h (by simp)
  obtain ⟨hcount, h⟩ := List.append_inj h (by simp)
  have hread := congrArg readBe32 hcount
  rw [← List.append_nil (writeBe32 _), readBe32_write, ← List.append_nil (writeBe32 _),
    readBe32_write] at hread
  have hsame := congrArg UInt32.toNat hread
  rw [hlen _ hname, hlen _ hother] at hsame
  exact (List.append_inj h hsame).1

end AddDagPayload

-- ----------------------------------------------------------------------------
-- What the handler reads and adds
-- ----------------------------------------------------------------------------

def addDagReads (env : NodeEnv) (inData : List UInt8) : List (Nat × Nat) :=
  match parseAddDag env.now inData with
  | none => []
  | some dag => dagValidateReads env.past dag

theorem addDagReads_overruns {payload : AddDagPayload} (hclamped : payload.Clamped)
    (hparse : parseAddDag env.now inData = some (payload.dag env.now)) :
    (∃ slot ∈ addDagReads env inData, maxStepDependencies ≤ slot.2) ↔ payload.Overruns := by
  simp only [addDagReads, hparse, Prod.exists]
  constructor
  · rintro ⟨i, j, hread, hj⟩
    obtain ⟨hzero, hle, hmem, hbefore⟩ := mem_dagValidateReads.mp hread
    obtain ⟨stage, hget, hcount⟩ := (AddDagPayload.mem_dag_slots hclamped hle).mp hmem
    refine ⟨hzero, hle, i, stage, hget, by omega, ?_⟩
    refine AddDagPayload.dag_named_of_slots hclamped hle fun q hq hq' => hbefore q hq ?_
    unfold SlotBefore at hq' ⊢
    omega
  · rintro ⟨hzero, hle, i, stage, hget, hcount, hnamed⟩
    classical
    -- the read behind the array is that of the first stage with too large a count
    have hexists : ∃ i, ∃ stage : AddDagStage, payload.stages[i]? = some stage ∧
        maxStepDependencies < stage.dependencyCount.toNat := ⟨i, stage, hget, hcount⟩
    obtain ⟨first, hfirst, hover⟩ := Nat.find_spec hexists
    have hmin : Nat.find hexists ≤ i := Nat.find_min' hexists ⟨stage, hget, hcount⟩
    refine ⟨Nat.find hexists, maxStepDependencies, mem_dagValidateReads.mpr ⟨hzero, hle, ?_, ?_⟩,
      le_refl _⟩
    · exact (AddDagPayload.mem_dag_slots hclamped hle).mpr ⟨first, hfirst, hover⟩
    · refine AddDagPayload.dag_slots_of_named hclamped hle ?_ ?_
      · intro i' hi' earlier hget'
        exact Nat.not_lt.mp fun hlt => Nat.find_min hexists hi' ⟨earlier, hget', hlt⟩
      · intro earlier hearlier
        exact hnamed earlier ((List.take_prefix_take_left (Nat.succ_le_succ hmin)).subset hearlier)

/-- The request is answered with an error and the catalog is what it was. -/
def AddRejected (context : RpcAsyncContext) (before after : NodeServer) : Prop :=
  after.node.dagCatalog = before.node.dagCatalog ∧
    ∃ status ≠ RpcStatus.success,
      RpcEvent.respond context status [] ∈ after.trace.drop before.trace.length

def AddRegistered (inData : List UInt8) (before after : NodeServer) : Prop :=
  ∃ (payload : AddDagPayload) (rest : List UInt8) (dag : Dag),
    inData = payload.encode ++ rest ∧ payload.WellFormed ∧
    after.node.dagCatalog.dags = before.node.dagCatalog.dags ++ [dag] ∧
    dag.dagId = payload.dagId ∧ dag.name = payload.name ∧ dag.stepCount = payload.stages.length ∧
    (dag.steps.map fun step => (step.stepId, step.dependencyCount, step.dependencies)) =
      payload.stages.map fun stage =>
        (stage.stageId, stage.dependencies.length, stage.dependencies)

/-- The request is rejected, or adds exactly what it encodes, and the validator
stays within the arrays of the steps. -/
def AddDagExact (env : NodeEnv) (context : RpcAsyncContext) (inData : List UInt8)
    (server : NodeServer) : Prop :=
  let after := (handleAddDag env context inData server).2
  (AddRejected context server after ∨ AddRegistered inData server after) ∧
    ∀ slot ∈ addDagReads env inData, slot.2 < maxStepDependencies

theorem addRejected_respond (context : RpcAsyncContext) (hstatus : status ≠ .success)
    (server : NodeServer) :
    AddRejected context server (rpcSendAsyncResponse context status [] server).2 :=
  ⟨rfl, status, hstatus, by simp [rpcSendAsyncResponse]⟩

theorem syncWorker_dagCatalog (dagId : RuleId) (dagBuffer : List UInt8) (server : NodeServer)
    (worker : NodeId) :
    (syncWorker dagId dagBuffer server worker).node.dagCatalog = server.node.dagCatalog := by
  unfold syncWorker
  dsimp only
  split <;> rfl

theorem syncWorkers_dagCatalog (dagId : RuleId) (dagBuffer : List UInt8) (workers : List NodeId)
    (server : NodeServer) :
    (workers.foldl (syncWorker dagId dagBuffer) server).node.dagCatalog =
      server.node.dagCatalog := by
  induction workers generalizing server with
  | nil => rfl
  | cons worker rest ih => rw [List.foldl_cons, ih, syncWorker_dagCatalog]

/-- The handler rejects the request, or it parses and validates it and adds the
DAG. -/
theorem handleAddDag_cases (env : NodeEnv) (context : RpcAsyncContext) (inData : List UInt8)
    (server : NodeServer) :
    (AddRejected context server (handleAddDag env context inData server).2 ∧
      ∀ dag, parseAddDag env.now inData = some dag → dagValidate env.past dag = .ok →
        (dagCatalogAdd env.copyAlloc server.node.dagCatalog dag).1 ≠ .ok) ∨
    ∃ dag, parseAddDag env.now inData = some dag ∧ dagValidate env.past dag = .ok ∧
      (dagCatalogAdd env.copyAlloc server.node.dagCatalog dag).1 = .ok ∧
      (handleAddDag env context inData server).2.node.dagCatalog.dags =
        server.node.dagCatalog.dags ++ [dag] := by
  unfold handleAddDag
  cases hparse : parseAddDag env.now inData with
  | none => exact .inl ⟨addRejected_respond context (by decide) server, by simp⟩
  | some dag =>
    by_cases hvalid : dagValidate env.past dag = .ok
    · obtain ⟨result, hresult, hadd⟩ | ⟨hnew, hroom, hadd⟩ :=
        dagCatalogAdd_cases env.copyAlloc server.node.dagCatalog dag
      · left
        simp only [hvalid, hadd, hresult, ne_eq, not_true_eq_false, not_false_eq_true, if_true,
          if_false]
        refine ⟨addRejected_respond context (by decide) server, ?_⟩
        rintro _ ⟨⟩ -
        simpa [hadd] using hresult
      · right
        refine ⟨dag, rfl, hvalid, by rw [hadd], ?_⟩
        simp only [hvalid, hadd, ne_eq, not_true_eq_false, if_false]
        split <;> simp [syncWorkers_dagCatalog, RpcServer.setNode, DagCatalog.append]
    · simp only [hvalid, ne_eq, not_false_eq_true, if_true]
      refine .inl ⟨addRejected_respond context (by decide) server, ?_⟩
      rintro _ ⟨⟩ hok
      exact absurd hok hvalid

theorem AddDagPayload.dag_name {payload : AddDagPayload} (h : payload.name.length < maxDagName) :
    (payload.dag now).name = cString payload.name := safeStrncpy_eq_cString h

theorem addRegistered_of_valid {payload : AddDagPayload} (hclamped : payload.Clamped)
    (hvalid : dagValidate past (payload.dag now) = .ok) (hover : ¬ payload.Overruns)
    (hnul : payload.WellFormed → (0 : UInt8) ∉ payload.name)
    (hdags : after.node.dagCatalog.dags = before.node.dagCatalog.dags ++ [payload.dag now]) :
    AddRegistered (payload.encode ++ rest) before after := by
  obtain ⟨hzero, hle, -⟩ := dagValidate_ok.mp hvalid
  have hnamed := AddDagPayload.dag_valid_named hclamped hle hvalid
  have hcounts : ∀ stage ∈ payload.stages,
      stage.dependencyCount.toNat ≤ maxStepDependencies := by
    intro stage hstage
    by_contra hcount
    obtain ⟨i, hget⟩ := List.mem_iff_getElem?.mp hstage
    exact hover ⟨hzero, hle, i, stage, hget, Nat.not_le.mp hcount,
      fun earlier hearlier => hnamed earlier (List.mem_of_mem_take hearlier)⟩
  have hlen := AddDagPayload.stages_length hclamped hle
  have hdeps : ∀ stage ∈ payload.stages,
      stage.dependencies.length = stage.dependencyCount.toNat := fun stage hstage => by
    rw [hclamped.dependencies stage hstage, min_eq_left (hcounts stage hstage)]
  have hwell : payload.WellFormed := ⟨hclamped.name_lt, hlen, hlen.trans_le hle, hdeps,
    fun stage hstage => (hdeps stage hstage).trans_le (hcounts stage hstage)⟩
  refine ⟨payload, rest, payload.dag now, rfl, hwell, hdags, rfl, ?_, hlen.symm, ?_⟩
  · rw [AddDagPayload.dag_name hclamped.name_lt]
    exact cString_eq_self (hnul hwell)
  · simp only [AddDagPayload.dag, List.map_map]
    refine List.map_congr_left fun stage hstage => ?_
    simp [AddDagStage.step, hdeps stage hstage]

/-- A payload with a NUL in its name is registered under another name. -/
theorem handleAddDag_cutsName (context : RpcAsyncContext) {payload : AddDagPayload}
    (hclamped : payload.Clamped) (rest : List UInt8)
    (hcuts : payload.CutsName server.node.dagCatalog) :
    ¬ (AddRejected context server
        (handleAddDag env context (payload.encode ++ rest) server).2 ∨
      AddRegistered (payload.encode ++ rest) server
        (handleAddDag env context (payload.encode ++ rest) server).2) := by
  have hparse := parseAddDag_encode hclamped env.now rest
  have hvalid : dagValidate env.past (payload.dag env.now) = .ok :=
    AddDagPayload.dag_valid hcuts.wellFormed hcuts.nonempty hcuts.named
  have hadd := (dagCatalogAdd_ok env.copyAlloc (payload.dag_hasConfig env.now)).mpr
    ⟨hcuts.new, hcuts.room⟩
  obtain ⟨-, hnot⟩ | ⟨dag, hdag, -, -, hdags⟩ :=
    handleAddDag_cases env context (payload.encode ++ rest) server
  · exact absurd hadd (hnot _ hparse hvalid)
  · cases hparse.symm.trans hdag
    rintro (⟨hsame, -⟩ | ⟨other, rest', dag, hencode, hother, hdags', -, hname, -⟩)
    · rw [hsame] at hdags
      simp at hdags
    · have hdag := List.append_cancel_left (hdags.symm.trans hdags')
      cases List.singleton_inj.mp hdag
      rw [AddDagPayload.dag_name hclamped.name_lt, ← AddDagPayload.encode_name
        hclamped.name_lt hother.name_lt hencode] at hname
      exact cString_eq_self_iff.mp hname hcuts.nul

/-- The handler does what it should exactly on the payloads that neither lead
the validator out of an array nor have a NUL in the name they register. -/
theorem handleAddDag_exact_iff (env : NodeEnv) (context : RpcAsyncContext) (inData : List UInt8)
    (server : NodeServer) : AddDagExact env context inData server ↔
      ¬ ∃ (payload : AddDagPayload) (rest : List UInt8), inData = payload.encode ++ rest ∧
        payload.Clamped ∧ (payload.Overruns ∨ payload.CutsName server.node.dagCatalog) := by
  constructor
  · rintro ⟨hcatalog, hreads⟩ ⟨payload, rest, rfl, hclamped, hover | hcuts⟩
    · have hparse := parseAddDag_encode hclamped env.now rest
      obtain ⟨slot, hslot, hpast⟩ := (addDagReads_overruns hclamped hparse).mpr hover
      exact absurd (hreads slot hslot) (Nat.not_lt.mpr hpast)
    · exact handleAddDag_cutsName context hclamped rest hcuts hcatalog
  · intro hnot
    refine ⟨?_, fun slot hslot => ?_⟩
    · obtain ⟨hrejected, -⟩ | ⟨dag, hparse, hvalid, hadd, hdags⟩ :=
        handleAddDag_cases env context inData server
      · exact .inl hrejected
      · obtain ⟨payload, rest, rfl, hclamped, rfl⟩ := parseAddDag_eq_some.mp hparse
        obtain ⟨hnew, hroom⟩ :=
          (dagCatalogAdd_ok env.copyAlloc (payload.dag_hasConfig env.now)).mp hadd
        obtain ⟨hzero, hle, -⟩ := dagValidate_ok.mp hvalid
        refine .inr (addRegistered_of_valid hclamped hvalid ?_ ?_ hdags)
        · exact fun hover => hnot ⟨payload, rest, rfl, hclamped, .inl hover⟩
        · intro hwell hnul
          refine hnot ⟨payload, rest, rfl, hclamped, .inr ⟨hwell, ?_, ?_, hnew, hroom, hnul⟩⟩
          · intro hnil
            have hlen := AddDagPayload.stages_length hclamped hle
            rw [hnil] at hlen
            exact hzero hlen.symm
          · exact AddDagPayload.dag_valid_named hclamped hle hvalid
    · by_contra hpast
      cases hparse : parseAddDag env.now inData with
      | none => simp [addDagReads, hparse] at hslot
      | some dag =>
        obtain ⟨payload, rest, rfl, hclamped, rfl⟩ := parseAddDag_eq_some.mp hparse
        have hover := (addDagReads_overruns hclamped hparse).mp
          ⟨slot, hslot, Nat.not_lt.mp hpast⟩
        exact hnot ⟨payload, rest, rfl, hclamped, .inl hover⟩

def overrunPayload : AddDagPayload where
  dagId := 1
  name := []
  numStages := 1
  stages := [⟨17, 17, List.replicate 17 17⟩]

def loneNode : NodeServer :=
  .start (.init 1 ⟨true, true, true⟩ 4 (messageQueueInit 4 (by decide))) [.rest] []

def clientContext : RpcAsyncContext where
  address := 0
  channel := .init 5 maxBufferSize
  requestId := 1
  funcId := funcIdAddDag
  senderId := 0

/-- The word behind the dependency array is the dependency count itself, so the
read of slot sixteen finds a stage and the DAG is registered. -/
theorem handleAddDag_overrun :
    let env := NodeEnv.calm fun _ _ => 17
    let after := (handleAddDag env clientContext overrunPayload.encode loneNode).2
    ¬ AddDagExact env clientContext overrunPayload.encode loneNode ∧
      (0, 16) ∈ addDagReads env overrunPayload.encode ∧
      (after.node.dagCatalog.dags.map fun dag => dag.steps.map DagStep.dependencyCount) = [[17]] :=
  ⟨fun h => absurd (h.2 (0, 16) (by decide +kernel)) (by decide), by decide +kernel,
    by decide +kernel⟩

end Roole
