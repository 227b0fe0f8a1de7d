import Roole.Node.SyncCatalog
import Roole.Dag.Topological
import Roole.Node.Executor

/-!
# The registration tool

`dag_register.c` registers a linear DAG: as many stages as its user asks for,
each with the number of the stage before it as its only dependency. From the
payload of the tool to the order in which an executor runs the stages.
-/

namespace Roole

open Bytes KeyedList

-- ----------------------------------------------------------------------------
-- The payload
-- ----------------------------------------------------------------------------

def registerStage (i : Nat) : List UInt8 :=
  writeBe32 (.ofNat i) ++
    if i = 0 then writeBe32 0 else writeBe32 1 ++ writeBe32 (.ofNat (i - 1))

def registerPayload (dagId : UInt32) (dagName : List UInt8) (numStages : UInt32) : List UInt8 :=
  writeBe32 dagId ++ (writeBe32 (.ofNat dagName.length) ++ (dagName ++ (writeBe32 numStages ++
    (List.range numStages.toNat).flatMap registerStage)))

def linearStage (i : Nat) : AddDagStage where
  stageId := .ofNat i
  dependencyCount := if i = 0 then 0 else 1
  dependencies := if i = 0 then [] else [.ofNat (i - 1)]

theorem registerStage_eq (i : Nat) : registerStage i = (linearStage i).encode := by
  unfold registerStage linearStage AddDagStage.encode
  split_ifs <;> simp

/-- What the handler makes of the tool's payload, at most as many stages as it
reads. -/
def linearPayload (dagId : UInt32) (dagName : List UInt8) (numStages : UInt32) : AddDagPayload where
  dagId := dagId
  name := dagName
  numStages := numStages
  stages := (List.range (min numStages.toNat maxDagSteps)).map linearStage

theorem range_split (m n : Nat) (h : m ≤ n) : ∃ rest, List.range n = List.range m ++ rest :=
  ⟨(List.range (n - m)).map (m + ·), by
    rw [← List.range_add, Nat.add_sub_cancel' h]⟩

theorem registerPayload_eq (dagId : UInt32) (dagName : List UInt8) (numStages : UInt32) :
    ∃ rest, registerPayload dagId dagName numStages =
      (linearPayload dagId dagName numStages).encode ++ rest := by
  obtain ⟨later, hrange⟩ := range_split (min numStages.toNat maxDagSteps) numStages.toNat
    (min_le_left _ _)
  refine ⟨later.flatMap registerStage, ?_⟩
  have hstages : ∀ stages : List Nat, (stages.map linearStage).flatMap AddDagStage.encode =
      stages.flatMap registerStage := fun stages => by
    rw [List.flatMap_map]
    exact List.flatMap_congr fun i _ => (registerStage_eq i).symm
  simp only [registerPayload, AddDagPayload.encode, linearPayload, hstages, hrange,
    List.flatMap_append, List.append_assoc]

theorem linearPayload_clamped (dagId : UInt32) {dagName : List UInt8} (numStages : UInt32)
    (hname : dagName.length < maxDagName) : (linearPayload dagId dagName numStages).Clamped where
  name_lt := hname
  stages := by simp [linearPayload]
  dependencies := by
    intro stage hstage
    obtain ⟨i, -, rfl⟩ := List.mem_map.mp hstage
    unfold linearStage
    split_ifs <;> simp [maxStepDependencies]

theorem linearPayload_wellFormed (dagId : UInt32) {dagName : List UInt8} {numStages : UInt32}
    (hname : dagName.length < maxDagName) (hle : numStages.toNat ≤ maxDagSteps) :
    (linearPayload dagId dagName numStages).WellFormed where
  name_lt := hname
  stages := by simp [linearPayload, min_eq_left hle]
  stages_le := by simp [linearPayload]
  dependencies := by
    intro stage hstage
    obtain ⟨i, -, rfl⟩ := List.mem_map.mp hstage
    unfold linearStage
    split_ifs <;> simp
  dependencies_le := by
    intro stage hstage
    obtain ⟨i, -, rfl⟩ := List.mem_map.mp hstage
    unfold linearStage
    split_ifs <;> simp [maxStepDependencies]

theorem linearPayload_named (dagId : UInt32) (dagName : List UInt8) (numStages : UInt32) :
    ∀ stage ∈ (linearPayload dagId dagName numStages).stages, ∀ id ∈ stage.dependencies,
      (linearPayload dagId dagName numStages).Names id := by
  intro stage hstage id hid
  obtain ⟨i, hi, rfl⟩ := List.mem_map.mp hstage
  unfold linearStage at hid
  split_ifs at hid with hzero
  · cases hid
  · obtain rfl := List.mem_singleton.mp hid
    have hi := List.mem_range.mp hi
    refine List.mem_map.mpr ⟨linearStage (i - 1), List.mem_map_of_mem ?_, rfl⟩
    exact List.mem_range.mpr (by omega)

-- ----------------------------------------------------------------------------
-- The registration
-- ----------------------------------------------------------------------------

/-- The tool's request is well formed and the node has room for it. -/
structure Registrable (state : NodeState) (dagId : UInt32) (dagName : List UInt8)
    (numStages : UInt32) : Prop where
  name_lt : dagName.length < maxDagName
  stages_pos : 0 < numStages.toNat
  stages_le : numStages.toNat ≤ maxDagSteps
  new : dagCatalogGet state.dagCatalog dagId = none
  room : state.dagCatalog.dags.length < state.dagCatalog.capacity

theorem parse_register (now : UInt64) (dagId : UInt32) {dagName : List UInt8} (numStages : UInt32)
    (hname : dagName.length < maxDagName) :
    parseAddDag now (registerPayload dagId dagName numStages) =
      some ((linearPayload dagId dagName numStages).dag now) := by
  obtain ⟨rest, heq⟩ := registerPayload_eq dagId dagName numStages
  rw [heq]
  exact parseAddDag_encode (linearPayload_clamped dagId numStages hname) now rest

theorem parse_register_long (now : UInt64) (dagId : UInt32) {dagName : List UInt8}
    (numStages : UInt32) (hname : maxDagName ≤ dagName.length) (hword : dagName.length < 2 ^ 32) :
    parseAddDag now (registerPayload dagId dagName numStages) = none := by
  have htake : ∀ x rest, takeBe32 (writeBe32 x ++ rest) = some (x, rest) := fun x rest =>
    takeBe32_eq_some.mpr rfl
  simp only [parseAddDag, registerPayload, htake, Option.bind_eq_bind, Option.bind_some]
  rw [if_pos (by rwa [UInt32.toNat_ofNat_of_lt' hword])]

theorem linearPayload_valid_iff (past : PastSlots) (now : UInt64) (dagId : UInt32)
    {dagName : List UInt8} (numStages : UInt32) (hname : dagName.length < maxDagName) :
    dagValidate past ((linearPayload dagId dagName numStages).dag now) = .ok ↔
      0 < numStages.toNat ∧ numStages.toNat ≤ maxDagSteps := by
  constructor
  · intro hvalid
    obtain ⟨hzero, hle, -⟩ := dagValidate_ok.mp hvalid
    exact ⟨Nat.pos_of_ne_zero hzero, hle⟩
  · rintro ⟨hpos, hle⟩
    refine AddDagPayload.dag_valid (linearPayload_wellFormed dagId hname hle) ?_
      (linearPayload_named dagId dagName numStages)
    refine List.ne_nil_of_length_pos ?_
    rw [(linearPayload_wellFormed dagId hname hle).stages]
    exact hpos

theorem addedDag_register_iff (env : NodeEnv) (state : NodeState) (dagId : UInt32)
    {dagName : List UInt8} (numStages : UInt32) (hword : dagName.length < 2 ^ 32) :
    addedDag env state (registerPayload dagId dagName numStages) = some dag ↔
      Registrable state dagId dagName numStages ∧
        dag = (linearPayload dagId dagName numStages).dag env.now := by
  by_cases hname : dagName.length < maxDagName
  · unfold addedDag
    rw [parse_register env.now dagId numStages hname, Option.filter_eq_some_iff, decide_eq_true_eq,
      Option.some.injEq, eq_comm]
    constructor
    · rintro ⟨rfl, hvalid, hadd⟩
      obtain ⟨hpos, hle⟩ := (linearPayload_valid_iff _ _ dagId numStages hname).mp hvalid
      obtain ⟨hnew, hroom⟩ := (dagCatalogAdd_ok env.copyAlloc
        ((linearPayload dagId dagName numStages).dag_hasConfig env.now)).mp hadd
      exact ⟨⟨hname, hpos, hle, hnew, hroom⟩, rfl⟩
    · rintro ⟨h, rfl⟩
      exact ⟨rfl, (linearPayload_valid_iff _ _ dagId numStages hname).mpr
        ⟨h.stages_pos, h.stages_le⟩, (dagCatalogAdd_ok env.copyAlloc
          ((linearPayload dagId dagName numStages).dag_hasConfig env.now)).mpr ⟨h.new, h.room⟩⟩
  · have hnone := parse_register_long env.now dagId numStages (Nat.not_lt.mp hname) hword
    rw [addedDag, hnone]
    refine iff_of_false (fun h => by cases h) fun h => hname h.1.name_lt

/-- The tool is told SUCCESS exactly where its request can be registered. -/
theorem registerTool_accepted_iff (env : NodeEnv) (context : RpcAsyncContext) (server : NodeServer)
    (dagId : UInt32) {dagName : List UInt8} (numStages : UInt32)
    (hword : dagName.length < 2 ^ 32) :
    .respond context .success [1] ∈ ((handleAddDag env context
        (registerPayload dagId dagName numStages) server).2.trace.drop server.trace.length) ↔
      Registrable server.node dagId dagName numStages := by
  cases hadded : addedDag env server.node (registerPayload dagId dagName numStages) with
  | none =>
    obtain ⟨status, reply, quiet, hstatus, hafter, htrace⟩ := handleAddDag_rejects context hadded
    rw [hafter, mem_respond_drop htrace]
    refine iff_of_false ?_ fun h => ?_
    · rintro (hmem | heq | heq | heq | heq)
      · cases hmem
      all_goals cases heq
      exact hstatus rfl
    · have hsome := (addedDag_register_iff env server.node dagId numStages hword).mpr ⟨h, rfl⟩
      rw [hadded] at hsome
      cases hsome
  | some dag =>
    obtain ⟨quiet, hafter, htrace, -⟩ := handleAddDag_adds context hadded
    rw [hafter, mem_respond_drop htrace]
    exact iff_of_true (.inr (.inl rfl))
      ((addedDag_register_iff env server.node dagId numStages hword).mp hadded).1

theorem registerTool_accepted_iff_three : .respond clientContext .success [1] ∈
    ((handleAddDag (.calm fun _ _ => 0) clientContext (registerPayload 7 [97] 3)
      loneNode).2.trace.drop loneNode.trace.length) ↔ Registrable loneNode.node 7 [97] 3 :=
  registerTool_accepted_iff _ clientContext loneNode 7 3 (by decide)

-- ----------------------------------------------------------------------------
-- The execution
-- ----------------------------------------------------------------------------

section Linear

variable {past : PastSlots} {executeStep : StepFunction} {endTimeMs : UInt64}
  {start : DagExecutionContext}

def Dag.Linear (past : PastSlots) (dag : Dag) : Prop :=
  ∀ i j, dag.WaitsFor past i j → j + 1 = i

theorem executePass_ready (hnew : run.ctx.stepCompleted.getD i false = false)
    (hmet : run.ctx.stepDependenciesMet past i = true)
    (hok : ∀ ctx step, (executeStep ctx step).status = .ok) (rest : List Nat) :
    executePass past executeStep endTimeMs run (i :: rest) =
      executePass past executeStep endTimeMs
        (run.complete i (executeStep run.ctx (run.ctx.dag.step i)).outputData) rest := by
  rw [executePass, if_neg (by rw [hnew]; simp), if_neg (by rw [hmet]; simp)]
  simp only [hok, ne_eq, not_true_eq_false, if_false]

/-- A pass that has run the steps before `k` runs the others in their order. -/
theorem executePass_linear (hok : ∀ ctx step, (executeStep ctx step).status = .ok)
    (hvalid : DagRun.Valid past executeStep start run) (hlinear : start.dag.Linear past)
    (hcount : start.dag.stepCount ≤ maxDagSteps) (hexist : start.dag.DependenciesExist past)
    (hdone : run.executed = List.range k) (hend : k + m = start.dag.stepCount)
    (hprogress : m = 0 → run.progressMade = true) :
    ∃ run', executePass past executeStep endTimeMs run (List.range' k m) = .ok run' ∧
      DagRun.Valid past executeStep start run' ∧
      run'.executed = List.range start.dag.stepCount ∧ run'.progressMade = true := by
  induction m generalizing k run with
  | zero => exact ⟨run, rfl, hvalid, by rw [hdone, ← hend, Nat.add_zero], hprogress rfl⟩
  | succ m ih =>
    have hk : k < start.dag.stepCount := by omega
    have hnew : run.ctx.stepCompleted.getD k false = false := by
      rw [← Bool.not_eq_true, hvalid.marked, hdone]
      exact List.not_mem_range_self
    have hmet : run.ctx.stepDependenciesMet past k = true := by
      rw [← hvalid.dag_eq] at hlinear hexist hk
      refine (stepDependenciesMet_iff hexist hk).mpr fun j hj => (hvalid.marked j).mpr ?_
      rw [hdone, List.mem_range]
      have hbefore := hlinear k j hj
      omega
    rw [List.range'_succ, executePass_ready hnew hmet hok]
    refine ih (hvalid.complete hcount hexist hk hnew hmet (hok _ _)) ?_ (by omega) fun _ => rfl
    rw [DagRun.complete, hdone, List.range_succ]

/-- The steps in the order of their indices, each on what the ones before left. -/
theorem dagExecute_linear {ctx : DagExecutionContext}
    (hok : ∀ ctx step, (executeStep ctx step).status = .ok) (hlinear : ctx.dag.Linear past)
    (hvalid : dagValidate past ctx.dag = .ok) (startTimeMs : UInt64) :
    ∃ last run, (ctx.started startTimeMs).runSteps executeStep (List.range ctx.dag.stepCount) =
        some last ∧
      dagExecute past executeStep endTimeMs startTimeMs ctx = (.ok, run) ∧
      run.executed = List.range ctx.dag.stepCount ∧ run.ctx = last.finish .completed endTimeMs ∧
      run.ctx.Completed := by
  obtain ⟨hzero, hcount, hexist⟩ := dagValidate_ok.mp hvalid
  have hinit := DagRun.Valid.init past executeStep startTimeMs ctx
  obtain ⟨next, hpass, hnext, hall, hprogress⟩ := executePass_linear (k := 0) hok hinit.startPass
    hlinear hcount hexist rfl (Nat.zero_add _) (fun hnone => absurd hnone hzero)
  rw [← List.range_eq_range'] at hpass
  have hcounted : ¬ next.completedSteps < next.ctx.dag.stepCount := by
    rw [hnext.counted, hall, hnext.dag_eq, List.length_range]
    exact Nat.lt_irrefl _
  have hrun : dagExecute past executeStep endTimeMs startTimeMs ctx =
      (.ok, next.finish .completed endTimeMs) := by
    rw [dagExecute, executeLoop_again (Nat.pos_of_ne_zero hzero) hpass hprogress, executeLoop,
      if_neg hcounted]
  refine ⟨next.ctx, _, hall ▸ hnext.ran, hrun, hall, rfl, rfl, fun i hi => (hnext.marked i).mpr ?_⟩
  rw [hall, ← hnext.dag_eq]
  exact List.mem_range.mpr hi

end Linear

theorem linearPayload_stage (dagId : UInt32) (dagName : List UInt8) {numStages : UInt32}
    (hle : numStages.toNat ≤ maxDagSteps) (hi : i < numStages.toNat) :
    (linearPayload dagId dagName numStages).stages[i]? = some (linearStage i) := by
  rw [linearPayload, min_eq_left hle, List.getElem?_map, List.getElem?_range hi, Option.map_some]

theorem linearPayload_linear (past : PastSlots) (now : UInt64) (dagId : UInt32)
    {dagName : List UInt8} {numStages : UInt32} (hname : dagName.length < maxDagName)
    (hle : numStages.toNat ≤ maxDagSteps) :
    ((linearPayload dagId dagName numStages).dag now).Linear past := by
  rintro i j ⟨hi, d, hd, hindex⟩
  have hget := linearPayload_stage dagId dagName hle hi
  rw [AddDagPayload.dag_step hget] at hd
  cases i with
  | zero => cases hd
  | succ k =>
    obtain rfl : d = 0 := Nat.lt_one_iff.mp hd
    rw [AddDagPayload.dag_dependency (linearPayload_clamped dagId numStages hname) hget
      (by simp [linearStage])] at hindex
    obtain ⟨hj, hid⟩ := Dag.stepIndex_some hindex
    rw [AddDagPayload.dag_step (linearPayload_stage dagId dagName hle hj)] at hid
    have hword : ∀ n < numStages.toNat, (UInt32.ofNat n).toNat = n := fun n hn =>
      UInt32.toNat_ofNat_of_lt' (hn.trans numStages.toNat_lt)
    have heq : UInt32.ofNat j = .ofNat k := hid
    rw [← hword j hj, heq, hword k (Nat.lt_of_succ_lt hi)]

/-- What the tool has registered is executed stage by stage, each stage on what
the stages before it have left, by every step function that succeeds. -/
theorem registerTool_runs_in_order (env : NodeEnv) (context : RpcAsyncContext) (server : NodeServer)
    {dagId : UInt32} {dagName : List UInt8} {numStages : UInt32}
    (h : Registrable server.node dagId dagName numStages) {message : Message}
    (hmessage : message.dagId = dagId) {executeStep : StepFunction}
    (hok : ∀ ctx step, (executeStep ctx step).status = .ok) :
    ∃ dag, dagCatalogGet (handleAddDag env context (registerPayload dagId dagName numStages)
        server).2.node.dagCatalog message.dagId = some dag ∧
      ∀ past startTimeMs endTimeMs,
        let ctx := message.executionContext dag
        ∃ last run, (ctx.started startTimeMs).runSteps executeStep (List.range numStages.toNat) =
            some last ∧
          dagExecute past executeStep endTimeMs startTimeMs ctx = (.ok, run) ∧
          run.executed = List.range numStages.toNat ∧
          run.ctx = last.finish .completed endTimeMs ∧ run.ctx.Completed := by
  have hadded := (addedDag_register_iff env server.node dagId numStages
    (h.name_lt.trans (by decide))).mpr ⟨h, rfl⟩
  obtain ⟨quiet, hafter, -, hdags⟩ := handleAddDag_adds context hadded
  refine ⟨(linearPayload dagId dagName numStages).dag env.now, ?_, fun past startTimeMs _ => ?_⟩
  · rw [hafter, rpcSendAsyncResponse_node, dagCatalogGet, hdags, lookup_append, hmessage,
      ← dagCatalogGet, h.new]
    simp [lookup, linearPayload, AddDagPayload.dag]
  · exact dagExecute_linear hok (linearPayload_linear past env.now dagId h.name_lt h.stages_le)
      ((linearPayload_valid_iff past env.now dagId numStages h.name_lt).mpr
        ⟨h.stages_pos, h.stages_le⟩) startTimeMs

theorem registrable_loneNode : Registrable loneNode.node 7 [97] 3 where
  name_lt := by decide
  stages_pos := by decide
  stages_le := by decide
  new := rfl
  room := by decide +kernel

def appendStepId : StepFunction := fun ctx step =>
  ⟨.ok, ctx.outputData.map (· ++ [UInt8.ofNat step.stepId.toNat])⟩

theorem registerTool_runs_in_order_three : ∃ dag, dagCatalogGet (handleAddDag
    (.calm fun _ _ => 0) clientContext (registerPayload 7 [97] 3) loneNode).2.node.dagCatalog 7 =
      some dag ∧ ∃ last run, (({ Message.zero with dagId := 7 }.executionContext dag).started
          0).runSteps appendStepId [0, 1, 2] = some last ∧
        dagExecute (fun _ _ => 0) appendStepId 0 0
          ({ Message.zero with dagId := 7 }.executionContext dag) = (.ok, run) ∧
        run.ctx = last.finish .completed 0 := by
  have hmessage : { Message.zero with dagId := 7 }.dagId = 7 := rfl
  have hok : ∀ ctx step, (appendStepId ctx step).status = .ok := fun _ _ => rfl
  obtain ⟨dag, hget, hruns⟩ := registerTool_runs_in_order (.calm fun _ _ => 0) clientContext
    loneNode registrable_loneNode hmessage hok
  obtain ⟨last, run, hran, hrun, -, hlast, -⟩ := hruns (fun _ _ => 0) 0 0
  exact ⟨dag, hget, last, run, hran, hrun, hlast⟩

end Roole
