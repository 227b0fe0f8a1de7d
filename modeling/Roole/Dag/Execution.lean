import Roole.Dag.Executor
import Roole.Lib.Scheduling

/-!
# What an execution runs

For any step function, `dag_execute` builds a schedule of the dependency
relation, runs its steps one after another, and stops when a step fails or when
the schedule is stuck. The relation is the one the executor sees: an id stands
for the first step that carries it.
-/

namespace Roole

open Scheduling

namespace Dag

def WaitsFor (past : PastSlots) (dag : Dag) (i j : Nat) : Prop :=
  i < dag.stepCount ∧ ∃ d < (dag.step i).dependencyCount,
    dag.stepIndex (dag.dependency past i d) = some j

variable {past : PastSlots} {dag : Dag}

theorem stepIndex_some (h : dag.stepIndex depId = some j) :
    j < dag.stepCount ∧ (dag.step j).stepId = depId := by
  have hmem := List.mem_of_find?_eq_some h
  have hid := List.find?_some h
  exact ⟨List.mem_range.mp hmem, by simpa using hid⟩

theorem stepIndex_isSome (hj : j < dag.stepCount) :
    ∃ k, dag.stepIndex (dag.step j).stepId = some k := by
  rw [← Option.isSome_iff_exists, stepIndex, List.find?_isSome]
  exact ⟨j, List.mem_range.mpr hj, by simp⟩

theorem WaitsFor.lt (h : dag.WaitsFor past i j) : j < dag.stepCount := by
  obtain ⟨_, d, _, hd⟩ := h
  exact (stepIndex_some hd).1

end Dag

variable {past : PastSlots}

theorem stepDependenciesMet_iff {ctx : DagExecutionContext}
    (hexist : ctx.dag.DependenciesExist past) (hi : i < ctx.dag.stepCount) :
    ctx.stepDependenciesMet past i = true ↔
      ∀ j, ctx.dag.WaitsFor past i j → ctx.stepCompleted.getD j false = true := by
  simp only [DagExecutionContext.stepDependenciesMet, List.all_eq_true, List.mem_range,
    DagExecutionContext.dependencyCompleted]
  constructor
  · rintro h j ⟨_, d, hd, hindex⟩
    simpa [hindex] using h d hd
  · intro h d hd
    obtain ⟨k, hk, hid⟩ := hexist i hi d hd
    obtain ⟨j, hj⟩ := Dag.stepIndex_isSome hk
    rw [hid] at hj
    simpa [hj] using h j ⟨hi, d, hd, hj⟩

-- ----------------------------------------------------------------------------
-- Running steps one after another
-- ----------------------------------------------------------------------------

namespace DagExecutionContext

variable (executeStep : StepFunction)

def runStep (ctx : DagExecutionContext) (i : Nat) : Option DagExecutionContext :=
  let result := executeStep ctx (ctx.dag.step i)
  if result.status = .ok then
    some { ctx with
      outputData := result.outputData
      stepCompleted := ctx.stepCompleted.set i true }
  else none

/-- The fold of the step function over the steps; each of them succeeds. -/
def runSteps (ctx : DagExecutionContext) (steps : List Nat) : Option DagExecutionContext :=
  steps.foldlM (runStep executeStep) ctx

variable {executeStep}

theorem runSteps_snoc {start ctx : DagExecutionContext}
    (hran : start.runSteps executeStep steps = some ctx)
    (hok : (executeStep ctx (ctx.dag.step i)).status = .ok) :
    start.runSteps executeStep (steps ++ [i]) = some { ctx with
      outputData := (executeStep ctx (ctx.dag.step i)).outputData
      stepCompleted := ctx.stepCompleted.set i true } := by
  unfold runSteps at hran ⊢
  rw [List.foldlM_append, hran]
  simp [runStep, hok]

end DagExecutionContext

/-- The local variables agree with the steps run so far, and those form a
schedule. -/
structure DagRun.Valid (past : PastSlots) (executeStep : StepFunction)
    (start : DagExecutionContext) (run : DagRun) : Prop where
  dag_eq : run.ctx.dag = start.dag
  size : run.ctx.stepCompleted.length = maxDagSteps
  schedule : Schedule (start.dag.WaitsFor past) run.executed
  bound : ∀ i ∈ run.executed, i < start.dag.stepCount
  marked : ∀ i, run.ctx.stepCompleted.getD i false = true ↔ i ∈ run.executed
  counted : run.completedSteps = run.executed.length
  ran : start.runSteps executeStep run.executed = some run.ctx

theorem le_length_of_forall_mem {l : List Nat} (hall : ∀ i < n, i ∈ l) : n ≤ l.length := by
  have hsub : List.range n ⊆ l := fun i hi => hall i (List.mem_range.mp hi)
  simpa using (List.nodup_range.subperm hsub).length_le

variable {executeStep : StepFunction} {start : DagExecutionContext}

namespace DagRun.Valid

theorem startPass (h : Valid past executeStep start run) :
    Valid past executeStep start { run with progressMade := false } where
  dag_eq := h.dag_eq
  size := h.size
  schedule := h.schedule
  bound := h.bound
  marked := h.marked
  counted := h.counted
  ran := h.ran

theorem init (past : PastSlots) (executeStep : StepFunction) (startTimeMs : UInt64)
    (ctx : DagExecutionContext) :
    Valid past executeStep (ctx.started startTimeMs)
      { ctx := ctx.started startTimeMs
        completedSteps := 0
        progressMade := false
        executed := [] } where
  dag_eq := rfl
  size := by simp [DagExecutionContext.started]
  schedule := .nil
  bound := by simp
  marked := by
    simp only [DagExecutionContext.started, List.getD_eq_getElem?_getD, List.getElem?_replicate]
    grind
  counted := rfl
  ran := rfl

theorem unmarked (h : Valid past executeStep start run)
    (hnew : run.ctx.stepCompleted.getD i false = false) : i ∉ run.executed := by
  rw [← h.marked, hnew]
  exact Bool.false_ne_true

theorem ready (h : Valid past executeStep start run) (hexist : start.dag.DependenciesExist past)
    (hi : i < start.dag.stepCount) (hmet : run.ctx.stepDependenciesMet past i = true) :
    ∀ j, start.dag.WaitsFor past i j → j ∈ run.executed := by
  rw [← h.dag_eq] at hexist hi ⊢
  exact fun j hj => (h.marked j).mp ((stepDependenciesMet_iff hexist hi).mp hmet j hj)

theorem not_ready (h : Valid past executeStep start run) (hexist : start.dag.DependenciesExist past)
    (hi : i < start.dag.stepCount) (hmet : run.ctx.stepDependenciesMet past i = false) :
    ∃ j, start.dag.WaitsFor past i j ∧ j ∉ run.executed := by
  rw [← h.dag_eq] at hexist hi ⊢
  rw [Bool.eq_false_iff, ne_eq, stepDependenciesMet_iff hexist hi, not_forall] at hmet
  obtain ⟨j, hj⟩ := hmet
  obtain ⟨hwaits, hunmarked⟩ := Classical.not_imp.mp hj
  exact ⟨j, hwaits, by rwa [← h.marked]⟩

theorem complete (h : Valid past executeStep start run) (hcount : start.dag.stepCount ≤ maxDagSteps)
    (hexist : start.dag.DependenciesExist past) (hi : i < start.dag.stepCount)
    (hnew : run.ctx.stepCompleted.getD i false = false)
    (hmet : run.ctx.stepDependenciesMet past i = true)
    (hok : (executeStep run.ctx (run.ctx.dag.step i)).status = .ok) :
    Valid past executeStep start
      (run.complete i (executeStep run.ctx (run.ctx.dag.step i)).outputData) := by
  have hschedule := h.schedule.snoc (h.unmarked hnew) (h.ready hexist hi hmet)
  obtain ⟨hdag, hsize, -, hbound, hmarked, hcounted, hran⟩ := h
  refine ⟨hdag, ?_, hschedule, ?_, ?_, ?_, DagExecutionContext.runSteps_snoc hran hok⟩
  · simpa [DagRun.complete] using hsize
  · intro j hj
    rcases List.mem_append.mp hj with hj | hj
    · exact hbound j hj
    · rw [List.mem_singleton.mp hj]
      exact hi
  · intro j
    have hilt : i < run.ctx.stepCompleted.length := by omega
    have hset : (run.ctx.stepCompleted.set i true).getD j false = true ↔
        j = i ∨ run.ctx.stepCompleted.getD j false = true := by
      by_cases hij : i = j
      · subst hij
        simp [hilt]
      · simp [List.getD_eq_getElem?_getD, List.getElem?_set_ne hij, Ne.symm hij]
    simp only [DagRun.complete, hset, hmarked, List.mem_append, List.mem_singleton]
    exact or_comm
  · simp [DagRun.complete, hcounted]

theorem mem_of_all_counted (h : Valid past executeStep start run)
    (hall : start.dag.stepCount ≤ run.completedSteps) (hi : i < start.dag.stepCount) :
    i ∈ run.executed := by
  have hsub : run.executed ⊆ List.range start.dag.stepCount := fun i hi =>
    List.mem_range.mpr (h.bound i hi)
  have hperm := (h.schedule.nodup.subperm hsub).perm_of_length_le (by
    rw [List.length_range, ← h.counted]
    exact hall)
  exact hperm.mem_iff.mpr (List.mem_range.mpr hi)

theorem exists_left (h : Valid past executeStep start run)
    (hlt : run.completedSteps < start.dag.stepCount) :
    ∃ i < start.dag.stepCount, i ∉ run.executed := by
  by_contra hall
  have hlength : start.dag.stepCount ≤ run.executed.length := le_length_of_forall_mem fun i hi => by
    by_contra hi'
    exact hall ⟨i, hi, hi'⟩
  rw [h.counted] at hlt
  omega

end DagRun.Valid

-- ----------------------------------------------------------------------------
-- The outcome
-- ----------------------------------------------------------------------------

/-- How an execution ends; `last` is the run when its last step had succeeded. -/
inductive DagOutcome (past : PastSlots) (executeStep : StepFunction) (endTimeMs : UInt64)
    (dag : Dag) (last : DagRun) : ResultStatus × DagRun → Prop
  | completed (hall : ∀ i < dag.stepCount, i ∈ last.executed) :
      DagOutcome past executeStep endTimeMs dag last (.ok, last.finish .completed endTimeMs)
  | failed (hi : i < dag.stepCount) (hnew : i ∉ last.executed)
      (hready : ∀ j, dag.WaitsFor past i j → j ∈ last.executed)
      (hfails : (executeStep last.ctx (dag.step i)).status ≠ .ok) :
      DagOutcome past executeStep endTimeMs dag last
        (.errInvalid, last.fail i (executeStep last.ctx (dag.step i)).outputData endTimeMs)
  | stuck (hleft : ∃ i < dag.stepCount, i ∉ last.executed)
      (hwait : Stuck (dag.WaitsFor past) {i | i < dag.stepCount} last.executed) :
      DagOutcome past executeStep endTimeMs dag last (.errInvalid, last.finish .failed endTimeMs)

section Pass

variable {endTimeMs : UInt64}

theorem executePass_valid (hvalid : DagRun.Valid past executeStep start run)
    (hcount : start.dag.stepCount ≤ maxDagSteps) (hexist : start.dag.DependenciesExist past)
    (hsteps : ∀ i ∈ steps, i < start.dag.stepCount)
    (h : executePass past executeStep endTimeMs run steps = .ok run') :
    DagRun.Valid past executeStep start run' :=
  executePass_induction (P := DagRun.Valid past executeStep start) hvalid
    (fun _ i hi hr hnew hmet hok => hr.complete hcount hexist (hsteps i hi) hnew hmet hok) h

theorem executePass_stuck (h : executePass past executeStep endTimeMs run steps = .ok run')
    (hstuck : run'.progressMade = false) : run' = run ∧ ∀ i ∈ steps,
      run.ctx.stepCompleted.getD i false = true ∨ run.ctx.stepDependenciesMet past i = false := by
  induction steps with
  | nil =>
    cases h
    exact ⟨rfl, by simp⟩
  | cons i rest ih =>
    obtain ⟨hskip, h⟩ | ⟨_, _, _, h⟩ := executePass_cons h
    · obtain ⟨heq, hrest⟩ := ih h
      exact ⟨heq, List.forall_mem_cons.mpr ⟨hskip, hrest⟩⟩
    · have hprogress : run'.progressMade = true :=
        executePass_induction (P := fun r => r.progressMade = true) rfl (fun _ _ _ _ _ _ _ => rfl) h
      rw [hstuck] at hprogress
      cases hprogress

theorem executePass_no_progress (hvalid : DagRun.Valid past executeStep start run)
    (hexist : start.dag.DependenciesExist past)
    (h : executePass past executeStep endTimeMs run (List.range start.dag.stepCount) = .ok run')
    (hstuck : run'.progressMade = false) :
    Stuck (start.dag.WaitsFor past) {i | i < start.dag.stepCount} run'.executed := by
  obtain ⟨rfl, hskipped⟩ := executePass_stuck h hstuck
  intro i hi hnew
  obtain hmarked | hmet := hskipped i (List.mem_range.mpr hi)
  · exact absurd ((hvalid.marked i).mp hmarked) hnew
  · obtain ⟨j, hwaits, hmissing⟩ := hvalid.not_ready hexist hi hmet
    exact ⟨j, hwaits.lt, hwaits, hmissing⟩

/-- A pass that returns early has run a ready step that failed. -/
theorem executePass_error (hvalid : DagRun.Valid past executeStep start run)
    (hcount : start.dag.stepCount ≤ maxDagSteps) (hexist : start.dag.DependenciesExist past)
    (hsteps : ∀ i ∈ steps, i < start.dag.stepCount)
    (h : executePass past executeStep endTimeMs run steps = .error final) :
    ∃ last, DagRun.Valid past executeStep start last ∧
      DagOutcome past executeStep endTimeMs start.dag last (.errInvalid, final) := by
  induction steps generalizing run with
  | nil => cases h
  | cons i rest ih =>
    have hrest := fun j (hj : j ∈ rest) => hsteps j (List.mem_cons_of_mem i hj)
    have hi := hsteps i List.mem_cons_self
    unfold executePass at h
    cases hnew : run.ctx.stepCompleted.getD i false with
    | true =>
      rw [if_pos hnew] at h
      exact ih hvalid hrest h
    | false =>
      rw [if_neg (by rw [hnew]; simp)] at h
      cases hmet : run.ctx.stepDependenciesMet past i with
      | false =>
        rw [if_pos (by rw [hmet]; rfl)] at h
        exact ih hvalid hrest h
      | true =>
        rw [if_neg (by rw [hmet]; simp)] at h
        dsimp only at h
        split_ifs at h with hfails
        · cases h
          rw [hvalid.dag_eq] at hfails ⊢
          exact ⟨run, hvalid,
            .failed hi (hvalid.unmarked hnew) (hvalid.ready hexist hi hmet) hfails⟩
        · exact ih (hvalid.complete hcount hexist hi hnew hmet (not_not.mp hfails)) hrest h

theorem executeLoop_outcome (hvalid : DagRun.Valid past executeStep start run)
    (hcount : start.dag.stepCount ≤ maxDagSteps) (hexist : start.dag.DependenciesExist past) :
    ∃ last, DagRun.Valid past executeStep start last ∧ DagOutcome past executeStep endTimeMs
      start.dag last (executeLoop past executeStep endTimeMs run) := by
  induction run using executeLoop.induct past executeStep endTimeMs with
  | case1 run hlt failed hpass =>
    have hloop : executeLoop past executeStep endTimeMs run = (.errInvalid, failed) := by
      rw [executeLoop, if_pos hlt]
      split
      · rename_i hfailed
        rw [hpass] at hfailed
        cases hfailed
        rfl
      · rename_i hnext
        rw [hpass] at hnext
        cases hnext
    rw [hloop]
    exact executePass_error hvalid.startPass hcount hexist (by simp [hvalid.dag_eq]) hpass
  | case2 run hlt next hpass hprogress ih =>
    rw [executeLoop_again hlt hpass hprogress]
    exact ih (executePass_valid hvalid.startPass hcount hexist (by simp [hvalid.dag_eq]) hpass)
  | case3 run hlt next hpass hprogress =>
    rw [Bool.not_eq_true] at hprogress
    rw [executeLoop_stuck hlt hpass hprogress]
    rw [hvalid.dag_eq] at hpass hlt
    have hstuck := executePass_no_progress hvalid.startPass hexist hpass hprogress
    obtain ⟨rfl, -⟩ := executePass_stuck hpass hprogress
    exact ⟨_, hvalid.startPass, .stuck (hvalid.exists_left hlt) hstuck⟩
  | case4 run hlt =>
    rw [executeLoop, if_neg hlt]
    rw [hvalid.dag_eq, Nat.not_lt] at hlt
    exact ⟨run, hvalid, .completed fun i hi => hvalid.mem_of_all_counted hlt hi⟩

end Pass

theorem dagExecute_outcome {ctx : DagExecutionContext} (hcount : ctx.dag.stepCount ≤ maxDagSteps)
    (hexist : ctx.dag.DependenciesExist past) (executeStep : StepFunction)
    (startTimeMs endTimeMs : UInt64) :
    ∃ last, DagRun.Valid past executeStep (ctx.started startTimeMs) last ∧
      DagOutcome past executeStep endTimeMs ctx.dag last
        (dagExecute past executeStep endTimeMs startTimeMs ctx) :=
  executeLoop_outcome (DagRun.Valid.init past executeStep startTimeMs ctx) hcount hexist

theorem DagOutcome.marks (h : DagOutcome past executeStep endTimeMs dag last outcome) :
    outcome.2.ctx.stepCompleted = last.ctx.stepCompleted := by
  cases h <;> rfl

/-- Whatever its steps do, an execution of a validated DAG runs no step twice and
none before a step it waits for, each on what the steps before it have left;
it marks exactly the steps that succeeded, runs nothing after a step that
failed, and succeeds only if every step has. -/
theorem dagExecute_failStop {ctx : DagExecutionContext} (hvalid : dagValidate past ctx.dag = .ok)
    (executeStep : StepFunction) (startTimeMs endTimeMs : UInt64) :
    let outcome := dagExecute past executeStep endTimeMs startTimeMs ctx
    ∃ last : DagRun, last.executed.Nodup ∧
      (∀ before i after, last.executed = before ++ i :: after →
        ∀ j, ctx.dag.WaitsFor past i j → j ∈ before) ∧
      (ctx.started startTimeMs).runSteps executeStep last.executed = some last.ctx ∧
      (∀ i, outcome.2.ctx.stepCompleted.getD i false = true ↔ i ∈ last.executed) ∧
      DagOutcome past executeStep endTimeMs ctx.dag last outcome := by
  obtain ⟨-, hcount, hexist⟩ := dagValidate_ok.mp hvalid
  obtain ⟨last, hrun, hend⟩ := dagExecute_outcome hcount hexist executeStep startTimeMs endTimeMs
  exact ⟨last, hrun.schedule.nodup,
    fun _ _ _ hsplit _ hdep => hrun.schedule.dependencies_before hsplit hdep, hrun.ran,
    fun i => hend.marks ▸ hrun.marked i, hend⟩

def DagStep.registered (stepId : UInt32) (dependencies : List UInt32) : DagStep :=
  { DagStep.zero with
    stepId := stepId
    dependencies := dependencies
    dependencyCount := dependencies.length
    timeoutMs := 30000
    maxRetries := 3 }

def Dag.ofSteps (steps : List DagStep) : Dag where
  dagId := 1
  name := []
  version := 1
  steps := steps
  stepCount := steps.length
  createdAtMs := 0
  updatedAtMs := 0

def DagExecutionContext.ofDag (dag : Dag) : DagExecutionContext where
  execId := 1
  dag := dag
  inputData := []
  outputData := some []
  outputCapacity := 4096
  status := .pending
  startTimeMs := 0
  endTimeMs := 0
  stepCompleted := List.replicate maxDagSteps false

def failingSecond : StepFunction := fun _ step =>
  if step.stepId = 2 then ⟨.errInvalid, none⟩ else ⟨.ok, some [7]⟩

theorem dagExecute_failStop_second :
    let ctx := DagExecutionContext.ofDag (.ofSteps
      [.registered 1 [], .registered 2 [1], .registered 3 [2]])
    let outcome := dagExecute (fun _ _ => 0) failingSecond 0 0 ctx
    ∃ last : DagRun, last.executed.Nodup ∧
      (∀ before i after, last.executed = before ++ i :: after →
        ∀ j, ctx.dag.WaitsFor (fun _ _ => 0) i j → j ∈ before) ∧
      (ctx.started 0).runSteps failingSecond last.executed = some last.ctx ∧
      (∀ i, outcome.2.ctx.stepCompleted.getD i false = true ↔ i ∈ last.executed) ∧
      DagOutcome (fun _ _ => 0) failingSecond 0 ctx.dag last outcome :=
  dagExecute_failStop (by decide) failingSecond 0 0

end Roole
