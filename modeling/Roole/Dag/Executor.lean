import Roole.Dag.Basic

/-!
# DAG execution

`dag_execute` of `dag_executor.c`: passes over the steps, running each step
whose dependencies are marked completed, until all steps ran or a pass runs
none. The step function is a parameter; `dagExecuteStep` is the one the
program has.
-/

namespace Roole

inductive DagExecStatus
  | pending
  | running
  | completed
  | failed
  deriving DecidableEq, Repr

/-- `outputData` is the first `output_len` bytes of the buffer, or NULL. -/
structure DagExecutionContext where
  execId : ExecutionId
  dag : Dag
  inputData : List UInt8
  outputData : Option (List UInt8)
  outputCapacity : Nat
  status : DagExecStatus
  startTimeMs : UInt64
  endTimeMs : UInt64
  stepCompleted : List Bool

structure StepResult where
  status : ResultStatus
  outputData : Option (List UInt8)

abbrev StepFunction := DagExecutionContext → DagStep → StepResult

/-- The stub of the source: the output is a copy of the input where it fits. -/
def dagExecuteStep : StepFunction := fun ctx _ =>
  match ctx.outputData with
  | some _ =>
    if ctx.outputCapacity ≥ ctx.inputData.length then ⟨.ok, some ctx.inputData⟩
    else ⟨.ok, ctx.outputData⟩
  | none => ⟨.ok, none⟩

theorem dagExecuteStep_ok (ctx : DagExecutionContext) (step : DagStep) :
    (dagExecuteStep ctx step).status = .ok := by
  unfold dagExecuteStep
  split
  · split_ifs <;> rfl
  · rfl

/-- The index of the first step with this id, where the inner loop of
`step_dependencies_met` stops. -/
def Dag.stepIndex (dag : Dag) (depId : UInt32) : Option Nat :=
  (List.range dag.stepCount).find? fun j => (dag.step j).stepId == depId

namespace DagExecutionContext

def dependencyCompleted (ctx : DagExecutionContext) (depId : UInt32) : Bool :=
  match ctx.dag.stepIndex depId with
  | some j => ctx.stepCompleted.getD j false
  | none => false

def stepDependenciesMet (past : PastSlots) (ctx : DagExecutionContext) (i : Nat) : Bool :=
  (List.range (ctx.dag.step i).dependencyCount).all fun d =>
    ctx.dependencyCompleted (ctx.dag.dependency past i d)

def started (startTimeMs : UInt64) (ctx : DagExecutionContext) : DagExecutionContext :=
  { ctx with
    status := .running
    startTimeMs := startTimeMs
    stepCompleted := List.replicate maxDagSteps false }

def finish (ctx : DagExecutionContext) (status : DagExecStatus) (endTimeMs : UInt64) :
    DagExecutionContext :=
  { ctx with status := status, endTimeMs := endTimeMs }

end DagExecutionContext

/-- The local variables of `dag_execute`. `executed` is not in the source: it
lists the steps run so far, in order. -/
structure DagRun where
  ctx : DagExecutionContext
  completedSteps : Nat
  progressMade : Bool
  executed : List Nat

namespace DagRun

def complete (run : DagRun) (i : Nat) (output : Option (List UInt8)) : DagRun where
  ctx := { run.ctx with
    outputData := output
    stepCompleted := run.ctx.stepCompleted.set i true }
  completedSteps := run.completedSteps + 1
  progressMade := true
  executed := run.executed ++ [i]

def finish (run : DagRun) (status : DagExecStatus) (endTimeMs : UInt64) : DagRun :=
  { run with ctx := run.ctx.finish status endTimeMs }

def fail (run : DagRun) (i : Nat) (output : Option (List UInt8)) (endTimeMs : UInt64) : DagRun :=
  { run with
    ctx := { run.ctx with outputData := output }.finish .failed endTimeMs
    executed := run.executed ++ [i] }

end DagRun

section Execution

variable (past : PastSlots) (executeStep : StepFunction) (endTimeMs : UInt64)

/-- The `for` loop over the given step indices; `error` is its early return. -/
def executePass (run : DagRun) : List Nat → Except DagRun DagRun
  | [] => .ok run
  | i :: rest =>
    if run.ctx.stepCompleted.getD i false then executePass run rest
    else if !run.ctx.stepDependenciesMet past i then executePass run rest
    else
      let result := executeStep run.ctx (run.ctx.dag.step i)
      if result.status ≠ .ok then .error (run.fail i result.outputData endTimeMs)
      else executePass (run.complete i result.outputData) rest

variable {past executeStep endTimeMs}

/-- What the loop body does with step `i`: it skips it, or runs and completes it. -/
theorem executePass_cons (h : executePass past executeStep endTimeMs run (i :: rest) = .ok run') :
    ((run.ctx.stepCompleted.getD i false = true ∨ run.ctx.stepDependenciesMet past i = false) ∧
      executePass past executeStep endTimeMs run rest = .ok run') ∨
    (run.ctx.stepCompleted.getD i false = false ∧ run.ctx.stepDependenciesMet past i = true ∧
      (executeStep run.ctx (run.ctx.dag.step i)).status = .ok ∧
      executePass past executeStep endTimeMs
        (run.complete i (executeStep run.ctx (run.ctx.dag.step i)).outputData) rest =
          .ok run') := by
  unfold executePass at h
  cases hcompleted : run.ctx.stepCompleted.getD i false with
  | true =>
    rw [if_pos hcompleted] at h
    exact .inl ⟨.inl rfl, h⟩
  | false =>
    rw [if_neg (by rw [hcompleted]; simp)] at h
    cases hmet : run.ctx.stepDependenciesMet past i with
    | false =>
      rw [if_pos (by rw [hmet]; rfl)] at h
      exact .inl ⟨.inr rfl, h⟩
    | true =>
      rw [if_neg (by rw [hmet]; simp)] at h
      dsimp only at h
      split_ifs at h with hok
      exact .inr ⟨rfl, rfl, not_not.mp hok, h⟩

theorem executePass_induction {P : DagRun → Prop} (hrun : P run)
    (hstep : ∀ run, ∀ i ∈ steps, P run → run.ctx.stepCompleted.getD i false = false →
      run.ctx.stepDependenciesMet past i = true →
      (executeStep run.ctx (run.ctx.dag.step i)).status = .ok →
      P (run.complete i (executeStep run.ctx (run.ctx.dag.step i)).outputData))
    (h : executePass past executeStep endTimeMs run steps = .ok run') : P run' := by
  induction steps generalizing run with
  | nil =>
    cases h
    exact hrun
  | cons i rest ih =>
    have hrest := fun run j (hj : j ∈ rest) => hstep run j (List.mem_cons_of_mem i hj)
    obtain ⟨_, h⟩ | ⟨hnew, hmet, hok, h⟩ := executePass_cons h
    · exact ih hrun hrest h
    · exact ih (hstep run i List.mem_cons_self hrun hnew hmet hok) hrest h

theorem executePass_dag (h : executePass past executeStep endTimeMs run steps = .ok run') :
    run'.ctx.dag = run.ctx.dag :=
  executePass_induction (P := fun r => r.ctx.dag = run.ctx.dag) rfl
    (fun _ _ _ hdag _ _ _ => hdag) h

theorem executePass_progress (h : executePass past executeStep endTimeMs run steps = .ok run') :
    run.completedSteps ≤ run'.completedSteps ∧
      (run'.progressMade = true → run.progressMade = true ∨
        run.completedSteps < run'.completedSteps) := by
  refine executePass_induction (P := fun r => run.completedSteps ≤ r.completedSteps ∧
    (r.progressMade = true → run.progressMade = true ∨ run.completedSteps < r.completedSteps))
    ⟨Nat.le_refl _, .inl⟩ ?_ h
  rintro r i - ⟨hle, -⟩ - - -
  have hlt : run.completedSteps < r.completedSteps + 1 := Nat.lt_succ_of_le hle
  exact ⟨hlt.le, fun _ => .inr hlt⟩

variable (past executeStep endTimeMs)

/-- The `while` loop. It ends because a pass that is followed by another one
has completed a step. -/
def executeLoop (run : DagRun) : ResultStatus × DagRun :=
  if run.completedSteps < run.ctx.dag.stepCount then
    match _h : executePass past executeStep endTimeMs { run with progressMade := false }
        (List.range run.ctx.dag.stepCount) with
    | .error failed => (.errInvalid, failed)
    | .ok next =>
      if next.progressMade then executeLoop next
      else (.errInvalid, next.finish .failed endTimeMs)
  else (.ok, run.finish .completed endTimeMs)
termination_by run.ctx.dag.stepCount - run.completedSteps
decreasing_by
  have hdag := executePass_dag _h
  have hpass := (executePass_progress _h).2 (by assumption)
  simp only [Bool.false_eq_true, false_or] at hpass
  dsimp only at hdag hpass
  rw [hdag]
  omega

variable {past executeStep endTimeMs}

theorem executeLoop_again (hlt : run.completedSteps < run.ctx.dag.stepCount)
    (hpass : executePass past executeStep endTimeMs { run with progressMade := false }
      (List.range run.ctx.dag.stepCount) = .ok next) (hprogress : next.progressMade = true) :
    executeLoop past executeStep endTimeMs run = executeLoop past executeStep endTimeMs next := by
  rw [executeLoop, if_pos hlt]
  split
  · rename_i hfailed
    rw [hpass] at hfailed
    cases hfailed
  · rename_i hnext
    rw [hpass] at hnext
    cases hnext
    rw [if_pos hprogress]

theorem executeLoop_stuck (hlt : run.completedSteps < run.ctx.dag.stepCount)
    (hpass : executePass past executeStep endTimeMs { run with progressMade := false }
      (List.range run.ctx.dag.stepCount) = .ok next) (hprogress : next.progressMade = false) :
    executeLoop past executeStep endTimeMs run =
      (.errInvalid, next.finish .failed endTimeMs) := by
  rw [executeLoop, if_pos hlt]
  split
  · rename_i hfailed
    rw [hpass] at hfailed
    cases hfailed
  · rename_i hnext
    rw [hpass] at hnext
    cases hnext
    rw [if_neg (by rw [hprogress]; simp)]

variable (past executeStep endTimeMs)

def dagExecute (startTimeMs : UInt64) (ctx : DagExecutionContext) : ResultStatus × DagRun :=
  executeLoop past executeStep endTimeMs
    { ctx := ctx.started startTimeMs
      completedSteps := 0
      progressMade := false
      executed := [] }

end Execution
end Roole
