import Roole.Dag.Execution

/-!
# Executions whose steps succeed

With a step function that always succeeds the steps that `dag_execute` runs are
those that reach no cycle. Where step ids are distinct this is the dependency
relation of the DAG.
-/

namespace Roole

open Scheduling
open Relation (TransGen)

namespace Dag

/-- A slot of step `i` holds the id of step `j`. -/
def DependsOn (past : PastSlots) (dag : Dag) (i j : Nat) : Prop :=
  i < dag.stepCount ∧ j < dag.stepCount ∧ ∃ d < (dag.step i).dependencyCount,
    dag.dependency past i d = (dag.step j).stepId

def DistinctIds (dag : Dag) : Prop :=
  ∀ i < dag.stepCount, ∀ j < dag.stepCount, (dag.step i).stepId = (dag.step j).stepId → i = j

def Acyclic (r : Nat → Nat → Prop) : Prop := ∀ i, ¬ TransGen r i i

variable {past : PastSlots} {dag : Dag}

theorem WaitsFor.cycle_lt (h : TransGen (dag.WaitsFor past) i i) : i < dag.stepCount := by
  obtain hwaits | ⟨_, hwaits⟩ := h
  · exact hwaits.lt
  · exact hwaits.lt

theorem waitsFor_eq_dependsOn (hdistinct : dag.DistinctIds) :
    dag.WaitsFor past = dag.DependsOn past := by
  funext i j
  refine propext ⟨?_, ?_⟩
  · rintro ⟨hi, d, hd, hindex⟩
    obtain ⟨hj, hid⟩ := stepIndex_some hindex
    exact ⟨hi, hj, d, hd, hid.symm⟩
  · rintro ⟨hi, hj, d, hd, hid⟩
    obtain ⟨k, hk⟩ := stepIndex_isSome hj
    obtain ⟨hklt, hkid⟩ := stepIndex_some hk
    obtain rfl := hdistinct k hklt j hj hkid
    exact ⟨hi, d, hd, hid ▸ hk⟩

end Dag

section Succeeding

variable {past : PastSlots} {executeStep : StepFunction} {ctx : DagExecutionContext}

/-- `dag_execute` runs exactly the steps that reach no cycle, and `last` is its
last run. -/
theorem dagExecute_succeeding (hok : ∀ ctx step, (executeStep ctx step).status = .ok)
    (hcount : ctx.dag.stepCount ≤ maxDagSteps) (hexist : ctx.dag.DependenciesExist past)
    (startTimeMs endTimeMs : UInt64) :
    ∃ last, DagRun.Valid past executeStep (ctx.started startTimeMs) last ∧
      (∀ i < ctx.dag.stepCount, i ∈ last.executed ↔ Grounded (ctx.dag.WaitsFor past) i) ∧
      ((Dag.Acyclic (ctx.dag.WaitsFor past) ∧
          dagExecute past executeStep endTimeMs startTimeMs ctx =
            (.ok, last.finish .completed endTimeMs)) ∨
        (¬ Dag.Acyclic (ctx.dag.WaitsFor past) ∧
          dagExecute past executeStep endTimeMs startTimeMs ctx =
            (.errInvalid, last.finish .failed endTimeMs))) := by
  obtain ⟨last, hrun, hend⟩ := dagExecute_outcome hcount hexist executeStep startTimeMs endTimeMs
  have hmem (hstuck : Stuck (ctx.dag.WaitsFor past) {i | i < ctx.dag.stepCount} last.executed) :
      ∀ i < ctx.dag.stepCount, i ∈ last.executed ↔ Grounded (ctx.dag.WaitsFor past) i :=
    fun i hi => hrun.schedule.mem_iff_grounded hstuck (Set.finite_lt_nat ctx.dag.stepCount)
      (fun _ _ _ hwaits => hwaits.lt) hi
  refine ⟨last, hrun, ?_⟩
  generalize dagExecute past executeStep endTimeMs startTimeMs ctx = outcome at hend ⊢
  cases hend with
  | completed hall =>
    have hgrounded := hmem fun i hi hnew => absurd (hall i hi) hnew
    refine ⟨hgrounded, .inl ⟨fun i hcycle => ?_, rfl⟩⟩
    have hi := Dag.WaitsFor.cycle_lt hcycle
    exact (hgrounded i hi).mp (hall i hi) i .refl hcycle
  | failed hi hnew hready hfails => exact absurd (hok _ _) hfails
  | stuck hleft hwait =>
    obtain ⟨i, hi, hmissing⟩ := hleft
    refine ⟨hmem hwait, .inr ⟨fun hacyclic => hmissing ?_, rfl⟩⟩
    exact (hmem hwait i hi).mpr (acyclic_iff_grounded.mp hacyclic i)

end Succeeding

variable {past : PastSlots}

/-- Distinct step ids, every dependency naming a step and a step function that
always succeeds: the execution is a topological one as far as the cycles
allow. What it leaves is the fold of the step function over what it executed. -/
theorem dagExecute_topological (hok : ∀ ctx step, (executeStep ctx step).status = .ok)
    (hcount : ctx.dag.stepCount ≤ maxDagSteps) (hdistinct : ctx.dag.DistinctIds)
    (hexist : ctx.dag.DependenciesExist past) :
    let (result, run) := dagExecute past executeStep endTimeMs startTimeMs ctx
    let dependsOn := ctx.dag.DependsOn past
    (∃ last, (ctx.started startTimeMs).runSteps executeStep run.executed = some last ∧
        run.ctx = last.finish run.ctx.status endTimeMs) ∧
      run.executed.Nodup ∧ (∀ i ∈ run.executed, i < ctx.dag.stepCount) ∧
      (∀ before i after, run.executed = before ++ i :: after →
        ∀ j, dependsOn i j → j ∈ before) ∧
      ((result = .ok ∧ ∀ i < ctx.dag.stepCount, i ∈ run.executed) ↔ Dag.Acyclic dependsOn) ∧
      (Dag.Acyclic dependsOn → run.ctx.status = .completed) ∧
      (¬ Dag.Acyclic dependsOn → result = .errInvalid ∧ run.ctx.status = .failed ∧
        ∀ i < ctx.dag.stepCount, i ∈ run.executed ↔ Grounded dependsOn i) := by
  obtain ⟨last, hrun, hmem, hend⟩ := dagExecute_succeeding hok hcount hexist startTimeMs
    endTimeMs
  rw [Dag.waitsFor_eq_dependsOn hdistinct] at hmem hend
  have hschedule : Schedule (ctx.dag.WaitsFor past) last.executed := hrun.schedule
  rw [Dag.waitsFor_eq_dependsOn hdistinct] at hschedule
  have hbefore := fun before i after (hsplit : last.executed = before ++ i :: after) j hdep =>
    hschedule.dependencies_before hsplit (b := j) hdep
  obtain ⟨hacyclic, hout⟩ | ⟨hcyclic, hout⟩ := hend
  · rw [hout]
    refine ⟨⟨last.ctx, hrun.ran, rfl⟩, hschedule.nodup, hrun.bound, hbefore, ?_, fun _ => rfl,
      fun hcyclic => absurd hacyclic hcyclic⟩
    exact ⟨fun _ => hacyclic, fun _ => ⟨rfl, fun i hi =>
      (hmem i hi).mpr (acyclic_iff_grounded.mp hacyclic i)⟩⟩
  · rw [hout]
    refine ⟨⟨last.ctx, hrun.ran, rfl⟩, hschedule.nodup, hrun.bound, hbefore, ?_,
      fun hacyclic => absurd hacyclic hcyclic, fun _ => ⟨rfl, rfl, hmem⟩⟩
    exact iff_of_false (fun h => by cases h.1) hcyclic

theorem dagExecute_topological_three :
    let ctx := DagExecutionContext.ofDag (.ofSteps
      [.registered 2 [1], .registered 1 [], .registered 3 [3]])
    let (result, run) := dagExecute (fun _ _ => 0) dagExecuteStep 0 0 ctx
    let dependsOn := ctx.dag.DependsOn fun _ _ => 0
    (∃ last, (ctx.started 0).runSteps dagExecuteStep run.executed = some last ∧
        run.ctx = last.finish run.ctx.status 0) ∧
      run.executed.Nodup ∧ (∀ i ∈ run.executed, i < ctx.dag.stepCount) ∧
      (∀ before i after, run.executed = before ++ i :: after →
        ∀ j, dependsOn i j → j ∈ before) ∧
      ((result = .ok ∧ ∀ i < ctx.dag.stepCount, i ∈ run.executed) ↔ Dag.Acyclic dependsOn) ∧
      (Dag.Acyclic dependsOn → run.ctx.status = .completed) ∧
      (¬ Dag.Acyclic dependsOn → result = .errInvalid ∧ run.ctx.status = .failed ∧
        ∀ i < ctx.dag.stepCount, i ∈ run.executed ↔ Grounded dependsOn i) :=
  dagExecute_topological dagExecuteStep_ok (by decide)
    (by unfold Dag.DistinctIds; decide) (by unfold Dag.DependenciesExist; decide)

/-- The context reports success and every step of its DAG is marked. -/
def DagExecutionContext.Completed (ctx : DagExecutionContext) : Prop :=
  ctx.status = .completed ∧ ∀ i < ctx.dag.stepCount, ctx.stepCompleted.getD i false = true

instance (ctx : DagExecutionContext) : Decidable ctx.Completed := by
  unfold DagExecutionContext.Completed
  infer_instance

/-- A DAG that `dag_validate` accepts is executed to completion, every step
marked, exactly when the relation the executor resolves has no cycle. -/
theorem dagExecute_completes_iff (hvalid : dagValidate past ctx.dag = .ok)
    (hok : ∀ ctx step, (executeStep ctx step).status = .ok) :
    (dagExecute past executeStep endTimeMs startTimeMs ctx).2.ctx.Completed ↔
      Dag.Acyclic (ctx.dag.WaitsFor past) := by
  obtain ⟨_, hcount, hexist⟩ := dagValidate_ok.mp hvalid
  obtain ⟨last, hrun, hmem, hend⟩ := dagExecute_succeeding hok hcount hexist startTimeMs
    endTimeMs
  obtain ⟨hacyclic, hout⟩ | ⟨hcyclic, hout⟩ := hend
  · rw [hout]
    refine iff_of_true ⟨rfl, fun i hi => (hrun.marked i).mpr ?_⟩ hacyclic
    rw [DagRun.finish, DagExecutionContext.finish, hrun.dag_eq] at hi
    exact (hmem i hi).mpr (acyclic_iff_grounded.mp hacyclic i)
  · rw [hout]
    exact iff_of_false (fun h => by cases h.1) hcyclic

theorem dagExecute_completes_iff_two :
    (dagExecute (fun _ _ => 0) dagExecuteStep 0 0
      (.ofDag (.ofSteps [.registered 2 [1], .registered 1 []]))).2.ctx.Completed ↔
      Dag.Acyclic ((Dag.ofSteps [.registered 2 [1], .registered 1 []]).WaitsFor fun _ _ => 0) :=
  dagExecute_completes_iff (by decide) dagExecuteStep_ok

/-- One step that depends on itself: accepted, then stuck in the first pass. -/
theorem dagExecute_self_dependency :
    let ctx := DagExecutionContext.ofDag (.ofSteps [.registered 1 [1]])
    dagValidate (fun _ _ => 0) ctx.dag = .ok ∧
      ¬ (dagExecute (fun _ _ => 0) dagExecuteStep 0 0 ctx).2.ctx.Completed := by
  refine ⟨by decide, ?_⟩
  rw [dagExecute, executeLoop_stuck (by decide) rfl rfl]
  exact fun h => by cases h.1

end Roole
