import Roole.Common

/-!
# DAGs and their validation

The data of `dag.h` and the acceptance test `dag_validate`. Nothing in the
program stops `dependency_count` from exceeding the sixteen slots of the
dependency array, so reading slot sixteen or later is modelled by `past`: the
words that happen to lie behind the array of the given step.
-/

namespace Roole

def maxDagName : Nat := 64
def maxDagSteps : Nat := 128
def maxStepName : Nat := 64
def maxStepDependencies : Nat := 16
def maxDags : Nat := 1024

structure DagStep where
  stepId : UInt32
  name : List UInt8
  functionName : List UInt8
  /-- `config_len` bytes, or NULL. -/
  configData : Option (List UInt8)
  configLen : Nat
  /-- The slots written so far; the others hold zero. -/
  dependencies : List UInt32
  dependencyCount : Nat
  timeoutMs : UInt32
  maxRetries : UInt8
  deriving DecidableEq, Repr

def DagStep.zero : DagStep where
  stepId := 0
  name := []
  functionName := []
  configData := none
  configLen := 0
  dependencies := []
  dependencyCount := 0
  timeoutMs := 0
  maxRetries := 0

structure Dag where
  dagId : RuleId
  name : List UInt8
  version : UInt64
  /-- The entries written so far; the others are zero. -/
  steps : List DagStep
  stepCount : Nat
  createdAtMs : UInt64
  updatedAtMs : UInt64
  deriving DecidableEq, Repr

/-- Words behind the dependency array of a step: step index, slot index. -/
abbrev PastSlots := Nat → Nat → UInt32

namespace Dag

def step (dag : Dag) (i : Nat) : DagStep := dag.steps.getD i .zero

def dependency (past : PastSlots) (dag : Dag) (i j : Nat) : UInt32 :=
  if j < maxStepDependencies then (dag.step i).dependencies.getD j 0 else past i j

def hasStep (dag : Dag) (depId : UInt32) : Bool :=
  (List.range dag.stepCount).any fun k => (dag.step k).stepId == depId

/-- The pairs of step and slot visited by the two nested loops of
`dag_validate`, in order. -/
def dependencySlots (dag : Dag) : List (Nat × Nat) :=
  (List.range dag.stepCount).flatMap fun i =>
    (List.range (dag.step i).dependencyCount).map fun j => (i, j)

variable {dag : Dag}

theorem hasStep_iff : dag.hasStep depId = true ↔
    ∃ k < dag.stepCount, (dag.step k).stepId = depId := by
  simp [hasStep]

theorem mem_dependencySlots : (i, j) ∈ dag.dependencySlots ↔
    i < dag.stepCount ∧ j < (dag.step i).dependencyCount := by
  simp [dependencySlots]

end Dag

/-- Reads the slots in turn up to the first one that names no step. The
second component lists the slots that were read. -/
def validateDependencies (past : PastSlots) (dag : Dag) :
    List (Nat × Nat) → ResultStatus × List (Nat × Nat)
  | [] => (.ok, [])
  | (i, j) :: rest =>
    if dag.hasStep (dag.dependency past i j) then
      let (result, reads) := validateDependencies past dag rest
      (result, (i, j) :: reads)
    else (.errInvalid, [(i, j)])

/-- `dag_validate` together with the slots it reads. The check for cycles is a
TODO in the source. -/
def dagValidateTrace (past : PastSlots) (dag : Dag) : ResultStatus × List (Nat × Nat) :=
  if dag.stepCount = 0 ∨ dag.stepCount > maxDagSteps then (.errInvalid, [])
  else validateDependencies past dag dag.dependencySlots

def dagValidate (past : PastSlots) (dag : Dag) : ResultStatus := (dagValidateTrace past dag).1

def dagValidateReads (past : PastSlots) (dag : Dag) : List (Nat × Nat) :=
  (dagValidateTrace past dag).2

/-- Every dependency that the step's count covers names a step of the DAG. -/
def Dag.DependenciesExist (past : PastSlots) (dag : Dag) : Prop :=
  ∀ i < dag.stepCount, ∀ j < (dag.step i).dependencyCount,
    ∃ k < dag.stepCount, (dag.step k).stepId = dag.dependency past i j

theorem Dag.dependenciesExist_iff {dag : Dag} : dag.DependenciesExist past ↔
    ∀ p ∈ dag.dependencySlots, dag.hasStep (dag.dependency past p.1 p.2) = true := by
  simp only [Prod.forall, Dag.mem_dependencySlots, Dag.hasStep_iff, Dag.DependenciesExist]
  exact ⟨fun h i j hij => h i hij.1 j hij.2, fun h i hi j hj => h i j ⟨hi, hj⟩⟩

theorem validateDependencies_ok :
    (validateDependencies past dag slots).1 = .ok ↔
      ∀ p ∈ slots, dag.hasStep (dag.dependency past p.1 p.2) = true := by
  induction slots with
  | nil => simp [validateDependencies]
  | cons p rest ih =>
    obtain ⟨i, j⟩ := p
    by_cases h : dag.hasStep (dag.dependency past i j) = true
    · simp [validateDependencies, h, ih]
    · simp [validateDependencies, h]

theorem dagValidate_ok : dagValidate past dag = .ok ↔
    dag.stepCount ≠ 0 ∧ dag.stepCount ≤ maxDagSteps ∧ dag.DependenciesExist past := by
  by_cases hcount : dag.stepCount = 0 ∨ dag.stepCount > maxDagSteps
  · simp only [dagValidate, dagValidateTrace, hcount, if_true]
    refine ⟨fun h => by simp at h, fun h => absurd hcount ?_⟩
    omega
  · simp only [dagValidate, dagValidateTrace, hcount, if_false, validateDependencies_ok,
      ← Dag.dependenciesExist_iff]
    refine ⟨fun h => ⟨by omega, by omega, h⟩, fun h => h.2.2⟩

def SlotBefore (p q : Nat × Nat) : Prop := p.1 < q.1 ∨ p.1 = q.1 ∧ p.2 < q.2

theorem SlotBefore.asymm (h : SlotBefore p q) : ¬ SlotBefore q p := by
  unfold SlotBefore at h ⊢
  omega

theorem Dag.dependencySlots_sorted (dag : Dag) : dag.dependencySlots.Pairwise SlotBefore := by
  refine List.pairwise_flatMap.mpr ⟨fun i _ => ?_, ?_⟩
  · refine List.pairwise_map.mpr (List.pairwise_lt_range.imp ?_)
    exact fun hlt => .inr ⟨rfl, hlt⟩
  · refine List.pairwise_lt_range.imp ?_
    simp only [List.mem_map]
    rintro i i' hlt _ ⟨j, -, rfl⟩ _ ⟨j', -, rfl⟩
    exact .inl hlt

theorem mem_validateDependencies :
    p ∈ (validateDependencies past dag slots).2 ↔ ∃ earlier later, slots = earlier ++ p :: later ∧
      ∀ q ∈ earlier, dag.hasStep (dag.dependency past q.1 q.2) = true := by
  induction slots with
  | nil => simp [validateDependencies]
  | cons q rest ih =>
    obtain ⟨i, j⟩ := q
    cases hstep : dag.hasStep (dag.dependency past i j) with
    | false =>
      simp only [validateDependencies, hstep, Bool.false_eq_true, if_false, List.mem_singleton]
      constructor
      · rintro rfl
        exact ⟨[], rest, rfl, by simp⟩
      · rintro ⟨earlier, later, heq, hall⟩
        cases earlier with
        | nil => exact (List.cons.inj heq).1.symm
        | cons q earlier =>
          obtain ⟨rfl, -⟩ := List.cons.inj heq
          have hq := hall _ List.mem_cons_self
          rw [hstep] at hq
          cases hq
    | true =>
      simp only [validateDependencies, hstep, if_true, List.mem_cons, ih]
      constructor
      · rintro (rfl | ⟨earlier, later, rfl, hall⟩)
        · exact ⟨[], rest, rfl, by simp⟩
        · exact ⟨(i, j) :: earlier, later, rfl, List.forall_mem_cons.mpr ⟨hstep, hall⟩⟩
      · rintro ⟨earlier, later, heq, hall⟩
        cases earlier with
        | nil => exact .inl (List.cons.inj heq).1.symm
        | cons q earlier =>
          obtain ⟨-, rfl⟩ := List.cons.inj heq
          exact .inr ⟨earlier, later, rfl, fun q hq => hall q (List.mem_cons_of_mem _ hq)⟩

/-- A slot is read when all the slots before it name steps. -/
theorem mem_dagValidateReads : (i, j) ∈ dagValidateReads past dag ↔
    dag.stepCount ≠ 0 ∧ dag.stepCount ≤ maxDagSteps ∧ (i, j) ∈ dag.dependencySlots ∧
      ∀ q ∈ dag.dependencySlots, SlotBefore q (i, j) →
        dag.hasStep (dag.dependency past q.1 q.2) = true := by
  unfold dagValidateReads dagValidateTrace
  split_ifs with hcount
  · simp only [List.not_mem_nil, false_iff]
    omega
  · rw [mem_validateDependencies]
    have hsorted := dag.dependencySlots_sorted
    constructor
    · rintro ⟨earlier, later, hslots, hall⟩
      refine ⟨by omega, by omega, by simp [hslots], fun q hq hbefore => ?_⟩
      rw [hslots, List.pairwise_append] at hsorted
      rw [hslots, List.mem_append] at hq
      refine hq.elim (hall q) fun hq => absurd hbefore ?_
      rcases List.mem_cons.mp hq with rfl | hq
      · exact fun hself => hself.asymm hself
      · exact ((List.pairwise_cons.mp hsorted.2.1).1 q hq).asymm
    · rintro ⟨-, -, hmem, hall⟩
      obtain ⟨earlier, later, hslots⟩ := List.append_of_mem hmem
      refine ⟨earlier, later, hslots, fun q hq => hall q (by simp [hslots, hq]) ?_⟩
      rw [hslots, List.pairwise_append] at hsorted
      exact hsorted.2.2 q hq _ List.mem_cons_self

end Roole
