import Mathlib.Algebra.Order.Ring.Nat
import Mathlib.Data.List.Infix
import Roole.Lib.Runs

/-!
# Programs that run side by side

Any number of tasks work through a program each, one operation at a time in any
order, and new tasks may start at any moment. The log has all operations in the
order in which they were done. What every program does in some order has been done
in that order at every moment, if it is only counted.
-/

namespace Interleaving

/-- What a task has done, and what it has left to do. -/
structure Task (Op : Type*) where
  done : List Op
  left : List Op
  deriving DecidableEq

def Task.program (task : Task Op) : List Op := task.done ++ task.left

structure Pool (Op : Type*) where
  tasks : List (Task Op)
  log : List Op
  deriving DecidableEq

inductive Action (Op : Type*)
  | start (program : List Op)
  | advance (i : Nat)

def Task.advance (task : Task Op) : Task Op :=
  ⟨task.done ++ task.left.take 1, task.left.drop 1⟩

namespace Pool

def empty : Pool Op := ⟨[], []⟩

def step (pool : Pool Op) : Action Op → Pool Op
  | .start program => { pool with tasks := pool.tasks ++ [⟨[], program⟩] }
  | .advance i =>
    match pool.tasks[i]? with
    | none => pool
    | some task =>
      ⟨pool.tasks.set i task.advance, pool.log ++ task.left.take 1⟩

def run (actions : List (Action Op)) : Pool Op := Runs.run step empty actions

def done (pool : Pool Op) : List Op := pool.tasks.flatMap Task.done

structure Consistent (programs : List Op → Prop) (pool : Pool Op) : Prop where
  log : pool.log.Perm pool.done
  programs : ∀ task ∈ pool.tasks, programs task.program

def Starts (programs : List Op → Prop) : Action Op → Prop
  | .start program => programs program
  | .advance _ => True

theorem split_at {tasks : List (Task Op)} (h : tasks[i]? = some task) : ∃ front back,
    tasks = front ++ task :: back ∧ ∀ task', tasks.set i task' = front ++ task' :: back := by
  obtain ⟨hi, rfl⟩ := List.getElem?_eq_some_iff.mp h
  refine ⟨tasks.take i, tasks.drop (i + 1), ?_, fun task' => ?_⟩
  · rw [← List.drop_eq_getElem_cons hi, List.take_append_drop]
  · rw [List.set_eq_take_append_cons_drop, if_pos hi]

@[simp] theorem advance_program (task : Task Op) : task.advance.program = task.program := by
  rw [Task.program, Task.advance, List.append_assoc, List.take_append_drop, Task.program]

theorem step_advance {pool : Pool Op} (h : pool.tasks[i]? = some task) :
    pool.step (.advance i) = ⟨pool.tasks.set i task.advance, pool.log ++ task.left.take 1⟩ := by
  rw [step, h]

theorem step_advance_none {pool : Pool Op} (h : pool.tasks[i]? = none) :
    pool.step (.advance i) = pool := by
  rw [step, h]

theorem step_consistent {programs : List Op → Prop} (pool : Pool Op) (action : Action Op)
    (h : pool.Consistent programs) (hstarts : Starts programs action) :
    (pool.step action).Consistent programs := by
  cases action with
  | start program =>
    refine ⟨?_, List.forall_mem_append.mpr ⟨h.programs, List.forall_mem_singleton.mpr hstarts⟩⟩
    rw [done, step, List.flatMap_append]
    simpa [done] using h.log
  | advance i =>
    cases htask : pool.tasks[i]? with
    | none => rwa [step_advance_none htask]
    | some task =>
      obtain ⟨front, back, htasks, hset⟩ := split_at htask
      obtain ⟨hlog, hprograms⟩ := h
      rw [done, htasks, List.flatMap_append, List.flatMap_cons] at hlog
      rw [htasks, List.forall_mem_append, List.forall_mem_cons] at hprograms
      obtain ⟨hfront, hone, hback⟩ := hprograms
      rw [step_advance htask, hset]
      refine ⟨?_, ?_⟩
      · rw [done, List.flatMap_append, List.flatMap_cons, Task.advance]
        refine (hlog.append_right _).trans ?_
        rw [List.append_assoc, List.append_assoc, List.append_assoc]
        exact (List.perm_append_comm.append_left _).append_left _
      · rw [List.forall_mem_append, List.forall_mem_cons, advance_program]
        exact ⟨hfront, hone, hback⟩

theorem run_consistent {programs : List Op → Prop} {actions : List (Action Op)}
    (hstarts : ∀ action ∈ actions, Starts programs action) (i : Nat) :
    (run (actions.take i)).Consistent programs := by
  have hempty : (empty : Pool Op).Consistent programs := ⟨.refl _, List.forall_mem_nil _⟩
  have hmeets : Runs.Meets step (fun _ action => True ∧ Starts programs action) empty actions :=
    (Runs.Meets.of_forall (fun _ _ => trivial) empty actions).and_mem hstarts
  exact Runs.invariant (fun pool action h hcond => step_consistent pool action h hcond.2)
    hempty hmeets i

-- ----------------------------------------------------------------------------
-- Earlier moments
-- ----------------------------------------------------------------------------

theorem log_prefix_step (pool : Pool Op) (action : Action Op) :
    pool.log <+: (pool.step action).log := by
  cases action with
  | start program => exact List.prefix_refl _
  | advance i =>
    cases htask : pool.tasks[i]? with
    | none => rw [step_advance_none htask]
    | some task =>
      rw [step_advance htask]
      exact List.prefix_append _ _

theorem log_length_step (pool : Pool Op) (action : Action Op) :
    (pool.step action).log.length ≤ pool.log.length + 1 := by
  cases action with
  | start program => exact Nat.le_succ _
  | advance i =>
    cases htask : pool.tasks[i]? with
    | none =>
      rw [step_advance_none htask]
      exact Nat.le_succ _
    | some task =>
      rw [step_advance htask, List.length_append]
      exact Nat.add_le_add_left (List.length_take_le _ _) _

theorem log_prefix_run (pool : Pool Op) (actions : List (Action Op)) :
    pool.log <+: (Runs.run step pool actions).log := by
  induction actions generalizing pool with
  | nil => exact List.prefix_refl _
  | cons action rest ih => exact (log_prefix_step pool action).trans (ih (pool.step action))

theorem exists_log_take (pool : Pool Op) (actions : List (Action Op))
    (hlow : pool.log.length ≤ n) (hhigh : n ≤ (Runs.run step pool actions).log.length) :
    ∃ k, (Runs.run step pool (actions.take k)).log = (Runs.run step pool actions).log.take n := by
  induction actions generalizing pool with
  | nil => exact ⟨0, (List.take_of_length_le hlow).symm⟩
  | cons action rest ih =>
    by_cases hnow : n = pool.log.length
    · refine ⟨0, ?_⟩
      rw [hnow]
      exact List.prefix_iff_eq_take.mp (log_prefix_run pool (action :: rest))
    · have hone := log_length_step pool action
      obtain ⟨k, hk⟩ := ih (pool.step action) (by omega) hhigh
      exact ⟨k + 1, hk⟩

end Pool

-- ----------------------------------------------------------------------------
-- What is counted
-- ----------------------------------------------------------------------------

/-- In the program every `b` follows an `a` of its own. -/
def Follows (a b : Op → Bool) (program : List Op) : Prop :=
  ∀ done left, program = done ++ left → done.countP b ≤ done.countP a

theorem follows_of_none (h : program.countP b = 0) : Follows a b program := by
  rintro done left rfl
  rw [List.countP_append] at h
  omega

theorem follows_append (hfront : front.countP b = 0) (hback : back.countP b ≤ front.countP a) :
    Follows a b (front ++ back) := by
  intro done left heq
  rcases List.append_eq_append_iff.mp heq with ⟨more, rfl, rfl⟩ | ⟨more, rfl, rfl⟩
  · rw [List.countP_append] at hback
    rw [List.countP_append, List.countP_append]
    omega
  · rw [List.countP_append] at hfront
    omega

namespace Pool

theorem Consistent.count_le {programs : List Op → Prop} {pool : Pool Op}
    (h : pool.Consistent programs)
    (hfollows : ∀ program, programs program → Follows a b program) :
    pool.log.countP b ≤ pool.log.countP a := by
  have hdone : ∀ tasks : List (Task Op), (∀ task ∈ tasks, programs task.program) →
      (tasks.flatMap Task.done).countP b ≤ (tasks.flatMap Task.done).countP a := by
    intro tasks hall
    induction tasks with
    | nil => exact Nat.le_refl 0
    | cons task tasks ih =>
      rw [List.forall_mem_cons] at hall
      rw [List.flatMap_cons, List.countP_append, List.countP_append]
      exact Nat.add_le_add (hfollows _ hall.1 task.done task.left rfl) (ih hall.2)
  rw [h.log.countP_eq, h.log.countP_eq]
  exact hdone pool.tasks h.programs

theorem Consistent.mem_log {programs : List Op → Prop} {pool : Pool Op}
    (h : pool.Consistent programs) (hop : op ∈ pool.log) :
    ∃ program, programs program ∧ op ∈ program := by
  obtain ⟨task, htask, hdone⟩ := List.mem_flatMap.mp (h.log.mem_iff.mp hop)
  exact ⟨task.program, h.programs task htask, List.mem_append_left _ hdone⟩

theorem Consistent.count_eq {programs : List Op → Prop} {pool : Pool Op}
    (h : pool.Consistent programs) (hthrough : ∀ task ∈ pool.tasks, task.left = [])
    (hequal : ∀ program, programs program → program.countP a = program.countP b) :
    pool.log.countP a = pool.log.countP b := by
  have hdone : ∀ tasks : List (Task Op), (∀ task ∈ tasks, programs task.done) →
      (tasks.flatMap Task.done).countP a = (tasks.flatMap Task.done).countP b := by
    intro tasks hall
    induction tasks with
    | nil => rfl
    | cons task tasks ih =>
      rw [List.forall_mem_cons] at hall
      rw [List.flatMap_cons, List.countP_append, List.countP_append, hequal _ hall.1, ih hall.2]
  rw [h.log.countP_eq, h.log.countP_eq]
  refine hdone pool.tasks fun task hmem => ?_
  have hprogram := h.programs task hmem
  rwa [Task.program, hthrough task hmem, List.append_nil] at hprogram

theorem count_le_take {programs : List Op → Prop} {actions : List (Action Op)}
    (hstarts : ∀ action ∈ actions, Starts programs action)
    (hfollows : ∀ program, programs program → Follows a b program) (n : Nat) :
    ((run actions).log.take n).countP b ≤ ((run actions).log.take n).countP a := by
  by_cases hn : n ≤ (run actions).log.length
  · obtain ⟨k, hk⟩ := exists_log_take empty actions (Nat.zero_le n) hn
    have hthen := (run_consistent hstarts k).count_le hfollows
    rw [run, hk] at hthen
    exact hthen
  · have hall := (run_consistent hstarts actions.length).count_le hfollows
    rw [List.take_length] at hall
    rwa [List.take_of_length_le (Nat.le_of_not_le hn)]

end Pool

end Interleaving
