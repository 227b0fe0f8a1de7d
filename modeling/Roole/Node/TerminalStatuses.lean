import Roole.Node.Threads

/-!
# Terminal statuses

A record that is COMPLETED or FAILED stays so until its slot is freed, unless
some thread writes over it: a submission that is answered after its execution, an
update that comes late, or a second execution under the same id.
-/

namespace Roole

open Bytes KeyedList

def ExecutionStatus.Terminal (status : ExecutionStatus) : Prop :=
  status = .completed ∨ status = .failed

instance (status : ExecutionStatus) : Decidable status.Terminal :=
  inferInstanceAs (Decidable (_ ∨ _))

def ExecutionRecord.shown (record : ExecutionRecord) : Bool × ExecutionId × ExecutionStatus :=
  (record.active, record.execId, record.status)

def ExecutionTracker.EndedIn (tracker : ExecutionTracker) (slot : Nat) (execId : ExecutionId)
    (status : ExecutionStatus) : Prop :=
  status.Terminal ∧ (tracker.records[slot]?).map ExecutionRecord.shown = some (true, execId, status)

def ExecutionTracker.FreeIn (tracker : ExecutionTracker) (slot : Nat) : Prop :=
  (tracker.records[slot]?).map ExecutionRecord.active = some false

instance (tracker : ExecutionTracker) (slot : Nat) (execId : ExecutionId)
    (status : ExecutionStatus) : Decidable (tracker.EndedIn slot execId status) :=
  inferInstanceAs (Decidable (_ ∧ _))

instance (tracker : ExecutionTracker) (slot : Nat) : Decidable (tracker.FreeIn slot) :=
  inferInstanceAs (Decidable (_ = _))

def KeepsEnded (before after : ExecutionTracker) : Prop :=
  ∀ slot execId status, before.EndedIn slot execId status →
    after.EndedIn slot execId status ∨ after.FreeIn slot

-- ----------------------------------------------------------------------------
-- Calls of the tracker
-- ----------------------------------------------------------------------------

variable {tracker : ExecutionTracker}

theorem KeepsEnded.refl (tracker : ExecutionTracker) : KeepsEnded tracker tracker :=
  fun _ _ _ hended => .inl hended

theorem keepsEnded_set {old new : ExecutionRecord} {i : Nat} {nextExecId : ExecutionId}
    (hold : tracker.records[i]? = some old)
    (hnew : old.active = true → old.status.Terminal →
      new.active = false ∨ new.shown = old.shown) :
    KeepsEnded tracker ⟨tracker.records.set i new, nextExecId⟩ := by
  obtain ⟨hlt, -⟩ := List.getElem?_eq_some_iff.mp hold
  intro slot execId status hended
  obtain ⟨hterminal, hshown⟩ := hended
  by_cases hslot : i = slot
  · subst hslot
    rw [hold, Option.map_some, Option.some.injEq] at hshown
    obtain ⟨hactive, -, rfl⟩ : old.active = true ∧ old.execId = execId ∧ old.status = status := by
      simpa [ExecutionRecord.shown] using hshown
    obtain hfreed | hsame := hnew hactive hterminal
    · exact .inr (by simp [ExecutionTracker.FreeIn, hlt, hfreed])
    · exact .inl ⟨hterminal, by simp [hlt, hsame, hshown]⟩
  · exact .inl ⟨hterminal, by simpa [List.getElem?_set, hslot] using hshown⟩

theorem keepsEnded_add (now : UInt64) (tracker : ExecutionTracker) (dagId : RuleId)
    (peerId : NodeId) (message : List UInt8) (maxRetries : UInt8) :
    KeepsEnded tracker
      (executionTrackerAdd now tracker dagId peerId message maxRetries).2 := by
  by_cases hfails : AddFails tracker message
  · rw [executionTrackerAdd_fails hfails]
    exact .refl tracker
  · obtain ⟨before, slot, after, hrecords, hfree, hadd⟩ :=
      executionTrackerAdd_split hfails now dagId peerId maxRetries
    have hget : tracker.records[before.length]? = some slot := by simp [hrecords]
    have hset : ∀ record, KeepsEnded tracker
        ⟨tracker.records.set before.length record, tracker.nextExecId + 1⟩ := fun record =>
      keepsEnded_set hget fun hactive => absurd (hfree.symm.trans hactive) Bool.false_ne_true
    rw [hadd]
    simpa [hrecords, List.set_append_right] using hset _

theorem keepsEnded_remove (tracker : ExecutionTracker) (execId : ExecutionId) :
    KeepsEnded tracker (executionTrackerRemove tracker execId).2 := by
  unfold executionTrackerRemove
  split_ifs with hzero
  · exact .refl tracker
  · cases hget : executionTrackerGet tracker execId with
    | none => exact .refl tracker
    | some record =>
      rw [executionTrackerGet, if_neg hzero] at hget
      obtain ⟨i, hi, hset⟩ := modify_eq_set hget
      dsimp only
      rw [hset]
      exact keepsEnded_set hi fun _ _ => .inl rfl

theorem keepsEnded_cleanup (now : UInt64) (tracker : ExecutionTracker) :
    KeepsEnded tracker (executionTrackerCleanupCompleted now tracker).2 := by
  intro slot execId status hended
  obtain ⟨hterminal, hshown⟩ := hended
  obtain ⟨record, hrecord, hshown⟩ := Option.map_eq_some_iff.mp hshown
  have hafter : (executionTrackerCleanupCompleted now tracker).2.records[slot]? =
      some (cleanSlot now record) := by
    simp only [executionTrackerCleanupCompleted, List.getElem?_map, hrecord]
    rfl
  unfold cleanSlot at hafter
  split_ifs at hafter
  · exact .inr (by simp [ExecutionTracker.FreeIn, hafter, ExecutionRecord.deactivate])
  · exact .inl ⟨hterminal, by simp [hafter, hshown]⟩

/-- An update spares the ended records exactly if the one it finds has not ended,
or ended with the same status. -/
theorem keepsEnded_updateStatus_iff (now : UInt64) (tracker : ExecutionTracker)
    (execId : ExecutionId) (status : ExecutionStatus) :
    KeepsEnded tracker (executionTrackerUpdateStatus now tracker execId status).2 ↔
      ∀ record, executionTrackerGet tracker execId = some record → record.status.Terminal →
        record.status = status := by
  unfold executionTrackerUpdateStatus
  by_cases hzero : execId = 0
  · simp [hzero, executionTrackerGet, KeepsEnded.refl]
  · simp only [hzero, if_false]
    cases hget : executionTrackerGet tracker execId with
    | none => simp [KeepsEnded.refl]
    | some record =>
      rw [executionTrackerGet, if_neg hzero] at hget
      obtain ⟨hactive, -⟩ := key_eq_some.mp (lookup_key hget)
      obtain ⟨i, hi, hset⟩ := modify_eq_set hget
      simp only [Option.some.injEq, forall_eq', hset]
      constructor
      · intro hkeeps hterminal
        obtain ⟨hlt, -⟩ := List.getElem?_eq_some_iff.mp hi
        have hended : tracker.EndedIn i record.execId record.status :=
          ⟨hterminal, by simp [hi, ExecutionRecord.shown, hactive]⟩
        rcases hkeeps _ _ _ hended with ⟨-, hshown⟩ | hfree
        · simp only [List.getElem?_set_self hlt, Option.map_some, Option.some.injEq] at hshown
          exact (congrArg (fun shown => shown.2.2) hshown).symm
        · simp only [ExecutionTracker.FreeIn, List.getElem?_set_self hlt, Option.map_some,
            Option.some.injEq] at hfree
          exact absurd (hactive.symm.trans hfree) Bool.true_eq_false_eq_False
      · intro hsame
        refine keepsEnded_set hi fun _ hterminal => .inr ?_
        simp [ExecutionRecord.shown, ExecutionRecord.setStatus, hsame hterminal]

theorem keepsEnded_call {call : TrackerCall}
    (hcall : ∀ now execId status, call ≠ .updateStatus now execId status) :
    KeepsEnded tracker (trackerStep tracker call) := by
  cases call with
  | add now dagId peerId message maxRetries =>
    exact keepsEnded_add now tracker dagId peerId message maxRetries
  | updateStatus now execId status => exact absurd rfl (hcall now execId status)
  | remove execId => exact keepsEnded_remove tracker execId
  | cleanup now => exact keepsEnded_cleanup now tracker

-- ----------------------------------------------------------------------------
-- Runs
-- ----------------------------------------------------------------------------

/-- A status that the step writes to a record that has ended is the one it has. -/
def SparesEnded (threads : NodeThreads) (action : ThreadAction) : Prop :=
  ∀ now execId status, statusWrite threads action = some (now, execId, status) →
    ∀ record, executionTrackerGet threads.tracker execId = some record →
      record.status.Terminal → record.status = status

theorem step_keepsEnded_iff (threads : NodeThreads) (action : ThreadAction) :
    KeepsEnded threads.tracker (threads.step action).tracker ↔ SparesEnded threads action := by
  have hcalls := step_tracker threads action
  unfold SparesEnded
  cases hwrite : statusWrite threads action with
  | some write =>
    obtain ⟨now, execId, status⟩ := write
    rw [hwrite] at hcalls
    rw [show (threads.step action).tracker = _ from hcalls, keepsEnded_updateStatus_iff]
    simp
  | none =>
    rw [hwrite] at hcalls
    refine iff_of_true ?_ (by simp)
    obtain hsame | ⟨call, hcall, hstep⟩ := hcalls
    · rw [hsame]
      exact .refl _
    · rw [hstep]
      exact keepsEnded_call hcall

/-- Once a slot shows an ended execution it shows it until it is freed. -/
def StatusesFinal (threads : NodeThreads) (actions : List ThreadAction) : Prop :=
  let trackerAfter := fun i => (Runs.run NodeThreads.step threads (actions.take i)).tracker
  ∀ slot execId status i j, i ≤ j → j ≤ actions.length →
    (trackerAfter i).EndedIn slot execId status →
      (trackerAfter j).EndedIn slot execId status ∨
        ∃ k, i < k ∧ k ≤ j ∧ (trackerAfter k).FreeIn slot

theorem statusesFinal_iff_steps (threads : NodeThreads) (actions : List ThreadAction) :
    StatusesFinal threads actions ↔ ∀ i < actions.length,
      KeepsEnded (Runs.run NodeThreads.step threads (actions.take i)).tracker
        (Runs.run NodeThreads.step threads (actions.take (i + 1))).tracker := by
  have huntil := fun slot execId status =>
    Runs.stays_until_iff NodeThreads.step threads actions
      (Q := fun threads => threads.tracker.EndedIn slot execId status)
      (R := fun threads => threads.tracker.FreeIn slot)
  constructor
  · exact fun h i hi slot execId status =>
      (huntil slot execId status).mp (h slot execId status) i hi
  · exact fun h slot execId status =>
      (huntil slot execId status).mpr fun i hi => h i hi slot execId status

/-- In every interleaving of the threads terminal statuses are final exactly if no
step writes another status over one. -/
theorem terminalStatuses_final_iff (threads : NodeThreads) (actions : List ThreadAction) :
    StatusesFinal threads actions ↔
      Runs.Meets NodeThreads.step SparesEnded threads actions := by
  rw [statusesFinal_iff_steps]
  exact Runs.steps_iff_meets (P := fun _ => True)
    (Q := fun before after : NodeThreads => KeepsEnded before.tracker after.tracker)
    (fun _ _ _ => trivial) (fun threads action _ => step_keepsEnded_iff threads action) trivial
    actions

theorem StatusesFinal.step (h : StatusesFinal threads actions) (i : Nat)
    (hi : i < actions.length) : KeepsEnded
      (Runs.run NodeThreads.step threads (actions.take i)).tracker
      (Runs.run NodeThreads.step threads (actions.take (i + 1))).tracker :=
  (statusesFinal_iff_steps threads actions).mp h i hi

def executingNode : NodeThreads := .start ((shortConfig ⟨true, true, true⟩).boot 1)

def overtakenSubmission : PendingSubmission where
  context := { shortContext with senderId := 1 }
  execId := 1
  dagId := shortDag.dagId
  targetPeer := 1
  message := [42]

def overtakenRun : List ThreadAction :=
  let message := { shortMessage with senderId := 1 }
  [.request calmEnv clientContext shortDag.encode,
    .submit calmEnv overtakenSubmission.context [1, 1, 1, 1, 42],
    .route calmEnv overtakenSubmission, .pop, .execute calmEnv dagExecuteStep message,
    .report calmEnv message .completed, .conclude calmEnv overtakenSubmission .sent]

def lateRun : List ThreadAction :=
  let context := { clientContext with funcId := funcIdExecutionUpdate }
  [.request calmEnv clientContext shortDag.encode,
    .submit calmEnv overtakenSubmission.context [1, 1, 1, 1, 42],
    .request calmEnv context (executionUpdatePayload 1 .completed),
    .request calmEnv context (executionUpdatePayload 1 .running)]

theorem terminalStatuses_overwritten :
    ¬StatusesFinal executingNode overtakenRun ∧ ¬StatusesFinal executingNode lateRun := by
  constructor
  · intro h
    have hended : (Runs.run NodeThreads.step executingNode (overtakenRun.take 6)).tracker.EndedIn
        0 1 .completed := by decide +kernel
    exact absurd (h.step 6 (by decide) 0 1 .completed hended) (by decide +kernel)
  · intro h
    have hended : (Runs.run NodeThreads.step executingNode (lateRun.take 3)).tracker.EndedIn
        0 1 .completed := by decide +kernel
    exact absurd (h.step 3 (by decide) 0 1 .completed hended) (by decide +kernel)

end Roole
