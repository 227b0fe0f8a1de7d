import Mathlib.Data.List.Nodup
import Roole.Lib.Runs
import Roole.Node.State

/-!
# The execution tracker as a map

A record is added under a fresh id in the first slot not in use, changed in
place, and taken out by a removal or by the cleanup of old executions. Whatever
the order of these, the slots in use have distinct ids below the next one, and a
search finds what was added under an id until that is taken out.
-/

namespace Roole

open KeyedList

def ExecutionRecord.deactivate (record : ExecutionRecord) : ExecutionRecord :=
  { record with active := false }

@[simp] theorem ExecutionRecord.deactivate_key (record : ExecutionRecord) :
    record.deactivate.key = none := rfl

def executionTrackerRemove (tracker : ExecutionTracker) (execId : ExecutionId) :
    ResultStatus × ExecutionTracker :=
  if execId = 0 then (.errInvalid, tracker)
  else
    match executionTrackerGet tracker execId with
    | none => (.errNotfound, tracker)
    | some _ => (.ok, { tracker with
        records := modify ExecutionRecord.key (some execId) .deactivate tracker.records })

def cleanupThresholdMs : UInt64 := 5 * 60 * 1000

/-- The test of the cleanup, whose difference wraps around. -/
def ExecutionRecord.cleanable (now : UInt64) (record : ExecutionRecord) : Bool :=
  (record.status = .completed || record.status = .failed) && record.completeTimeMs > 0 &&
    now - record.completeTimeMs > cleanupThresholdMs

def executionTrackerCleanupCompleted (now : UInt64) (tracker : ExecutionTracker) :
    Nat × ExecutionTracker :=
  (tracker.records.countP fun record => record.active && record.cleanable now,
    { tracker with
      records := tracker.records.map fun record =>
        if record.active && record.cleanable now then record.deactivate else record })

-- ----------------------------------------------------------------------------
-- Slots
-- ----------------------------------------------------------------------------

variable {tracker : ExecutionTracker}

theorem fillSlot_eq_none {records : List ExecutionRecord} :
    fillSlot record records = none ↔ ∀ slot ∈ records, slot.active = true := by
  induction records with
  | nil => simp [fillSlot]
  | cons slot rest ih =>
    unfold fillSlot
    split_ifs with hactive <;> simp [hactive, ih]

theorem fillSlot_split {records filled : List ExecutionRecord}
    (h : fillSlot record records = some filled) :
    ∃ before slot after, records = before ++ slot :: after ∧ slot.active = false ∧
      filled = before ++ record :: after := by
  induction records generalizing filled with
  | nil => cases h
  | cons slot rest ih =>
    unfold fillSlot at h
    split_ifs at h with hactive
    · obtain ⟨filled, hrest, rfl⟩ := Option.map_eq_some_iff.mp h
      obtain ⟨before, free, after, rfl, hfree, rfl⟩ := ih hrest
      exact ⟨slot :: before, free, after, rfl, hfree, rfl⟩
    · cases h
      exact ⟨[], slot, rest, rfl, by simpa using hactive, rfl⟩

def ExecutionTracker.activeIds (tracker : ExecutionTracker) : List ExecutionId :=
  tracker.records.filterMap ExecutionRecord.key

theorem key_eq_some {record : ExecutionRecord} :
    record.key = some execId ↔ record.active = true ∧ record.execId = execId := by
  unfold ExecutionRecord.key
  split_ifs with hactive <;> simp [hactive]

/-- The ids in use are distinct, are none of them zero, and are below the next
one, of which at most this many come before it. -/
structure ExecutionTracker.Sound (tracker : ExecutionTracker) (adds : Nat) : Prop where
  distinct : tracker.activeIds.Nodup
  nonzero : 0 ∉ tracker.activeIds
  below : ∀ execId ∈ tracker.activeIds, execId < tracker.nextExecId
  next_pos : 0 < tracker.nextExecId.toNat
  next_le : tracker.nextExecId.toNat ≤ adds + 1

theorem ExecutionTracker.Sound.get_iff (h : tracker.Sound adds) :
    executionTrackerGet tracker execId = some record ↔
      record ∈ tracker.records ∧ record.key = some execId := by
  unfold executionTrackerGet
  by_cases hzero : execId = 0
  · subst hzero
    simp only [if_true, reduceCtorEq, false_iff, not_and]
    exact fun hmem hkey => h.nonzero (List.mem_filterMap.mpr ⟨record, hmem, hkey⟩)
  · rw [if_neg hzero, lookup_slot_iff h.distinct]

theorem ExecutionTracker.Sound.get_eq_none (h : tracker.Sound adds) :
    executionTrackerGet tracker execId = none ↔ execId ∉ tracker.activeIds := by
  rw [Option.eq_none_iff_forall_ne_some]
  simp only [ne_eq, h.get_iff, ExecutionTracker.activeIds, List.mem_filterMap, not_exists]

-- ----------------------------------------------------------------------------
-- Changes in place
-- ----------------------------------------------------------------------------

def KeepsKeys (change : ExecutionRecord → ExecutionRecord) : Prop :=
  ∀ record, (change record).key = record.key ∨ (change record).key = none

theorem ExecutionTracker.Sound.map (h : tracker.Sound adds)
    {change : ExecutionRecord → ExecutionRecord} (hchange : KeepsKeys change) :
    ExecutionTracker.Sound { tracker with records := tracker.records.map change } adds := by
  have hsub : List.Sublist
      (activeIds { tracker with records := tracker.records.map change }) tracker.activeIds :=
    filterMap_map_sublist hchange tracker.records
  exact ⟨h.distinct.sublist hsub, fun hmem => h.nonzero (hsub.subset hmem),
    fun execId hmem => h.below execId (hsub.subset hmem), h.next_pos, h.next_le⟩

theorem ExecutionTracker.Sound.get_map (h : tracker.Sound adds)
    {change : ExecutionRecord → ExecutionRecord} (hchange : KeepsKeys change)
    (execId : ExecutionId) :
    executionTrackerGet { tracker with records := tracker.records.map change } execId =
      ((executionTrackerGet tracker execId).map change).filter fun record =>
        decide (record.key = some execId) := by
  unfold executionTrackerGet
  split_ifs
  · rfl
  · exact lookup_map_slot h.distinct hchange execId

def changeOf (execId : ExecutionId) (change : ExecutionRecord → ExecutionRecord)
    (record : ExecutionRecord) : ExecutionRecord :=
  if record.key = some execId then change record else record

theorem keepsKeys_changeOf {change : ExecutionRecord → ExecutionRecord}
    (hchange : KeepsKeys change) (execId : ExecutionId) : KeepsKeys (changeOf execId change) := by
  intro record
  unfold changeOf
  split_ifs
  · exact hchange record
  · exact .inl rfl

theorem setStatus_keepsKeys (now : UInt64) (status : ExecutionStatus) :
    KeepsKeys (ExecutionRecord.setStatus now status) := fun _ => .inl rfl

theorem deactivate_keepsKeys : KeepsKeys ExecutionRecord.deactivate := fun _ => .inr rfl

def cleanSlot (now : UInt64) (record : ExecutionRecord) : ExecutionRecord :=
  if record.active && record.cleanable now then record.deactivate else record

theorem cleanSlot_keepsKeys (now : UInt64) : KeepsKeys (cleanSlot now) := by
  intro record
  unfold cleanSlot
  split_ifs
  · exact .inr rfl
  · exact .inl rfl

theorem ExecutionTracker.Sound.modify_eq (h : tracker.Sound adds) (execId : ExecutionId)
    (change : ExecutionRecord → ExecutionRecord) :
    { tracker with records := modify ExecutionRecord.key (some execId) change tracker.records } =
      { tracker with records := tracker.records.map (changeOf execId change) } := by
  rw [modify_slot_eq_map h.distinct]
  rfl

theorem ExecutionTracker.Sound.map_of_none (h : tracker.Sound adds)
    (hnone : executionTrackerGet tracker execId = none)
    (change : ExecutionRecord → ExecutionRecord) :
    { tracker with records := tracker.records.map (changeOf execId change) } = tracker := by
  have hsame : tracker.records.map (changeOf execId change) = tracker.records := by
    refine (List.map_congr_left fun record hrecord => ?_).trans (List.map_id _)
    refine if_neg fun hkey => h.get_eq_none.mp hnone ?_
    exact List.mem_filterMap.mpr ⟨record, hrecord, hkey⟩
  rw [hsame]

theorem ExecutionTracker.Sound.updateStatus_eq (h : tracker.Sound adds) (now : UInt64)
    (execId : ExecutionId) (status : ExecutionStatus) :
    (executionTrackerUpdateStatus now tracker execId status).2 =
      { tracker with
          records := tracker.records.map (changeOf execId (·.setStatus now status)) } := by
  cases hget : executionTrackerGet tracker execId with
  | none =>
    rw [h.map_of_none hget]
    unfold executionTrackerUpdateStatus
    split_ifs <;> simp [hget]
  | some record =>
    have hne : execId ≠ 0 := by
      rintro rfl
      cases hget
    rw [← h.modify_eq]
    simp [executionTrackerUpdateStatus, hne, hget]

theorem ExecutionTracker.Sound.remove_eq (h : tracker.Sound adds) (execId : ExecutionId) :
    (executionTrackerRemove tracker execId).2 =
      { tracker with records := tracker.records.map (changeOf execId .deactivate) } := by
  cases hget : executionTrackerGet tracker execId with
  | none =>
    rw [h.map_of_none hget]
    unfold executionTrackerRemove
    split_ifs <;> simp [hget]
  | some record =>
    have hne : execId ≠ 0 := by
      rintro rfl
      cases hget
    rw [← h.modify_eq]
    simp [executionTrackerRemove, hne, hget]

theorem ExecutionTracker.Sound.get_remove (h : tracker.Sound adds) (execId other : ExecutionId) :
    executionTrackerGet (executionTrackerRemove tracker execId).2 other =
      if other = execId then none else executionTrackerGet tracker other := by
  rw [h.remove_eq, h.get_map (keepsKeys_changeOf deactivate_keepsKeys execId)]
  cases hget : executionTrackerGet tracker other with
  | none => simp
  | some record =>
    obtain ⟨-, hkey⟩ := h.get_iff.mp hget
    by_cases hother : other = execId
    · subst hother
      rw [Option.map_some, changeOf, if_pos hkey, Option.filter_some]
      simp
    · have hne : some other ≠ some execId := fun heq => hother (Option.some.inj heq)
      simp [changeOf, hkey, hother, hne, Option.filter_some]

theorem ExecutionTracker.Sound.get_cleanup (h : tracker.Sound adds) (now : UInt64)
    (execId : ExecutionId) :
    executionTrackerGet (executionTrackerCleanupCompleted now tracker).2 execId =
      (executionTrackerGet tracker execId).filter fun record => !record.cleanable now := by
  refine (h.get_map (cleanSlot_keepsKeys now) execId).trans ?_
  cases hget : executionTrackerGet tracker execId with
  | none => simp
  | some record =>
    obtain ⟨-, hkey⟩ := h.get_iff.mp hget
    obtain ⟨hactive, -⟩ := key_eq_some.mp hkey
    by_cases hclean : record.cleanable now
    · rw [Option.map_some, cleanSlot, hactive, hclean, Option.filter_some, Option.filter_some]
      simp [hclean]
    · simp [cleanSlot, hclean, hkey, Option.filter_some]

-- ----------------------------------------------------------------------------
-- Additions
-- ----------------------------------------------------------------------------

def AddFails (tracker : ExecutionTracker) (message : List UInt8) : Prop :=
  message.length = 0 ∨ message.length > maxMessageSize ∨
    ∀ slot ∈ tracker.records, slot.active = true

def ExecutionRecord.added (now : UInt64) (execId : ExecutionId) (dagId : RuleId)
    (peerId : NodeId) (message : List UInt8) (maxRetries : UInt8) : ExecutionRecord where
  execId := execId
  dagId := dagId
  assignedPeer := peerId
  status := .pending
  submitTimeMs := now
  startTimeMs := 0
  completeTimeMs := 0
  retryCount := 0
  maxRetries := maxRetries
  messageData := message
  active := true

theorem executionTrackerAdd_fails (h : AddFails tracker message) (now : UInt64) (dagId : RuleId)
    (peerId : NodeId) (maxRetries : UInt8) :
    executionTrackerAdd now tracker dagId peerId message maxRetries = (0, tracker) := by
  unfold executionTrackerAdd
  split_ifs with hlength
  · rfl
  · obtain hzero | hlong | hactive := h
    · exact absurd (.inl hzero) hlength
    · exact absurd (.inr hlong) hlength
    · dsimp only
      rw [fillSlot_eq_none.mpr hactive]

theorem executionTrackerAdd_split (h : ¬AddFails tracker message) (now : UInt64) (dagId : RuleId)
    (peerId : NodeId) (maxRetries : UInt8) :
    ∃ before slot after, tracker.records = before ++ slot :: after ∧ slot.active = false ∧
      executionTrackerAdd now tracker dagId peerId message maxRetries = (tracker.nextExecId,
        ⟨before ++ .added now tracker.nextExecId dagId peerId message maxRetries :: after,
          tracker.nextExecId + 1⟩) := by
  unfold AddFails at h
  rw [not_or, not_or] at h
  obtain ⟨hzero, hlong, hactive⟩ := h
  unfold executionTrackerAdd
  rw [if_neg (not_or.mpr ⟨hzero, hlong⟩)]
  dsimp only
  cases hfill : fillSlot (.added now tracker.nextExecId dagId peerId message maxRetries)
      tracker.records with
  | none => exact absurd (fillSlot_eq_none.mp hfill) hactive
  | some filled =>
    obtain ⟨before, slot, after, hrecords, hfree, hfilled⟩ := fillSlot_split hfill
    refine ⟨before, slot, after, hrecords, hfree, ?_⟩
    rw [← hfilled]
    simp only [ExecutionRecord.added] at hfill
    simp only [hfill]

theorem ExecutionTracker.Sound.next_succ (h : tracker.Sound adds) (hadds : adds + 1 < 2 ^ 64 - 1) :
    (tracker.nextExecId + 1).toNat = tracker.nextExecId.toNat + 1 := by
  have hle := h.next_le
  rw [UInt64.toNat_add]
  exact Nat.mod_eq_of_lt (by simp only [UInt64.toNat_one]; omega)

theorem ExecutionTracker.Sound.next_ne_zero (h : tracker.Sound adds) : tracker.nextExecId ≠ 0 := by
  intro hzero
  have hpos := h.next_pos
  rw [hzero] at hpos
  cases hpos

theorem ExecutionTracker.Sound.next_fresh (h : tracker.Sound adds) :
    tracker.nextExecId ∉ tracker.activeIds := fun hmem =>
  UInt64.lt_irrefl _ (h.below _ hmem)

theorem ExecutionTracker.Sound.mono (h : tracker.Sound adds) (hle : adds ≤ adds') :
    tracker.Sound adds' :=
  { h with next_le := h.next_le.trans (Nat.add_le_add_right hle 1) }

theorem activeIds_split (hrecords : tracker.records = before ++ slot :: after)
    (hfree : slot.active = false) :
    tracker.activeIds = before.filterMap ExecutionRecord.key ++
      after.filterMap ExecutionRecord.key := by
  have hslot : slot.key = none := by simp [ExecutionRecord.key, hfree]
  rw [ExecutionTracker.activeIds, hrecords, List.filterMap_append,
    List.filterMap_cons_none hslot]

theorem ExecutionTracker.Sound.add (h : tracker.Sound adds) (hadds : adds + 1 < 2 ^ 64 - 1)
    (hrecords : tracker.records = before ++ slot :: after) (hfree : slot.active = false)
    (hkey : record.key = some tracker.nextExecId) :
    Sound ⟨before ++ record :: after, tracker.nextExecId + 1⟩ (adds + 1) := by
  have hold := activeIds_split hrecords hfree
  have hnew : activeIds ⟨before ++ record :: after, tracker.nextExecId + 1⟩ =
      before.filterMap ExecutionRecord.key ++
        tracker.nextExecId :: after.filterMap ExecutionRecord.key := by
    rw [activeIds, List.filterMap_append, List.filterMap_cons_some hkey]
  have hmem : ∀ execId, execId ∈ activeIds ⟨before ++ record :: after, tracker.nextExecId + 1⟩ →
      execId = tracker.nextExecId ∨ execId ∈ tracker.activeIds := by
    intro execId hin
    rw [hnew, List.mem_append, List.mem_cons] at hin
    rw [hold, List.mem_append]
    tauto
  have hsucc := h.next_succ hadds
  refine ⟨?_, fun hzero => ?_, fun execId hin => ?_, ?_, ?_⟩
  · rw [hnew, List.nodup_middle, List.nodup_cons, ← hold]
    exact ⟨h.next_fresh, h.distinct⟩
  · rcases hmem 0 hzero with heq | hin
    · exact h.next_ne_zero heq.symm
    · exact h.nonzero hin
  · rw [UInt64.lt_iff_toNat_lt, hsucc]
    rcases hmem execId hin with rfl | hin
    · exact Nat.lt_succ_self _
    · exact Nat.lt_succ_of_lt (UInt64.lt_iff_toNat_lt.mp (h.below execId hin))
  · rw [hsucc]
    exact Nat.succ_pos _
  · rw [hsucc]
    exact Nat.succ_le_succ h.next_le

theorem ExecutionTracker.Sound.get_add (h : tracker.Sound adds) (record : ExecutionRecord)
    (hadds : adds + 1 < 2 ^ 64 - 1)
    (hrecords : tracker.records = before ++ slot :: after) (hfree : slot.active = false)
    (hkey : record.key = some tracker.nextExecId) (execId : ExecutionId) :
    executionTrackerGet ⟨before ++ record :: after, tracker.nextExecId + 1⟩ execId =
      if execId = tracker.nextExecId then some record
      else executionTrackerGet tracker execId := by
  have hsound := h.add hadds hrecords hfree hkey
  ext found
  split_ifs with hnext
  · subst hnext
    rw [hsound.get_iff, Option.some.injEq]
    constructor
    · rintro ⟨hmem, hfound⟩
      have hget := hsound.get_iff.mpr ⟨List.mem_append_right _ List.mem_cons_self, hkey⟩
      rw [hsound.get_iff.mpr ⟨hmem, hfound⟩, Option.some.injEq] at hget
      exact hget.symm
    · rintro rfl
      exact ⟨List.mem_append_right _ List.mem_cons_self, hkey⟩
  · rw [hsound.get_iff, h.get_iff, hrecords]
    simp only [List.mem_append, List.mem_cons]
    constructor
    · rintro ⟨hbefore | rfl | hafter, hfound⟩
      · exact ⟨.inl hbefore, hfound⟩
      · rw [hkey, Option.some.injEq] at hfound
        exact absurd hfound.symm hnext
      · exact ⟨.inr (.inr hafter), hfound⟩
    · rintro ⟨hbefore | rfl | hafter, hfound⟩
      · exact ⟨.inl hbefore, hfound⟩
      · simp [ExecutionRecord.key, hfree] at hfound
      · exact ⟨.inr (.inr hafter), hfound⟩

-- ----------------------------------------------------------------------------
-- Calls
-- ----------------------------------------------------------------------------

inductive TrackerCall
  | add (now : UInt64) (dagId : RuleId) (peerId : NodeId) (message : List UInt8)
      (maxRetries : UInt8)
  | updateStatus (now : UInt64) (execId : ExecutionId) (status : ExecutionStatus)
  | remove (execId : ExecutionId)
  | cleanup (now : UInt64)

def trackerStep (tracker : ExecutionTracker) : TrackerCall → ExecutionTracker
  | .add now dagId peerId message maxRetries =>
    (executionTrackerAdd now tracker dagId peerId message maxRetries).2
  | .updateStatus now execId status => (executionTrackerUpdateStatus now tracker execId status).2
  | .remove execId => (executionTrackerRemove tracker execId).2
  | .cleanup now => (executionTrackerCleanupCompleted now tracker).2

def TrackerCall.isAdd : TrackerCall → Bool
  | .add .. => true
  | _ => false

/-- What `time_now_ms` answers during the call. -/
def TrackerCall.time : TrackerCall → Option UInt64
  | .add now .. | .updateStatus now .. | .cleanup now => some now
  | .remove _ => none

structure GivenExecution where
  dagId : RuleId
  peerId : NodeId
  message : List UInt8
  deriving DecidableEq

def ExecutionRecord.given (record : ExecutionRecord) : GivenExecution where
  dagId := record.dagId
  peerId := record.assignedPeer
  message := record.messageData

def addedBy (tracker : ExecutionTracker) : TrackerCall → Option (ExecutionId × GivenExecution)
  | .add now dagId peerId message maxRetries =>
    let execId := (executionTrackerAdd now tracker dagId peerId message maxRetries).1
    if execId = 0 then none else some (execId, ⟨dagId, peerId, message⟩)
  | _ => none

/-- Completed or failed more than five minutes ago, at a time that is not zero. -/
def ExecutionRecord.Expired (now : UInt64) (record : ExecutionRecord) : Prop :=
  (record.status = .completed ∨ record.status = .failed) ∧ record.completeTimeMs ≠ 0 ∧
    record.completeTimeMs.toNat + 5 * 60 * 1000 < now.toNat

instance (now : UInt64) (record : ExecutionRecord) : Decidable (record.Expired now) :=
  inferInstanceAs (Decidable (_ ∧ _))

/-- The call removes the record of this id, or cleans it up. -/
def TakesOut (tracker : ExecutionTracker) (execId : ExecutionId) : TrackerCall → Prop
  | .remove other => other = execId
  | .cleanup now =>
    ∃ record, executionTrackerGet tracker execId = some record ∧ record.Expired now
  | _ => False

theorem cleanable_iff {record : ExecutionRecord} (h : record.completeTimeMs ≤ now) :
    record.cleanable now = true ↔ record.Expired now := by
  have hle := UInt64.le_iff_toNat_le.mp h
  have hpos : record.completeTimeMs > 0 ↔ record.completeTimeMs ≠ 0 := UInt64.pos_iff_ne_zero
  have hage : now - record.completeTimeMs > cleanupThresholdMs ↔
      record.completeTimeMs.toNat + 5 * 60 * 1000 < now.toNat := by
    rw [gt_iff_lt, UInt64.lt_iff_toNat_lt, UInt64.toNat_sub_of_le _ _ h]
    show 5 * 60 * 1000 < _ ↔ _
    omega
  unfold ExecutionRecord.cleanable ExecutionRecord.Expired
  rw [Bool.and_eq_true, Bool.and_eq_true, Bool.or_eq_true, decide_eq_true_iff, decide_eq_true_iff,
    decide_eq_true_iff, decide_eq_true_iff, hpos, hage, and_assoc]

def CompletedAt (tracker : ExecutionTracker) (times : List UInt64) : Prop :=
  ∀ record ∈ tracker.records, record.completeTimeMs = 0 ∨ record.completeTimeMs ∈ times

namespace ExecutionTracker.Sound

variable {adds : Nat} {call : TrackerCall}

/-- A call either adds a record under the next id, or only changes slots. -/
theorem step_cases (h : tracker.Sound adds) (call : TrackerCall) :
    (∃ now dagId peerId message maxRetries before slot after,
      call = .add now dagId peerId message maxRetries ∧ ¬AddFails tracker message ∧
      tracker.records = before ++ slot :: after ∧ slot.active = false ∧
      addedBy tracker call = some (tracker.nextExecId, ⟨dagId, peerId, message⟩) ∧
      trackerStep tracker call =
        ⟨before ++ .added now tracker.nextExecId dagId peerId message maxRetries :: after,
          tracker.nextExecId + 1⟩) ∨
    ∃ change, KeepsKeys change ∧ addedBy tracker call = none ∧
      trackerStep tracker call = { tracker with records := tracker.records.map change } ∧
      ∀ record, (change record).given = record.given ∧
        ((change record).completeTimeMs = record.completeTimeMs ∨
          call.time = some (change record).completeTimeMs) := by
  cases call with
  | add now dagId peerId message maxRetries =>
    by_cases hfails : AddFails tracker message
    · refine .inr ⟨id, fun _ => .inl rfl, ?_, ?_, fun _ => ⟨rfl, .inl rfl⟩⟩
      · simp [addedBy, executionTrackerAdd_fails hfails]
      · simp [trackerStep, executionTrackerAdd_fails hfails]
    · obtain ⟨before, slot, after, hrecords, hfree, hadd⟩ :=
        executionTrackerAdd_split hfails now dagId peerId maxRetries
      refine .inl ⟨now, dagId, peerId, message, maxRetries, before, slot, after, rfl, hfails,
        hrecords, hfree, ?_, ?_⟩
      · simp [addedBy, hadd, h.next_ne_zero]
      · simp [trackerStep, hadd]
  | updateStatus now execId status =>
    refine .inr ⟨changeOf execId (·.setStatus now status),
      keepsKeys_changeOf (setStatus_keepsKeys now status) execId, rfl,
      h.updateStatus_eq now execId status, fun record => ?_⟩
    unfold changeOf
    split_ifs
    · refine ⟨rfl, ?_⟩
      by_cases hterminal : status = .completed ∨ status = .failed
      · exact .inr (by simp [TrackerCall.time, ExecutionRecord.setStatus, hterminal])
      · exact .inl (by simp [ExecutionRecord.setStatus, hterminal])
    · exact ⟨rfl, .inl rfl⟩
  | remove execId =>
    refine .inr ⟨changeOf execId .deactivate, keepsKeys_changeOf deactivate_keepsKeys execId, rfl,
      h.remove_eq execId, fun record => ?_⟩
    unfold changeOf
    split_ifs <;> exact ⟨rfl, .inl rfl⟩
  | cleanup now =>
    refine .inr ⟨cleanSlot now, cleanSlot_keepsKeys now, rfl, rfl, fun record => ?_⟩
    unfold cleanSlot
    split_ifs <;> exact ⟨rfl, .inl rfl⟩

theorem step (h : tracker.Sound adds) (call : TrackerCall)
    (hadds : call.isAdd → adds + 1 < 2 ^ 64 - 1) :
    (trackerStep tracker call).Sound (adds + if call.isAdd then 1 else 0) := by
  obtain ⟨now, dagId, peerId, message, maxRetries, before, slot, after, rfl, -, hrecords, hfree, -,
    hstep⟩ | ⟨change, hchange, -, hstep, -⟩ := h.step_cases call
  · rw [hstep]
    exact h.add (hadds rfl) hrecords hfree rfl
  · rw [hstep]
    exact (h.map hchange).mono (Nat.le_add_right _ _)

theorem step_completedAt (h : tracker.Sound adds) (call : TrackerCall)
    (htimes : CompletedAt tracker times) :
    CompletedAt (trackerStep tracker call) (times ++ call.time.toList) := by
  obtain ⟨now, dagId, peerId, message, maxRetries, before, slot, after, rfl, -, hrecords, hfree, -,
    hstep⟩ | ⟨change, -, -, hstep, hkept⟩ := h.step_cases call
  · rw [hstep]
    intro record hrecord
    have hold : ∀ old ∈ before ++ slot :: after, old.completeTimeMs = 0 ∨
        old.completeTimeMs ∈ times := hrecords ▸ htimes
    simp only [List.mem_append, List.mem_cons] at hrecord hold ⊢
    rcases hrecord with hmem | rfl | hmem
    · exact (hold record (.inl hmem)).imp_right .inl
    · exact .inl rfl
    · exact (hold record (.inr (.inr hmem))).imp_right .inl
  · rw [hstep]
    intro record hrecord
    obtain ⟨old, hold, rfl⟩ := List.mem_map.mp hrecord
    rcases (hkept old).2 with hsame | htime
    · rw [hsame]
      exact (htimes old hold).imp_right (List.mem_append_left _)
    · exact .inr (List.mem_append_right _ (by simp [htime]))

theorem step_length (h : tracker.Sound adds) :
    (trackerStep tracker call).records.length = tracker.records.length := by
  obtain ⟨now, dagId, peerId, message, maxRetries, before, slot, after, rfl, -, hrecords, hfree, -,
    hstep⟩ | ⟨change, -, -, hstep, -⟩ := h.step_cases call
  · rw [hstep, hrecords]
    simp
  · rw [hstep]
    simp

theorem step_next (h : tracker.Sound adds) (call : TrackerCall)
    (hadds : call.isAdd → adds + 1 < 2 ^ 64 - 1) :
    (trackerStep tracker call).nextExecId.toNat = tracker.nextExecId.toNat +
      if (addedBy tracker call).isSome then 1 else 0 := by
  obtain ⟨now, dagId, peerId, message, maxRetries, before, slot, after, rfl, -, -, -, hadded,
    hstep⟩ | ⟨change, -, hadded, hstep, -⟩ := h.step_cases call
  · rw [hstep, hadded]
    exact h.next_succ (hadds rfl)
  · rw [hstep, hadded]
    rfl

theorem addedBy_id (h : tracker.Sound adds) (hadded : addedBy tracker call = some (execId, given)) :
    execId = tracker.nextExecId := by
  obtain ⟨now, dagId, peerId, message, maxRetries, before, slot, after, rfl, -, -, -, hnew, -⟩ |
    ⟨change, -, hnone, -⟩ := h.step_cases call
  · rw [hadded, Option.some.injEq, Prod.mk.injEq] at hnew
    exact hnew.1
  · rw [hadded] at hnone
    cases hnone

/-- After a call an id is found with what it was added with, if the call added it
so, or it was found so before and the call does not take it out. -/
theorem step_get (h : tracker.Sound adds) (hadds : call.isAdd → adds + 1 < 2 ^ 64 - 1)
    (htimes : ∀ now, call = .cleanup now → ∀ record ∈ tracker.records,
      record.completeTimeMs ≤ now) (execId : ExecutionId) (given : GivenExecution) :
    (executionTrackerGet (trackerStep tracker call) execId).map ExecutionRecord.given =
        some given ↔
      addedBy tracker call = some (execId, given) ∨
        (executionTrackerGet tracker execId).map ExecutionRecord.given = some given ∧
          ¬TakesOut tracker execId call := by
  cases call with
  | add now dagId peerId message maxRetries =>
    by_cases hfails : AddFails tracker message
    · simp [trackerStep, addedBy, executionTrackerAdd_fails hfails, TakesOut]
    · obtain ⟨before, slot, after, hrecords, hfree, hadd⟩ :=
        executionTrackerAdd_split hfails now dagId peerId maxRetries
      have hget := h.get_add (.added now tracker.nextExecId dagId peerId message maxRetries)
        (hadds rfl) hrecords hfree rfl execId
      have hfresh := h.get_eq_none.mpr h.next_fresh
      simp only [trackerStep, addedBy, hadd, h.next_ne_zero, if_false, hget, TakesOut,
        not_false_eq_true, and_true, Option.some.injEq, Prod.mk.injEq]
      by_cases hnext : execId = tracker.nextExecId
      · subst hnext
        simp [hfresh, ExecutionRecord.given, ExecutionRecord.added]
      · simp [hnext, Ne.symm hnext]
  | updateStatus now other status =>
    simp only [trackerStep, executionTrackerGet_updateStatus, addedBy, TakesOut, reduceCtorEq,
      false_or, not_false_eq_true, and_true]
    split_ifs
    · rw [Option.map_map]
      rfl
    · rfl
  | remove other =>
    simp only [trackerStep, h.get_remove, addedBy, TakesOut, reduceCtorEq, false_or]
    by_cases hother : execId = other
    · simp [hother]
    · simp [hother, Ne.symm hother]
  | cleanup now =>
    simp only [trackerStep, h.get_cleanup, addedBy, TakesOut, reduceCtorEq, false_or]
    cases hget : executionTrackerGet tracker execId with
    | none => simp
    | some record =>
      have hclean := cleanable_iff (htimes now rfl record (h.get_iff.mp hget).1)
      by_cases hexpired : record.Expired now
      · simp [Option.filter_some, hclean.mpr hexpired, hexpired]
      · have hkept : record.cleanable now = false := by
          simpa using fun htrue => hexpired (hclean.mp htrue)
        simp [Option.filter_some, hkept, hexpired]

end ExecutionTracker.Sound

-- ----------------------------------------------------------------------------
-- Runs
-- ----------------------------------------------------------------------------

def trackerAt (capacity : Nat) (calls : List TrackerCall) (i : Nat) : ExecutionTracker :=
  Runs.run trackerStep (executionTrackerInit capacity) (calls.take i)

section

variable {capacity : Nat} {calls : List TrackerCall} {i j : Nat}

theorem trackerAt_succ (capacity : Nat) (hi : i < calls.length) :
    trackerAt capacity calls (i + 1) = trackerStep (trackerAt capacity calls i) calls[i] :=
  Runs.run_take_succ trackerStep _ hi

@[simp] theorem executionTrackerInit_activeIds (capacity : Nat) :
    (executionTrackerInit capacity).activeIds = [] := by
  refine List.filterMap_eq_nil_iff.mpr fun record hrecord => ?_
  rw [List.eq_of_mem_replicate hrecord]
  rfl

theorem executionTrackerInit_sound (capacity : Nat) : (executionTrackerInit capacity).Sound 0 := by
  constructor
  · simp
  · simp
  · simp
  · exact Nat.one_pos
  · exact Nat.le_refl 1

theorem adds_lt (hadds : calls.countP TrackerCall.isAdd < 2 ^ 64 - 1) (hi : i < calls.length)
    (hadd : calls[i].isAdd = true) :
    (calls.take i).countP TrackerCall.isAdd + 1 < 2 ^ 64 - 1 := by
  have hle : (calls.take (i + 1)).countP TrackerCall.isAdd ≤ calls.countP TrackerCall.isAdd :=
    (List.take_sublist _ _).countP_le
  rw [List.take_succ_eq_append_getElem hi, List.countP_append] at hle
  simp only [List.countP_singleton, hadd, if_true] at hle
  omega

theorem trackerAt_sound (capacity : Nat) (hadds : calls.countP TrackerCall.isAdd < 2 ^ 64 - 1)
    (hi : i ≤ calls.length) :
    (trackerAt capacity calls i).Sound ((calls.take i).countP TrackerCall.isAdd) ∧
      CompletedAt (trackerAt capacity calls i) ((calls.take i).filterMap TrackerCall.time) ∧
      (trackerAt capacity calls i).records.length = capacity := by
  induction i with
  | zero =>
    refine ⟨executionTrackerInit_sound capacity, fun record hrecord => ?_, List.length_replicate⟩
    rw [List.eq_of_mem_replicate hrecord]
    exact .inl rfl
  | succ i ih =>
    obtain ⟨hsound, htimes, hlength⟩ := ih (Nat.le_of_succ_le hi)
    have hstep := hsound.step calls[i] (adds_lt hadds hi)
    have hcompleted := hsound.step_completedAt calls[i] htimes
    rw [trackerAt_succ capacity hi, List.take_succ_eq_append_getElem hi, List.countP_append,
      List.filterMap_append]
    refine ⟨?_, ?_, hsound.step_length.trans hlength⟩
    · simpa [List.countP_singleton] using hstep
    · have htime : [calls[i]].filterMap TrackerCall.time = calls[i].time.toList := by
        cases htime : calls[i].time <;> simp [htime]
      rw [htime]
      exact hcompleted

theorem completed_le (hclock : (calls.filterMap TrackerCall.time).Pairwise (· ≤ ·))
    (hi : i < calls.length) (hcall : calls[i] = .cleanup now)
    (htimes : CompletedAt tracker ((calls.take i).filterMap TrackerCall.time)) :
    ∀ record ∈ tracker.records, record.completeTimeMs ≤ now := by
  have hprefix : List.Sublist ((calls.take i).filterMap TrackerCall.time ++ [now])
      (calls.filterMap TrackerCall.time) := by
    have hsub := (List.take_sublist (i + 1) calls).filterMap TrackerCall.time
    rw [List.take_succ_eq_append_getElem hi, List.filterMap_append, hcall] at hsub
    exact hsub
  have hsorted := List.pairwise_append.mp (hclock.sublist hprefix)
  intro record hrecord
  rcases htimes record hrecord with hzero | hmem
  · rw [hzero]
    exact UInt64.zero_le
  · exact hsorted.2.2 _ hmem now (List.mem_singleton_self now)

/-- Some call added the id with what it was given, and none since then has taken
it out. -/
def Held (capacity : Nat) (calls : List TrackerCall) (k : Nat) (execId : ExecutionId)
    (given : GivenExecution) : Prop :=
  ∃ i, ∃ hi : i < calls.length, i < k ∧
    addedBy (trackerAt capacity calls i) calls[i] = some (execId, given) ∧
    ∀ j (hj : j < calls.length), i < j → j < k →
      ¬TakesOut (trackerAt capacity calls j) execId calls[j]

theorem held_succ (hi : i < calls.length) : Held capacity calls (i + 1) execId given ↔
    addedBy (trackerAt capacity calls i) calls[i] = some (execId, given) ∨
      Held capacity calls i execId given ∧
        ¬TakesOut (trackerAt capacity calls i) execId calls[i] := by
  constructor
  · rintro ⟨k, hk, hlt, hadded, hkept⟩
    rcases Nat.lt_succ_iff_lt_or_eq.mp hlt with hbefore | rfl
    · exact .inr ⟨⟨k, hk, hbefore, hadded, fun j hj hkj hji =>
        hkept j hj hkj (Nat.lt_succ_of_lt hji)⟩, hkept i hi hbefore (Nat.lt_succ_self i)⟩
    · exact .inl hadded
  · rintro (hadded | ⟨⟨k, hk, hlt, hadded, hkept⟩, hstays⟩)
    · exact ⟨i, hi, Nat.lt_succ_self i, hadded, fun j hj hij hji =>
        absurd (Nat.lt_of_lt_of_le hij (Nat.le_of_lt_succ hji)) (Nat.lt_irrefl i)⟩
    · refine ⟨k, hk, Nat.lt_succ_of_lt hlt, hadded, fun j hj hkj hji => ?_⟩
      rcases Nat.lt_succ_iff_lt_or_eq.mp hji with hbefore | rfl
      · exact hkept j hj hkj hbefore
      · exact hstays

theorem trackerAt_get (capacity : Nat) (hadds : calls.countP TrackerCall.isAdd < 2 ^ 64 - 1)
    (hclock : (calls.filterMap TrackerCall.time).Pairwise (· ≤ ·)) (hi : i ≤ calls.length)
    (execId : ExecutionId) (given : GivenExecution) :
    (executionTrackerGet (trackerAt capacity calls i) execId).map ExecutionRecord.given =
        some given ↔ Held capacity calls i execId given := by
  induction i with
  | zero =>
    have hnone : executionTrackerGet (trackerAt capacity calls 0) execId = none :=
      (executionTrackerInit_sound capacity).get_eq_none.mpr (by simp)
    simp [hnone, Held]
  | succ i ih =>
    obtain ⟨hsound, htimes, -⟩ := trackerAt_sound capacity hadds (Nat.le_of_succ_le hi)
    rw [trackerAt_succ capacity hi, held_succ hi, ← ih (Nat.le_of_succ_le hi)]
    exact hsound.step_get (adds_lt hadds hi)
      (fun now hcall => completed_le hclock hi hcall htimes) execId given

theorem trackerAt_next_le (capacity : Nat) (hadds : calls.countP TrackerCall.isAdd < 2 ^ 64 - 1)
    (hij : i ≤ j) (hj : j ≤ calls.length) :
    (trackerAt capacity calls i).nextExecId.toNat ≤
      (trackerAt capacity calls j).nextExecId.toNat := by
  induction hij with
  | refl => exact Nat.le_refl _
  | @step j hij ih =>
    obtain ⟨hsound, -, -⟩ := trackerAt_sound capacity hadds (Nat.le_of_succ_le hj)
    rw [trackerAt_succ capacity hj, hsound.step_next calls[j] (adds_lt hadds hj)]
    exact (ih (Nat.le_of_succ_le hj)).trans (Nat.le_add_right _ _)

/-- What holds of the tracker at every point of a run. -/
structure BoundedMapOfExecutions (capacity : Nat) (calls : List TrackerCall) : Prop where
  ids_increase : ∀ i j (hi : i < calls.length) (hj : j < calls.length), i < j →
    ∀ first second given given',
      addedBy (trackerAt capacity calls i) calls[i] = some (first, given) →
      addedBy (trackerAt capacity calls j) calls[j] = some (second, given') → first < second
  distinct : ∀ i ≤ calls.length, (trackerAt capacity calls i).activeIds.Nodup
  below_next : ∀ i ≤ calls.length, ∀ execId ∈ (trackerAt capacity calls i).activeIds,
    execId ≠ 0 ∧ execId < (trackerAt capacity calls i).nextExecId
  bounded : ∀ i ≤ calls.length, (trackerAt capacity calls i).activeIds.length ≤ capacity
  add_zero : ∀ i ≤ calls.length, ∀ now dagId peerId message maxRetries,
    (executionTrackerAdd now (trackerAt capacity calls i) dagId peerId message maxRetries).1 = 0 ↔
      AddFails (trackerAt capacity calls i) message
  add_fails : ∀ i ≤ calls.length, ∀ now dagId peerId message maxRetries,
    AddFails (trackerAt capacity calls i) message →
    (executionTrackerAdd now (trackerAt capacity calls i) dagId peerId message maxRetries).2 =
      trackerAt capacity calls i
  get_held : ∀ i ≤ calls.length, ∀ execId given,
    (executionTrackerGet (trackerAt capacity calls i) execId).map ExecutionRecord.given =
      some given ↔ Held capacity calls i execId given
  cleanup_exact : ∀ i (hi : i < calls.length) now, calls[i] = .cleanup now → ∀ execId,
    executionTrackerGet (trackerAt capacity calls (i + 1)) execId =
      (executionTrackerGet (trackerAt capacity calls i) execId).filter fun record =>
        !decide (record.Expired now)

/-- Fewer than 2^64 - 1 additions, and any changes and cleanups on a clock that
does not go back. -/
theorem executionTracker_boundedMap (capacity : Nat) (calls : List TrackerCall)
    (hadds : calls.countP TrackerCall.isAdd < 2 ^ 64 - 1)
    (hclock : (calls.filterMap TrackerCall.time).Pairwise (· ≤ ·)) :
    BoundedMapOfExecutions capacity calls where
  ids_increase := by
    intro i j hi hj hij first second given given' hfirst hsecond
    obtain ⟨hsound, -, -⟩ := trackerAt_sound capacity hadds hi.le
    obtain ⟨hsound', -, -⟩ := trackerAt_sound capacity hadds hj.le
    have hnext := hsound.step_next calls[i] (adds_lt hadds hi)
    rw [← trackerAt_succ capacity hi, hfirst] at hnext
    have hle := trackerAt_next_le (i := i + 1) capacity hadds hij hj.le
    rw [UInt64.lt_iff_toNat_lt, hsound.addedBy_id hfirst, hsound'.addedBy_id hsecond]
    simp only [Option.isSome_some, if_true] at hnext
    omega
  distinct := fun i hi => (trackerAt_sound capacity hadds hi).1.distinct
  below_next := by
    intro i hi execId hmem
    obtain ⟨hsound, -, -⟩ := trackerAt_sound capacity hadds hi
    refine ⟨?_, hsound.below execId hmem⟩
    rintro rfl
    exact hsound.nonzero hmem
  bounded := by
    intro i hi
    obtain ⟨-, -, hlength⟩ := trackerAt_sound capacity hadds hi
    exact (List.length_filterMap_le _ _).trans_eq hlength
  add_zero := by
    intro i hi now dagId peerId message maxRetries
    obtain ⟨hsound, -, -⟩ := trackerAt_sound capacity hadds hi
    refine ⟨fun hzero => ?_, fun hfails => by rw [executionTrackerAdd_fails hfails]⟩
    by_contra hfails
    obtain ⟨before, slot, after, -, -, hadd⟩ :=
      executionTrackerAdd_split hfails now dagId peerId maxRetries
    rw [hadd] at hzero
    exact hsound.next_ne_zero hzero
  add_fails := fun i hi now dagId peerId message maxRetries hfails => by
    rw [executionTrackerAdd_fails hfails]
  get_held := fun i hi => trackerAt_get capacity hadds hclock hi
  cleanup_exact := by
    intro i hi now hcall execId
    obtain ⟨hsound, htimes, -⟩ := trackerAt_sound capacity hadds hi.le
    have hcompleted := completed_le hclock hi hcall htimes
    rw [trackerAt_succ capacity hi, hcall]
    simp only [trackerStep, hsound.get_cleanup]
    cases hget : executionTrackerGet (trackerAt capacity calls i) execId with
    | none => rfl
    | some record =>
      have hclean := cleanable_iff (hcompleted record (hsound.get_iff.mp hget).1)
      simp only [Option.filter_some, ← hclean, Bool.decide_eq_true]

theorem executionTracker_boundedMap_reuse :
    BoundedMapOfExecutions 1
      [.add 1 7 2 [1] 3, .updateStatus 2 1 .completed, .cleanup 300002, .cleanup 300003,
        .add 300004 8 3 [2] 3, .remove 2, .add 300005 9 4 [3] 3] :=
  executionTracker_boundedMap 1 _ (by decide) (by decide)

end

end Roole
