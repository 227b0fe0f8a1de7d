import Roole.Node.State

/-!
# The ids of executions

Records are never taken out of the tracker, so the slots fill up in order and
the ids count them.
-/

namespace Roole

open KeyedList

/-- The slots in use come first, and carry the ids given out so far. -/
structure ExecutionTracker.NumberedBy (tracker : ExecutionTracker)
    (used free : List ExecutionRecord) : Prop where
  records : tracker.records = used ++ free
  active : ∀ record ∈ used, record.active = true ∧ record.execId < tracker.nextExecId
  inactive : ∀ record ∈ free, record.active = false
  nextExecId : tracker.nextExecId.toNat = used.length + 1
  length_lt : tracker.records.length + 1 < 2 ^ 64

def ExecutionTracker.Numbered (tracker : ExecutionTracker) : Prop :=
  ∃ used free, tracker.NumberedBy used free

theorem executionTrackerInit_numbered (h : capacity * maxMessageSize < 2 ^ 64) :
    (executionTrackerInit capacity).Numbered := by
  refine ⟨[], List.replicate capacity .zero, rfl, by simp, ?_, rfl, ?_⟩
  · intro record hrecord
    rw [List.eq_of_mem_replicate hrecord]
    rfl
  · simp only [executionTrackerInit, List.length_replicate]
    unfold maxMessageSize at h
    omega

theorem fillSlot_append (hused : ∀ slot ∈ used, slot.active = true)
    (hfree : ∀ slot ∈ free, slot.active = false) : fillSlot record (used ++ free) =
      if free = [] then none else some (used ++ record :: free.tail) := by
  induction used with
  | nil =>
    cases free with
    | nil => rfl
    | cons slot rest => simp [fillSlot, hfree slot List.mem_cons_self]
  | cons slot rest ih =>
    obtain ⟨hslot, hrest⟩ := List.forall_mem_cons.mp hused
    rw [List.cons_append, fillSlot, if_pos hslot, ih hrest]
    split_ifs <;> rfl

namespace ExecutionTracker.NumberedBy

variable {tracker : ExecutionTracker} {used free : List ExecutionRecord}

theorem get_eq (h : tracker.NumberedBy used free) (execId : ExecutionId) :
    executionTrackerGet tracker execId =
      if execId = 0 then none else lookup ExecutionRecord.key used (some execId) := by
  have hfree : lookup ExecutionRecord.key free (some execId) = none := by
    refine lookup_eq_none.mpr fun record hrecord => ?_
    simp [ExecutionRecord.key, h.inactive record hrecord]
  rw [executionTrackerGet, h.records, lookup_append, hfree, Option.or_none]

theorem get_next (h : tracker.NumberedBy used free) :
    executionTrackerGet tracker tracker.nextExecId = none := by
  rw [h.get_eq]
  split_ifs
  · rfl
  · refine lookup_eq_none.mpr fun record hrecord hkey => ?_
    obtain ⟨hactive, hlt⟩ := h.active record hrecord
    rw [ExecutionRecord.key, if_pos hactive, Option.some.injEq] at hkey
    rw [hkey, UInt64.lt_iff_toNat_lt] at hlt
    exact lt_irrefl _ hlt

theorem next_succ (h : tracker.NumberedBy used (slot :: rest)) :
    (tracker.nextExecId + 1).toNat = tracker.nextExecId.toNat + 1 := by
  have hlt := h.length_lt
  rw [h.records, List.length_append, List.length_cons] at hlt
  rw [UInt64.toNat_add, h.nextExecId]
  exact Nat.mod_eq_of_lt (by simp only [UInt64.toNat_one]; omega)

theorem next_ne_zero (h : tracker.NumberedBy used free) : tracker.nextExecId ≠ 0 := by
  intro hzero
  have hnext := h.nextExecId
  rw [hzero] at hnext
  cases hnext

theorem add (h : tracker.NumberedBy used (slot :: rest)) (hactive : record.active = true)
    (hid : record.execId = tracker.nextExecId) :
    NumberedBy ⟨used ++ record :: rest, tracker.nextExecId + 1⟩ (used ++ [record]) rest where
  records := by simp
  active := by
    have hsucc := h.next_succ
    refine List.forall_mem_append.mpr ⟨fun old hold => ?_, ?_⟩
    · obtain ⟨hold_active, hlt⟩ := h.active old hold
      rw [UInt64.lt_iff_toNat_lt] at hlt ⊢
      exact ⟨hold_active, by dsimp only; omega⟩
    · simp only [List.mem_singleton, forall_eq, hid, UInt64.lt_iff_toNat_lt]
      exact ⟨hactive, by omega⟩
  inactive := (List.forall_mem_cons.mp h.inactive).2
  nextExecId := by
    rw [h.next_succ, h.nextExecId, List.length_append, List.length_singleton]
  length_lt := by
    have hlt := h.length_lt
    simpa [h.records] using hlt

theorem get_add (h : tracker.NumberedBy used (slot :: rest)) (hactive : record.active = true)
    (hid : record.execId = tracker.nextExecId) (execId : ExecutionId) :
    executionTrackerGet ⟨used ++ record :: rest, tracker.nextExecId + 1⟩ execId =
      if execId = tracker.nextExecId then some record else executionTrackerGet tracker execId := by
  have hkey : record.key = some tracker.nextExecId := by
    rw [ExecutionRecord.key, if_pos hactive, hid]
  have hnone := h.get_next
  rw [h.get_eq, if_neg h.next_ne_zero] at hnone
  rw [(h.add hactive hid).get_eq, h.get_eq, lookup_append, lookup_cons, lookup_nil, hkey]
  by_cases hexec : execId = tracker.nextExecId
  · subst hexec
    simp [h.next_ne_zero, hnone]
  · simp [hexec, Ne.symm hexec]

end ExecutionTracker.NumberedBy

/-- An addition fails and changes nothing, or adds a record under an id that no
record had. -/
theorem executionTrackerAdd_cases (hnumbered : tracker.Numbered) (now : UInt64) (dagId : RuleId)
    (peerId : NodeId) (message : List UInt8) (maxRetries : UInt8) :
    executionTrackerAdd now tracker dagId peerId message maxRetries = (0, tracker) ∨
    ∃ after record, executionTrackerAdd now tracker dagId peerId message maxRetries =
        (tracker.nextExecId, after) ∧
      tracker.nextExecId ≠ 0 ∧ after.Numbered ∧
      executionTrackerGet tracker tracker.nextExecId = none ∧
      ∀ execId, executionTrackerGet after execId =
        if execId = tracker.nextExecId then some record else executionTrackerGet tracker execId := by
  obtain ⟨used, free, hby⟩ := hnumbered
  have hused := fun slot hslot => (hby.active slot hslot).1
  unfold executionTrackerAdd
  split_ifs
  · exact .inl rfl
  · dsimp only
    rw [hby.records, fillSlot_append hused hby.inactive]
    cases free with
    | nil => exact .inl rfl
    | cons slot rest =>
      exact .inr ⟨_, _, rfl, hby.next_ne_zero, ⟨_, _, hby.add rfl rfl⟩, hby.get_next,
        hby.get_add rfl rfl⟩

theorem executionTrackerUpdateStatus_numbered (hnumbered : tracker.Numbered) (now : UInt64)
    (execId : ExecutionId) (status : ExecutionStatus) :
    (executionTrackerUpdateStatus now tracker execId status).2.Numbered := by
  obtain ⟨used, free, hby⟩ := hnumbered
  unfold executionTrackerUpdateStatus
  split_ifs with hzero
  · exact ⟨used, free, hby⟩
  · cases hget : executionTrackerGet tracker execId with
    | none => exact ⟨used, free, hby⟩
    | some record =>
      rw [hby.get_eq, if_neg hzero] at hget
      refine ⟨modify ExecutionRecord.key (some execId) (·.setStatus now status) used, free,
        ?_, ?_, hby.inactive, ?_, ?_⟩
      · simp only [hby.records, modify_append hget]
      · intro changed hchanged
        rcases mem_modify hchanged with hmem | ⟨old, hold, -, rfl⟩
        · exact hby.active changed hmem
        · exact hby.active old hold
      · simpa using hby.nextExecId
      · simpa using hby.length_lt

end Roole
