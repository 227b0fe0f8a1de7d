import Roole.Node.Service
import Roole.Node.TerminalStatuses

/-!
# Submissions that fail

A submission may fail after its record was stored. The record is then to become
FAILED, or it is never cleaned up. The payload that cannot be allocated is the
failure that forgets this.
-/

namespace Roole

open Bytes KeyedList

def ExecutionRecord.Open (record : ExecutionRecord) : Prop :=
  record.active = true ∧ (record.status = .pending ∨ record.status = .running)

def ExecutionTracker.LeavesNoneOpen (before after : ExecutionTracker) : Prop :=
  ∀ (slot : Nat) (record : ExecutionRecord), after.records[slot]? = some record → record.Open →
    before.records[slot]? = some record

def AnsweredWith (before after : NodeServer) (status : RpcStatus) : Prop :=
  ∃ context reply, .respond context status reply ∈ after.trace.drop before.trace.length

def ExecutionTracker.usedSlots (tracker : ExecutionTracker) : List ExecutionRecord :=
  tracker.records.takeWhile ExecutionRecord.active

/-- No slot that is searched before the next record has its id. -/
def ExecutionTracker.NextIsNew (tracker : ExecutionTracker) : Prop :=
  ∀ record ∈ tracker.usedSlots, record.execId ≠ tracker.nextExecId

-- ----------------------------------------------------------------------------
-- The record of a submission
-- ----------------------------------------------------------------------------

section

variable {tracker : ExecutionTracker}

theorem fillSlot_eq (record : ExecutionRecord) (records : List ExecutionRecord) :
    fillSlot record records =
      match records.dropWhile ExecutionRecord.active with
      | [] => none
      | _ :: rest => some (records.takeWhile ExecutionRecord.active ++ record :: rest) := by
  induction records with
  | nil => rfl
  | cons slot rest ih =>
    by_cases hactive : slot.active = true
    · rw [fillSlot, if_pos hactive, ih, List.dropWhile_cons_of_pos hactive,
        List.takeWhile_cons_of_pos hactive]
      cases rest.dropWhile ExecutionRecord.active <;> rfl
    · rw [fillSlot, if_neg hactive, List.dropWhile_cons_of_neg hactive,
        List.takeWhile_cons_of_neg hactive]
      rfl

theorem executionTrackerAdd_first (h : ¬AddFails tracker message) (now : UInt64) (dagId : RuleId)
    (peerId : NodeId) (maxRetries : UInt8) :
    ∃ slot rest, tracker.records = tracker.usedSlots ++ slot :: rest ∧ slot.active = false ∧
      executionTrackerAdd now tracker dagId peerId message maxRetries = (tracker.nextExecId,
        ⟨tracker.usedSlots ++ .added now tracker.nextExecId dagId peerId message maxRetries :: rest,
          tracker.nextExecId + 1⟩) := by
  unfold AddFails at h
  rw [not_or, not_or] at h
  obtain ⟨hzero, hlong, hused⟩ := h
  have hrecords := List.takeWhile_append_dropWhile (p := ExecutionRecord.active)
    (l := tracker.records)
  cases hdrop : tracker.records.dropWhile ExecutionRecord.active with
  | nil => exact absurd (List.dropWhile_eq_nil_iff.mp hdrop) hused
  | cons slot rest =>
    have hfree : slot.active = false := by
      have hne : tracker.records.dropWhile ExecutionRecord.active ≠ [] := by simp [hdrop]
      simpa [hdrop] using List.head_dropWhile_not ExecutionRecord.active hne
    refine ⟨slot, rest, ?_, hfree, ?_⟩
    · rw [← hdrop]
      exact hrecords.symm
    · unfold executionTrackerAdd
      rw [if_neg (not_or.mpr ⟨hzero, hlong⟩)]
      simp only [fillSlot_eq, hdrop]
      rfl

theorem not_leavesNoneOpen {used used' : List ExecutionRecord}
    (hrecords : tracker.records = used ++ slot :: rest) (hfree : slot.active = false)
    (hopen : record.Open) (hlen : used'.length = used.length) (nextExecId : ExecutionId) :
    ¬ tracker.LeavesNoneOpen ⟨used' ++ record :: rest, nextExecId⟩ := by
  intro hleaves
  have hslot := hleaves used.length record (by simp [← hlen]) hopen
  rw [hrecords] at hslot
  simp only [List.getElem?_append_right le_rfl, Nat.sub_self, List.getElem?_cons_zero,
    Option.some.injEq] at hslot
  rw [← hslot, ExecutionRecord.Open, hfree] at hopen
  exact Bool.false_ne_true hopen.1

theorem leavesNoneOpen_closed {used : List ExecutionRecord}
    (hrecords : tracker.records = used ++ slot :: rest) (hclosed : ¬ record.Open)
    (nextExecId : ExecutionId) :
    tracker.LeavesNoneOpen ⟨used ++ record :: rest, nextExecId⟩ := by
  intro i other hother hopen
  rw [hrecords]
  obtain hlt | rfl | hgt := lt_trichotomy i used.length
  · rwa [List.getElem?_append_left hlt] at hother ⊢
  · simp only [List.getElem?_append_right le_rfl, Nat.sub_self, List.getElem?_cons_zero,
      Option.some.injEq] at hother
    rw [← hother] at hopen
    exact absurd hopen hclosed
  · obtain ⟨j, rfl⟩ := Nat.exists_eq_add_of_lt hgt
    have hindex : used.length + j + 1 - used.length = j + 1 := by omega
    simpa [List.getElem?_append_right, hindex, Nat.add_assoc] using hother

theorem usedSlots_active (hmem : record ∈ tracker.usedSlots) : record.active = true :=
  List.mem_takeWhile_imp hmem

theorem added_open (now : UInt64) (execId : ExecutionId) (dagId : RuleId) (peerId : NodeId)
    (message : List UInt8) (maxRetries : UInt8) :
    (ExecutionRecord.added now execId dagId peerId message maxRetries).Open := ⟨rfl, .inl rfl⟩

theorem added_leavesOpen (h : ¬AddFails tracker message) (now : UInt64) (dagId : RuleId)
    (peerId : NodeId) (maxRetries : UInt8) : ¬ tracker.LeavesNoneOpen
      (executionTrackerAdd now tracker dagId peerId message maxRetries).2 := by
  obtain ⟨slot, rest, hrecords, hfree, hadd⟩ :=
    executionTrackerAdd_first h now dagId peerId maxRetries
  rw [hadd]
  exact not_leavesNoneOpen hrecords hfree (added_open ..) rfl _

theorem failed_leavesNoneOpen_iff (h : ¬AddFails tracker message)
    (hnext : tracker.nextExecId ≠ 0) (now : UInt64) (dagId : RuleId) (peerId : NodeId)
    (maxRetries : UInt8) :
    tracker.LeavesNoneOpen (executionTrackerUpdateStatus now
        (executionTrackerAdd now tracker dagId peerId message maxRetries).2 tracker.nextExecId
        .failed).2 ↔
      tracker.NextIsNew := by
  obtain ⟨slot, rest, hrecords, hfree, hadd⟩ :=
    executionTrackerAdd_first h now dagId peerId maxRetries
  have hnew : tracker.NextIsNew ↔
      ∀ record ∈ tracker.usedSlots, record.key ≠ some tracker.nextExecId := by
    refine forall₂_congr fun record hmem => not_congr ?_
    rw [key_eq_some, and_iff_right (usedSlots_active hmem)]
  rw [hadd]
  generalize hadded : ExecutionRecord.added now tracker.nextExecId dagId peerId message
    maxRetries = added
  have hkey : added.key = some tracker.nextExecId := by
    rw [← hadded]
    rfl
  unfold executionTrackerUpdateStatus executionTrackerGet
  simp only [if_neg hnext, lookup_append]
  cases hlookup : lookup ExecutionRecord.key tracker.usedSlots (some tracker.nextExecId) with
  | none =>
    have hothers := lookup_eq_none.mp hlookup
    rw [lookup_cons, if_pos hkey]
    simp only [Option.none_or]
    rw [modify_of_first hothers hkey]
    refine iff_of_true (leavesNoneOpen_closed hrecords ?_ _) (hnew.mpr hothers)
    rintro ⟨-, hstatus | hstatus⟩ <;> cases hstatus
  | some other =>
    simp only [Option.some_or]
    rw [modify_append hlookup]
    refine iff_of_false (not_leavesNoneOpen hrecords hfree ?_ (modify_length _ _ _) _) fun h => ?_
    · rw [← hadded]
      exact added_open ..
    · exact hnew.mp h other (lookup_mem hlookup) (lookup_key hlookup)

end

-- ----------------------------------------------------------------------------
-- The steps of the handler
-- ----------------------------------------------------------------------------

structure NodeState.Stores (env : NodeEnv) (state : NodeState) (inData : List UInt8)
    (target : NodeId) : Prop where
  length_le : 4 ≤ inData.length
  dag : (dagCatalogGet state.dagCatalog (readLe32 inData)).isSome
  target : state.targetPeer env = some target
  added : ¬AddFails state.execTracker (inData.drop 4)

def storedServer (env : NodeEnv) (inData : List UInt8) (target : NodeId) (server : NodeServer) :
    NodeServer :=
  server.setNode { server.node with
    execTracker := (executionTrackerAdd env.now server.node.execTracker (readLe32 inData) target
      (inData.drop 4) 3).2 }

theorem recordSubmission_stored (h : server.node.Stores env inData target)
    (context : RpcAsyncContext) :
    recordSubmission env context inData server =
      if server.node.execTracker.nextExecId = 0 then
        .error (rpcSendAsyncResponse context .internalError []
          (storedServer env inData target server))
      else .ok (⟨context, server.node.execTracker.nextExecId, readLe32 inData, target,
        inData.drop 4⟩, storedServer env inData target server) := by
  obtain ⟨dag, hdag⟩ := Option.isSome_iff_exists.mp h.dag
  obtain ⟨slot, rest, -, -, hadd⟩ :=
    executionTrackerAdd_first h.added env.now (readLe32 inData) target 3
  unfold recordSubmission storedServer
  rw [if_neg (Nat.not_lt.mpr h.length_le)]
  simp only [hdag, h.target, hadd]

theorem recordSubmission_refused (h : ∀ target, ¬ server.node.Stores env inData target)
    (context : RpcAsyncContext) :
    ∃ status, recordSubmission env context inData server =
      .error (rpcSendAsyncResponse context status [] server) := by
  unfold recordSubmission
  by_cases hshort : inData.length < 4
  · exact ⟨.badArgument, if_pos hshort⟩
  rw [if_neg hshort]
  dsimp only
  cases hdag : dagCatalogGet server.node.dagCatalog (readLe32 inData) with
  | none => exact ⟨.funcNotFound, rfl⟩
  | some dag =>
    cases htarget : server.node.targetPeer env with
    | none => exact ⟨.internalError, rfl⟩
    | some target =>
      have hfails : AddFails server.node.execTracker (inData.drop 4) := by
        by_contra hadded
        exact h target ⟨Nat.not_lt.mp hshort, by rw [hdag]; rfl, htarget, hadded⟩
      refine ⟨.internalError, ?_⟩
      simp only [executionTrackerAdd_fails hfails]
      rfl

def SendFails (server : NodeServer) (messageLen : Nat) : Prop :=
  (sendOnce server.peerSends (rpcTotalLen (14 + messageLen)).toNat).1 = 0

/-- Where a stored submission fails, its record becomes FAILED: the id is one the
update accepts, the payload is allocated if there is a peer to send it to, and
the record is the first with its id if there is no such peer or it takes nothing. -/
structure ClosesRecord (env : NodeEnv) (server : NodeServer) (target : NodeId)
    (messageLen : Nat) : Prop where
  next_ne_zero : server.node.execTracker.nextExecId ≠ 0
  memory : target ≠ server.node.nodeId → (server.node.peerPool.channelTo target).isSome →
    env.mallocOk = true
  found : target ≠ server.node.nodeId →
    server.node.peerPool.channelTo target = none ∨ SendFails server messageLen →
      server.node.execTracker.NextIsNew

theorem routeSubmission_local (env : NodeEnv) (server : NodeServer)
    {submission : PendingSubmission} (hlocal : submission.targetPeer = server.node.nodeId) :
    (routeSubmission env submission server).1 = .sent := by
  obtain ⟨taken, buffer, hpush, -⟩ := messageQueuePush_ok env server.node {
    execId := submission.execId
    dagId := submission.dagId
    messageData := submission.message
    receivedAtMs := env.now
    senderId := submission.context.senderId }
  unfold routeSubmission
  rw [if_pos hlocal, hpush]
  rfl

theorem routeSubmission_unreachable (env : NodeEnv) (server : NodeServer)
    {submission : PendingSubmission} (hremote : submission.targetPeer ≠ server.node.nodeId)
    (hchannel : server.node.peerPool.channelTo submission.targetPeer = none) :
    (routeSubmission env submission server).1 = .failed .internalError := by
  have hpeer : (peerPoolGet server.node.peerPool submission.targetPeer).1.bind
      PeerInfo.dataChannel = none := hchannel
  unfold routeSubmission
  rw [if_neg hremote]
  simp only [hpeer]

theorem routeSubmission_remote (env : NodeEnv) (server : NodeServer)
    {submission : PendingSubmission} (hremote : submission.targetPeer ≠ server.node.nodeId)
    (hchannel : (server.node.peerPool.channelTo submission.targetPeer).isSome) :
    (env.mallocOk = false → (routeSubmission env submission server).1 = .outOfMemory) ∧
      (env.mallocOk = true →
        (SendFails server submission.message.length →
          (routeSubmission env submission server).1 = .failed .network) ∧
        (¬ SendFails server submission.message.length →
          (routeSubmission env submission server).1 = .sent)) := by
  obtain ⟨channel, hsome⟩ := Option.isSome_iff_exists.mp hchannel
  have hpeer : (peerPoolGet server.node.peerPool submission.targetPeer).1.bind
      PeerInfo.dataChannel = some channel := hsome
  unfold routeSubmission
  rw [if_neg hremote]
  simp only [hpeer]
  refine ⟨fun hmalloc => ?_, fun hmalloc => ⟨fun hsend => ?_, fun hsend => ?_⟩⟩
  · simp [hmalloc]
  · simp only [hmalloc, if_true, sendToPeer, processMessagePayload_length]
    exact if_pos hsend
  · simp only [hmalloc, if_true, sendToPeer, processMessagePayload_length]
    exact if_neg hsend

-- ----------------------------------------------------------------------------
-- The handler
-- ----------------------------------------------------------------------------

/-- A handler that responds once is answered with the status of that response. -/
theorem answeredWith_iff {before quiet : NodeServer}
    (h : Responds context before packed replyLen
      (rpcSendAsyncResponse context status reply quiet)) :
    AnsweredWith before (rpcSendAsyncResponse context status reply quiet).2 answered ↔
      answered = status := by
  obtain ⟨status', reply', quiet', hresult, hquiet, -⟩ := h
  obtain ⟨events, htrace, -, hnone⟩ := hquiet.trace
  have hafter := congrArg (fun result => result.2.trace) hresult
  obtain ⟨hsame, -⟩ := List.append_inj' hafter rfl
  unfold AnsweredWith
  simp only [rpcSendAsyncResponse, hsame, htrace, List.append_assoc, List.drop_left]
  constructor
  · rintro ⟨other, otherReply, hmem⟩
    obtain hquiet | hlast := List.mem_append.mp hmem
    · have hconcerns : RpcEvent.respond other answered otherReply ∈
          contextEvents other.address events :=
        List.mem_filter.mpr ⟨hquiet, by simp [RpcEvent.concerns]⟩
      rw [hnone] at hconcerns
      cases hconcerns
    · simp only [List.mem_cons, RpcEvent.respond.injEq, reduceCtorEq, List.not_mem_nil,
        or_false] at hlast
      exact hlast.2.1
  · rintro rfl
    exact ⟨context, reply, by simp⟩

/-- Whatever is answered, but SUCCESS, no record is left open. -/
def FailuresClose (before after : NodeServer) : Prop :=
  ∀ status, AnsweredWith before after status → status ≠ .success →
    before.node.execTracker.LeavesNoneOpen after.node.execTracker

theorem failuresClose_iff {quiet : NodeServer} {status : RpcStatus}
    (h : Responds context before packed replyLen
      (rpcSendAsyncResponse context status reply quiet)) :
    FailuresClose before (rpcSendAsyncResponse context status reply quiet).2 ↔
      (status ≠ .success →
        before.node.execTracker.LeavesNoneOpen quiet.node.execTracker) := by
  unfold FailuresClose
  simp only [answeredWith_iff h, forall_eq]
  rfl

def RouteResult.Closes (tracker : ExecutionTracker) : RouteResult → Prop
  | .sent => True
  | .failed status => status ≠ .success → tracker.NextIsNew
  | .outOfMemory => False

theorem concludeSubmission_closes_iff (hstores : server.node.Stores env inData target)
    (hnext : server.node.execTracker.nextExecId ≠ 0) {submission : PendingSubmission}
    (hid : submission.execId = server.node.execTracker.nextExecId)
    (htracker : routed.node.execTracker =
      (storedServer env inData target server).node.execTracker)
    (hresponds : Responds submission.context server packed replyLen
      (concludeSubmission env submission routed result)) :
    FailuresClose server (concludeSubmission env submission routed result).2 ↔
      result.Closes server.node.execTracker := by
  cases result with
  | sent => exact iff_of_true ((failuresClose_iff hresponds).mpr fun h => absurd rfl h) trivial
  | failed status =>
    rw [concludeSubmission, failuresClose_iff hresponds]
    refine imp_congr_right fun _ => ?_
    have hafter : (routed.updateExecution env submission.execId .failed).node.execTracker =
        (executionTrackerUpdateStatus env.now routed.node.execTracker submission.execId
          .failed).2 := rfl
    rw [hafter, htracker, hid]
    exact failed_leavesNoneOpen_iff hstores.added hnext _ _ _ _
  | outOfMemory =>
    rw [concludeSubmission, failuresClose_iff hresponds, htracker]
    exact iff_of_false (fun h => added_leavesOpen hstores.added _ _ _ _ (h (by decide))) id

theorem routeSubmission_closes_iff (hstores : server.node.Stores env inData target)
    (hnext : server.node.execTracker.nextExecId ≠ 0) {submission : PendingSubmission}
    (htarget : submission.targetPeer = target)
    (hlength : submission.message.length = inData.length - 4) :
    (routeSubmission env submission (storedServer env inData target server)).1.Closes
        server.node.execTracker ↔
      ClosesRecord env server target (inData.length - 4) := by
  subst htarget
  rw [← hlength]
  by_cases hlocal : submission.targetPeer = server.node.nodeId
  · rw [routeSubmission_local env (storedServer ..) hlocal]
    exact iff_of_true trivial ⟨hnext, fun h => absurd hlocal h, fun h => absurd hlocal h⟩
  cases hchannel : server.node.peerPool.channelTo submission.targetPeer with
  | none =>
    rw [routeSubmission_unreachable env (storedServer ..) hlocal hchannel]
    constructor
    · intro hnew
      refine ⟨hnext, fun _ hsome => ?_, fun _ _ => hnew (by decide)⟩
      rw [hchannel] at hsome
      cases hsome
    · exact fun hcloses _ => hcloses.found hlocal (.inl hchannel)
  | some channel =>
    have hsome : (server.node.peerPool.channelTo submission.targetPeer).isSome := by
      rw [hchannel]
      rfl
    obtain ⟨hout, hsends⟩ := routeSubmission_remote env
      (storedServer env inData submission.targetPeer server) hlocal hsome
    cases hmalloc : env.mallocOk with
    | false =>
      rw [hout hmalloc]
      refine iff_of_false id fun hcloses => ?_
      exact Bool.false_ne_true (hmalloc.symm.trans (hcloses.memory hlocal hsome))
    | true =>
      obtain ⟨hfails, htakes⟩ := hsends hmalloc
      by_cases hsend : SendFails server submission.message.length
      · rw [hfails hsend]
        constructor
        · exact fun hnew => ⟨hnext, fun _ _ => hmalloc, fun _ _ => hnew (by decide)⟩
        · exact fun hcloses _ => hcloses.found hlocal (.inr hsend)
      · rw [htakes hsend]
        refine iff_of_true trivial ⟨hnext, fun _ _ => hmalloc, fun _ hnone => ?_⟩
        obtain hnone | hfailed := hnone
        · rw [hchannel] at hnone
          cases hnone
        · exact absurd hfailed hsend

/-- A failed submission leaves no record open exactly if it stores none, or its
failure finds the record. -/
theorem handleSubmitMessage_closes_iff (env : NodeEnv) (context : RpcAsyncContext)
    (inData : List UInt8) (server : NodeServer) :
    FailuresClose server (handleSubmitMessage env context inData server).2 ↔
      ∀ target, server.node.Stores env inData target →
        ClosesRecord env server target (inData.length - 4) := by
  obtain ⟨replyLen, -, hresponds⟩ := handleSubmitMessage_responds env context inData server
  rw [handleSubmitMessage_steps] at hresponds ⊢
  by_cases hstores : ∃ target, server.node.Stores env inData target
  · obtain ⟨target, hstores⟩ := hstores
    have htarget : (∀ other, server.node.Stores env inData other →
        ClosesRecord env server other (inData.length - 4)) ↔
          ClosesRecord env server target (inData.length - 4) := by
      refine ⟨fun h => h target hstores, fun h other hother => ?_⟩
      obtain rfl := Option.some.inj (hstores.target.symm.trans hother.target)
      exact h
    rw [htarget]
    rw [recordSubmission_stored hstores] at hresponds ⊢
    by_cases hnext : server.node.execTracker.nextExecId = 0
    · rw [if_pos hnext] at hresponds ⊢
      refine iff_of_false (fun hcloses => ?_) fun hcloses => hcloses.next_ne_zero hnext
      exact added_leavesOpen hstores.added _ _ _ _
        ((failuresClose_iff hresponds).mp hcloses (by decide))
    · rw [if_neg hnext] at hresponds ⊢
      have hclosed := concludeSubmission_closes_iff hstores hnext rfl
        (routeSubmission_tracker env _ (storedServer env inData target server)) hresponds
      exact hclosed.trans (routeSubmission_closes_iff hstores hnext rfl List.length_drop)
  · rw [not_exists] at hstores
    obtain ⟨status, hrefused⟩ := recordSubmission_refused hstores context
    rw [hrefused] at hresponds ⊢
    refine iff_of_true ((failuresClose_iff hresponds).mpr fun _ => ?_) fun target h =>
      absurd h (hstores target)
    exact fun _ _ hslot _ => hslot

theorem ExecutionTracker.Sound.closesRecord_iff {server : NodeServer}
    (h : server.node.execTracker.Sound adds) (env : NodeEnv) (target : NodeId)
    (messageLen : Nat) :
    ClosesRecord env server target messageLen ↔
      (target ≠ server.node.nodeId → (server.node.peerPool.channelTo target).isSome →
        env.mallocOk = true) := by
  refine ⟨ClosesRecord.memory, fun hmemory => ⟨h.next_ne_zero, hmemory, fun _ _ => ?_⟩⟩
  intro record hmem hsame
  refine h.next_fresh (List.mem_filterMap.mpr ⟨record, (List.takeWhile_subset _) hmem, ?_⟩)
  exact key_eq_some.mpr ⟨usedSlots_active hmem, hsame⟩

/-- The worker has a channel, but there is no memory for the payload: the client
is told INTERNAL_ERROR, and the record stays PENDING. -/
theorem handleSubmitMessage_leavesOpen :
    let after := (handleSubmitMessage { calmEnv with mallocOk := false } submitContext
      (List.replicate 8 1) routingNode).2
    AnsweredWith routingNode after .internalError ∧ ¬ FailuresClose routingNode after := by
  intro after
  have hanswered : AnsweredWith routingNode after .internalError :=
    ⟨submitContext, [], by decide +kernel⟩
  refine ⟨hanswered, fun hcloses => ?_⟩
  have hrecord : after.node.execTracker.records[0]? =
      some (.added 1000 1 0x01010101 2 (List.replicate 4 1) 3) := by decide +kernel
  have hslot := hcloses .internalError hanswered (by decide) 0 _ hrecord (added_open ..)
  exact absurd hslot (by decide +kernel)

end Roole
