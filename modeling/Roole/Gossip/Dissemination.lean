import Roole.Gossip.Engine

/-!
# Dissemination of detected failures

The failure detector reports a failed node under the incarnation its view
holds, and the PING handler only takes updates with a greater incarnation. A
node whose view already holds that incarnation therefore never takes the
report.
-/

namespace Roole

/-- What a check of the timeouts may do: the incarnations in the view stay,
and every update it queues carries the incarnation of its view entry. -/
structure DetectorStep (before after : GossipEngine) : Prop where
  incarnation : ∀ nodeId member, clusterViewGet before.view nodeId = some member →
    ∃ member', clusterViewGet after.view nodeId = some member' ∧
      member'.incarnation = member.incarnation
  queued : ∃ added, after.updateQueue.toList = before.updateQueue.toList ++ added ∧
    ∀ update ∈ added, (update.status = .suspect ∨ update.status = .dead) ∧
      ∀ member, clusterViewGet before.view update.nodeId = some member →
        update.incarnation = member.incarnation

namespace DetectorStep

theorem refl (engine : GossipEngine) : DetectorStep engine engine where
  incarnation := fun _ member h => ⟨member, h, rfl⟩
  queued := ⟨[], by simp⟩

theorem trans (h : DetectorStep a b) (h' : DetectorStep b c) : DetectorStep a c := by
  refine ⟨fun nodeId member hget => ?_, ?_⟩
  · obtain ⟨middle, hmiddle, heq⟩ := h.incarnation nodeId member hget
    obtain ⟨last, hlast, heq'⟩ := h'.incarnation nodeId middle hmiddle
    exact ⟨last, hlast, heq'.trans heq⟩
  · obtain ⟨added, hqueue, hadded⟩ := h.queued
    obtain ⟨added', hqueue', hadded'⟩ := h'.queued
    refine ⟨added ++ added', by rw [hqueue', hqueue, List.append_assoc], ?_⟩
    intro update hmem
    rcases List.mem_append.mp hmem with hmem | hmem
    · exact hadded update hmem
    · refine ⟨(hadded' update hmem).1, fun member hget => ?_⟩
      obtain ⟨middle, hmiddle, heq⟩ := h.incarnation _ member hget
      exact ((hadded' update hmem).2 middle hmiddle).trans heq

theorem foldl {step : GossipEngine → Nat → GossipEngine}
    (hstep : ∀ engine i, DetectorStep engine (step engine i)) (steps : List Nat)
    (engine : GossipEngine) : DetectorStep engine (steps.foldl step engine) := by
  induction steps generalizing engine with
  | nil => exact refl engine
  | cons i rest ih => exact (hstep engine i).trans (ih (step engine i))

theorem mark (now : UInt64) (engine : GossipEngine) (update : GossipMemberUpdate)
    (hstatus : update.status = .suspect ∨ update.status = .dead)
    (hget : ∀ member, clusterViewGet engine.view update.nodeId = some member →
      update.incarnation = member.incarnation) :
    DetectorStep engine ((GossipEngine.updateStatus now engine update.nodeId update.status
      update.incarnation).updateQueuePush update) := by
  refine ⟨fun nodeId member h => ?_, ?_⟩
  · rw [GossipEngine.updateQueuePush_view]
    by_cases hself : nodeId = update.nodeId
    · subst hself
      have hafter := clusterViewUpdateStatus_self now update.status update.incarnation h
      rw [hget member h, if_pos (UInt64.le_refl _)] at hafter
      refine ⟨member.setStatus now update.status member.incarnation, ?_, rfl⟩
      rw [hget member h]
      exact hafter
    · exact ⟨member, (clusterViewUpdateStatus_of_ne hself).trans h, rfl⟩
  · obtain hpush | hpush := GossipEngine.updateQueuePush_toList
      (GossipEngine.updateStatus now engine update.nodeId update.status update.incarnation) update
    · exact ⟨[update], hpush, by simpa using ⟨hstatus, hget⟩⟩
    · exact ⟨[], hpush.trans (List.append_nil _).symm, by simp⟩

theorem of_view_queue (h : DetectorStep before after) (hview : other.view = after.view)
    (hqueue : other.updateQueue = after.updateQueue) : DetectorStep before other where
  incarnation := by
    rw [hview]
    exact h.incarnation
  queued := by
    rw [hqueue]
    exact h.queued

end DetectorStep

theorem checkPendingAck_step (now : UInt64) (engine : GossipEngine) (i : Nat) :
    DetectorStep engine (checkPendingAck now engine i) := by
  unfold checkPendingAck
  split
  · exact .refl engine
  rename_i ack _
  split
  · cases hget : clusterViewGet engine.view ack.targetNode with
    | none =>
      have hmark := DetectorStep.mark now engine (suspectUpdate now ack.targetNode 0) (.inl rfl)
        (fun member hmember => by cases hget.symm.trans hmember)
      exact hmark.of_view_queue rfl rfl
    | some member =>
      dsimp only
      split
      · have hmark := DetectorStep.mark now engine
          (suspectUpdate now ack.targetNode member.incarnation) (.inl rfl)
          (fun member' hmember => by cases hget.symm.trans hmember; rfl)
        exact hmark.of_view_queue rfl rfl
      · exact (DetectorStep.refl engine).of_view_queue rfl rfl
  · exact .refl engine

theorem checkSuspect_step (now : UInt64) (engine : GossipEngine) (i : Nat) :
    DetectorStep engine (checkSuspect now engine i) := by
  unfold checkSuspect
  split
  · exact .refl engine
  rename_i member hi
  split
  · have hself := clusterViewGet_of_mem (List.mem_of_getElem? hi)
    have hmark := DetectorStep.mark now engine (deadUpdate now member) (.inr rfl)
      (fun member' hmember => by cases hself.symm.trans hmember; rfl)
    exact hmark.of_view_queue (GossipEngine.notify_view _ _)
      (GossipEngine.notify_updateQueue _ _)
  · exact .refl engine

theorem checkAckTimeouts_step (now : UInt64) (engine : GossipEngine) :
    DetectorStep engine (checkAckTimeouts now engine) :=
  .foldl (checkPendingAck_step now) _ engine

theorem checkSuspectTimeouts_step (now : UInt64) (engine : GossipEngine) :
    DetectorStep engine (checkSuspectTimeouts now engine) :=
  .foldl (checkSuspect_step now) _ engine

theorem handlePingUpdate_stale (now : UInt64)
    (hget : clusterViewGet engine.view nodeId = some member)
    (hstale : update.nodeId = nodeId → update.incarnation ≤ member.incarnation) :
    clusterViewGet (handlePingUpdate now engine update).view nodeId = some member := by
  by_cases hself : update.nodeId = nodeId
  · subst hself
    have hnot : ¬ update.incarnation > member.incarnation := UInt64.not_lt.mpr (hstale rfl)
    simp [handlePingUpdate, hget, hnot]
  · rw [handlePingUpdate_of_ne (Ne.symm hself), hget]

theorem handlePingMessage_stale (hget : clusterViewGet engine.view nodeId = some member)
    (hstale : ∀ update ∈ msg.readUpdates past, update.nodeId = nodeId →
      update.incarnation ≤ member.incarnation) :
    clusterViewGet (handlePingMessage now past engine msg).1.view nodeId = some member := by
  simp only [handlePingMessage]
  generalize msg.readUpdates past = updates at hstale
  induction updates generalizing engine with
  | nil => exact hget
  | cons update rest ih =>
    refine ih (handlePingUpdate_stale now hget (hstale update List.mem_cons_self)) ?_
    exact fun later hlater => hstale later (List.mem_cons_of_mem _ hlater)

/-- The scenario of a failure report: `detector` finds node `n` failed and
queues `update`; later, as `sender`, it pops the update into a PING; the
datagram reaches `receiver`, which still holds `n` ALIVE under the incarnation
`k` that the detector holds. -/
structure FailureReport (n : NodeId) (k : UInt64) (detector sender receiver : GossipEngine)
    (update : GossipMemberUpdate) (msg : GossipMessage) (past : Nat → GossipMemberUpdate) :
    Prop where
  apart : detector.myId ≠ n ∧ receiver.myId ≠ n ∧ sender.myId = detector.myId
  held : ∃ member, clusterViewGet detector.view n = some member ∧ member.incarnation = k
  alive : ∃ member, clusterViewGet receiver.view n = some member ∧ member.status = .alive ∧
    member.incarnation = k
  detected : ∃ now checked added,
    (checked = checkAckTimeouts now detector ∨ checked = checkSuspectTimeouts now detector) ∧
      checked.updateQueue.toList = detector.updateQueue.toList ++ added ∧ update ∈ added
  about : update.nodeId = n
  popped : update ∈ sender.updateQueue.toList.take sender.config.maxPiggyback.toNat
  sent : ∃ now, (sendPingToNode now true sender receiver.myId).2.2.bind
    gossipMessageDeserialize = some msg
  only : ∀ other ∈ msg.readUpdates past, other.nodeId = n → other = update.onWire

theorem FailureReport.update_eq
    (h : FailureReport n k detector sender receiver update msg past) :
    (update.status = .suspect ∨ update.status = .dead) ∧ update.incarnation = k := by
  obtain ⟨now, checked, added, hcheck, hqueue, hmem⟩ := h.detected
  obtain ⟨member, hget, hk⟩ := h.held
  have hstep : DetectorStep detector checked := by
    cases hcheck with
    | inl hack =>
      rw [hack]
      exact checkAckTimeouts_step now detector
    | inr hsuspect =>
      rw [hsuspect]
      exact checkSuspectTimeouts_step now detector
  obtain ⟨added', hqueue', hadded⟩ := hstep.queued
  have hsame : added = added' := List.append_cancel_left (hqueue.symm.trans hqueue')
  subst hsame
  obtain ⟨hstatus, hincarnation⟩ := hadded update hmem
  exact ⟨hstatus, (hincarnation member (h.about ▸ hget)).trans hk⟩

/-- No such report takes effect: the receiver's entry does not get the status
of the update. -/
theorem failureReport_ignored (h : FailureReport n k detector sender receiver update msg past)
    (now : UInt64) :
    ¬ ∃ member, clusterViewGet (handlePingMessage now past receiver msg).1.view n = some member ∧
      member.status = update.status := by
  obtain ⟨hstatus, hincarnation⟩ := h.update_eq
  obtain ⟨entry, hentry, halive, hk⟩ := h.alive
  have hstale : ∀ other ∈ msg.readUpdates past, other.nodeId = n →
      other.incarnation ≤ entry.incarnation := by
    intro other hmem habout
    rw [h.only other hmem habout, hk, ← hincarnation]
    exact UInt64.le_refl _
  rintro ⟨member, hget, hsame⟩
  cases (handlePingMessage_stale hentry hstale).symm.trans hget
  rw [halive] at hsame
  obtain hstatus | hstatus := hstatus <;> simp [hstatus] at hsame

def aliveWorker (nodeId : NodeId) : ClusterMember where
  nodeId := nodeId
  nodeType := .worker
  ipAddress := []
  gossipPort := 7000
  dataPort := 8000
  status := .alive
  lastSeenMs := 0
  incarnation := 0

def clusterOfThree (myId : NodeId) : GossipEngine where
  myId := myId
  myType := .worker
  myIp := []
  gossipPort := 0
  dataPort := 0
  incarnation := 0
  sequenceNum := 0
  config := gossipDefaultConfig
  view := {
    members := [aliveWorker 1, aliveWorker 2, aliveWorker 3]
    capacity := maxClusterNodes
    nodup := by decide
    length_le := by decide }
  hasCallback := false
  events := []
  pendingAcks := [⟨3, 0, true⟩]
  updateQueue := .empty .zero

def suspicionPing : GossipMessage where
  version := 1
  msgType := gossipMsgPing
  flags := 0
  senderId := 1
  sequenceNum := 0
  numUpdates := 1
  updates := [(suspectUpdate 1000 3 0).onWire]

theorem failureReport_three : FailureReport 3 0 (clusterOfThree 1)
    (checkAckTimeouts 1000 (clusterOfThree 1)) (clusterOfThree 2) (suspectUpdate 1000 3 0)
    suspicionPing fun _ => .zero where
  apart := by decide +kernel
  held := ⟨aliveWorker 3, by decide +kernel, rfl⟩
  alive := ⟨aliveWorker 3, by decide +kernel, rfl, rfl⟩
  detected := ⟨1000, _, [suspectUpdate 1000 3 0], .inl rfl, by decide +kernel, by simp⟩
  about := rfl
  popped := by decide +kernel
  sent := ⟨2000, by decide +kernel⟩
  only := by decide +kernel

theorem failureReport_ignored_three :
    ¬ ∃ member, clusterViewGet (handlePingMessage 3000 (fun _ => .zero) (clusterOfThree 2)
        suspicionPing).1.view 3 = some member ∧ member.status = .suspect :=
  failureReport_ignored failureReport_three 3000

/-- Node 1 holds node 3 as SUSPECT, node 2 still as ALIVE after the PING. -/
theorem suspicion_stays_with_detector :
    FailureReport 3 0 (clusterOfThree 1) (checkAckTimeouts 1000 (clusterOfThree 1))
        (clusterOfThree 2) (suspectUpdate 1000 3 0) suspicionPing (fun _ => .zero) ∧
      (clusterViewGet (checkAckTimeouts 1000 (clusterOfThree 1)).view 3).map
        ClusterMember.status = some .suspect ∧
      (clusterViewGet (handlePingMessage 3000 (fun _ => .zero) (clusterOfThree 2)
        suspicionPing).1.view 3).map ClusterMember.status = some .alive :=
  ⟨failureReport_three, by decide +kernel, by decide +kernel⟩

end Roole
