import Roole.Gossip.PendingAcks

/-!
# What a turn leaves of the engine

The queue of updates, the slots that wait for an ACK and the identity of the
node, next to the effects of a turn on its view.
-/

namespace Roole

variable {now : UInt64} {engine : GossipEngine} {update : GossipMemberUpdate}

-- ----------------------------------------------------------------------------
-- The queue
-- ----------------------------------------------------------------------------

def Queues (effect : TurnEffect) (before after : GossipEngine) : Prop :=
  ∀ update ∈ after.updateQueue.toList,
    update ∈ before.updateQueue.toList ∨ update ∈ effect.updates

namespace Queues

variable {before middle after : GossipEngine} {effect : TurnEffect}

theorem of_queue (h : after.updateQueue = before.updateQueue) : Queues effect before after :=
  fun _ hmem => .inl (h ▸ hmem)

theorem pushAll (h : before.updateQueue = engine.updateQueue) (effect : TurnEffect) :
    Queues effect engine (before.pushAll effect.updates) := by
  intro update hmem
  rw [GossipEngine.pushAll_take, h] at hmem
  exact List.mem_append.mp (List.mem_of_mem_take hmem)

theorem does (now : UInt64) (engine : GossipEngine) (effect : TurnEffect) :
    Queues effect engine (engine.does now effect) := by
  obtain ⟨call, event, queued⟩ := effect
  cases event with
  | none => exact pushAll rfl ⟨call, none, queued⟩
  | some event => exact pushAll (GossipEngine.notify_updateQueue _ event) ⟨call, some event, queued⟩

theorem of_eq (h : after = engine.does now effect) : Queues effect engine after :=
  h ▸ does now engine effect

theorem before_queue (h : Queues effect before middle)
    (hqueue : after.updateQueue = middle.updateQueue) : Queues effect before after := by
  intro update hmem
  exact h update (hqueue ▸ hmem)

end Queues

theorem handleSuspectUpdate_queues (now : UInt64) (engine : GossipEngine)
    (update : GossipMemberUpdate) : Queues (.ofSuspectUpdate now engine update) engine
      (handleSuspectUpdate now engine update) := by
  unfold handleSuspectUpdate TurnEffect.ofSuspectUpdate
  split_ifs with hself hother
  · let refuting := { engine with incarnation := engine.incarnation + 1 }
    have hqueue : refuting.updateQueue = engine.updateQueue := rfl
    exact Queues.pushAll hqueue ⟨.keep, none, some (3, refuting.selfUpdate now)⟩
  · cases clusterViewGet engine.view update.nodeId with
    | none => exact Queues.of_queue rfl
    | some existing =>
      dsimp only
      split_ifs
      · exact Queues.of_eq rfl
      · exact Queues.of_queue rfl
  · exact Queues.of_queue rfl

theorem recoverSender_queues (now : UInt64) (engine : GossipEngine) (senderId : NodeId) :
    Queues effect engine (recoverSender now (removePendingAck engine senderId) senderId) := by
  have hvisible := removePendingAck_visible engine senderId
  refine (Queues.of_queue hvisible.updateQueue).before_queue ?_
  unfold recoverSender
  split
  · split_ifs <;> rfl
  · rfl

theorem checkPendingAck_queues (now : UInt64) (engine : GossipEngine) (i : Nat) :
    Queues (.ofCheckAck now engine i) engine (checkPendingAck now engine i) := by
  unfold checkPendingAck TurnEffect.ofCheckAck
  cases engine.pendingAcks[i]? with
  | none => exact Queues.of_queue rfl
  | some ack =>
    dsimp only
    by_cases hover : ack.active = true ∧
        now - ack.pingSentMs > engine.config.ackTimeoutMs.toUInt64
    · rw [if_pos hover, if_pos hover]
      cases clusterViewGet engine.view ack.targetNode with
      | none => exact (Queues.of_eq rfl).before_queue rfl
      | some member =>
        dsimp only
        split_ifs
        · exact (Queues.of_eq rfl).before_queue rfl
        · exact Queues.of_queue rfl
    · rw [if_neg hover, if_neg hover]
      exact Queues.of_queue rfl

theorem sendPingToNode_queues (now : UInt64) (sent : Bool) (engine : GossipEngine)
    (targetNode : NodeId) :
    Queues effect engine (sendPingToNode now sent engine targetNode).2.1 := by
  intro update hmem
  refine .inl ?_
  unfold sendPingToNode at hmem
  have hpopped : ∀ update ∈
      (engine.updateQueue.popBatch engine.config.maxPiggyback.toNat).2.toList,
      update ∈ engine.updateQueue.toList := by
    rw [(RingBuffer.popBatch_eq _ _).2]
    exact fun _ => List.mem_of_mem_drop
  split at hmem
  · exact hmem
  · dsimp only at hmem
    split at hmem
    · exact hpopped update hmem
    · split_ifs at hmem
      · rw [(addPendingAck_visible now _ targetNode).updateQueue] at hmem
        exact hpopped update hmem
      · exact hpopped update hmem

theorem turn_queues (engine : GossipEngine) (turn : TimedTurn) :
    Queues (engine.turnEffect turn) engine (engine.turn turn) := by
  obtain ⟨now, turn⟩ := turn
  cases turn with
  | pingUpdate update => exact Queues.of_eq (handlePingUpdate_eq now engine update)
  | ackSender senderId => exact recoverSender_queues now engine senderId
  | ackUpdate update => exact Queues.of_eq (handleAckUpdate_eq now engine update)
  | suspectUpdate update => exact handleSuspectUpdate_queues now engine update
  | aliveUpdate update => exact Queues.of_eq (handleAliveUpdate_eq now engine update)
  | deadUpdate update => exact Queues.of_eq (handleDeadUpdate_eq now engine update)
  | join srcIp update => exact Queues.of_eq rfl
  | workerJoin srcIp senderId update => exact (Queues.of_eq rfl).before_queue rfl
  | ping random sent =>
    unfold GossipEngine.turn pingRandomPeer
    dsimp only
    split_ifs
    · exact sendPingToNode_queues now sent engine _
    · exact Queues.of_queue rfl
  | checkAck i => exact checkPendingAck_queues now engine i
  | checkSuspect i => exact Queues.of_eq (checkSuspect_eq now engine i)
  | gossip rand =>
    obtain ⟨_, hsame⟩ := (gossipToRandomPeers_sends now rand engine).1
    rw [GossipEngine.turn, hsame]
    exact Queues.of_queue rfl
  | announceJoin => exact Queues.of_eq rfl
  | _ => exact Queues.of_queue rfl

-- ----------------------------------------------------------------------------
-- The identity
-- ----------------------------------------------------------------------------

structure SameIdentity (before after : GossipEngine) : Prop where
  myId : after.myId = before.myId
  myType : after.myType = before.myType
  gossipPort : after.gossipPort = before.gossipPort
  dataPort : after.dataPort = before.dataPort
  incarnation : after.incarnation = before.incarnation

theorem SameIdentity.refl (engine : GossipEngine) : SameIdentity engine engine :=
  ⟨rfl, rfl, rfl, rfl, rfl⟩

theorem SameIdentity.of_base {before after : GossipEngine} (h : after.base = before.base) :
    SameIdentity before after where
  myId := GossipEngine.myId_of_base h
  myType := (congrArg GossipEngine.myType h :)
  gossipPort := (congrArg GossipEngine.gossipPort h :)
  dataPort := (congrArg GossipEngine.dataPort h :)
  incarnation := GossipEngine.incarnation_of_base h

theorem recoverSender_identity (now : UInt64) (engine : GossipEngine) (senderId : NodeId) :
    SameIdentity engine (recoverSender now (removePendingAck engine senderId) senderId) := by
  unfold recoverSender removePendingAck
  repeat' split
  all_goals exact ⟨rfl, rfl, rfl, rfl, rfl⟩

theorem sendPingToNode_identity (now : UInt64) (sent : Bool) (engine : GossipEngine)
    (targetNode : NodeId) :
    SameIdentity engine (sendPingToNode now sent engine targetNode).2.1 := by
  unfold sendPingToNode addPendingAck
  cases clusterViewGet engine.view targetNode with
  | none => exact SameIdentity.refl engine
  | some _ =>
    dsimp only
    split
    · exact ⟨rfl, rfl, rfl, rfl, rfl⟩
    · split_ifs
      · split <;> exact ⟨rfl, rfl, rfl, rfl, rfl⟩
      · exact ⟨rfl, rfl, rfl, rfl, rfl⟩

theorem checkPendingAck_identity (now : UInt64) (engine : GossipEngine) (i : Nat) :
    SameIdentity engine (checkPendingAck now engine i) := by
  unfold checkPendingAck
  cases engine.pendingAcks[i]? with
  | none => exact SameIdentity.refl engine
  | some ack =>
    dsimp only
    split_ifs
    · obtain ⟨myId, myType, gossipPort, dataPort, incarnation⟩ := SameIdentity.of_base
        (GossipEngine.updateQueuePush_base (engine.updateStatus now ack.targetNode .suspect _)
          (suspectUpdate now ack.targetNode _))
      exact ⟨myId, myType, gossipPort, dataPort, incarnation⟩
    · exact ⟨rfl, rfl, rfl, rfl, rfl⟩
    · exact SameIdentity.refl engine

/-- Only a suspicion that is refuted changes who the node is. -/
theorem turn_identity (engine : GossipEngine) {turn : TimedTurn}
    (hsuspect : ∀ update, turn.2 ≠ .suspectUpdate update) :
    SameIdentity engine (engine.turn turn) := by
  obtain ⟨now, turn⟩ := turn
  cases turn with
  | pingUpdate update => exact .of_base (handlePingUpdate_base now engine update)
  | ackSender senderId => exact recoverSender_identity now engine senderId
  | ackUpdate update => exact .of_base (handleAckUpdate_base now engine update)
  | suspectUpdate update => exact absurd rfl (hsuspect update)
  | aliveUpdate update => exact .of_base (handleAliveUpdate_base now engine update)
  | deadUpdate update => exact .of_base (handleDeadUpdate_base now engine update)
  | join srcIp update =>
    have hbase : (handleJoinUpdate now srcIp engine update).base = engine.base := by
      simp [handleJoinUpdate]
    exact .of_base hbase
  | workerJoin srcIp senderId update =>
    obtain ⟨_, hbase⟩ := joinWorker_base now srcIp engine senderId update
    exact ⟨(congrArg GossipEngine.myId hbase :), (congrArg GossipEngine.myType hbase :),
      (congrArg GossipEngine.gossipPort hbase :), (congrArg GossipEngine.dataPort hbase :),
      (congrArg GossipEngine.incarnation hbase :)⟩
  | ping random sent =>
    unfold GossipEngine.turn pingRandomPeer
    dsimp only
    split_ifs
    · exact sendPingToNode_identity now sent engine _
    · exact .refl engine
  | checkAck i => exact checkPendingAck_identity now engine i
  | checkSuspect i => exact .of_base (checkSuspect_base now engine i)
  | gossip rand =>
    obtain ⟨_, hsame⟩ := (gossipToRandomPeers_sends now rand engine).1
    rw [GossipEngine.turn, hsame]
    exact ⟨rfl, rfl, rfl, rfl, rfl⟩
  | announceJoin => exact .of_base (gossipEngineAnnounceJoin_base now engine)
  | _ => exact ⟨rfl, rfl, rfl, rfl, rfl⟩

-- ----------------------------------------------------------------------------
-- The nodes that are known
-- ----------------------------------------------------------------------------

def Knows (engine : GossipEngine) (nodeId : NodeId) : Prop :=
  ∃ entry, clusterViewGet engine.view nodeId = some entry

theorem Knows.apply {view : ClusterView} {call : ViewCall} {nodeId : NodeId}
    (h : ∃ entry, clusterViewGet view nodeId = some entry) :
    ∃ entry, clusterViewGet (call.apply now view) nodeId = some entry := by
  rw [clusterViewGet_apply]
  split
  · split_ifs
    · exact ⟨_, rfl⟩
    · exact h
  · exact h

theorem Knows.turn {nodeId : NodeId} (h : Knows engine nodeId) (turn : TimedTurn) :
    Knows (engine.turn turn) nodeId := by
  unfold Knows
  rw [(turn_does engine turn).view]
  exact Knows.apply h

theorem knows_pingTarget {nodeId : NodeId}
    (h : pingTarget engine (now, .ping random sent) = some nodeId) : Knows engine nodeId := by
  unfold pingTarget at h
  dsimp only at h
  split_ifs at h with hsent
  cases h
  unfold Knows
  cases hget : clusterViewGet engine.view (selectRandomPeer random engine) with
  | some entry => exact ⟨entry, rfl⟩
  | none =>
    have hfailed := hsent.2
    unfold sendPingToNode at hfailed
    rw [hget] at hfailed
    cases hfailed

/-- A turn begins to wait only for nodes that are in the view. -/
theorem mem_turn_acks_known {turn : TimedTurn} {ack : PendingAck}
    (hmem : ack ∈ (engine.turn turn).pendingAcks) (hactive : ack.active = true) :
    ack ∈ engine.pendingAcks ∨ Knows engine ack.targetNode := by
  obtain ⟨now, turn⟩ := turn
  cases turn with
  | ping random sent =>
    rw [GossipEngine.turn, pingRandomPeer_acks] at hmem
    split at hmem
    · rename_i target htarget
      rcases mem_addPendingAck hmem with hmem | htargets
      · exact .inl hmem
      · exact .inr (htargets ▸ knows_pingTarget htarget)
    · exact .inl hmem
  | ackSender senderId =>
    have hrecovered : SameNode (removePendingAck engine senderId)
        (recoverSender now (removePendingAck engine senderId) senderId) :=
      SameNode.recoverSender _ senderId
    have hfreed := (SameNode.removePendingAck engine senderId).trans hrecovered
    exact .inl (hfreed.acks ack hmem hactive)
  | checkAck i => exact .inl ((checkPendingAck_same now engine i).acks ack hmem hactive)
  | _ =>
    rw [turn_acks (by simp) (by simp) (by simp)] at hmem
    exact .inl hmem

end Roole
