import Roole.Gossip.Handlers

/-!
# What the handlers do to an entry

Every handler that loops over the updates of a message changes, for each of
them, at most the entry of the node that the update is about. The invariants of
runs are read off the changes listed here.
-/

namespace Roole

/-- The node is the same one and waits for no ACK that it did not wait for. -/
structure SameNode (before after : GossipEngine) : Prop where
  myId : after.myId = before.myId
  acks : ∀ ack ∈ after.pendingAcks, ack.active = true → ack ∈ before.pendingAcks

namespace SameNode

theorem refl (engine : GossipEngine) : SameNode engine engine := ⟨rfl, fun _ hmem _ => hmem⟩

theorem trans (h : SameNode a b) (h' : SameNode b c) : SameNode a c :=
  ⟨h'.myId.trans h.myId, fun ack hmem hactive => h.acks ack (h'.acks ack hmem hactive) hactive⟩

theorem foldl {step : GossipEngine → α → GossipEngine}
    (hstep : ∀ engine a, SameNode engine (step engine a)) (steps : List α)
    (engine : GossipEngine) : SameNode engine (steps.foldl step engine) := by
  induction steps generalizing engine with
  | nil => exact refl engine
  | cons a rest ih => exact (hstep engine a).trans (ih (step engine a))

theorem of_base (h : after.base = before.base) : SameNode before after where
  myId := GossipEngine.myId_of_base h
  acks := fun _ hmem _ => GossipEngine.pendingAcks_of_base h ▸ hmem

end SameNode

theorem GossipEngine.base_with_sequenceNum {before after : GossipEngine}
    (h : after.base = before.base) (sequenceNum : UInt64) :
    { after with sequenceNum := sequenceNum }.base =
      { before with sequenceNum := sequenceNum }.base :=
  (congrArg (fun engine : GossipEngine => { engine with sequenceNum := sequenceNum }) h :)

-- ----------------------------------------------------------------------------
-- The update of another node
-- ----------------------------------------------------------------------------

section OtherNodes

variable {now : UInt64} {engine : GossipEngine} {update : GossipMemberUpdate} {nodeId : NodeId}

theorem handleAckUpdate_of_ne (hne : nodeId ≠ update.nodeId) :
    clusterViewGet (handleAckUpdate now engine update).view nodeId =
      clusterViewGet engine.view nodeId := by
  unfold handleAckUpdate
  split
  · simp only [GossipEngine.notify_view, GossipEngine.addMember_view]
    exact clusterViewAdd_of_ne hne
  · split
    · exact clusterViewUpdateStatus_of_ne hne
    · rfl

theorem handleAliveUpdate_of_ne (hne : nodeId ≠ update.nodeId) :
    clusterViewGet (handleAliveUpdate now engine update).view nodeId =
      clusterViewGet engine.view nodeId := by
  unfold handleAliveUpdate
  split
  · split
    · simp only [GossipEngine.updateQueuePush_view, GossipEngine.updateStatus_view]
      exact clusterViewUpdateStatus_of_ne hne
    · rfl
  · rfl

theorem handleDeadUpdate_of_ne (hne : nodeId ≠ update.nodeId) :
    clusterViewGet (handleDeadUpdate now engine update).view nodeId =
      clusterViewGet engine.view nodeId := by
  unfold handleDeadUpdate
  split
  · simp only [GossipEngine.notify_view, GossipEngine.updateStatus_view]
    exact clusterViewUpdateStatus_of_ne hne
  · rfl

theorem handleSuspectUpdate_of_ne (hne : nodeId ≠ update.nodeId ∨ nodeId = engine.myId) :
    clusterViewGet (handleSuspectUpdate now engine update).view nodeId =
      clusterViewGet engine.view nodeId := by
  unfold handleSuspectUpdate
  split_ifs with hself hother
  · simp
  · have hne' : nodeId ≠ update.nodeId := by
      rcases hne with hne | rfl
      · exact hne
      · exact Ne.symm hother.1
    split
    · split
      · simp only [GossipEngine.updateQueuePush_view, GossipEngine.updateStatus_view]
        exact clusterViewUpdateStatus_of_ne hne'
      · rfl
    · rfl
  · rfl

end OtherNodes

-- ----------------------------------------------------------------------------
-- The entry the update is about
-- ----------------------------------------------------------------------------

section OwnEntry

variable {now : UInt64} {engine : GossipEngine} {update : GossipMemberUpdate}
  {existing : ClusterMember}

theorem handlePingUpdate_self (hget : clusterViewGet engine.view update.nodeId = some existing) :
    clusterViewGet (handlePingUpdate now engine update).view update.nodeId =
      some (if update.incarnation > existing.incarnation then
          if existing.status = .dead ∧ update.status = .alive then
            { update.toMember now .alive with incarnation := update.incarnation + 1 }
          else existing.setStatus now update.status update.incarnation
        else existing) := by
  rw [handlePingUpdate_view, hget]
  dsimp only
  by_cases hnew : update.incarnation > existing.incarnation
  · by_cases hrejoin : existing.status = .dead ∧ update.status = .alive
    · rw [if_pos ⟨hrejoin, hnew⟩, if_pos hnew, if_pos hrejoin]
      exact clusterViewAdd_rejoin hget rfl hrejoin.1
    · rw [if_neg (fun h => hrejoin h.1), if_pos hnew, if_pos hnew, if_neg hrejoin,
        clusterViewUpdateStatus_self now update.status update.incarnation hget,
        if_pos (UInt64.le_of_lt hnew)]
  · rw [if_neg (fun h => hnew h.2), if_neg hnew, if_neg hnew, hget]

theorem handleAckUpdate_self (hget : clusterViewGet engine.view update.nodeId = some existing) :
    clusterViewGet (handleAckUpdate now engine update).view update.nodeId =
      some (if update.incarnation > existing.incarnation then
        existing.setStatus now update.status update.incarnation else existing) := by
  simp only [handleAckUpdate, hget]
  split_ifs with hnew
  · simp only [GossipEngine.updateStatus_view]
    rw [clusterViewUpdateStatus_self now update.status update.incarnation hget,
      if_pos (UInt64.le_of_lt hnew)]
  · exact hget

theorem handleAliveUpdate_self (hget : clusterViewGet engine.view update.nodeId = some existing) :
    clusterViewGet (handleAliveUpdate now engine update).view update.nodeId =
      some (if update.incarnation > existing.incarnation then
        existing.setStatus now .alive update.incarnation else existing) := by
  simp only [handleAliveUpdate, hget]
  split_ifs with hnew
  · simp only [GossipEngine.updateQueuePush_view, GossipEngine.updateStatus_view]
    rw [clusterViewUpdateStatus_self now .alive update.incarnation hget,
      if_pos (UInt64.le_of_lt hnew)]
  · exact hget

theorem handleDeadUpdate_self (hget : clusterViewGet engine.view update.nodeId = some existing) :
    clusterViewGet (handleDeadUpdate now engine update).view update.nodeId =
      some (if update.incarnation ≥ existing.incarnation then
        existing.setStatus now .dead update.incarnation else existing) := by
  simp only [handleDeadUpdate, hget, GossipEngine.notify_view, GossipEngine.updateStatus_view]
  exact clusterViewUpdateStatus_self now .dead update.incarnation hget

theorem handleSuspectUpdate_self (hne : update.nodeId ≠ engine.myId)
    (hget : clusterViewGet engine.view update.nodeId = some existing) :
    clusterViewGet (handleSuspectUpdate now engine update).view update.nodeId =
      some (if update.status = .suspect ∧ update.incarnation ≥ existing.incarnation ∧
          existing.status = .alive then existing.setStatus now .suspect update.incarnation
        else existing) := by
  simp only [handleSuspectUpdate, hne, false_and, if_false, ne_eq, not_false_eq_true, true_and,
    hget]
  by_cases hsuspect : update.status = .suspect
  · by_cases haccept : update.incarnation ≥ existing.incarnation ∧ existing.status = .alive
    · simp only [hsuspect, haccept, and_self, if_true, GossipEngine.updateQueuePush_view,
        GossipEngine.updateStatus_view]
      rw [clusterViewUpdateStatus_self now .suspect update.incarnation hget, if_pos haccept.1]
    · rw [if_pos hsuspect, if_neg haccept, if_neg fun h => haccept h.2, hget]
  · rw [if_neg hsuspect, if_neg fun h => hsuspect h.1, hget]

end OwnEntry

-- ----------------------------------------------------------------------------
-- One update
-- ----------------------------------------------------------------------------

inductive EntryStep (now : UInt64) (update : GossipMemberUpdate) (entry : ClusterMember) :
    ClusterMember → Prop
  | kept : EntryStep now update entry entry
  | news (status : NodeStatus) (hnew : entry.incarnation < update.incarnation) :
    EntryStep now update entry (entry.setStatus now status update.incarnation)
  | rejoined (hnew : entry.incarnation < update.incarnation) :
    EntryStep now update entry
      { update.toMember now .alive with incarnation := update.incarnation + 1 }
  | suspected (halive : entry.status = .alive) (hle : entry.incarnation ≤ update.incarnation) :
    EntryStep now update entry (entry.setStatus now .suspect update.incarnation)
  | dead (hle : entry.incarnation ≤ update.incarnation) :
    EntryStep now update entry (entry.setStatus now .dead update.incarnation)

structure UpdateStep (now : UInt64) (update : GossipMemberUpdate) (before after : GossipEngine) :
    Prop where
  others : ∀ nodeId, nodeId ≠ update.nodeId →
    clusterViewGet after.view nodeId = clusterViewGet before.view nodeId
  entry : ∀ existing, clusterViewGet before.view update.nodeId = some existing →
    ∃ entry, clusterViewGet after.view update.nodeId = some entry ∧
      EntryStep now update existing entry
  same : SameNode before after

section Steps

variable (now : UInt64) (engine : GossipEngine) (update : GossipMemberUpdate)

theorem handlePingUpdate_base :
    (handlePingUpdate now engine update).base = engine.base := by
  unfold handlePingUpdate
  split
  · simp
  · split
    · simp
    · split
      · dsimp only
        split
        · split <;> simp
        · simp
      · rfl

theorem handleAckUpdate_base : (handleAckUpdate now engine update).base = engine.base := by
  unfold handleAckUpdate
  split
  · simp
  · split <;> simp

theorem handleAliveUpdate_base : (handleAliveUpdate now engine update).base = engine.base := by
  unfold handleAliveUpdate
  split
  · split <;> simp
  · rfl

theorem handleDeadUpdate_base : (handleDeadUpdate now engine update).base = engine.base := by
  unfold handleDeadUpdate
  split <;> simp

theorem handlePingUpdate_step : UpdateStep now update engine (handlePingUpdate now engine update) where
  others := fun _ hne => handlePingUpdate_of_ne hne
  entry := fun existing hget => by
    refine ⟨_, handlePingUpdate_self hget, ?_⟩
    split_ifs with hnew
    · exact .rejoined hnew
    · exact .news _ hnew
    · exact .kept
  same := SameNode.of_base (handlePingUpdate_base now engine update)

theorem handleAckUpdate_step : UpdateStep now update engine (handleAckUpdate now engine update) where
  others := fun _ hne => handleAckUpdate_of_ne hne
  entry := fun existing hget => by
    refine ⟨_, handleAckUpdate_self hget, ?_⟩
    split_ifs with hnew
    · exact .news _ hnew
    · exact .kept
  same := SameNode.of_base (handleAckUpdate_base now engine update)

theorem handleAliveUpdate_step :
    UpdateStep now update engine (handleAliveUpdate now engine update) where
  others := fun _ hne => handleAliveUpdate_of_ne hne
  entry := fun existing hget => by
    refine ⟨_, handleAliveUpdate_self hget, ?_⟩
    split_ifs with hnew
    · exact .news _ hnew
    · exact .kept
  same := SameNode.of_base (handleAliveUpdate_base now engine update)

theorem handleDeadUpdate_step : UpdateStep now update engine (handleDeadUpdate now engine update) where
  others := fun _ hne => handleDeadUpdate_of_ne hne
  entry := fun existing hget => by
    refine ⟨_, handleDeadUpdate_self hget, ?_⟩
    split_ifs with hle
    · exact .dead hle
    · exact .kept
  same := SameNode.of_base (handleDeadUpdate_base now engine update)

theorem handleSuspectUpdate_base : ∃ incarnation, (handleSuspectUpdate now engine update).base =
    { engine with incarnation := incarnation }.base := by
  unfold handleSuspectUpdate
  split_ifs
  · exact ⟨engine.incarnation + 1, GossipEngine.pushAll_base _ _⟩
  · refine ⟨engine.incarnation, ?_⟩
    split
    · split <;> simp
    · rfl
  · exact ⟨engine.incarnation, rfl⟩

theorem handleSuspectUpdate_step :
    UpdateStep now update engine (handleSuspectUpdate now engine update) := by
  obtain ⟨incarnation, hbase⟩ := handleSuspectUpdate_base now engine update
  have hsame := SameNode.of_base hbase
  refine ⟨fun _ hne => handleSuspectUpdate_of_ne (.inl hne), fun existing hget => ?_,
    hsame.myId, hsame.acks⟩
  by_cases hself : update.nodeId = engine.myId
  · exact ⟨existing, (handleSuspectUpdate_of_ne (.inr hself)).trans hget, .kept⟩
  · refine ⟨_, handleSuspectUpdate_self hself hget, ?_⟩
    split_ifs with haccept
    · exact .suspected haccept.2.2 haccept.2.1
    · exact .kept

end Steps

-- ----------------------------------------------------------------------------
-- The updates of a message
-- ----------------------------------------------------------------------------

def EntryIs (P : ClusterMember → Prop) (nodeId : NodeId) (engine : GossipEngine) : Prop :=
  ∃ entry, clusterViewGet engine.view nodeId = some entry ∧ P entry

section Fold

variable {handle : GossipEngine → GossipMemberUpdate → GossipEngine} {now : UInt64}
  {P : ClusterMember → Prop} {nodeId : NodeId}

theorem EntryIs.foldl (hstep : ∀ engine update, UpdateStep now update engine (handle engine update))
    {updates : List GossipMemberUpdate}
    (hkeep : ∀ update ∈ updates, update.nodeId = nodeId → ∀ entry entry', P entry →
      EntryStep now update entry entry' → P entry')
    {engine : GossipEngine} (h : EntryIs P nodeId engine) :
    EntryIs P nodeId (updates.foldl handle engine) := by
  refine List.foldlRecOn (motive := EntryIs P nodeId) updates handle h ?_
  intro engine hentry update hmem
  obtain ⟨entry, hget, hP⟩ := hentry
  by_cases hne : nodeId = update.nodeId
  · subst hne
    obtain ⟨entry', hget', hentry'⟩ := (hstep engine update).entry entry hget
    exact ⟨entry', hget', hkeep update hmem rfl entry entry' hP hentry'⟩
  · exact ⟨entry, ((hstep engine update).others nodeId hne).trans hget, hP⟩

end Fold

-- ----------------------------------------------------------------------------
-- The timeouts
-- ----------------------------------------------------------------------------

section Timeouts

variable {now : UInt64} {engine : GossipEngine} {nodeId : NodeId} {i : Nat}

theorem checkPendingAck_entry (i : Nat) (hget : clusterViewGet engine.view nodeId = some entry) :
    clusterViewGet (checkPendingAck now engine i).view nodeId = some entry ∨
      (entry.status = .alive ∧
        (∃ ack ∈ engine.pendingAcks, ack.active = true ∧ ack.targetNode = nodeId) ∧
        clusterViewGet (checkPendingAck now engine i).view nodeId =
          some (entry.setStatus now .suspect entry.incarnation)) := by
  unfold checkPendingAck
  cases hack : engine.pendingAcks[i]? with
  | none => exact .inl hget
  | some ack =>
    dsimp only
    split_ifs with hover hstatus
    · simp only [GossipEngine.updateQueuePush_view, GossipEngine.updateStatus_view]
      by_cases hne : nodeId = ack.targetNode
      · subst hne
        rw [hget] at hstatus ⊢
        refine .inr ⟨hstatus, ⟨ack, List.mem_of_getElem? hack, hover.1, rfl⟩, ?_⟩
        rw [clusterViewUpdateStatus_self now .suspect _ hget, if_pos (UInt64.le_refl _)]
      · exact .inl ((clusterViewUpdateStatus_of_ne hne).trans hget)
    · exact .inl hget
    · exact .inl hget

theorem SameNode.freeAck (i : Nat) (slot : PendingAck) (h : SameNode before after) :
    SameNode before { after with
      pendingAcks := after.pendingAcks.set i { slot with active := false } } := by
  refine ⟨h.myId, fun ack hmem hactive => ?_⟩
  rcases List.mem_or_eq_of_mem_set hmem with hmem | rfl
  · exact h.acks ack hmem hactive
  · cases hactive

theorem checkPendingAck_same (now : UInt64) (engine : GossipEngine) (i : Nat) :
    SameNode engine (checkPendingAck now engine i) := by
  unfold checkPendingAck
  cases engine.pendingAcks[i]? with
  | none => exact SameNode.refl engine
  | some slot =>
    dsimp only
    split_ifs
    · exact SameNode.freeAck i slot (.of_base (GossipEngine.updateQueuePush_base _ _))
    · exact (SameNode.refl engine).freeAck i slot
    · exact SameNode.refl engine

theorem checkSuspect_entry (i : Nat) (hget : clusterViewGet engine.view nodeId = some entry) :
    clusterViewGet (checkSuspect now engine i).view nodeId = some entry ∨
      (entry.status = .suspect ∧ clusterViewGet (checkSuspect now engine i).view nodeId =
        some (entry.setStatus now .dead entry.incarnation)) := by
  unfold checkSuspect
  cases hmember : engine.view.members[i]? with
  | none => exact .inl hget
  | some member =>
    have hself := clusterViewGet_of_mem (List.mem_of_getElem? hmember)
    dsimp only
    split_ifs with hover
    · simp only [GossipEngine.notify_view, GossipEngine.updateQueuePush_view,
        GossipEngine.updateStatus_view]
      by_cases hne : nodeId = member.nodeId
      · subst hne
        cases hself.symm.trans hget
        refine .inr ⟨hover.1, ?_⟩
        rw [clusterViewUpdateStatus_self now .dead _ hget, if_pos (UInt64.le_refl _)]
      · exact .inl ((clusterViewUpdateStatus_of_ne hne).trans hget)
    · exact .inl hget

theorem checkSuspect_base (now : UInt64) (engine : GossipEngine) (i : Nat) :
    (checkSuspect now engine i).base = engine.base := by
  unfold checkSuspect
  cases engine.view.members[i]? with
  | none => rfl
  | some member =>
    dsimp only
    split_ifs
    · simp
    · rfl

theorem EntryIs.checkAckTimeouts {P : ClusterMember → Prop}
    (hkeep : ∀ entry, P entry → entry.status = .alive →
      P (entry.setStatus now .suspect entry.incarnation)) (h : EntryIs P nodeId engine) :
    EntryIs P nodeId (checkAckTimeouts now engine) := by
  refine List.foldlRecOn (motive := EntryIs P nodeId) _ (checkPendingAck now) h ?_
  rintro engine ⟨entry, hget, hP⟩ i -
  rcases checkPendingAck_entry i hget with hkept | ⟨halive, -, hmarked⟩
  · exact ⟨entry, hkept, hP⟩
  · exact ⟨_, hmarked, hkeep entry hP halive⟩

theorem EntryIs.checkSuspectTimeouts {P : ClusterMember → Prop}
    (hkeep : ∀ entry, P entry → entry.status = .suspect →
      P (entry.setStatus now .dead entry.incarnation)) (h : EntryIs P nodeId engine) :
    EntryIs P nodeId (checkSuspectTimeouts now engine) := by
  refine List.foldlRecOn (motive := EntryIs P nodeId) _ (checkSuspect now) h ?_
  rintro engine ⟨entry, hget, hP⟩ i -
  rcases checkSuspect_entry i hget with hkept | ⟨hsuspect, hmarked⟩
  · exact ⟨entry, hkept, hP⟩
  · exact ⟨_, hmarked, hkeep entry hP hsuspect⟩

end Timeouts

-- ----------------------------------------------------------------------------
-- The messages
-- ----------------------------------------------------------------------------

section Messages

variable {now : UInt64} {past : Nat → GossipMemberUpdate} {srcIp : List UInt8} {srcPort : UInt16}
  {engine : GossipEngine} {msg : GossipMessage} {nodeId senderId : NodeId}
  {P : ClusterMember → Prop}

theorem EntryIs.of_view {before after : GossipEngine} (h : EntryIs P nodeId before)
    (hview : after.view = before.view) : EntryIs P nodeId after := by
  unfold EntryIs
  rw [hview]
  exact h

@[simp] theorem removePendingAck_view (engine : GossipEngine) (targetNode : NodeId) :
    (removePendingAck engine targetNode).view = engine.view := by
  unfold removePendingAck
  split <;> rfl

theorem EntryIs.updateStatus {status : NodeStatus} {incarnation : UInt64}
    (hkeep : nodeId = senderId → ∀ entry, P entry → entry.incarnation ≤ incarnation →
      P (entry.setStatus now status incarnation)) (h : EntryIs P nodeId engine) :
    EntryIs P nodeId (engine.updateStatus now senderId status incarnation) := by
  obtain ⟨entry, hget, hP⟩ := h
  by_cases hne : nodeId = senderId
  · subst hne
    refine ⟨_, clusterViewUpdateStatus_self now status incarnation hget, ?_⟩
    split_ifs with hle
    · exact hkeep rfl entry hP hle
    · exact hP
  · exact ⟨entry, (clusterViewUpdateStatus_of_ne hne).trans hget, hP⟩

theorem EntryIs.recoverSender (hkeep : nodeId = senderId → ∀ entry, P entry →
      entry.status = .suspect → P (entry.setStatus now .alive entry.incarnation))
    (h : EntryIs P nodeId engine) : EntryIs P nodeId (recoverSender now engine senderId) := by
  unfold Roole.recoverSender
  cases hget : clusterViewGet engine.view senderId with
  | none => exact h
  | some member =>
    dsimp only
    split_ifs with hsuspect
    · obtain ⟨entry, hentry, hP⟩ := h
      by_cases hne : nodeId = senderId
      · subst hne
        cases hget.symm.trans hentry
        refine ⟨_, clusterViewUpdateStatus_self now .alive _ hget, ?_⟩
        rw [if_pos (UInt64.le_refl _)]
        exact hkeep rfl member hP hsuspect
      · exact ⟨entry, (clusterViewUpdateStatus_of_ne hne).trans hentry, hP⟩
    · exact h

/-- What holds of an entry after a message other than a join: what the
recovery of its sender, each of its updates and a LEAVE keep. -/
theorem EntryIs.dispatchMessage (hjoin : msg.msgType ≠ gossipMsgJoin)
    (hworker : msg.msgType ≠ gossipMsgWorkerJoin)
    (hrecover : msg.msgType = gossipMsgAck → nodeId = msg.senderId → ∀ entry, P entry →
      entry.status = .suspect → P (entry.setStatus now .alive entry.incarnation))
    (hupdates : ∀ update ∈ msg.readUpdates past, update.nodeId = nodeId →
      ∀ entry entry', P entry → EntryStep now update entry entry' → P entry')
    (hleave : nodeId = msg.senderId → ∀ entry, P entry → entry.incarnation ≤ msg.sequenceNum →
      P (entry.setStatus now .dead msg.sequenceNum)) (h : EntryIs P nodeId engine) :
    EntryIs P nodeId (dispatchMessage now past srcIp srcPort engine msg).1 := by
  apply dispatchMessage_cases
  case ping => exact fun _ => EntryIs.of_view (h.foldl (handlePingUpdate_step now) hupdates) rfl
  case ack =>
    intro hack
    have hfreed : EntryIs P nodeId (removePendingAck engine msg.senderId) := h.of_view (by simp)
    exact (hfreed.recoverSender (hrecover hack)).foldl (handleAckUpdate_step now) hupdates
  case suspect => exact fun _ => h.foldl (handleSuspectUpdate_step now) hupdates
  case alive => exact fun _ => h.foldl (handleAliveUpdate_step now) hupdates
  case dead => exact fun _ => h.foldl (handleDeadUpdate_step now) hupdates
  case join => exact fun htype => absurd htype hjoin
  case workerJoin => exact fun htype => absurd htype hworker
  case leave => exact fun _ => h.updateStatus hleave
  case ignored => exact h

end Messages

-- ----------------------------------------------------------------------------
-- Joins
-- ----------------------------------------------------------------------------

section Joins

variable {now : UInt64} {past : Nat → GossipMemberUpdate} {srcIp : List UInt8} {srcPort : UInt16}
  {engine : GossipEngine} {msg : GossipMessage} {member : ClusterMember} {nodeId : NodeId}
  {P : ClusterMember → Prop}

theorem EntryIs.clusterViewAdd {after : GossipEngine}
    (hview : after.view = (clusterViewAdd now engine.view member).2)
    (hrejoin : nodeId = member.nodeId → ∀ entry, P entry → entry.status = .dead →
      P { member with lastSeenMs := now, incarnation := member.incarnation + 1 })
    (hreplace : nodeId = member.nodeId → ∀ entry, P entry →
      entry.incarnation ≤ member.incarnation → P { member with lastSeenMs := now })
    (h : EntryIs P nodeId engine) : EntryIs P nodeId after := by
  obtain ⟨entry, hget, hP⟩ := h
  unfold EntryIs
  rw [hview]
  by_cases hne : nodeId = member.nodeId
  · subst hne
    refine ⟨_, clusterViewAdd_self now hget, ?_⟩
    split_ifs with hdead hle
    · exact hrejoin rfl entry hP hdead.2
    · exact hreplace rfl entry hP hle
    · exact hP
  · exact ⟨entry, (clusterViewAdd_of_ne hne).trans hget, hP⟩

def GossipMessage.joining (past : Nat → GossipMemberUpdate) (msg : GossipMessage) :
    Option GossipMemberUpdate :=
  (msg.readUpdates past).find? fun update => update.nodeId == msg.senderId

theorem handleJoinMessage_view (hjoining : msg.joining past = some update) :
    (handleJoinMessage now past srcIp engine msg).view = (clusterViewAdd now engine.view
      (update.joined update.nodeType srcIp update.incarnation 0)).2 := by
  unfold GossipMessage.joining at hjoining
  simp [handleJoinMessage, hjoining]

theorem handleJoinMessage_none (hjoining : msg.joining past = none) :
    handleJoinMessage now past srcIp engine msg = engine := by
  unfold GossipMessage.joining at hjoining
  simp [handleJoinMessage, hjoining]

theorem handleJoinMessage_base (now : UInt64) (past : Nat → GossipMemberUpdate)
    (srcIp : List UInt8) (engine : GossipEngine) (msg : GossipMessage) :
    (handleJoinMessage now past srcIp engine msg).base = engine.base := by
  unfold handleJoinMessage
  split <;> simp

/-- The incarnation under which a worker joins: its own, or the successor of
what the view has of the sender where that was given up or suspected. -/
def joinIncarnation (engine : GossipEngine) (senderId : NodeId) (update : GossipMemberUpdate) :
    UInt64 :=
  match clusterViewGet engine.view senderId with
  | some sender =>
    if sender.status = .dead ∨ sender.status = .suspect then sender.incarnation + 1
    else update.incarnation
  | none => update.incarnation

theorem announcedIncarnation_eq (engine : GossipEngine) (senderId : NodeId)
    (update : GossipMemberUpdate) :
    announcedIncarnation engine senderId update = joinIncarnation engine senderId update := by
  unfold announcedIncarnation rejoinState joinIncarnation
  cases clusterViewGet engine.view senderId with
  | none => rfl
  | some sender => simp

/-- Whether the message makes a router enter a worker. -/
def EntersWorker (engine : GossipEngine) (msg : GossipMessage) : Prop :=
  engine.myType = .router ∧ 0 < msg.numUpdates

theorem handleWorkerJoinMessage_view (h : EntersWorker engine msg) :
    (handleWorkerJoinMessage now past srcIp srcPort engine msg).1.view =
      (clusterViewAdd now engine.view ((msg.update past 0).joined .worker srcIp
        (joinIncarnation engine msg.senderId (msg.update past 0)) now)).2 := by
  rw [← announcedIncarnation_eq]
  unfold handleWorkerJoinMessage
  rw [if_neg (not_not_intro h.1), if_pos h.2]
  simp [joinWorker]

theorem handleWorkerJoinMessage_none (h : ¬ EntersWorker engine msg) :
    (handleWorkerJoinMessage now past srcIp srcPort engine msg).1.view = engine.view := by
  unfold handleWorkerJoinMessage
  split_ifs with htype hcount
  · rfl
  · exact absurd ⟨not_not.mp htype, hcount⟩ h
  · rfl

theorem joinWorker_base (now : UInt64) (srcIp : List UInt8) (engine : GossipEngine)
    (senderId : NodeId) (update : GossipMemberUpdate) :
    ∃ sequenceNum, (joinWorker now srcIp engine senderId update).1.base =
      { engine with sequenceNum := sequenceNum }.base := by
  refine ⟨_, GossipEngine.base_with_sequenceNum ?_ _⟩
  simp

theorem handleWorkerJoinMessage_base (now : UInt64) (past : Nat → GossipMemberUpdate)
    (srcIp : List UInt8) (srcPort : UInt16) (engine : GossipEngine) (msg : GossipMessage) :
    ∃ sequenceNum, (handleWorkerJoinMessage now past srcIp srcPort engine msg).1.base =
      { engine with sequenceNum := sequenceNum }.base := by
  unfold handleWorkerJoinMessage
  split_ifs
  · exact ⟨engine.sequenceNum, rfl⟩
  · obtain ⟨_, hjoined⟩ := joinWorker_base now srcIp engine msg.senderId (msg.update past 0)
    exact ⟨_, GossipEngine.base_with_sequenceNum hjoined _⟩
  · exact ⟨_, rfl⟩

end Joins

-- ----------------------------------------------------------------------------
-- The rest of the engine
-- ----------------------------------------------------------------------------

namespace SameNode

variable {now : UInt64}

theorem removePendingAck (engine : GossipEngine) (targetNode : NodeId) :
    SameNode engine (removePendingAck engine targetNode) := by
  unfold Roole.removePendingAck
  split
  · refine ⟨rfl, fun ack hmem hactive => ?_⟩
    obtain ⟨i, hi, rfl⟩ := List.mem_iff_getElem.mp hmem
    rw [List.getElem_modify] at hactive ⊢
    split_ifs at hactive ⊢
    exact List.getElem_mem _
  · exact refl engine

theorem recoverSender (engine : GossipEngine) (senderId : NodeId) :
    SameNode engine (recoverSender now engine senderId) := by
  unfold Roole.recoverSender
  split
  · split_ifs
    · exact of_base rfl
    · exact refl engine
  · exact refl engine

theorem updates {handle : GossipEngine → GossipMemberUpdate → GossipEngine}
    (hstep : ∀ engine update, UpdateStep now update engine (handle engine update))
    (updates : List GossipMemberUpdate) (engine : GossipEngine) :
    SameNode engine (updates.foldl handle engine) :=
  foldl (fun engine update => (hstep engine update).same) updates engine

theorem dispatchMessage (past : Nat → GossipMemberUpdate) (srcIp : List UInt8) (srcPort : UInt16)
    (engine : GossipEngine) (msg : GossipMessage) :
    SameNode engine (dispatchMessage now past srcIp srcPort engine msg).1 := by
  apply dispatchMessage_cases <;> intros
  case ping =>
    have hsame := updates (handlePingUpdate_step now) (msg.readUpdates past) engine
    exact ⟨hsame.myId, hsame.acks⟩
  case ack =>
    exact ((removePendingAck engine _).trans (recoverSender _ _)).trans
      (updates (handleAckUpdate_step now) _ _)
  case suspect => exact updates (handleSuspectUpdate_step now) _ engine
  case alive => exact updates (handleAliveUpdate_step now) _ engine
  case dead => exact updates (handleDeadUpdate_step now) _ engine
  case join => exact of_base (handleJoinMessage_base now past srcIp engine msg)
  case workerJoin =>
    obtain ⟨_, hbase⟩ := handleWorkerJoinMessage_base now past srcIp srcPort engine msg
    have hsame := of_base hbase
    exact ⟨hsame.myId, hsame.acks⟩
  case leave => exact of_base rfl
  case ignored => exact refl engine

theorem checkAckTimeouts (engine : GossipEngine) :
    SameNode engine (checkAckTimeouts now engine) :=
  foldl (checkPendingAck_same now) _ engine

theorem checkSuspectTimeouts (engine : GossipEngine) :
    SameNode engine (checkSuspectTimeouts now engine) :=
  foldl (fun engine i => of_base (checkSuspect_base now engine i)) _ engine

end SameNode

end Roole
