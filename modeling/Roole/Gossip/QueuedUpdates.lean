import Roole.Gossip.TurnEffects

/-!
# What the engine spreads about others

A receiver enters an unknown node with the type and the address that an update
carries. Some of the places that queue updates take both from the view, others
pass on what they were sent, and `check_ack_timeouts` leaves them empty.
-/

namespace Roole

/-- The type and the address of the update are those of the entry; of an IP
address, the characters that its field holds. -/
structure GossipMemberUpdate.Describes (update : GossipMemberUpdate) (member : ClusterMember) :
    Prop where
  nodeType : update.nodeType = member.nodeType
  ip : safeStrncpy update.ipAddress maxIpLen = safeStrncpy member.ipAddress maxIpLen
  gossipPort : update.gossipPort = member.gossipPort
  dataPort : update.dataPort = member.dataPort

def GossipEngine.queuedIn (before after : GossipEngine) : List GossipMemberUpdate :=
  after.updateQueue.toList.drop before.updateQueue.toList.length

def DescribedIn (view : ClusterView) (update : GossipMemberUpdate) : Prop :=
  ∃ member, clusterViewGet view update.nodeId = some member ∧ update.Describes member

/-- What the step has queued about other nodes agrees with the view. -/
def QueuesTruth (before after : GossipEngine) : Prop :=
  ∀ update ∈ before.queuedIn after, update.nodeId ≠ before.myId → DescribedIn after.view update

def QueueHasRoom (engine : GossipEngine) : Prop :=
  engine.updateQueue.toList.length < maxUpdateQueue

-- ----------------------------------------------------------------------------
-- The turns that spread the truth
-- ----------------------------------------------------------------------------

/-- The update describes the member where the view takes it, the entry that is
there already where it does not. -/
def DescribesAdded (view : ClusterView) (member : ClusterMember) (update : GossipMemberUpdate) :
    Prop :=
  match clusterViewGet view member.nodeId with
  | none => view.members.length < view.capacity ∧ update.Describes member
  | some existing =>
    if (member.status = .alive ∧ existing.status = .dead) ∨
        existing.incarnation ≤ member.incarnation then
      update.Describes member
    else update.Describes existing

/-- A timeout that is due queues an update without type and address. -/
def SuspectsBlank (now : UInt64) (engine : GossipEngine) (i : Nat) : Prop :=
  ∀ ack, engine.pendingAcks[i]? = some ack → ack.active = true →
    now - ack.pingSentMs > engine.config.ackTimeoutMs.toUInt64 → ack.targetNode ≠ engine.myId →
      match clusterViewGet engine.view ack.targetNode with
      | none => False
      | some member => member.status = .alive →
          (suspectUpdate now ack.targetNode member.incarnation).Describes member

/-- What the turn would queue about another node is what the view holds of it. -/
def SpreadsTruth (engine : GossipEngine) : TimedTurn → Prop
  | (_, .pingUpdate update) => update.nodeId ≠ engine.myId →
      clusterViewGet engine.view update.nodeId = none →
        engine.view.members.length < engine.view.capacity
  | (_, .suspectUpdate update) => update.nodeId ≠ engine.myId → update.status = .suspect →
      ∀ existing, clusterViewGet engine.view update.nodeId = some existing →
        existing.incarnation ≤ update.incarnation → existing.status = .alive →
          update.Describes existing
  | (_, .aliveUpdate update) => update.nodeId ≠ engine.myId →
      ∀ existing, clusterViewGet engine.view update.nodeId = some existing →
        existing.incarnation < update.incarnation → update.Describes existing
  | (_, .join srcIp update) => update.nodeId ≠ engine.myId →
      DescribesAdded engine.view (update.joined update.nodeType srcIp update.incarnation 0) update
  | (now, .workerJoin srcIp senderId update) => update.nodeId ≠ engine.myId →
      let incarnation := announcedIncarnation engine senderId update
      DescribesAdded engine.view (update.joined .worker srcIp incarnation now)
        (joinAnnouncement now srcIp incarnation update)
  | (now, .checkAck i) => SuspectsBlank now engine i
  | _ => True

section Effects

variable {now : UInt64} {engine : GossipEngine} {view : ClusterView} {update : GossipMemberUpdate}
  {existing member : ClusterMember} {effect : TurnEffect}

theorem GossipMemberUpdate.Describes.congr (h : update.Describes existing)
    (htype : member.nodeType = existing.nodeType) (hip : member.ipAddress = existing.ipAddress)
    (hgossip : member.gossipPort = existing.gossipPort)
    (hdata : member.dataPort = existing.dataPort) : update.Describes member :=
  ⟨h.nodeType.trans htype.symm, h.ip.trans (by rw [hip]), h.gossipPort.trans hgossip.symm,
    h.dataPort.trans hdata.symm⟩

theorem describes_setStatus (status : NodeStatus) (incarnation : UInt64) :
    update.Describes (existing.setStatus now status incarnation) ↔ update.Describes existing :=
  ⟨fun h => h.congr rfl rfl rfl rfl, fun h => h.congr rfl rfl rfl rfl⟩

theorem describedIn_updateStatus {status : NodeStatus} {incarnation : UInt64}
    (hget : clusterViewGet view update.nodeId = some existing) :
    DescribedIn ((ViewCall.updateStatus update.nodeId status incarnation).apply now view) update ↔
      update.Describes existing := by
  unfold DescribedIn
  rw [apply_updateStatus, clusterViewUpdateStatus_self now status incarnation hget]
  simp only [Option.some.injEq, exists_eq_left']
  split_ifs
  · exact describes_setStatus status incarnation
  · exact Iff.rfl

theorem not_describedIn_updateStatus {status : NodeStatus} {incarnation : UInt64}
    (hget : clusterViewGet view update.nodeId = none) :
    ¬ DescribedIn ((ViewCall.updateStatus update.nodeId status incarnation).apply now view)
      update := by
  rintro ⟨member, hmember, -⟩
  rw [apply_updateStatus, clusterViewUpdateStatus, hget] at hmember
  cases hget.symm.trans hmember

theorem describedIn_add (hid : update.nodeId = member.nodeId) :
    DescribedIn ((ViewCall.add member).apply now view) update ↔
      DescribesAdded view member update := by
  have hadded : ∀ incarnation, update.Describes
      { member with lastSeenMs := now, incarnation := incarnation } ↔ update.Describes member :=
    fun _ => ⟨fun h => h.congr rfl rfl rfl rfl, fun h => h.congr rfl rfl rfl rfl⟩
  unfold DescribedIn DescribesAdded
  rw [hid, apply_add]
  cases hget : clusterViewGet view member.nodeId with
  | none =>
    dsimp only
    by_cases hroom : view.members.length < view.capacity
    · rw [clusterViewAdd_new hget hroom]
      simpa [hroom] using hadded member.incarnation
    · rw [clusterViewAdd_full now hget (Nat.not_lt.mp hroom), hget]
      simp [hroom]
  | some existing =>
    rw [clusterViewAdd_self now hget]
    dsimp only
    by_cases hrejoin : member.status = .alive ∧ existing.status = .dead
    · rw [if_pos hrejoin, if_pos (.inl hrejoin)]
      simpa using hadded (member.incarnation + 1)
    · by_cases hle : member.incarnation ≥ existing.incarnation
      · rw [if_neg hrejoin, if_pos hle, if_pos (.inr hle)]
        simpa using hadded member.incarnation
      · rw [if_neg hrejoin, if_neg hle, if_neg (not_or.mpr ⟨hrejoin, hle⟩)]
        simp

def TurnEffect.Truthful (now : UInt64) (engine : GossipEngine) (effect : TurnEffect) : Prop :=
  ∀ update ∈ effect.updates, update.nodeId ≠ engine.myId →
    DescribedIn (effect.call.apply now engine.view) update

theorem queuesTruth_iff {after : GossipEngine} (h : Does now effect engine after) :
    QueuesTruth engine after ↔ (QueueHasRoom engine → effect.Truthful now engine) := by
  unfold QueuesTruth GossipEngine.queuedIn TurnEffect.Truthful QueueHasRoom
  rw [h.queue, h.view, TurnEffect.updates]
  cases effect.queued with
  | none => simp
  | some queued =>
    dsimp only
    rw [List.take_replicate]
    constructor
    · intro hall hroom _ hmem hne
      obtain ⟨hcopies, rfl⟩ := List.mem_replicate.mp hmem
      exact hall _ (List.mem_replicate.mpr ⟨by omega, rfl⟩) hne
    · intro htruthful _ hmem hne
      obtain ⟨hcount, rfl⟩ := List.mem_replicate.mp hmem
      exact htruthful (by omega) _ (List.mem_replicate.mpr ⟨by omega, rfl⟩) hne

theorem truthful_none (h : effect.queued = none) : effect.Truthful now engine := by
  unfold TurnEffect.Truthful TurnEffect.updates
  rw [h]
  exact fun _ hmem => nomatch hmem

theorem truthful_some {call : ViewCall} {event : Option MemberEvent} {copies : Nat}
    (hcopies : copies ≠ 0) :
    TurnEffect.Truthful now engine ⟨call, event, some (copies, update)⟩ ↔
      (update.nodeId ≠ engine.myId → DescribedIn (call.apply now engine.view) update) :=
  ⟨fun h => h update (List.mem_replicate.mpr ⟨hcopies, rfl⟩),
    fun h _ hmem => (List.mem_replicate.mp hmem).2 ▸ h⟩

theorem truthful_self {call : ViewCall} {event : Option MemberEvent} {copies : Nat}
    (hself : update.nodeId = engine.myId) :
    TurnEffect.Truthful now engine ⟨call, event, some (copies, update)⟩ :=
  fun _ hmem hne => absurd ((List.mem_replicate.mp hmem).2 ▸ hself) hne

end Effects

-- ----------------------------------------------------------------------------
-- The turns
-- ----------------------------------------------------------------------------

section Turns

variable {now : UInt64} {engine : GossipEngine} {update : GossipMemberUpdate}

theorem truthful_pingUpdate (now : UInt64) (engine : GossipEngine) (update : GossipMemberUpdate) :
    (TurnEffect.ofPingUpdate now engine update).Truthful now engine ↔
      (update.nodeId ≠ engine.myId → clusterViewGet engine.view update.nodeId = none →
        engine.view.members.length < engine.view.capacity) := by
  unfold TurnEffect.ofPingUpdate
  cases hget : clusterViewGet engine.view update.nodeId with
  | none =>
    dsimp only
    have hdescribes : GossipMemberUpdate.Describes { update with timestampMs := now }
        (update.toMember now update.status) :=
      ⟨rfl, by simp [GossipMemberUpdate.toMember], rfl, rfl⟩
    have hunknown : clusterViewGet engine.view (update.toMember now update.status).nodeId = none :=
      hget
    rw [truthful_some Nat.one_ne_zero, describedIn_add rfl]
    simp only [DescribesAdded, hunknown, hdescribes, and_true, forall_const]
  | some existing =>
    dsimp only
    refine iff_of_true (truthful_none ?_) (by simp)
    split_ifs <;> rfl

theorem truthful_suspectUpdate (now : UInt64) (engine : GossipEngine)
    (update : GossipMemberUpdate) :
    (TurnEffect.ofSuspectUpdate now engine update).Truthful now engine ↔
      (update.nodeId ≠ engine.myId → update.status = .suspect →
        ∀ existing, clusterViewGet engine.view update.nodeId = some existing →
          existing.incarnation ≤ update.incarnation → existing.status = .alive →
            update.Describes existing) := by
  unfold TurnEffect.ofSuspectUpdate
  split_ifs with hself hother
  · exact iff_of_true (truthful_self rfl) fun hne => absurd hself.1 hne
  · cases hget : clusterViewGet engine.view update.nodeId with
    | none => exact iff_of_true (truthful_none rfl) (by simp)
    | some existing =>
      dsimp only
      split_ifs with haccept
      · rw [truthful_some Nat.one_ne_zero, describedIn_updateStatus hget]
        simp [hother, haccept]
      · refine iff_of_true (truthful_none rfl) fun _ _ other hother hle halive => ?_
        cases hother
        exact absurd ⟨hle, halive⟩ haccept
  · exact iff_of_true (truthful_none rfl) fun hne hsuspect => absurd ⟨hne, hsuspect⟩ hother

theorem truthful_aliveUpdate (engine : GossipEngine) (update : GossipMemberUpdate) :
    (TurnEffect.ofAliveUpdate engine update).Truthful now engine ↔
      (update.nodeId ≠ engine.myId →
        ∀ existing, clusterViewGet engine.view update.nodeId = some existing →
          existing.incarnation < update.incarnation → update.Describes existing) := by
  unfold TurnEffect.ofAliveUpdate
  cases hget : clusterViewGet engine.view update.nodeId with
  | none => exact iff_of_true (truthful_none rfl) (by simp)
  | some existing =>
    dsimp only
    split_ifs with hnewer
    · rw [truthful_some Nat.one_ne_zero, describedIn_updateStatus hget]
      simp [hnewer]
    · refine iff_of_true (truthful_none rfl) fun _ other hother hlt => ?_
      cases hother
      exact absurd hlt hnewer

theorem truthful_join (srcIp : List UInt8) (update : GossipMemberUpdate) :
    (TurnEffect.ofJoin srcIp update).Truthful now engine ↔
      (update.nodeId ≠ engine.myId → DescribesAdded engine.view
        (update.joined update.nodeType srcIp update.incarnation 0) update) := by
  unfold TurnEffect.ofJoin
  rw [truthful_some Nat.one_ne_zero, describedIn_add rfl]

theorem truthful_workerJoin (now : UInt64) (srcIp : List UInt8) (engine : GossipEngine)
    (senderId : NodeId) (update : GossipMemberUpdate) :
    (TurnEffect.ofWorkerJoin now srcIp engine senderId update).Truthful now engine ↔
      (update.nodeId ≠ engine.myId → DescribesAdded engine.view
        (update.joined .worker srcIp (announcedIncarnation engine senderId update) now)
        (joinAnnouncement now srcIp (announcedIncarnation engine senderId update) update)) := by
  unfold TurnEffect.ofWorkerJoin
  dsimp only
  rw [truthful_some (by split_ifs <;> simp), describedIn_add rfl]
  rfl

theorem truthful_checkAck (now : UInt64) (engine : GossipEngine) (i : Nat) :
    (TurnEffect.ofCheckAck now engine i).Truthful now engine ↔ SuspectsBlank now engine i := by
  unfold TurnEffect.ofCheckAck SuspectsBlank
  cases hack : engine.pendingAcks[i]? with
  | none => exact iff_of_true (truthful_none rfl) (by simp)
  | some ack =>
    dsimp only
    by_cases hdue : ack.active = true ∧
        now - ack.pingSentMs > engine.config.ackTimeoutMs.toUInt64
    · rw [if_pos hdue]
      cases hget : clusterViewGet engine.view ack.targetNode with
      | none =>
        have hunknown : ¬ DescribedIn
            ((ViewCall.updateStatus ack.targetNode .suspect 0).apply now engine.view)
              (suspectUpdate now ack.targetNode 0) := not_describedIn_updateStatus hget
        dsimp only
        rw [if_pos rfl, truthful_some Nat.one_ne_zero]
        simp only [hunknown, Option.some.injEq, forall_eq', hdue, hget, forall_const]
        rfl
      | some member =>
        dsimp only
        split_ifs with halive
        · rw [truthful_some Nat.one_ne_zero]
          simp only [Option.some.injEq, forall_eq', hdue, hget, forall_const, halive]
          exact imp_congr_right fun _ => describedIn_updateStatus hget
        · refine iff_of_true (truthful_none rfl) fun other hother _ _ _ => ?_
          cases hother
          rw [hget]
          exact fun h => absurd h halive
    · rw [if_neg hdue]
      refine iff_of_true (truthful_none rfl) fun other hother hactive hover _ => ?_
      cases hother
      exact absurd ⟨hactive, hover⟩ hdue

theorem truthful_checkSuspect (now : UInt64) (engine : GossipEngine) (i : Nat) :
    (TurnEffect.ofCheckSuspect now engine i).Truthful now engine := by
  unfold TurnEffect.ofCheckSuspect
  cases hmember : engine.view.members[i]? with
  | none => exact truthful_none rfl
  | some member =>
    dsimp only
    split_ifs with hover
    · have hget : clusterViewGet engine.view (deadUpdate now member).nodeId = some member :=
        clusterViewGet_of_mem (List.mem_of_getElem? hmember)
      rw [truthful_some Nat.one_ne_zero]
      exact fun _ => (describedIn_updateStatus hget).mpr ⟨rfl, by simp [deadUpdate], rfl, rfl⟩
    · exact truthful_none rfl

theorem turn_truth_iff (engine : GossipEngine) (turn : TimedTurn) :
    QueuesTruth engine (engine.turn turn) ↔ (QueueHasRoom engine → SpreadsTruth engine turn) := by
  rw [queuesTruth_iff (turn_does engine turn)]
  refine imp_congr_right fun _ => ?_
  obtain ⟨now, turn⟩ := turn
  cases turn with
  | pingUpdate update => exact truthful_pingUpdate now engine update
  | ackSender senderId =>
    refine iff_of_true (truthful_none ?_) trivial
    show (TurnEffect.ofAckSender engine senderId).queued = none
    unfold TurnEffect.ofAckSender
    split
    · split_ifs <;> rfl
    · rfl
  | ackUpdate update =>
    refine iff_of_true (truthful_none ?_) trivial
    show (TurnEffect.ofAckUpdate now engine update).queued = none
    unfold TurnEffect.ofAckUpdate
    split
    · rfl
    · split_ifs <;> rfl
  | suspectUpdate update => exact truthful_suspectUpdate now engine update
  | aliveUpdate update => exact truthful_aliveUpdate engine update
  | deadUpdate update =>
    refine iff_of_true (truthful_none ?_) trivial
    show (TurnEffect.ofDeadUpdate engine update).queued = none
    unfold TurnEffect.ofDeadUpdate
    split <;> rfl
  | join srcIp update => exact truthful_join srcIp update
  | workerJoin srcIp senderId update => exact truthful_workerJoin now srcIp engine senderId update
  | checkAck i => exact truthful_checkAck now engine i
  | checkSuspect i => exact iff_of_true (truthful_checkSuspect now engine i) trivial
  | announceJoin => exact iff_of_true (truthful_self rfl) trivial
  | _ => exact iff_of_true (truthful_none rfl) trivial

end Turns

-- ----------------------------------------------------------------------------
-- Runs
-- ----------------------------------------------------------------------------

/-- In a run every turn queues the truth about other nodes exactly when each,
where the queue has room, is one that spreads it. -/
theorem queues_truth_iff (engine : GossipEngine) (turns : List TimedTurn) :
    (∀ i < turns.length, QueuesTruth (engine.before turns i) (engine.before turns (i + 1))) ↔
      Runs.Meets GossipEngine.turn
        (fun engine turn => QueueHasRoom engine → SpreadsTruth engine turn) engine turns :=
  Runs.steps_iff_meets (P := fun _ => True) (Q := QueuesTruth) (fun _ _ _ => trivial)
    (fun engine turn _ => turn_truth_iff engine turn) trivial turns

def waitingRouter : GossipEngine :=
  firstRouter.run [arrival (messageOf 3 gossipMsgPing [{ newsOf 2 .alive 0 with
    nodeType := .worker
    gossipPort := 7001
    dataPort := 8001 }]), .ping 0 0 true]

/-- When no ACK comes, it spreads the suspicion of a node without type and ports. -/
theorem suspicion_not_true :
    ¬ QueuesTruth waitingRouter (waitingRouter.step (.checkAckTimeouts 600)) := by
  intro h
  obtain ⟨member, hget, hdescribes⟩ :=
    h (suspectUpdate 600 2 0) (by decide +kernel) (by decide +kernel)
  have htype : (clusterViewGet (waitingRouter.step (.checkAckTimeouts 600)).view 2).map
      ClusterMember.nodeType = some .worker := by decide +kernel
  have heq : clusterViewGet (waitingRouter.step (.checkAckTimeouts 600)).view 2 = some member :=
    hget
  rw [heq, Option.map_some, ← hdescribes.nodeType] at htype
  cases htype

end Roole
