import Roole.Gossip.Entries
import Roole.Gossip.Rounds

/-!
# Incarnations over a run

What becomes of the entry of another node: the messages that report failures
and the timeouts revive a DEAD entry for newer news only, and its incarnation
grows as long as no join brings a DEAD node back behind its entry.
-/

namespace Roole

-- ----------------------------------------------------------------------------
-- Reports and timeouts
-- ----------------------------------------------------------------------------

inductive ReportStep (engine : GossipEngine) : GossipEngine → List GossipMemberUpdate → Prop
  | message (now : UInt64) (past : Nat → GossipMemberUpdate) (srcIp : List UInt8)
      (srcPort : UInt16) (msg : GossipMessage)
      (htype : msg.msgType ∈ [gossipMsgPing, gossipMsgAck, gossipMsgSuspect, gossipMsgAlive,
        gossipMsgDead, gossipMsgLeave])
      (hcount : msg.numUpdates.toNat ≤ gossipMaxPiggybackUpdates) :
    ReportStep engine (dispatchMessage now past srcIp srcPort engine msg).1
      (msg.updates.take msg.numUpdates.toNat)
  | ackTimeouts (now : UInt64) : ReportStep engine (checkAckTimeouts now engine) []
  | suspectTimeouts (now : UInt64) : ReportStep engine (checkSuspectTimeouts now engine) []

theorem GossipMessage.mem_readUpdates {msg : GossipMessage} {update : GossipMemberUpdate}
    (hcount : msg.numUpdates.toNat ≤ gossipMaxPiggybackUpdates)
    (hmem : update ∈ msg.readUpdates past) :
    update ∈ msg.updates.take msg.numUpdates.toNat ∨ update = .zero := by
  obtain ⟨i, hi, rfl⟩ := List.mem_map.mp hmem
  rw [List.mem_range] at hi
  rw [GossipMessage.update, if_pos (Nat.lt_of_lt_of_le hi hcount)]
  by_cases hfilled : i < msg.updates.length
  · left
    simp only [List.getD_eq_getElem?_getD, List.getElem?_eq_getElem hfilled, Option.getD_some]
    exact List.mem_take_iff_getElem.mpr ⟨i, by omega, rfl⟩
  · right
    simp [List.getD_eq_getElem?_getD, List.getElem?_eq_none (Nat.le_of_not_lt hfilled)]

theorem EntryStep.dead_of_le (h : EntryStep now update entry entry')
    (hdead : entry.status = .dead ∧ k ≤ entry.incarnation) (hle : update.incarnation ≤ k) :
    entry'.status = .dead ∧ k ≤ entry'.incarnation := by
  have hstale : ¬ entry.incarnation < update.incarnation :=
    UInt64.not_lt.mpr (UInt64.le_trans hle hdead.2)
  cases h with
  | kept => exact hdead
  | news status hnew => exact absurd hnew hstale
  | rejoined hnew => exact absurd hnew hstale
  | suspected halive => exact nomatch halive.symm.trans hdead.1
  | dead hnew => exact ⟨rfl, UInt64.le_trans hdead.2 hnew⟩

/-- A DEAD entry stays DEAD unless the step carries news of a later
incarnation. -/
theorem no_stale_resurrection (hstep : ReportStep engine later updates)
    (hget : clusterViewGet engine.view nodeId = some member) (hdead : member.status = .dead)
    (hlater : ¬ ∃ member', clusterViewGet later.view nodeId = some member' ∧
      member'.status = .dead) :
    ∃ update ∈ updates, update.nodeId = nodeId ∧ member.incarnation < update.incarnation := by
  by_contra hnone
  have hheld : EntryIs (fun entry => entry.status = .dead ∧ member.incarnation ≤ entry.incarnation)
      nodeId engine := ⟨member, hget, hdead, UInt64.le_refl _⟩
  refine hlater ?_
  suffices hkept : EntryIs (fun entry => entry.status = .dead ∧
      member.incarnation ≤ entry.incarnation) nodeId later by
    obtain ⟨entry, hentry, hstatus, -⟩ := hkept
    exact ⟨entry, hentry, hstatus⟩
  cases hstep with
  | message now past srcIp srcPort msg htype hcount =>
    refine hheld.dispatchMessage ?_ ?_ ?_ ?_ ?_
    · rintro hjoin
      rw [hjoin] at htype
      exact absurd htype (by decide)
    · rintro hworker
      rw [hworker] at htype
      exact absurd htype (by decide)
    · intro _ _ entry hentry hsuspect
      exact nomatch hsuspect.symm.trans hentry.1
    · intro update hmem hid entry entry' hentry hchange
      refine hchange.dead_of_le hentry ?_
      rcases GossipMessage.mem_readUpdates hcount hmem with hmem | rfl
      · exact UInt64.not_lt.mp fun hnew => hnone ⟨update, hmem, hid, hnew⟩
      · exact UInt64.zero_le
    · intro _ entry hentry hle
      exact ⟨rfl, UInt64.le_trans hentry.2 hle⟩
  | ackTimeouts now =>
    exact hheld.checkAckTimeouts fun entry hentry halive => nomatch halive.symm.trans hentry.1
  | suspectTimeouts now =>
    exact hheld.checkSuspectTimeouts fun entry hentry hsuspect =>
      nomatch hsuspect.symm.trans hentry.1

def thirdDied : GossipEngine :=
  firstRouter.run [arrival (messageOf 2 gossipMsgPing [newsOf 3 .dead 5])]

theorem no_stale_resurrection_ping :
    ∃ update ∈ [newsOf 3 .alive 6], update.nodeId = 3 ∧ 5 < update.incarnation := by
  have hget : (clusterViewGet thirdDied.view 3).map (fun member =>
      (member.status, member.incarnation)) = some (.dead, 5) := by decide +kernel
  obtain ⟨member, hmember, hfields⟩ := Option.map_eq_some_iff.mp hget
  obtain ⟨hdead, hincarnation⟩ := Prod.mk.inj hfields
  rw [← hincarnation]
  refine no_stale_resurrection (.message 0 (fun _ => .zero) [] 7000
    (messageOf 2 gossipMsgPing [newsOf 3 .alive 6]) (by decide) (by decide)) hmember hdead ?_
  rintro ⟨member', hmember', hdead'⟩
  have hrevived : (clusterViewGet (dispatchMessage 0 (fun _ => .zero) [] 7000 thirdDied
      (messageOf 2 gossipMsgPing [newsOf 3 .alive 6])).1.view 3).map ClusterMember.status =
        some .alive := by decide +kernel
  rw [hmember', Option.map_some, hdead'] at hrevived
  cases hrevived

-- ----------------------------------------------------------------------------
-- Runs
-- ----------------------------------------------------------------------------

/-- No DEAD entry is ahead of what a join under the incarnation would store. -/
def CatchesUp (engine : GossipEngine) (nodeId : NodeId) (incarnation : UInt64) : Prop :=
  nodeId ≠ engine.myId → ∀ entry, clusterViewGet engine.view nodeId = some entry →
    entry.status = .dead → entry.incarnation ≤ incarnation + 1

/-- The node that a join brings back is not behind its entry. -/
def JoinsCatchUp (engine : GossipEngine) : GossipAction → Prop
  | .receive _ past _ _ msg => msg.senderId ≠ engine.myId →
    (msg.msgType = gossipMsgJoin → ∀ update ∈ msg.joining past,
      CatchesUp engine update.nodeId update.incarnation) ∧
    (msg.msgType = gossipMsgWorkerJoin → EntersWorker engine msg →
      CatchesUp engine (msg.update past 0).nodeId
        (joinIncarnation engine msg.senderId (msg.update past 0)))
  | _ => True

/-- Every update that is received has an incarnation below `2 ^ 64 - 2`. -/
def GossipAction.Bounded : GossipAction → Prop
  | .receive _ past _ _ msg => ∀ update ∈ msg.readUpdates past,
    update.incarnation.toNat < 2 ^ 64 - 2
  | _ => True

/-- The entries of the other nodes have not gone back to an earlier
incarnation. -/
def IncarnationsGrow (before after : GossipEngine) : Prop :=
  ∀ nodeId, nodeId ≠ before.myId → ∀ entry entry',
    clusterViewGet before.view nodeId = some entry →
    clusterViewGet after.view nodeId = some entry' → entry.incarnation ≤ entry'.incarnation

structure Grows (before after : GossipEngine) : Prop where
  myId : after.myId = before.myId
  entry : ∀ nodeId, nodeId ≠ before.myId → ∀ entry,
    clusterViewGet before.view nodeId = some entry →
    EntryIs (entry.incarnation ≤ ·.incarnation) nodeId after

theorem Grows.refl (engine : GossipEngine) : Grows engine engine :=
  ⟨rfl, fun _ _ entry hget => ⟨entry, hget, UInt64.le_refl _⟩⟩

theorem Grows.trans (h : Grows a b) (h' : Grows b c) : Grows a c := by
  refine ⟨h'.myId.trans h.myId, fun nodeId hne entry hget => ?_⟩
  obtain ⟨middle, hmiddle, hle⟩ := h.entry nodeId hne entry hget
  obtain ⟨last, hlast, hle'⟩ := h'.entry nodeId (h.myId.symm ▸ hne) middle hmiddle
  exact ⟨last, hlast, UInt64.le_trans hle hle'⟩

theorem Grows.incarnationsGrow (h : Grows before after) : IncarnationsGrow before after := by
  intro nodeId hne entry entry' hget hget'
  obtain ⟨last, hlast, hle⟩ := h.entry nodeId hne entry hget
  cases hlast.symm.trans hget'
  exact hle

theorem Grows.of_view (hview : after.view = before.view) (hid : after.myId = before.myId) :
    Grows before after :=
  ⟨hid, fun _ _ entry hget => ⟨entry, hview ▸ hget, UInt64.le_refl _⟩⟩

theorem EntryStep.incarnation_le (h : EntryStep now update entry entry')
    (hbound : update.incarnation.toNat < 2 ^ 64 - 2) : entry.incarnation ≤ entry'.incarnation := by
  cases h with
  | kept => exact UInt64.le_refl _
  | news status hnew => exact UInt64.le_of_lt hnew
  | rejoined hnew =>
    refine UInt64.le_trans (UInt64.le_of_lt hnew) (UInt64.le_iff_toNat_le.mpr ?_)
    show update.incarnation.toNat ≤ (update.incarnation + 1).toNat
    rw [UInt64.toNat_add, UInt64.toNat_one]
    omega
  | suspected _ hle => exact hle
  | dead hle => exact hle

section Step

variable {engine after : GossipEngine} {nodeId : NodeId} {entry member : ClusterMember}
  {now : UInt64}

theorem CatchesUp.entryIs (h : CatchesUp engine member.nodeId member.incarnation)
    (hview : after.view = (clusterViewAdd now engine.view member).2) (hne : nodeId ≠ engine.myId)
    (hget : clusterViewGet engine.view nodeId = some entry) :
    EntryIs (entry.incarnation ≤ ·.incarnation) nodeId after := by
  unfold EntryIs
  rw [hview]
  by_cases hid : nodeId = member.nodeId
  · subst hid
    refine ⟨_, clusterViewAdd_self now hget, ?_⟩
    split_ifs with hdead hle
    · exact h hne entry hget hdead.2
    · exact hle
    · exact UInt64.le_refl _
  · exact ⟨entry, (clusterViewAdd_of_ne hid).trans hget, UInt64.le_refl _⟩

theorem CatchesUp.of_grow (halive : member.status = .alive)
    (hview : after.view = (clusterViewAdd now engine.view member).2)
    (h : IncarnationsGrow engine after) : CatchesUp engine member.nodeId member.incarnation := by
  intro hne entry hget hdead
  have hrejoin : clusterViewGet after.view member.nodeId =
      some { member with lastSeenMs := now, incarnation := member.incarnation + 1 } := by
    rw [hview, clusterViewAdd_rejoin hget halive hdead]
  exact h member.nodeId hne entry _ hget hrejoin

theorem Grows.receive (hbound : ∀ update ∈ msg.readUpdates past,
      update.incarnation.toNat < 2 ^ 64 - 2)
    (h : JoinsCatchUp engine (.receive now past srcIp srcPort msg)) :
    Grows engine (receiveMessage now past srcIp srcPort engine msg).1 := by
  unfold receiveMessage
  split_ifs with hself
  · exact Grows.refl engine
  obtain ⟨hjoin, hworker⟩ := h hself
  refine ⟨(SameNode.dispatchMessage past srcIp srcPort engine msg).myId,
    fun nodeId hne entry hget => ?_⟩
  have hheld : EntryIs (entry.incarnation ≤ ·.incarnation) nodeId engine :=
    ⟨entry, hget, UInt64.le_refl _⟩
  by_cases htype : msg.msgType = gossipMsgJoin
  · rw [dispatchMessage_join htype]
    cases hjoining : msg.joining past with
    | none => rwa [handleJoinMessage_none hjoining]
    | some update =>
      exact CatchesUp.entryIs (hjoin htype update hjoining) (handleJoinMessage_view hjoining) hne hget
  by_cases htype' : msg.msgType = gossipMsgWorkerJoin
  · rw [dispatchMessage_workerJoin htype']
    by_cases henters : EntersWorker engine msg
    · exact CatchesUp.entryIs (hworker htype' henters) (handleWorkerJoinMessage_view henters) hne hget
    · exact hheld.of_view (handleWorkerJoinMessage_none henters)
  exact hheld.dispatchMessage htype htype' (fun _ _ _ hle _ => hle)
    (fun update hmem _ _ _ hle hchange =>
      UInt64.le_trans hle (hchange.incarnation_le (hbound update hmem)))
    fun _ _ hle hseq => UInt64.le_trans hle hseq

theorem Grows.step {action : GossipAction} (hbound : action.Bounded)
    (h : JoinsCatchUp engine action) : Grows engine (engine.step action) := by
  cases action with
  | receive => exact Grows.receive hbound h
  | updateSelf now =>
    exact ⟨rfl, fun nodeId hne entry hget =>
      ⟨entry, (updateSelf_of_ne hne).trans hget, UInt64.le_refl _⟩⟩
  | ping now random sent =>
    obtain ⟨_, -, hping⟩ := pingRandomPeer_step now random sent engine
    exact Grows.of_view hping.view hping.myId
  | checkAckTimeouts now =>
    exact ⟨(SameNode.checkAckTimeouts engine).myId, fun nodeId _ entry hget =>
      EntryIs.checkAckTimeouts (fun _ hle _ => hle) ⟨entry, hget, UInt64.le_refl _⟩⟩
  | checkSuspectTimeouts now =>
    exact ⟨(SameNode.checkSuspectTimeouts engine).myId, fun nodeId _ entry hget =>
      EntryIs.checkSuspectTimeouts (fun _ hle _ => hle) ⟨entry, hget, UInt64.le_refl _⟩⟩
  | gossip now rand =>
    obtain ⟨⟨_, hsent⟩, -⟩ := gossipToRandomPeers_sends now rand engine
    show Grows engine (gossipToRandomPeers now rand engine).1
    rw [hsent]
    exact Grows.of_view rfl rfl
  | setCallback => exact Grows.of_view rfl rfl

theorem joinsCatchUp_of_grow {action : GossipAction}
    (h : IncarnationsGrow engine (engine.step action)) : JoinsCatchUp engine action := by
  cases action with
  | receive now past srcIp srcPort msg =>
    intro hother
    rw [GossipEngine.step, receiveMessage, if_neg hother] at h
    refine ⟨fun htype update hjoining => ?_, fun htype henters => ?_⟩
    · rw [dispatchMessage_join htype] at h
      exact @CatchesUp.of_grow engine _ (update.joined update.nodeType srcIp update.incarnation 0) now
        rfl (handleJoinMessage_view hjoining) h
    · rw [dispatchMessage_workerJoin htype] at h
      exact @CatchesUp.of_grow engine _ ((msg.update past 0).joined .worker srcIp _ now) now
        rfl (handleWorkerJoinMessage_view henters) h
  | _ => trivial

end Step

/-- The incarnations of the other nodes never decrease in a run exactly when
no join in it brings a DEAD node back behind its entry. -/
theorem incarnations_grow_iff {actions : List GossipAction}
    (hbound : ∀ action ∈ actions, action.Bounded) :
    (∀ i j, i ≤ j →
      IncarnationsGrow (engine.run (actions.take i)) (engine.run (actions.take j))) ↔
      Runs.Meets GossipEngine.step JoinsCatchUp engine actions := by
  constructor
  · intro h
    have hsteps : ∀ i, IncarnationsGrow (Runs.run GossipEngine.step engine (actions.take i))
        (Runs.run GossipEngine.step engine (actions.take (i + 1))) :=
      fun i => h i (i + 1) (Nat.le_succ i)
    refine Runs.meets_of_steps (Q := IncarnationsGrow) ?_ hsteps
    exact fun _ _ _ => joinsCatchUp_of_grow
  · intro hmeets i j hij
    have hgrows : Grows (engine.run (actions.take i)) (engine.run (actions.take j)) :=
      Runs.related Grows.refl Grows.trans (fun action hmem _ => Grows.step (hbound action hmem))
        hmeets hij
    exact hgrows.incarnationsGrow

def thirdJoinsAgain : List GossipAction :=
  [arrival (messageOf 2 gossipMsgPing [newsOf 3 .dead 5]),
    arrival (messageOf 3 gossipMsgJoin [newsOf 3 .alive 0])]

theorem thirdJoinsAgain_bounded : ∀ action ∈ thirdJoinsAgain, action.Bounded := by
  simp only [thirdJoinsAgain, List.forall_mem_cons]
  refine ⟨?_, ?_, fun _ h => nomatch h⟩
  · show ∀ update ∈ _, _
    decide +kernel
  · show ∀ update ∈ _, _
    decide +kernel

theorem incarnations_grow_iff_third :
    (∀ i j, i ≤ j → IncarnationsGrow (firstRouter.run (thirdJoinsAgain.take i))
      (firstRouter.run (thirdJoinsAgain.take j))) ↔
      Runs.Meets GossipEngine.step JoinsCatchUp firstRouter thirdJoinsAgain :=
  incarnations_grow_iff thirdJoinsAgain_bounded

/-- The entry of node 3 goes back from incarnation 5 to 1. -/
theorem incarnation_decreases : (∀ action ∈ thirdJoinsAgain, action.Bounded) ∧
    ¬ ∀ i j, i ≤ j → IncarnationsGrow (firstRouter.run (thirdJoinsAgain.take i))
      (firstRouter.run (thirdJoinsAgain.take j)) := by
  refine ⟨thirdJoinsAgain_bounded, fun h => ?_⟩
  have hdied : (clusterViewGet (firstRouter.run (thirdJoinsAgain.take 1)).view 3).map
      ClusterMember.incarnation = some 5 := by decide +kernel
  have hjoined : (clusterViewGet (firstRouter.run (thirdJoinsAgain.take 2)).view 3).map
      ClusterMember.incarnation = some 1 := by decide +kernel
  obtain ⟨entry, hget, hfive⟩ := Option.map_eq_some_iff.mp hdied
  obtain ⟨entry', hget', hone⟩ := Option.map_eq_some_iff.mp hjoined
  have hle := h 1 2 (by decide) 3 (by decide) entry entry' hget hget'
  rw [hfive, hone] at hle
  exact absurd hle (by decide)

end Roole
