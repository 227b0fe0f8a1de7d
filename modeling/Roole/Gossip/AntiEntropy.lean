import Roole.Gossip.Convergence
import Roole.Gossip.Entries
import Roole.Gossip.Rounds

/-!
# Gossip of the whole state

The state is gossiped in a message of the type ALIVE, and the handler of that
type takes every newer update for a refutation. What the receiver then holds is
what the sender holds as long as no newer entry is anything but ALIVE.
-/

namespace Roole

-- ----------------------------------------------------------------------------
-- The message
-- ----------------------------------------------------------------------------

def gossiped (engine : GossipEngine) : List ClusterMember :=
  (engine.view.members.take engine.config.maxPiggyback.toNat).filter fun member =>
    !(member.status == .dead || member.nodeId == engine.myId)

def ClusterMember.gossip (now : UInt64) (member : ClusterMember) : GossipMemberUpdate :=
  GossipMemberUpdate.onWire {
    nodeId := member.nodeId
    nodeType := member.nodeType
    ipAddress := safeStrncpy member.ipAddress maxIpLen
    gossipPort := member.gossipPort
    dataPort := member.dataPort
    status := member.status
    incarnation := member.incarnation
    timestampMs := now }

theorem gossipStateUpdates_onWire (now : UInt64) (engine : GossipEngine) :
    (gossipStateUpdates now engine).map GossipMemberUpdate.onWire =
      (gossiped engine).map (·.gossip now) := by
  rw [gossipStateUpdates, List.map_map]
  rfl

theorem gossiped_sublist (engine : GossipEngine) :
    (gossiped engine).Sublist engine.view.members :=
  List.filter_sublist.trans (List.take_sublist _ _)

theorem gossipStateUpdates_length_le (now : UInt64) (engine : GossipEngine) :
    (gossipStateUpdates now engine).length ≤ engine.config.maxPiggyback.toNat := by
  unfold gossipStateUpdates
  rw [List.length_map]
  exact (List.length_filter_le _ _).trans (List.length_take_le _ _)

theorem messageAt_sendable (engine : GossipEngine) (sequenceNum : UInt64) (msgType : UInt8)
    (h : updates.length ≤ gossipMaxPiggybackUpdates) :
    (engine.messageAt sequenceNum msgType updates).Sendable where
  version := rfl
  counted := UInt8.toNat_ofNat_of_lt' (Nat.lt_of_le_of_lt h (by decide))
  bounded := h

theorem GossipMessage.Sendable.complete_onWire {msg : GossipMessage} (h : msg.Sendable) :
    msg.onWire.Complete where
  left := by simpa [GossipMessage.onWire] using h.counted
  right := by simpa [GossipMessage.onWire] using h.bounded

theorem stateMessage_sendable (now : UInt64) (sequenceNum : UInt64)
    (hconfig : engine.config.maxPiggyback.toNat ≤ gossipMaxPiggybackUpdates) :
    (stateMessage now engine sequenceNum).Sendable :=
  messageAt_sendable engine sequenceNum gossipMsgAlive
    ((gossipStateUpdates_length_le now engine).trans hconfig)

theorem readUpdates_stateMessage (now sequenceNum : UInt64) (past : Nat → GossipMemberUpdate)
    (hconfig : engine.config.maxPiggyback.toNat ≤ gossipMaxPiggybackUpdates) :
    (stateMessage now engine sequenceNum).onWire.readUpdates past =
      (gossiped engine).map (·.gossip now) := by
  rw [(stateMessage_sendable now sequenceNum hconfig).complete_onWire.readUpdates,
    ← gossipStateUpdates_onWire]
  rfl

-- ----------------------------------------------------------------------------
-- The receiver
-- ----------------------------------------------------------------------------

/-- A newer report is taken for ALIVE, whatever it says. -/
def promote (report held : Standing) : Standing :=
  if held.incarnation < report.incarnation then ⟨.alive, report.incarnation⟩ else held

section Receiver

variable {engine : GossipEngine} {update : GossipMemberUpdate} {updates : List GossipMemberUpdate}
  {nodeId : NodeId}

theorem handleAliveUpdate_standing (now : UInt64) (engine : GossipEngine)
    (update : GossipMemberUpdate) :
    (handleAliveUpdate now engine update).standing update.nodeId =
      (engine.standing update.nodeId).map (promote update.standing) := by
  unfold GossipEngine.standing
  cases hget : clusterViewGet engine.view update.nodeId with
  | none =>
    simp only [handleAliveUpdate, hget]
    rfl
  | some existing =>
    rw [handleAliveUpdate_self hget]
    have hnew : update.incarnation > existing.incarnation ↔
        existing.standing.incarnation < update.standing.incarnation := UInt64.lt_iff_toNat_lt
    simp only [Option.map_some, promote, ← hnew]
    split_ifs <;> rfl

theorem handleAliveUpdate_standing_of_ne (now : UInt64) (hne : nodeId ≠ update.nodeId) :
    (handleAliveUpdate now engine update).standing nodeId = engine.standing nodeId :=
  congrArg (Option.map ClusterMember.standing) (handleAliveUpdate_of_ne hne)

theorem foldl_handleAliveUpdate_of_notMem (now : UInt64)
    (hnot : nodeId ∉ updates.map GossipMemberUpdate.nodeId) :
    (updates.foldl (handleAliveUpdate now) engine).standing nodeId = engine.standing nodeId := by
  induction updates generalizing engine with
  | nil => rfl
  | cons update rest ih =>
    rw [List.map_cons, List.mem_cons, not_or] at hnot
    exact (ih hnot.2).trans (handleAliveUpdate_standing_of_ne now hnot.1)

theorem foldl_handleAliveUpdate_standing (now : UInt64)
    (hnodup : (updates.map GossipMemberUpdate.nodeId).Nodup) (hmem : update ∈ updates) :
    (updates.foldl (handleAliveUpdate now) engine).standing update.nodeId =
      (engine.standing update.nodeId).map (promote update.standing) := by
  induction updates generalizing engine with
  | nil => cases hmem
  | cons first rest ih =>
    obtain ⟨hfirst, hrest⟩ := List.nodup_cons.mp hnodup
    rw [List.foldl_cons]
    rcases List.mem_cons.mp hmem with rfl | hmem
    · rw [foldl_handleAliveUpdate_of_notMem now hfirst, handleAliveUpdate_standing]
    · have hne : update.nodeId ≠ first.nodeId := fun heq =>
        hfirst (heq ▸ List.mem_map_of_mem hmem)
      rw [ih hrest hmem, handleAliveUpdate_standing_of_ne now hne]

end Receiver

-- ----------------------------------------------------------------------------
-- Health
-- ----------------------------------------------------------------------------

/-- Every member is held as before or as the sender holds it. -/
def KeepsHealth (sender receiver later : GossipEngine) : Prop :=
  ∀ nodeId, later.standing nodeId = receiver.standing nodeId ∨
    later.standing nodeId = sender.standing nodeId

/-- The gossiped entries that are ahead of the receiver's are ALIVE. -/
def NewsIsAlive (sender receiver : GossipEngine) : Prop :=
  ∀ member ∈ gossiped sender, ∀ held,
    clusterViewGet receiver.view member.nodeId = some held →
    held.incarnation < member.incarnation → member.status = .alive

theorem standing_of_gossiped {member : ClusterMember} (hmem : member ∈ gossiped sender) :
    sender.standing member.nodeId = some member.standing :=
  congrArg (Option.map ClusterMember.standing)
    (clusterViewGet_of_mem ((gossiped_sublist sender).subset hmem))

theorem standing_after_gossip {member : ClusterMember} (receiver : GossipEngine)
    (sentAt now : UInt64) (hmem : member ∈ gossiped sender) :
    (((gossiped sender).map (·.gossip sentAt)).foldl (handleAliveUpdate now) receiver).standing
        member.nodeId = (receiver.standing member.nodeId).map (promote member.standing) := by
  have hnodup : (((gossiped sender).map (·.gossip sentAt)).map GossipMemberUpdate.nodeId).Nodup := by
    rw [List.map_map]
    exact ((gossiped_sublist sender).map ClusterMember.nodeId).nodup sender.view.nodup
  exact foldl_handleAliveUpdate_standing now hnodup (List.mem_map_of_mem hmem)

theorem keepsHealth_iff (sentAt now : UInt64) :
    KeepsHealth sender receiver
        (((gossiped sender).map (·.gossip sentAt)).foldl (handleAliveUpdate now) receiver) ↔
      NewsIsAlive sender receiver := by
  constructor
  · intro h member hmem held hget hnew
    have hafter := standing_after_gossip receiver sentAt now hmem
    have hheld : receiver.standing member.nodeId = some held.standing :=
      congrArg (Option.map ClusterMember.standing) hget
    have hlt : held.standing.incarnation < member.standing.incarnation := UInt64.lt_iff_toNat_lt.mp hnew
    rw [hheld, Option.map_some, promote, if_pos hlt] at hafter
    rcases h member.nodeId with hkept | hsame
    · rw [hafter, hheld] at hkept
      have heq := congrArg Standing.incarnation (Option.some.inj hkept)
      exact absurd heq (Nat.ne_of_gt hlt)
    · rw [hafter, standing_of_gossiped hmem] at hsame
      exact (congrArg Standing.status (Option.some.inj hsame)).symm
  · intro h nodeId
    by_cases hmem : nodeId ∈ (gossiped sender).map ClusterMember.nodeId
    · obtain ⟨member, hmember, rfl⟩ := List.mem_map.mp hmem
      have hafter := standing_after_gossip receiver sentAt now hmember
      rw [hafter, standing_of_gossiped hmember]
      unfold GossipEngine.standing
      cases hget : clusterViewGet receiver.view member.nodeId with
      | none => exact .inl rfl
      | some held =>
        simp only [Option.map_some, promote]
        split_ifs with hnew
        · have halive := h member hmember held hget (UInt64.lt_iff_toNat_lt.mpr hnew)
          right
          rw [ClusterMember.standing, halive]
        · exact .inl rfl
    · left
      refine foldl_handleAliveUpdate_of_notMem now fun hsent => hmem ?_
      rwa [List.map_map] at hsent

/-- Gossip of the state is decoded by whoever it reaches, and leaves every
member there as before or as the sender holds it exactly when no newer entry of
the sender is anything but ALIVE. -/
theorem state_gossip_keeps_health_iff
    (hconfig : sender.config.maxPiggyback.toNat ≤ gossipMaxPiggybackUpdates)
    (hsent : .send ip port datagram ∈ (gossipToRandomPeers sentAt rand sender).2) :
    ∃ msg, gossipMessageDeserialize datagram = some msg ∧
      (KeepsHealth sender receiver (dispatchMessage now past srcIp srcPort receiver msg).1 ↔
        NewsIsAlive sender receiver) := by
  obtain ⟨-, hsends⟩ := gossipToRandomPeers_sends sentAt rand sender
  obtain ⟨sequenceNum, _, _, hsend⟩ := hsends _ hsent
  obtain ⟨_, heq, hdecoded⟩ := GossipMessage.decode_sent
    (stateMessage_sendable sentAt sequenceNum hconfig) hsend
  cases heq
  refine ⟨_, hdecoded, ?_⟩
  rw [dispatchMessage_alive rfl, handleAliveMessage,
    readUpdates_stateMessage sentAt sequenceNum past hconfig]
  exact keepsHealth_iff sentAt now

def suspicious : GossipEngine :=
  secondRouter.run
    [arrival (messageOf 1 gossipMsgPing [newsOf 1 .alive 0, newsOf 3 .suspect 1])]

def trusting : GossipEngine :=
  firstRouter.run [arrival (messageOf 2 gossipMsgPing [newsOf 3 .alive 0])]

theorem suspicious_sends : ∃ ip port datagram,
    .send ip port datagram ∈ (gossipToRandomPeers 0 (fun _ => 0) suspicious).2 := by
  have hsome : (gossipToRandomPeers 0 (fun _ => 0) suspicious).2 ≠ [] := by
    rw [← List.isEmpty_eq_false_iff]
    decide +kernel
  obtain ⟨effect, rest, heffects⟩ := List.exists_cons_of_ne_nil hsome
  have hmem : effect ∈ (gossipToRandomPeers 0 (fun _ => 0) suspicious).2 := by simp [heffects]
  obtain ⟨_, ip, port, hsend⟩ := (gossipToRandomPeers_sends _ _ _).2 effect hmem
  obtain ⟨datagram, rfl, -⟩ :=
    GossipMessage.decode_sent (stateMessage_sendable 0 _ (by decide +kernel)) hsend
  exact ⟨_, _, datagram, hmem⟩

theorem state_gossip_keeps_health_iff_suspicious : ∃ datagram msg,
    gossipMessageDeserialize datagram = some msg ∧
      (KeepsHealth suspicious trusting
          (dispatchMessage 0 (fun _ => .zero) [] 7001 trusting msg).1 ↔
        NewsIsAlive suspicious trusting) := by
  obtain ⟨_, _, datagram, hsent⟩ := suspicious_sends
  exact ⟨datagram, state_gossip_keeps_health_iff (by decide +kernel) hsent⟩

/-- Node 1 takes the suspicion for a refutation. -/
theorem suspicion_gossiped_as_alive : ∃ ip port datagram msg,
    .send ip port datagram ∈ (gossipToRandomPeers 0 (fun _ => 0) suspicious).2 ∧
      gossipMessageDeserialize datagram = some msg ∧
      suspicious.standing 3 = some ⟨.suspect, 1⟩ ∧ trusting.standing 3 = some ⟨.alive, 0⟩ ∧
      ¬ KeepsHealth suspicious trusting
        (dispatchMessage 0 (fun _ => .zero) [] 7001 trusting msg).1 := by
  obtain ⟨ip, port, datagram, hsent⟩ := suspicious_sends
  have hconfig : suspicious.config.maxPiggyback.toNat ≤ gossipMaxPiggybackUpdates := by
    decide +kernel
  obtain ⟨_, _, _, hsend⟩ := (gossipToRandomPeers_sends _ _ _).2 _ hsent
  obtain ⟨_, heq, hdecoded⟩ := GossipMessage.decode_sent (stateMessage_sendable 0 _ hconfig) hsend
  cases heq
  refine ⟨ip, port, datagram, _, hsent, hdecoded, by decide +kernel, by decide +kernel, ?_⟩
  rw [dispatchMessage_alive rfl, handleAliveMessage, readUpdates_stateMessage 0 _ _ hconfig,
    keepsHealth_iff]
  intro h
  have hsuspect : ∃ member ∈ gossiped suspicious, member.nodeId = 3 ∧ member.status = .suspect ∧
      member.incarnation = 1 := by decide +kernel
  have hheld : ∃ held ∈ clusterViewGet trusting.view 3, held.incarnation = 0 := by decide +kernel
  obtain ⟨member, hmem, hid, hstatus, hone⟩ := hsuspect
  obtain ⟨held, hget, hzero⟩ := hheld
  have halive := h member hmem held (hid ▸ hget) (by rw [hone, hzero]; decide)
  exact nomatch hstatus.symm.trans halive

end Roole
