import Roole.Gossip.Entries
import Roole.Gossip.Rounds

/-!
# The entry of the node itself

A node enters itself as ALIVE and says so again in every round. Of the handlers
only that of a SUSPECT message looks whether an update is about the node itself;
the entry stays ALIVE as long as the others are told nothing else of it.
-/

namespace Roole

/-- Among the updates about the node, those that are news are all ALIVE.
`incarnation` is the latest that is known. -/
def SparesSelf (myId : NodeId) : UInt64 → List GossipMemberUpdate → Prop
  | _, [] => True
  | incarnation, update :: rest =>
    if update.nodeId = myId ∧ incarnation < update.incarnation then
      update.status = .alive ∧ SparesSelf myId update.incarnation rest
    else SparesSelf myId incarnation rest

/-- No message reports the node itself as anything but ALIVE. -/
def LeavesSelfAlive (engine : GossipEngine) : GossipAction → Prop
  | .receive _ past _ _ msg => msg.senderId ≠ engine.myId →
    ∀ self, clusterViewGet engine.view engine.myId = some self →
      (msg.msgType = gossipMsgPing ∨ msg.msgType = gossipMsgAck →
        SparesSelf engine.myId self.incarnation (msg.readUpdates past)) ∧
      (msg.msgType = gossipMsgDead → ∀ update ∈ msg.readUpdates past,
        update.nodeId = engine.myId → update.incarnation < self.incarnation)
  | _ => True

/-- The node has an ALIVE entry for itself and waits for no ACK of its own. -/
structure SelfAlive (myId : NodeId) (engine : GossipEngine) : Prop where
  node : engine.myId = myId
  entry : EntryIs (·.status = .alive) engine.myId engine
  acks : ∀ ack ∈ engine.pendingAcks, ack.active = true → ack.targetNode ≠ engine.myId

section Messages

variable {now : UInt64} {past : Nat → GossipMemberUpdate} {srcIp : List UInt8} {srcPort : UInt16}
  {engine : GossipEngine} {msg : GossipMessage} {myId : NodeId} {self : ClusterMember}

theorem SparesSelf.foldl {handle : GossipEngine → GossipMemberUpdate → GossipEngine}
    (hstep : ∀ engine update, UpdateStep now update engine (handle engine update))
    (hself : ∀ engine update existing, clusterViewGet engine.view update.nodeId = some existing →
      existing.status = .alive →
      clusterViewGet (handle engine update).view update.nodeId =
        some (if update.incarnation > existing.incarnation then
          existing.setStatus now update.status update.incarnation else existing))
    {updates : List GossipMemberUpdate} (h : SparesSelf myId self.incarnation updates)
    (hget : clusterViewGet engine.view myId = some self) (halive : self.status = .alive) :
    EntryIs (·.status = .alive) myId (updates.foldl handle engine) := by
  induction updates generalizing engine self with
  | nil => exact ⟨self, hget, halive⟩
  | cons update rest ih =>
    unfold SparesSelf at h
    by_cases hid : myId = update.nodeId
    · subst hid
      have hafter := hself engine update self hget halive
      split_ifs at h with hnews
      · rw [if_pos hnews.2] at hafter
        exact ih h.2 hafter h.1
      · rw [if_neg fun hnew => hnews ⟨rfl, hnew⟩] at hafter
        exact ih h hafter halive
    · rw [if_neg fun hnews => hid hnews.1.symm] at h
      exact ih h (((hstep engine update).others myId hid).trans hget) halive

theorem handleSuspectMessage_self (hget : clusterViewGet engine.view engine.myId = some self) :
    clusterViewGet (handleSuspectMessage now past engine msg).view engine.myId = some self := by
  refine (List.foldlRecOn (motive := fun later => later.myId = engine.myId ∧
    clusterViewGet later.view engine.myId = some self) _ (handleSuspectUpdate now)
      ⟨rfl, hget⟩ ?_).2
  rintro later ⟨hid, hlater⟩ update -
  exact ⟨(handleSuspectUpdate_step now later update).same.myId.trans hid,
    (handleSuspectUpdate_of_ne (.inr hid.symm)).trans hlater⟩

theorem handleAliveMessage_self (h : EntryIs (·.status = .alive) myId engine) :
    EntryIs (·.status = .alive) myId (handleAliveMessage now past engine msg) := by
  refine List.foldlRecOn (motive := EntryIs (·.status = .alive) myId) _ (handleAliveUpdate now) h ?_
  rintro later ⟨entry, hget, halive⟩ update -
  by_cases hid : myId = update.nodeId
  · subst hid
    refine ⟨_, handleAliveUpdate_self hget, ?_⟩
    split_ifs
    · rfl
    · exact halive
  · exact ⟨entry, (handleAliveUpdate_of_ne hid).trans hget, halive⟩

theorem handleDeadMessage_self (hget : clusterViewGet engine.view myId = some self)
    (hpassed : ∀ update ∈ msg.readUpdates past, update.nodeId = myId →
      update.incarnation < self.incarnation) :
    clusterViewGet (handleDeadMessage now past engine msg).view myId = some self := by
  refine List.foldlRecOn (motive := fun later => clusterViewGet later.view myId = some self) _
    (handleDeadUpdate now) hget ?_
  intro later hlater update hmem
  by_cases hid : myId = update.nodeId
  · subst hid
    rw [handleDeadUpdate_self hlater, if_neg (UInt64.not_le.mpr (hpassed update hmem rfl))]
  · exact (handleDeadUpdate_of_ne hid).trans hlater

theorem handlePingUpdate_alive (hget : clusterViewGet engine.view update.nodeId = some existing)
    (halive : existing.status = .alive) :
    clusterViewGet (handlePingUpdate now engine update).view update.nodeId =
      some (if update.incarnation > existing.incarnation then
        existing.setStatus now update.status update.incarnation else existing) := by
  have hnot : ¬ (existing.status = .dead ∧ update.status = .alive) :=
    fun hdead => nomatch halive.symm.trans hdead.1
  rw [handlePingUpdate_self hget, if_neg hnot]

theorem handleAckMessage_self (hother : msg.senderId ≠ engine.myId)
    (hget : clusterViewGet engine.view engine.myId = some self) (halive : self.status = .alive)
    (hspares : SparesSelf engine.myId self.incarnation (msg.readUpdates past)) :
    EntryIs (·.status = .alive) engine.myId (handleAckMessage now past engine msg) := by
  have hfreed : EntryIs (· = self) engine.myId (removePendingAck engine msg.senderId) :=
    ⟨self, by simpa using hget, rfl⟩
  have hrecover : EntryIs (· = self) engine.myId
      (recoverSender now (removePendingAck engine msg.senderId) msg.senderId) :=
    hfreed.recoverSender fun hself => absurd hself.symm hother
  obtain ⟨_, hrecovered, rfl⟩ := hrecover
  exact hspares.foldl (handleAckUpdate_step now) (fun _ _ _ hentry _ => handleAckUpdate_self hentry)
    hrecovered halive

theorem handleJoinMessage_alive (h : EntryIs (·.status = .alive) myId engine) :
    EntryIs (·.status = .alive) myId (handleJoinMessage now past srcIp engine msg) := by
  cases hjoining : msg.joining past with
  | none => rwa [handleJoinMessage_none hjoining]
  | some update =>
    exact h.clusterViewAdd (handleJoinMessage_view hjoining) (fun _ _ _ _ => rfl) fun _ _ _ _ => rfl

theorem handleWorkerJoinMessage_alive (h : EntryIs (·.status = .alive) myId engine) :
    EntryIs (·.status = .alive) myId
      (handleWorkerJoinMessage now past srcIp srcPort engine msg).1 := by
  by_cases henters : EntersWorker engine msg
  · exact h.clusterViewAdd (handleWorkerJoinMessage_view henters) (fun _ _ _ _ => rfl)
      fun _ _ _ _ => rfl
  · exact h.of_view (handleWorkerJoinMessage_none henters)

theorem receiveMessage_self
    (h : LeavesSelfAlive engine (.receive now past srcIp srcPort msg))
    (hself : EntryIs (·.status = .alive) engine.myId engine) :
    EntryIs (·.status = .alive) engine.myId
      (receiveMessage now past srcIp srcPort engine msg).1 := by
  unfold receiveMessage
  split_ifs with hsender
  · exact hself
  obtain ⟨self, hget, halive⟩ := hself
  obtain ⟨hspares, hpassed⟩ := h hsender self hget
  have hheld : EntryIs (·.status = .alive) engine.myId engine := ⟨self, hget, halive⟩
  apply dispatchMessage_cases
  case ping =>
    intro hping
    exact ((hspares (.inl hping)).foldl (handlePingUpdate_step now)
      (fun _ _ _ => handlePingUpdate_alive) hget halive).of_view rfl
  case ack => exact fun hack => handleAckMessage_self hsender hget halive (hspares (.inr hack))
  case suspect => exact fun _ => ⟨self, handleSuspectMessage_self hget, halive⟩
  case alive => exact fun _ => handleAliveMessage_self hheld
  case dead => exact fun hdead => ⟨self, handleDeadMessage_self hget (hpassed hdead), halive⟩
  case join => exact fun _ => handleJoinMessage_alive hheld
  case workerJoin => exact fun _ => handleWorkerJoinMessage_alive hheld
  case leave => exact fun _ => hheld.updateStatus fun hid => absurd hid.symm hsender
  case ignored => exact hheld

end Messages

-- ----------------------------------------------------------------------------
-- Runs
-- ----------------------------------------------------------------------------

namespace SelfAlive

theorem membershipInit (now : UInt64) (myId : NodeId) (myType : NodeType) (bindAddr : List UInt8)
    (gossipPort dataPort : UInt16) (hinit : clusterViewInit capacity = some sharedView) :
    SelfAlive myId (membershipInit now myId myType bindAddr gossipPort dataPort sharedView) := by
  unfold clusterViewInit at hinit
  split_ifs at hinit with hcapacity
  cases hinit
  refine ⟨rfl, ⟨{ selfMember now myId myType bindAddr gossipPort dataPort with lastSeenMs := now },
    clusterViewAdd_new rfl (Nat.pos_of_ne_zero hcapacity), rfl⟩, fun ack hmem hactive => ?_⟩
  cases List.eq_of_mem_replicate hmem
  cases hactive

theorem of_same (h : SelfAlive myId before) (hsame : SameNode before after)
    (hentry : EntryIs (·.status = .alive) before.myId after) : SelfAlive myId after := by
  refine ⟨hsame.myId.trans h.node, hsame.myId.symm ▸ hentry, fun ack hmem hactive => ?_⟩
  rw [hsame.myId]
  exact h.acks ack (hsame.acks ack hmem hactive) hactive

theorem checkAckTimeouts (h : SelfAlive myId engine) :
    SelfAlive myId (checkAckTimeouts now engine) := by
  refine List.foldlRecOn (motive := SelfAlive myId) _ (checkPendingAck now) h ?_
  rintro engine h i -
  refine h.of_same (checkPendingAck_same now engine i) ?_
  obtain ⟨self, hget, halive⟩ := h.entry
  rcases checkPendingAck_entry i hget with hkept | ⟨-, ⟨ack, hmem, hactive, htarget⟩, -⟩
  · exact ⟨self, hkept, halive⟩
  · exact absurd htarget (h.acks ack hmem hactive)

theorem step (h : SelfAlive myId engine) (hleaves : LeavesSelfAlive engine action) :
    SelfAlive myId (engine.step action) := by
  cases action with
  | receive now past srcIp srcPort msg =>
    refine h.of_same ?_ (receiveMessage_self hleaves h.entry)
    unfold GossipEngine.step receiveMessage
    dsimp only
    split_ifs
    · exact SameNode.refl engine
    · exact SameNode.dispatchMessage past srcIp srcPort engine msg
  | updateSelf now =>
    obtain ⟨self, hget, -⟩ := h.entry
    exact ⟨h.node, ⟨_, updateSelf_self now hget, rfl⟩, h.acks⟩
  | ping now random sent =>
    obtain ⟨targetNode, hother, hping⟩ := pingRandomPeer_step now random sent engine
    refine ⟨hping.myId.trans h.node, hping.myId.symm ▸ h.entry.of_view hping.view,
      fun ack hmem hactive => ?_⟩
    show ack.targetNode ≠ (pingRandomPeer now random sent engine).myId
    rw [hping.myId]
    rcases hping.acks ack hmem with hold | rfl
    · exact h.acks ack hold hactive
    · exact hother
  | checkAckTimeouts now => exact h.checkAckTimeouts
  | checkSuspectTimeouts now =>
    refine h.of_same (SameNode.checkSuspectTimeouts engine) ?_
    exact h.entry.checkSuspectTimeouts fun _ halive hsuspect => nomatch halive.symm.trans hsuspect
  | gossip now rand =>
    obtain ⟨⟨_, hsent⟩, -⟩ := gossipToRandomPeers_sends now rand engine
    show SelfAlive myId (gossipToRandomPeers now rand engine).1
    rw [hsent]
    exact ⟨h.node, h.entry.of_view rfl, h.acks⟩
  | setCallback => exact ⟨h.node, h.entry.of_view rfl, h.acks⟩

end SelfAlive

/-- A node that is started stays ALIVE in its own view as long as no message
reports it otherwise. -/
theorem self_stays_alive (hinit : clusterViewInit capacity = some sharedView)
    {actions : List GossipAction}
    (hleaves : Runs.Meets GossipEngine.step LeavesSelfAlive
      (membershipInit now myId myType bindAddr gossipPort dataPort sharedView) actions) (i : Nat) :
    let engine := (membershipInit now myId myType bindAddr gossipPort dataPort sharedView).run
      (actions.take i)
    engine.myId = myId ∧
      ∃ self, clusterViewGet engine.view myId = some self ∧ self.status = .alive := by
  intro engine
  have hself : SelfAlive myId engine := Runs.invariant (fun _ _ => SelfAlive.step)
    (SelfAlive.membershipInit now myId myType bindAddr gossipPort dataPort hinit) hleaves i
  exact ⟨hself.node, hself.node ▸ hself.entry⟩

def toldAlive : List GossipAction :=
  [arrival (messageOf 2 gossipMsgPing [newsOf 1 .alive 1]), .checkAckTimeouts 1000]

theorem toldAlive_leaves : Runs.Meets GossipEngine.step LeavesSelfAlive firstRouter toldAlive := by
  refine ⟨fun _ self hget => ⟨fun _ => ?_, fun hdead => absurd hdead (by decide)⟩, trivial, trivial⟩
  have hread : (messageOf 2 gossipMsgPing [newsOf 1 .alive 1]).readUpdates (fun _ => .zero) =
      [newsOf 1 .alive 1] := by decide
  rw [hread]
  unfold SparesSelf
  split_ifs
  · exact ⟨rfl, trivial⟩
  · trivial

theorem self_stays_alive_told :
    let engine := firstRouter.run (toldAlive.take 2)
    engine.myId = 1 ∧ ∃ self, clusterViewGet engine.view 1 = some self ∧ self.status = .alive :=
  self_stays_alive (show clusterViewInit maxClusterNodes = some (.empty maxClusterNodes) from rfl)
    toldAlive_leaves 2

/-- The router has brought node 1 back under incarnation 1 and another node has
suspected it there; node 1 believes that report. -/
theorem self_suspected :
    ¬ ∀ i, ∃ self, clusterViewGet (firstRouter.run
        ([arrival (messageOf 2 gossipMsgPing [newsOf 1 .suspect 1])].take i)).view
          firstRouter.myId = some self ∧ self.status = .alive := by
  intro h
  obtain ⟨self, hget, halive⟩ := h 1
  have hsuspect : (clusterViewGet (firstRouter.run
      ([arrival (messageOf 2 gossipMsgPing [newsOf 1 .suspect 1])].take 1)).view
        firstRouter.myId).map ClusterMember.status = some .suspect := by decide +kernel
  rw [hget, Option.map_some, halive] at hsuspect
  cases hsuspect

end Roole
