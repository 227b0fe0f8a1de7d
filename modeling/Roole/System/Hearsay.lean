import Roole.Gossip.AntiEntropy
import Roole.Gossip.Leaving
import Roole.Gossip.TurnRest
import Roole.System.GossipNetwork

/-!
# What is said about the nodes

The views, the queues and the messages of a cluster hold nothing but what some
node has said before. Whatever set of statements contains what the nodes say of
themselves and of each other, and is closed under what the handlers make of
them, therefore contains everything that is ever said.
-/

namespace Roole

open Network

/-- Which descriptions and which standings of nodes are true, and which sequence
numbers nodes leave with. -/
structure Facts where
  describes : NodeId → NodeType → UInt16 → UInt16 → Prop
  stands : NodeId → NodeStatus → UInt64 → Prop
  leaves : NodeId → UInt64 → Prop

def HoldsDead (engine : GossipEngine) (nodeId : NodeId) : Prop :=
  ∃ entry, clusterViewGet engine.view nodeId = some entry ∧ entry.status = .dead

def overdueMember (now : UInt64) (engine : GossipEngine) (i : Nat) : Option ClusterMember :=
  engine.pendingAcks[i]?.bind fun ack =>
    if ack.active = true ∧ now - ack.pingSentMs > engine.config.ackTimeoutMs.toUInt64 then
      (clusterViewGet engine.view ack.targetNode).filter (·.status == .alive)
    else none

def timedOut (now : UInt64) (engine : GossipEngine) (i : Nat) : Option ClusterMember :=
  engine.view.members[i]?.filter fun member => member.status == .suspect &&
    decide (now - member.lastSeenMs > engine.config.deadTimeoutMs.toUInt64)

-- ----------------------------------------------------------------------------
-- Statements
-- ----------------------------------------------------------------------------

namespace Facts

structure Update (facts : Facts) (update : GossipMemberUpdate) : Prop where
  describes : facts.describes update.nodeId update.nodeType update.gossipPort update.dataPort
  stands : facts.stands update.nodeId update.status update.incarnation

structure Member (facts : Facts) (member : ClusterMember) : Prop where
  describes : facts.describes member.nodeId member.nodeType member.gossipPort member.dataPort
  stands : facts.stands member.nodeId member.status member.incarnation

structure Effect (facts : Facts) (now : UInt64) (view : ClusterView) (effect : TurnEffect) :
    Prop where
  written : ∀ entry, effect.call.written now view = some entry → facts.Member entry
  queued : ∀ update ∈ effect.updates, facts.Update update

structure Engine (facts : Facts) (engine : GossipEngine) : Prop where
  entries : ∀ nodeId entry, clusterViewGet engine.view nodeId = some entry → facts.Member entry
  queue : ∀ update ∈ engine.updateQueue.toList, facts.Update update
  acks : ∀ ack ∈ engine.pendingAcks, ack.active = true → Knows engine ack.targetNode

variable {facts : Facts} {engine : GossipEngine} {turn : TimedTurn} {now : UInt64}

theorem Engine.after_turn (h : facts.Engine engine)
    (heffect : facts.Effect turn.1 engine.view (engine.turnEffect turn)) :
    facts.Engine (engine.turn turn) where
  entries := by
    rw [(turn_does engine turn).view]
    exact (forall_entries_apply h.entries).mpr heffect.written
  queue update hmem := by
    rcases turn_queues engine turn update hmem with hqueued | hnew
    · exact h.queue update hqueued
    · exact heffect.queued update hnew
  acks ack hmem hactive := by
    rcases mem_turn_acks_known hmem hactive with hold | hknown
    · exact (h.acks ack hold hactive).turn turn
    · exact hknown.turn turn

-- ----------------------------------------------------------------------------
-- The effects of handling a message
-- ----------------------------------------------------------------------------

/-- What every node may say of itself, and what the handlers of a message make of
what they are told. -/
structure Closed (facts : Facts) (nodes : ι → GossipNode) : Prop where
  self : ∀ i, facts.describes (nodes i).nodeId (nodes i).nodeType (nodes i).gossipPort
    (nodes i).dataPort
  worker : ∀ i, facts.describes (nodes i).nodeId .worker (nodes i).gossipPort (nodes i).dataPort
  alive : ∀ i, facts.stands (nodes i).nodeId .alive 0
  recovers : ∀ nodeId status incarnation, facts.stands nodeId status incarnation →
    facts.stands nodeId .alive incarnation
  rejoins : ∀ nodeId incarnation died, facts.stands nodeId .alive incarnation →
    facts.stands nodeId .dead died → died < incarnation →
      facts.stands nodeId .alive (incarnation + 1)
  leaves : ∀ nodeId sequenceNum, facts.leaves nodeId sequenceNum →
    facts.stands nodeId .dead sequenceNum

structure Message (facts : Facts) (msg : GossipMessage) : Prop where
  msgType : msg.msgType ≠ gossipMsgSuspect ∧ msg.msgType ≠ gossipMsgDead
  complete : msg.Complete
  stands : ∀ update ∈ msg.updates, facts.stands update.nodeId update.status update.incarnation
  describes : msg.msgType ≠ gossipMsgLeave → ∀ update ∈ msg.updates,
    facts.describes update.nodeId update.nodeType update.gossipPort update.dataPort
  leave : msg.msgType = gossipMsgLeave → facts.leaves msg.senderId msg.sequenceNum
  worker : msg.msgType = gossipMsgWorkerJoin → ∀ update ∈ msg.updates,
    update.nodeId = msg.senderId ∧ update.nodeType = .worker

section Handling

variable {update : GossipMemberUpdate} {msg : GossipMessage} {nodes : ι → GossipNode}

theorem Effect.nothing (facts : Facts) (now : UInt64) (view : ClusterView) :
    facts.Effect now view .nothing where
  written _ hwritten := nomatch hwritten
  queued _ hmem := nomatch hmem

theorem written_add {view : ClusterView} {member : ClusterMember} (hmember : facts.Member member)
    (hrejoin : ∀ existing, clusterViewGet view member.nodeId = some existing →
      member.status = .alive → existing.status = .dead →
        facts.stands member.nodeId .alive (member.incarnation + 1)) :
    ∀ entry, (ViewCall.add member).written now view = some entry → facts.Member entry := by
  intro entry hwritten
  unfold ViewCall.written at hwritten
  dsimp only at hwritten
  split at hwritten
  · split_ifs at hwritten
    cases hwritten
    exact ⟨hmember.describes, hmember.stands⟩
  · rename_i existing hget
    split_ifs at hwritten with hdied
    · cases hwritten
      refine ⟨hmember.describes, ?_⟩
      have halive := hrejoin existing hget hdied.1 hdied.2
      exact hdied.1 ▸ halive
    · cases hwritten
      exact ⟨hmember.describes, hmember.stands⟩

theorem Engine.written_updateStatus (h : facts.Engine engine) {nodeId : NodeId}
    {status : NodeStatus} {incarnation : UInt64}
    (hstands : facts.stands nodeId status incarnation) :
    ∀ entry, (ViewCall.updateStatus nodeId status incarnation).written now engine.view =
      some entry → facts.Member entry := by
  intro entry hwritten
  unfold ViewCall.written at hwritten
  dsimp only at hwritten
  split at hwritten
  · cases hwritten
  · rename_i existing hget
    split_ifs at hwritten
    cases hwritten
    exact ⟨(h.entries nodeId existing hget).describes, (clusterViewGet_nodeId hget).symm ▸ hstands⟩

theorem Engine.entry_stands (h : facts.Engine engine) {nodeId : NodeId} {entry : ClusterMember}
    (hget : clusterViewGet engine.view nodeId = some entry) :
    facts.stands nodeId entry.status entry.incarnation :=
  clusterViewGet_nodeId hget ▸ (h.entries nodeId entry hget).stands

theorem Update.toMember (h : facts.Update update) :
    facts.Member (update.toMember now update.status) := ⟨h.describes, h.stands⟩

theorem Engine.pingUpdate (h : facts.Engine engine) (hclosed : facts.Closed nodes)
    (hupdate : facts.Update update) :
    facts.Effect now engine.view (.ofPingUpdate now engine update) := by
  unfold TurnEffect.ofPingUpdate
  cases hget : clusterViewGet engine.view update.nodeId with
  | none =>
    refine ⟨written_add hupdate.toMember fun existing hfound => ?_, ?_⟩
    · exact nomatch hget.symm.trans hfound
    · intro queued hmem
      obtain rfl := List.mem_singleton.mp hmem
      exact ⟨hupdate.describes, hupdate.stands⟩
  | some existing =>
    dsimp only
    split_ifs with hrejoin hnewer
    · have halive : facts.stands update.nodeId .alive update.incarnation :=
        hrejoin.1.2 ▸ hupdate.stands
      refine ⟨written_add ⟨hupdate.describes, halive⟩ fun held hfound _ hdied => ?_,
        fun _ hmem => nomatch hmem⟩
      cases hget.symm.trans hfound
      have hstands := h.entry_stands hget
      rw [hdied] at hstands
      exact hclosed.rejoins _ _ _ halive hstands hrejoin.2
    · exact ⟨h.written_updateStatus hupdate.stands, fun _ hmem => nomatch hmem⟩
    · exact Effect.nothing facts now engine.view

theorem Engine.ackSender (h : facts.Engine engine) (hclosed : facts.Closed nodes)
    (senderId : NodeId) : facts.Effect now engine.view (.ofAckSender engine senderId) := by
  unfold TurnEffect.ofAckSender
  cases hget : clusterViewGet engine.view senderId with
  | none => exact Effect.nothing facts now engine.view
  | some member =>
    dsimp only
    split_ifs
    · have hstands := hclosed.recovers _ _ _ (h.entry_stands hget)
      exact ⟨h.written_updateStatus hstands, fun _ hmem => nomatch hmem⟩
    · exact Effect.nothing facts now engine.view

theorem Engine.ackUpdate (h : facts.Engine engine) (hupdate : facts.Update update) :
    facts.Effect now engine.view (.ofAckUpdate now engine update) := by
  unfold TurnEffect.ofAckUpdate
  cases hget : clusterViewGet engine.view update.nodeId with
  | none =>
    refine ⟨written_add hupdate.toMember fun existing hfound => ?_, fun _ hmem => nomatch hmem⟩
    exact nomatch hget.symm.trans hfound
  | some existing =>
    dsimp only
    split_ifs
    · exact ⟨h.written_updateStatus hupdate.stands, fun _ hmem => nomatch hmem⟩
    · exact Effect.nothing facts now engine.view

theorem Engine.aliveUpdate (h : facts.Engine engine) (hclosed : facts.Closed nodes)
    (hupdate : facts.Update update) :
    facts.Effect now engine.view (.ofAliveUpdate engine update) := by
  unfold TurnEffect.ofAliveUpdate
  cases hget : clusterViewGet engine.view update.nodeId with
  | none => exact Effect.nothing facts now engine.view
  | some existing =>
    dsimp only
    split_ifs
    · refine ⟨h.written_updateStatus (hclosed.recovers _ _ _ hupdate.stands), fun queued hmem => ?_⟩
      obtain rfl := List.mem_singleton.mp hmem
      exact hupdate
    · exact Effect.nothing facts now engine.view

theorem Engine.join (hupdate : facts.Update update)
    (hrejoin : HoldsDead engine update.nodeId →
      facts.stands update.nodeId .alive (update.incarnation + 1))
    (halive : facts.stands update.nodeId .alive update.incarnation) (srcIp : List UInt8) :
    facts.Effect now engine.view (.ofJoin srcIp update) where
  written := by
    have hjoined : facts.Member (update.joined update.nodeType srcIp update.incarnation 0) :=
      ⟨hupdate.describes, halive⟩
    exact written_add hjoined fun existing hget _ hdied => hrejoin ⟨existing, hget, hdied⟩
  queued queued hmem := List.mem_singleton.mp hmem ▸ hupdate

theorem Engine.workerJoin (hdescribes : facts.describes update.nodeId .worker update.gossipPort
      update.dataPort) {senderId : NodeId}
    (halive : facts.stands update.nodeId .alive (announcedIncarnation engine senderId update))
    (hrejoin : HoldsDead engine update.nodeId → facts.stands update.nodeId .alive
      (announcedIncarnation engine senderId update + 1)) (srcIp : List UInt8) :
    facts.Effect now engine.view (.ofWorkerJoin now srcIp engine senderId update) where
  written := by
    have hjoined : facts.Member (update.joined .worker srcIp
        (announcedIncarnation engine senderId update) now) := ⟨hdescribes, halive⟩
    exact written_add hjoined fun existing hget _ hdied => hrejoin ⟨existing, hget, hdied⟩
  queued queued hmem := by
    obtain ⟨-, rfl⟩ := List.mem_replicate.mp hmem
    exact ⟨hdescribes, halive⟩

theorem Engine.checkAck (h : facts.Engine engine) (i : Nat)
    (hsuspects : ∀ member ∈ overdueMember now engine i,
      facts.describes member.nodeId .unknown 0 0 ∧
        facts.stands member.nodeId .suspect member.incarnation) :
    facts.Effect now engine.view (.ofCheckAck now engine i) := by
  unfold TurnEffect.ofCheckAck
  unfold overdueMember at hsuspects
  cases hslot : engine.pendingAcks[i]? with
  | none => exact Effect.nothing facts now engine.view
  | some ack =>
    rw [hslot, Option.bind_some] at hsuspects
    dsimp only
    split_ifs with hover hstatus
    · rw [if_pos hover] at hsuspects
      obtain ⟨member, hget⟩ := h.acks ack (List.mem_of_getElem? hslot) hover.1
      rw [hget] at hstatus hsuspects ⊢
      have halive : member.status = .alive := hstatus
      obtain ⟨hdescribes, hstands⟩ := hsuspects member (by simp [halive])
      rw [clusterViewGet_nodeId hget] at hdescribes hstands
      refine ⟨h.written_updateStatus hstands, fun queued hmem => ?_⟩
      obtain rfl := List.mem_singleton.mp hmem
      exact ⟨hdescribes, hstands⟩
    · exact Effect.nothing facts now engine.view
    · exact Effect.nothing facts now engine.view

theorem Engine.members (h : facts.Engine engine) {member : ClusterMember}
    (hmem : member ∈ engine.view.members) : facts.Member member :=
  h.entries member.nodeId member (clusterViewGet_of_mem hmem)

theorem Engine.checkSuspect (h : facts.Engine engine) (i : Nat)
    (hdies : ∀ member ∈ timedOut now engine i,
      facts.stands member.nodeId .dead member.incarnation) :
    facts.Effect now engine.view (.ofCheckSuspect now engine i) := by
  unfold TurnEffect.ofCheckSuspect
  unfold timedOut at hdies
  cases hplace : engine.view.members[i]? with
  | none => exact Effect.nothing facts now engine.view
  | some member =>
    rw [hplace] at hdies
    dsimp only
    split_ifs with hover
    · have hstands := hdies member (by simp [hover.1, hover.2])
      refine ⟨h.written_updateStatus hstands, fun queued hmem => ?_⟩
      obtain rfl := List.mem_singleton.mp hmem
      exact ⟨(h.members (List.mem_of_getElem? hplace)).describes, hstands⟩
    · exact Effect.nothing facts now engine.view

/-- What a node that enters a node, finds one timed out or announces itself
says beyond what it was told. -/
def Says (facts : Facts) (engine : GossipEngine) : TimedTurn → Prop
  | (_, .join _ update) => HoldsDead engine update.nodeId →
      facts.stands update.nodeId .alive (update.incarnation + 1)
  | (_, .workerJoin _ senderId update) =>
    facts.stands update.nodeId .alive (announcedIncarnation engine senderId update) ∧
      (HoldsDead engine update.nodeId → facts.stands update.nodeId .alive
        (announcedIncarnation engine senderId update + 1))
  | (now, .checkAck i) => ∀ member ∈ overdueMember now engine i,
      facts.describes member.nodeId .unknown 0 0 ∧
        facts.stands member.nodeId .suspect member.incarnation
  | (now, .checkSuspect i) => ∀ member ∈ timedOut now engine i,
      facts.stands member.nodeId .dead member.incarnation
  | (_, .announceJoin) => HoldsDead engine engine.myId →
      facts.stands engine.myId .alive (engine.incarnation + 1)
  | _ => True

theorem Message.of_read (h : facts.Message msg) (htype : msg.msgType ≠ gossipMsgLeave)
    (hmem : update ∈ msg.readUpdates past) : facts.Update update := by
  rw [h.complete.readUpdates past] at hmem
  exact ⟨h.describes htype update hmem, h.stands update hmem⟩

theorem Message.of_workerJoin (h : facts.Message msg)
    (hworker : msg.msgType = gossipMsgWorkerJoin) (hcount : msg.numUpdates > 0)
    (past : Nat → GossipMemberUpdate) :
    facts.Update (msg.update past 0) ∧ (msg.update past 0).nodeId = msg.senderId ∧
      (msg.update past 0).nodeType = .worker := by
  have hread : msg.update past 0 ∈ msg.readUpdates past :=
    List.mem_map.mpr ⟨0, List.mem_range.mpr (UInt8.lt_iff_toNat_lt.mp hcount), rfl⟩
  refine ⟨h.of_read (by rw [hworker]; decide) hread, ?_⟩
  rw [h.complete.readUpdates past] at hread
  exact h.worker hworker _ hread

/-- The handling of a true message tells the truth. -/
theorem Engine.dispatch (h : facts.Engine engine) (hclosed : facts.Closed nodes)
    (hmsg : facts.Message msg) (hturn : Dispatched now past srcIp msg turn)
    (hturned : facts.Says engine turn) :
    facts.Effect turn.1 engine.view (engine.turnEffect turn) ∧
      ∀ update, turn.2 ≠ .suspectUpdate update := by
  cases hturn with
  | pingUpdate htype hmem =>
    have htold := hmsg.of_read (by rw [htype]; decide) hmem
    exact ⟨h.pingUpdate hclosed htold, fun _ => nofun⟩
  | ackSender htype => exact ⟨h.ackSender hclosed msg.senderId, fun _ => nofun⟩
  | ackUpdate htype hmem =>
    have htold := hmsg.of_read (by rw [htype]; decide) hmem
    exact ⟨h.ackUpdate htold, fun _ => nofun⟩
  | suspectUpdate htype hmem => exact absurd htype hmsg.msgType.1
  | aliveUpdate htype hmem =>
    have htold := hmsg.of_read (by rw [htype]; decide) hmem
    exact ⟨h.aliveUpdate hclosed htold, fun _ => nofun⟩
  | deadUpdate htype hmem => exact absurd htype hmsg.msgType.2
  | join htype hmem hself =>
    have htold := hmsg.of_read (by rw [htype]; decide) hmem
    exact ⟨Engine.join htold hturned (hclosed.recovers _ _ _ htold.stands) srcIp, fun _ => nofun⟩
  | workerJoin htype hcount =>
    obtain ⟨htold, -, hworker⟩ := hmsg.of_workerJoin htype hcount past
    have hdescribes := htold.describes
    rw [hworker] at hdescribes
    exact ⟨Engine.workerJoin hdescribes hturned.1 hturned.2 srcIp, fun _ => nofun⟩
  | leave htype =>
    have hleft := hclosed.leaves _ _ (hmsg.leave htype)
    exact ⟨⟨h.written_updateStatus hleft, fun _ hmem => nomatch hmem⟩, fun _ => nofun⟩
  | numbered => exact ⟨Effect.nothing facts now engine.view, fun _ => nofun⟩

end Handling

-- ----------------------------------------------------------------------------
-- The messages that are sent
-- ----------------------------------------------------------------------------

def Datagram (facts : Facts) (datagram : List UInt8) : Prop :=
  ∀ msg, gossipMessageDeserialize datagram = some msg → facts.Message msg

section Sending

variable {update : GossipMemberUpdate} {msg : GossipMessage} {updates : List GossipMemberUpdate}

theorem Message.onWire (h : facts.Message msg) (hsendable : msg.Sendable) :
    facts.Message msg.onWire where
  msgType := h.msgType
  complete := hsendable.complete_onWire
  stands update hmem := by
    obtain ⟨told, htold, rfl⟩ := List.mem_map.mp hmem
    exact h.stands told htold
  describes htype update hmem := by
    obtain ⟨told, htold, rfl⟩ := List.mem_map.mp hmem
    exact h.describes htype told htold
  leave := h.leave
  worker htype update hmem := by
    obtain ⟨told, htold, rfl⟩ := List.mem_map.mp hmem
    exact h.worker htype told htold

theorem Message.sent (h : facts.Message msg) (hsendable : msg.Sendable) (ip : List UInt8)
    (port : UInt16) : ∀ datagram ∈ datagrams (msg.sendTo ip port).toList,
      facts.Datagram datagram := by
  obtain ⟨datagram, hsent, hdecoded⟩ := GossipMessage.sendTo_decoded hsendable ip port
  intro other hmem decoded hother
  rw [hsent] at hmem
  obtain rfl := List.mem_singleton.mp hmem
  cases hdecoded.symm.trans hother
  exact h.onWire hsendable

abbrev Plain (msgType : UInt8) : Prop :=
  msgType ∈ [gossipMsgPing, gossipMsgAck, gossipMsgAlive, gossipMsgJoin, gossipMsgJoinResponse]

theorem message_plain {msgType : UInt8} (hplain : Plain msgType)
    (hupdates : ∀ update ∈ updates, facts.Update update)
    (hlength : updates.length ≤ gossipMaxPiggybackUpdates) (engine : GossipEngine)
    (sequenceNum : UInt64) : facts.Message (engine.messageAt sequenceNum msgType updates) := by
  have hne : ∀ other ∉ [gossipMsgPing, gossipMsgAck, gossipMsgAlive, gossipMsgJoin,
      gossipMsgJoinResponse], msgType ≠ other := by
    rintro other hother rfl
    exact hother hplain
  have hsendable := messageAt_sendable engine sequenceNum msgType hlength
  exact {
    msgType := ⟨hne _ (by decide), hne _ (by decide)⟩
    complete := ⟨hsendable.counted, hsendable.bounded⟩
    stands := fun update hmem => (hupdates update hmem).stands
    describes := fun _ update hmem => (hupdates update hmem).describes
    leave := fun htype => absurd htype (hne _ (by decide))
    worker := fun htype => absurd htype (hne _ (by decide)) }

theorem sent_plain {msgType : UInt8} (hplain : Plain msgType)
    (hupdates : ∀ update ∈ updates, facts.Update update)
    (hlength : updates.length ≤ gossipMaxPiggybackUpdates) (engine : GossipEngine)
    (sequenceNum : UInt64) (ip : List UInt8) (port : UInt16) : ∀ datagram ∈
      datagrams ((engine.messageAt sequenceNum msgType updates).sendTo ip port).toList,
        facts.Datagram datagram :=
  (message_plain hplain hupdates hlength engine sequenceNum).sent
    (messageAt_sendable engine sequenceNum msgType hlength) ip port

theorem Engine.clusterStateUpdates (h : facts.Engine engine) :
    ∀ update ∈ clusterStateUpdates now engine, facts.Update update := by
  intro update hmem
  obtain ⟨member, hmember, rfl⟩ := List.mem_map.mp hmem
  have htrue := h.members (List.mem_of_mem_take (List.mem_of_mem_filter hmember))
  exact ⟨htrue.describes, htrue.stands⟩

theorem Engine.gossipStateUpdates (h : facts.Engine engine) :
    ∀ update ∈ gossipStateUpdates now engine, facts.Update update := by
  intro update hmem
  obtain ⟨member, hmember, rfl⟩ := List.mem_map.mp hmem
  have htrue := h.members (List.mem_of_mem_take (List.mem_of_mem_filter hmember))
  exact ⟨htrue.describes, htrue.stands⟩

theorem clusterStateUpdates_length_le (now : UInt64) (engine : GossipEngine) :
    (Roole.clusterStateUpdates now engine).length ≤ gossipMaxPiggybackUpdates := by
  unfold Roole.clusterStateUpdates
  rw [List.length_map]
  exact (List.length_filter_le _ _).trans (List.length_take_le _ _)

theorem Engine.answered (h : facts.Engine engine) (srcIp : List UInt8) (srcPort : UInt16)
    (msgType : UInt8) : ∀ datagram ∈ datagrams (listenerAnswer now srcIp srcPort engine msgType),
      facts.Datagram datagram := by
  unfold listenerAnswer
  split_ifs
  · exact sent_plain (by decide) h.clusterStateUpdates (clusterStateUpdates_length_le now engine)
      engine engine.sequenceNum srcIp srcPort
  · intro datagram hmem msg hdecoded
    rw [joinResponse_eq] at hmem
    obtain rfl := List.mem_singleton.mp hmem
    cases (gossipMessageDeserialize_response engine _).symm.trans hdecoded
    exact message_plain (by decide) (by simp) (Nat.zero_le _) engine engine.sequenceNum

theorem immediateGossip_message {peer : ClusterMember} {announcement : GossipMemberUpdate}
    (h : (peer, msg) ∈ immediateGossip engine announcement) :
    ∃ sequenceNum, msg = engine.messageAt sequenceNum gossipMsgAlive [announcement] := by
  obtain ⟨⟨member, i⟩, -, heq⟩ := List.mem_map.mp h
  exact ⟨_, (congrArg Prod.snd heq).symm⟩

theorem joinWorker_sent {srcIp : List UInt8} {senderId : NodeId}
    (h : facts.Effect now engine.view (.ofWorkerJoin now srcIp engine senderId update)) :
    ∀ datagram ∈ datagrams (joinWorker now srcIp engine senderId update).2,
      facts.Datagram datagram := by
  intro datagram hmem
  obtain ⟨effect, heffect, hdatagram⟩ := List.mem_filterMap.mp hmem
  rcases List.mem_cons.mp heffect with rfl | heffect
  · cases hdatagram
  · obtain ⟨⟨peer, msg⟩, hgossip, hsent⟩ := List.mem_filterMap.mp heffect
    obtain ⟨sequenceNum, rfl⟩ := immediateGossip_message hgossip
    have hannounced : facts.Update (joinAnnouncement now srcIp
        (announcedIncarnation engine senderId update) update) := by
      refine h.queued _ (List.mem_replicate.mpr ⟨?_, rfl⟩)
      split_ifs <;> decide
    have hplain : Plain gossipMsgAlive := by decide
    exact sent_plain hplain (fun told htold => List.mem_singleton.mp htold ▸ hannounced)
      (Nat.le_of_ble_eq_true rfl) _ sequenceNum peer.ipAddress peer.gossipPort datagram
      (List.mem_filterMap.mpr ⟨effect, Option.mem_toList.mpr hsent, hdatagram⟩)

theorem Engine.turnSends (h : facts.Engine engine)
    (heffect : facts.Effect turn.1 engine.view (engine.turnEffect turn)) (srcIp : List UInt8)
    (srcPort : UInt16) (msgType : UInt8) :
    ∀ datagram ∈ datagrams (turnSends srcIp srcPort msgType engine turn),
      facts.Datagram datagram := by
  obtain ⟨now, turn⟩ := turn
  cases turn with
  | numbered => exact h.answered srcIp srcPort msgType
  | workerJoin ip senderId update => exact joinWorker_sent heffect
  | _ => exact fun _ hmem => nomatch hmem

theorem mem_datagrams_sendTo {ip : List UInt8} {port : UInt16} {datagram : List UInt8}
    (h : gossipMessageSerialize msg gossipMaxPayloadSize = some datagram) :
    datagram ∈ datagrams (msg.sendTo ip port).toList := by
  simp [GossipMessage.sendTo, h, datagrams, GossipEffect.datagram]

theorem sendPingToNode_sent (hmem : datagram ∈ (sendPingToNode now sent engine target).2.2) :
    ∃ updates, ((∃ n, updates = engine.updateQueue.toList.take n ∧
        n = engine.config.maxPiggyback.toNat) ∨ updates = Roole.clusterStateUpdates now engine) ∧
      gossipMessageSerialize (engine.messageAt engine.sequenceNum gossipMsgPing updates)
        gossipMaxPayloadSize = some datagram := by
  unfold sendPingToNode at hmem
  split at hmem
  · cases hmem
  · dsimp only at hmem
    split at hmem
    · cases hmem
    · rename_i bytes hbytes
      split_ifs at hmem <;> cases hmem
      split_ifs at hbytes
      · exact ⟨_, .inr rfl, hbytes⟩
      · exact ⟨_, .inl ⟨_, (RingBuffer.popBatch_eq _ _).1, rfl⟩, hbytes⟩

theorem Engine.pinged (h : facts.Engine engine) (hconfig : engine.config = gossipDefaultConfig)
    (now : UInt64) (sent : Bool) (target : NodeId) :
    ∀ datagram ∈ (sendPingToNode now sent engine target).2.2.toList,
      facts.Datagram datagram := by
  intro datagram hmem
  obtain ⟨updates, hupdates, hbytes⟩ := sendPingToNode_sent (Option.mem_toList.mp hmem)
  have htold : (∀ update ∈ updates, facts.Update update) ∧
      updates.length ≤ gossipMaxPiggybackUpdates := by
    rcases hupdates with ⟨n, rfl, rfl⟩ | rfl
    · refine ⟨fun update hmem => h.queue update (List.mem_of_mem_take hmem), ?_⟩
      rw [hconfig]
      exact List.length_take_le _ _
    · exact ⟨h.clusterStateUpdates, clusterStateUpdates_length_le now engine⟩
  exact sent_plain (by decide) htold.1 htold.2 engine engine.sequenceNum [] 0 datagram
    (mem_datagrams_sendTo hbytes)

theorem Engine.gossiped (h : facts.Engine engine) (hconfig : engine.config = gossipDefaultConfig)
    (now : UInt64) (rand : Nat → Nat) (peers : List NodeId) (i : Nat) :
    ∀ datagram ∈ datagrams (gossipToPeer now rand (engine, peers, []) i).2.2,
      facts.Datagram datagram := by
  unfold gossipToPeer
  dsimp only
  split
  · exact fun _ hmem => nomatch hmem
  · have hlength := gossipStateUpdates_length_le now engine
    rw [hconfig] at hlength
    exact sent_plain (by decide) h.gossipStateUpdates hlength engine engine.sequenceNum _ _

end Sending

-- ----------------------------------------------------------------------------
-- Nodes
-- ----------------------------------------------------------------------------

structure Node (facts : Facts) (node : GossipNode) (engine : GossipEngine) : Prop where
  holds : facts.Engine engine
  identity : SameIdentity (node.start 0) engine
  config : engine.config = gossipDefaultConfig

variable {nodes : ι → GossipNode} {i : ι} {action : NodeAction}

theorem Node.self (h : facts.Node (nodes i) engine) (hclosed : facts.Closed nodes) :
    facts.describes engine.myId engine.myType engine.gossipPort engine.dataPort ∧
      facts.stands engine.myId .alive engine.incarnation := by
  obtain ⟨hid, htype, hgossip, hdata, hincarnation⟩ := h.identity
  rw [hid, htype, hgossip, hdata, hincarnation]
  exact ⟨hclosed.self i, hclosed.alive i⟩

theorem Node.after_turn (h : facts.Node (nodes i) engine)
    (heffect : facts.Effect turn.1 engine.view (engine.turnEffect turn))
    (hsuspect : ∀ update, turn.2 ≠ .suspectUpdate update) :
    facts.Node (nodes i) (engine.turn turn) where
  holds := h.holds.after_turn heffect
  identity := by
    obtain ⟨hid, htype, hgossip, hdata, hincarnation⟩ := turn_identity engine hsuspect
    exact ⟨hid.trans h.identity.myId, htype.trans h.identity.myType,
      hgossip.trans h.identity.gossipPort, hdata.trans h.identity.dataPort,
      hincarnation.trans h.identity.incarnation⟩
  config := (turn_config engine turn).trans h.config

theorem Node.start (hclosed : facts.Closed nodes) (i : ι) (now : UInt64) :
    facts.Node (nodes i) ((nodes i).start now) where
  holds := by
    have hself : facts.Member (selfMember now (nodes i).nodeId (nodes i).nodeType
        (nodes i).bindAddr (nodes i).gossipPort (nodes i).dataPort) :=
      ⟨hclosed.self i, hclosed.alive i⟩
    refine ⟨?_, (fun _ hmem => nomatch hmem), fun ack hmem hactive => ?_⟩
    · have hempty : ∀ nodeId, clusterViewGet (.empty (nodes i).capacity) nodeId = none :=
        fun _ => rfl
      refine (forall_entries_apply fun nodeId entry hget => ?_).mpr
        (written_add hself fun entry hget => ?_)
      · cases (hempty nodeId).symm.trans hget
      · cases (hempty _).symm.trans hget
    · obtain ⟨-, rfl⟩ := List.mem_replicate.mp hmem
      cases hactive
  identity := ⟨rfl, rfl, rfl, rfl, rfl⟩
  config := rfl

end Facts

-- ----------------------------------------------------------------------------
-- The actions of a node
-- ----------------------------------------------------------------------------

def NodeAction.turn (engine : GossipEngine) : NodeAction → Option TimedTurn
  | .handle now past srcIp _ datagram i => (listenerTurns now past srcIp engine datagram)[i]?
  | .updateSelf now => some (now, .updateSelf)
  | .ping now random sent => some (now, .ping random sent)
  | .checkAck now i => some (now, .checkAck i)
  | .checkSuspect now i => some (now, .checkSuspect i)
  | .gossip now rand peers i =>
    let peers := swapPeers peers i (i + rand i % (peers.length - i))
    (clusterViewGet engine.view (peers.getD i 0)).map fun _ => (now, .numbered)
  | .addSeed now _ _ | .leave now => some (now, .numbered)
  | .announceJoin now => some (now, .announceJoin)
  | .setCallback => some (0, .setCallback)
  | .bootstrap .. | .restart _ => none

inductive OwnTurn : NodeAction → TimedTurn → Prop
  | updateSelf : OwnTurn (.updateSelf now) (now, .updateSelf)
  | ping : OwnTurn (.ping now random sent) (now, .ping random sent)
  | checkAck : OwnTurn (.checkAck now i) (now, .checkAck i)
  | checkSuspect : OwnTurn (.checkSuspect now i) (now, .checkSuspect i)
  | gossip : OwnTurn (.gossip now rand peers i) (now, .numbered)
  | addSeed : OwnTurn (.addSeed now ip port) (now, .numbered)
  | announceJoin : OwnTurn (.announceJoin now) (now, .announceJoin)
  | leave : OwnTurn (.leave now) (now, .numbered)
  | setCallback : OwnTurn .setCallback (0, .setCallback)

theorem turn_cases {action : NodeAction} (hturn : turn ∈ action.turn engine) :
    (∃ datagram ∈ action.reads, ∃ msg, gossipMessageDeserialize datagram = some msg ∧
      msg.senderId ≠ engine.myId ∧ ∃ now past srcIp, Dispatched now past srcIp msg turn) ∨
    OwnTurn action turn := by
  cases action with
  | handle now past srcIp srcPort datagram i =>
    obtain ⟨msg, hdecoded, hother, hdispatched⟩ :=
      dispatched_of_listener (List.mem_of_getElem? hturn)
    exact .inl ⟨datagram, List.mem_singleton.mpr rfl, msg, hdecoded, hother, now, past, srcIp,
      hdispatched⟩
  | gossip now rand peers i =>
    obtain ⟨_, -, rfl⟩ := Option.map_eq_some_iff.mp hturn
    exact .inr .gossip
  | bootstrap now ip port => cases hturn
  | restart now => cases hturn
  | _ =>
    cases hturn
    exact .inr (by constructor)

theorem checkAck_of_turn {action : NodeAction} (hturn : (now, .checkAck i) ∈ action.turn engine) :
    action = .checkAck now i := by
  rcases turn_cases hturn with ⟨_, -, _, -, -, _, _, _, hdispatched⟩ | hown
  · cases hdispatched
  · cases hown
    rfl

theorem checkSuspect_of_turn {action : NodeAction}
    (hturn : (now, .checkSuspect i) ∈ action.turn engine) : action = .checkSuspect now i := by
  rcases turn_cases hturn with ⟨_, -, _, -, -, _, _, _, hdispatched⟩ | hown
  · cases hdispatched
  · cases hown
    rfl

theorem act_turn (node : GossipNode) (engine : GossipEngine) {action : NodeAction}
    (hrunning : ∀ now, action ≠ .restart now) :
    (node.act engine action).1 = ((action.turn engine).map engine.turn).getD engine := by
  cases action with
  | handle now past srcIp srcPort datagram i =>
    unfold GossipNode.act NodeAction.turn
    dsimp only
    cases (listenerTurns now past srcIp engine datagram)[i]? <;> rfl
  | ping now random sent =>
    unfold GossipNode.act NodeAction.turn
    simp only [Option.map_some, Option.getD_some, GossipEngine.turn, pingRandomPeer]
    split_ifs <;> rfl
  | gossip now rand peers i =>
    unfold GossipNode.act NodeAction.turn gossipToPeer
    dsimp only
    cases clusterViewGet engine.view _ <;> rfl
  | restart now => exact absurd rfl (hrunning now)
  | _ => rfl

namespace Facts

variable {facts : Facts} {engine : GossipEngine} {nodes : ι → GossipNode} {i : ι}
  {action : NodeAction}

/-- What an action says beyond what it was told is true. -/
structure Tells (facts : Facts) (engine : GossipEngine) (action : NodeAction) : Prop where
  turn : ∀ turn ∈ action.turn engine, facts.Says engine turn
  leave : ∀ now, action = .leave now → facts.leaves engine.myId engine.sequenceNum ∧
    facts.stands engine.myId .dead engine.incarnation

/-- The turn of an action tells the truth. -/
theorem Node.effect (h : facts.Node (nodes i) engine) (hclosed : facts.Closed nodes)
    (htells : facts.Tells engine action)
    (hreads : ∀ datagram ∈ action.reads, facts.Datagram datagram)
    (hturn : turn ∈ action.turn engine) :
    facts.Effect turn.1 engine.view (engine.turnEffect turn) ∧
      ∀ update, turn.2 ≠ .suspectUpdate update := by
  have hturned := htells.turn turn hturn
  rcases turn_cases hturn with ⟨datagram, hread, msg, hdecoded, -, _, _, _, hdispatched⟩ | hown
  · exact h.holds.dispatch hclosed (hreads datagram hread msg hdecoded) hdispatched hturned
  · cases hown with
    | updateSelf =>
      refine ⟨⟨fun entry hwritten => ?_, fun _ hmem => nomatch hmem⟩, fun _ => nofun⟩
      obtain ⟨existing, hget, rfl⟩ := Option.map_eq_some_iff.mp hwritten
      have hself := (h.self hclosed).2
      rw [← clusterViewGet_nodeId hget] at hself
      exact ⟨(h.holds.entries _ existing hget).describes, hself⟩
    | checkAck => exact ⟨h.holds.checkAck _ hturned, fun _ => nofun⟩
    | checkSuspect => exact ⟨h.holds.checkSuspect _ hturned, fun _ => nofun⟩
    | @announceJoin now =>
      obtain ⟨hdescribes, hstands⟩ := h.self hclosed
      have hself : facts.Member (engine.selfEntry now) := ⟨hdescribes, hstands⟩
      refine ⟨⟨written_add hself fun existing hget _ hdied => hturned ⟨existing, hget, hdied⟩,
        fun queued hmem => ?_⟩, fun _ => nofun⟩
      obtain ⟨-, rfl⟩ := List.mem_replicate.mp hmem
      exact ⟨hdescribes, hstands⟩
    | _ => exact ⟨Effect.nothing facts _ engine.view, fun _ => nofun⟩

theorem workerJoin_told (hreads : ∀ datagram ∈ action.reads, facts.Datagram datagram)
    (hturn : (now, .workerJoin ip senderId update) ∈ action.turn engine) :
    facts.Update update ∧ update.nodeId = senderId := by
  rcases turn_cases hturn with ⟨datagram, hread, msg, hdecoded, -, _, past, _, hdispatched⟩ | hown
  · cases hdispatched with
    | workerJoin htype hcount =>
      obtain ⟨htold, hid, -⟩ := (hreads datagram hread msg hdecoded).of_workerJoin htype hcount past
      exact ⟨htold, hid⟩
  · cases hown

theorem Node.after_act (h : facts.Node (nodes i) engine) (hclosed : facts.Closed nodes)
    (htells : facts.Tells engine action)
    (hreads : ∀ datagram ∈ action.reads, facts.Datagram datagram) :
    facts.Node (nodes i) ((nodes i).act engine action).1 := by
  by_cases hrestart : ∃ now, action = .restart now
  · obtain ⟨now, rfl⟩ := hrestart
    exact Node.start hclosed i now
  · rw [act_turn _ _ fun now heq => hrestart ⟨now, heq⟩]
    cases hturn : action.turn engine with
    | none => exact h
    | some turn =>
      obtain ⟨heffect, hsuspect⟩ := h.effect hclosed htells hreads hturn
      exact h.after_turn heffect hsuspect

theorem selfUpdate_update (h : facts.Node (nodes i) engine) (hclosed : facts.Closed nodes)
    (now : UInt64) : facts.Update (engine.selfUpdate now) :=
  ⟨(h.self hclosed).1, (h.self hclosed).2⟩

theorem leaveMessage_message (htells : facts.Tells engine (.leave now)) :
    facts.Message (engine.leaveMessage now) where
  msgType := (by decide : gossipMsgLeave ≠ gossipMsgSuspect ∧ gossipMsgLeave ≠ gossipMsgDead)
  complete := ⟨rfl, Nat.le_of_ble_eq_true rfl⟩
  stands update hmem := List.mem_singleton.mp hmem ▸ (htells.leave now rfl).2
  describes htype := absurd rfl htype
  leave _ := (htells.leave now rfl).1
  worker htype := absurd htype (by decide : gossipMsgLeave ≠ gossipMsgWorkerJoin)

theorem joinMessage_message (hclosed : facts.Closed nodes) (i : ι) (now : UInt64) :
    facts.Message ((nodes i).joinMessage now) where
  msgType := (by decide :
    gossipMsgWorkerJoin ≠ gossipMsgSuspect ∧ gossipMsgWorkerJoin ≠ gossipMsgDead)
  complete := ⟨rfl, Nat.le_of_ble_eq_true rfl⟩
  stands update hmem := List.mem_singleton.mp hmem ▸ hclosed.alive i
  describes _ update hmem := List.mem_singleton.mp hmem ▸ hclosed.worker i
  leave htype := absurd htype (by decide : gossipMsgWorkerJoin ≠ gossipMsgLeave)
  worker _ update hmem := List.mem_singleton.mp hmem ▸ ⟨rfl, rfl⟩

/-- What an action sends is true. -/
theorem Node.act_sends (h : facts.Node (nodes i) engine) (hclosed : facts.Closed nodes)
    (htells : facts.Tells engine action)
    (hreads : ∀ datagram ∈ action.reads, facts.Datagram datagram) :
    ∀ datagram ∈ ((nodes i).act engine action).2, facts.Datagram datagram := by
  cases action with
  | handle now past srcIp srcPort datagram j =>
    unfold GossipNode.act
    dsimp only
    cases hturn : (listenerTurns now past srcIp engine datagram)[j]? with
    | none => exact fun _ hmem => nomatch hmem
    | some turn =>
      have heffect := (h.effect hclosed htells hreads hturn).1
      exact h.holds.turnSends heffect srcIp srcPort (datagramType datagram)
  | ping now random sent =>
    unfold GossipNode.act
    dsimp only
    split_ifs
    · exact h.holds.pinged h.config now sent _
    · exact fun _ hmem => nomatch hmem
  | gossip now rand peers j => exact h.holds.gossiped h.config now rand peers j
  | addSeed now ip port =>
    exact sent_plain (by decide)
      (fun _ hmem => List.mem_singleton.mp hmem ▸ selfUpdate_update h hclosed now)
      (Nat.le_of_ble_eq_true rfl) engine engine.sequenceNum ip port
  | leave now =>
    intro datagram hmem
    obtain ⟨effect, heffect, hdatagram⟩ := List.mem_filterMap.mp hmem
    obtain ⟨member, -, hsent⟩ := List.mem_filterMap.mp heffect
    exact (leaveMessage_message htells).sent (leaveMessage_sendable now engine) member.ipAddress
      member.gossipPort datagram
      (List.mem_filterMap.mpr ⟨effect, Option.mem_toList.mpr hsent, hdatagram⟩)
  | bootstrap now ip port =>
    exact (joinMessage_message hclosed i now).sent (joinMessage_sendable now _) ip port
  | _ => exact fun _ hmem => nomatch hmem

theorem facts_local (hclosed : facts.Closed nodes)
    {cond : ι → GossipEngine → NodeAction → Prop}
    (htells : ∀ i engine action, facts.Node (nodes i) engine → cond i engine action →
      (∀ datagram ∈ action.reads, facts.Datagram datagram) → facts.Tells engine action) :
    (gossipProtocol nodes).Local (fun i => facts.Node (nodes i)) facts.Datagram cond := by
  intro i engine action hnode hcond hreads
  have htells' := htells i engine action hnode hcond hreads
  exact ⟨hnode.after_act hclosed htells' hreads, hnode.act_sends hclosed htells' hreads⟩

end Facts

end Roole
