import Roole.Gossip.AntiEntropy
import Roole.Gossip.Dissemination

/-!
# The members in a piggyback list

An ACK, and a PING with nothing queued, carries the state of the view. The loop
over the view ends with its tenth entry, whatever stands in the ten.
-/

namespace Roole

-- ----------------------------------------------------------------------------
-- Filtering the front of a list
-- ----------------------------------------------------------------------------

theorem filter_front_length_iff (p : α → Bool) (items : List α) (n : Nat) :
    ((items.take n).filter p).length = min (items.filter p).length n ↔
      (∀ a ∈ items.drop n, p a = false) ∨ ∀ a ∈ items.take n, p a = true := by
  have hsplit : (items.filter p).length =
      ((items.take n).filter p).length + ((items.drop n).filter p).length := by
    rw [← List.length_append, ← List.filter_append, List.take_append_drop]
  have hfront := List.length_filter_le p (items.take n)
  have htake : (items.take n).length = min n items.length := List.length_take
  have hdrop := List.length_filter_le p (items.drop n)
  rw [List.length_drop] at hdrop
  have hnone : (∀ a ∈ items.drop n, p a = false) ↔ ((items.drop n).filter p).length = 0 := by
    simp [List.filter_eq_nil_iff]
  rw [hnone, ← List.length_filter_eq_length_iff]
  omega

-- ----------------------------------------------------------------------------
-- What a list should hold
-- ----------------------------------------------------------------------------

def GossipEngine.gossips (engine : GossipEngine) (member : ClusterMember) : Bool :=
  !(member.status == .dead || member.nodeId == engine.myId)

def GossipEngine.eligible (engine : GossipEngine) : List ClusterMember :=
  engine.view.members.filter engine.gossips

/-- All eligible members are in the list, or ten of them if there are more. -/
structure CarriesState (now : UInt64) (engine : GossipEngine)
    (updates : List GossipMemberUpdate) : Prop where
  all : engine.eligible.length ≤ gossipMaxPiggybackUpdates →
    updates.Perm (engine.eligible.map (·.gossip now))
  ten : gossipMaxPiggybackUpdates < engine.eligible.length → ∃ chosen : List ClusterMember,
    chosen.length = gossipMaxPiggybackUpdates ∧ chosen.Nodup ∧ chosen ⊆ engine.eligible ∧
      updates = chosen.map (·.gossip now)

def SendsState (now : UInt64) (engine : GossipEngine) (datagram : Option (List UInt8)) : Prop :=
  ∃ msg, datagram.bind gossipMessageDeserialize = some msg ∧ CarriesState now engine msg.updates

/-- No eligible member stands behind the tenth entry, or the first ten are all
eligible. -/
def EligibleInFront (engine : GossipEngine) : Prop :=
  (∀ member ∈ engine.view.members.drop gossipMaxPiggybackUpdates, engine.gossips member = false) ∨
    ∀ member ∈ engine.view.members.take gossipMaxPiggybackUpdates, engine.gossips member = true

instance (engine : GossipEngine) : Decidable (EligibleInFront engine) :=
  inferInstanceAs (Decidable (_ ∨ _))

-- ----------------------------------------------------------------------------
-- What it holds
-- ----------------------------------------------------------------------------

def GossipEngine.reached (engine : GossipEngine) : List ClusterMember :=
  (engine.view.members.take gossipMaxPiggybackUpdates).filter engine.gossips

theorem clusterStateUpdates_onWire (now : UInt64) (engine : GossipEngine) :
    (clusterStateUpdates now engine).map GossipMemberUpdate.onWire =
      engine.reached.map (·.gossip now) := by
  rw [clusterStateUpdates, List.map_map]
  rfl

theorem reached_length_le (engine : GossipEngine) :
    engine.reached.length ≤ gossipMaxPiggybackUpdates :=
  (List.length_filter_le _ _).trans (List.length_take_le _ _)

theorem reached_sublist (engine : GossipEngine) : engine.reached.Sublist engine.eligible :=
  (List.take_sublist _ _).filter _

theorem reached_nodup (engine : GossipEngine) : engine.reached.Nodup :=
  (engine.view.nodup.of_map _).sublist ((reached_sublist engine).trans List.filter_sublist)

theorem carriesState_reached_iff (now : UInt64) (engine : GossipEngine) :
    CarriesState now engine (engine.reached.map (·.gossip now)) ↔ EligibleInFront engine := by
  rw [EligibleInFront, ← filter_front_length_iff]
  show _ ↔ engine.reached.length = min engine.eligible.length gossipMaxPiggybackUpdates
  constructor
  · intro hcarries
    by_cases hfew : engine.eligible.length ≤ gossipMaxPiggybackUpdates
    · have hlength := (hcarries.all hfew).length_eq
      rw [List.length_map, List.length_map] at hlength
      rw [hlength, min_eq_left hfew]
    · obtain ⟨chosen, hten, -, -, heq⟩ := hcarries.ten (Nat.not_le.mp hfew)
      have hlength := congrArg List.length heq
      rw [List.length_map, List.length_map, hten] at hlength
      rw [hlength, min_eq_right (Nat.le_of_not_le hfew)]
  · intro hlength
    constructor
    · intro hfew
      rw [min_eq_left hfew] at hlength
      rw [(reached_sublist engine).eq_of_length hlength]
    · intro hmany
      rw [min_eq_right hmany.le] at hlength
      exact ⟨engine.reached, hlength, reached_nodup engine, (reached_sublist engine).subset, rfl⟩

theorem sendsState_iff (now sequenceNum : UInt64) (engine : GossipEngine) (msgType : UInt8) :
    SendsState now engine (gossipMessageSerialize
        (engine.messageAt sequenceNum msgType (clusterStateUpdates now engine))
        gossipMaxPayloadSize) ↔
      EligibleInFront engine := by
  have hlength : (clusterStateUpdates now engine).length ≤ gossipMaxPiggybackUpdates := by
    have hle := reached_length_le engine
    rwa [← List.length_map (·.gossip now), ← clusterStateUpdates_onWire, List.length_map] at hle
  have hsendable := messageAt_sendable engine sequenceNum msgType hlength
  have hfits : gossipHeaderSize + memberUpdateSize *
      (engine.messageAt sequenceNum msgType (clusterStateUpdates now engine)).updates.length ≤
        gossipMaxPayloadSize := by
    refine (Nat.add_le_add_left (Nat.mul_le_mul_left _ hlength) _).trans ?_
    decide
  rw [SendsState, gossipMessageSerialize_eq hsendable hfits, Option.bind_some,
    gossipMessage_roundTrip hsendable, ← carriesState_reached_iff now,
    ← clusterStateUpdates_onWire]
  simp only [Option.some.injEq, exists_eq_left']
  rfl

theorem handlePingMessage_sendsState_iff (now : UInt64) (past : Nat → GossipMemberUpdate)
    (engine : GossipEngine) (msg : GossipMessage) :
    SendsState now (handlePingMessage now past engine msg).1
        (handlePingMessage now past engine msg).2 ↔
      EligibleInFront (handlePingMessage now past engine msg).1 :=
  sendsState_iff now ((msg.readUpdates past).foldl (handlePingUpdate now) engine).sequenceNum
    (handlePingMessage now past engine msg).1 gossipMsgAck

theorem sendPingToNode_datagram
    (hsent : (sendPingToNode now sent engine target).2.2 = some datagram)
    (hqueued : (engine.updateQueue.popBatch engine.config.maxPiggyback.toNat).1 = []) :
    gossipMessageSerialize (engine.makeMessage gossipMsgPing (clusterStateUpdates now engine))
      gossipMaxPayloadSize = some datagram := by
  unfold sendPingToNode at hsent
  cases hget : clusterViewGet engine.view target with
  | none =>
    rw [hget] at hsent
    cases hsent
  | some _ =>
    rw [hget] at hsent
    dsimp only at hsent
    rw [hqueued] at hsent
    split at hsent
    · cases hsent
    case h_2 bytes hbytes =>
      cases sent with
      | false => cases hsent
      | true => exact hbytes.trans hsent

theorem sendPingToNode_sendsState_iff (hqueue : engine.updateQueue.toList = [])
    (hsent : (sendPingToNode now sent engine target).2.2 = some datagram) :
    SendsState now engine (some datagram) ↔ EligibleInFront engine := by
  have hqueued : (engine.updateQueue.popBatch engine.config.maxPiggyback.toNat).1 = [] := by
    rw [(RingBuffer.popBatch_eq _ _).1, hqueue, List.take_nil]
  rw [← sendPingToNode_datagram hsent hqueued]
  exact sendsState_iff now engine.sequenceNum engine gossipMsgPing

/-- Both kinds of messages carry the state of the view exactly if the eligible
members are not crowded out of the first ten entries. -/
theorem piggyback_carriesState_iff (now : UInt64) (engine : GossipEngine) :
    (∀ past msg, SendsState now (handlePingMessage now past engine msg).1
        (handlePingMessage now past engine msg).2 ↔
      EligibleInFront (handlePingMessage now past engine msg).1) ∧
    ∀ sent target datagram, engine.updateQueue.toList = [] →
      (sendPingToNode now sent engine target).2.2 = some datagram →
        (SendsState now engine (some datagram) ↔ EligibleInFront engine) :=
  ⟨fun past msg => handlePingMessage_sendsState_iff now past engine msg,
    fun _ _ _ hqueue hsent => sendPingToNode_sendsState_iff hqueue hsent⟩

def nodeAmongTen : GossipEngine :=
  { clusterOfThree 1 with
    view := {
      members := ([1, 2, 3, 4, 5, 6, 7, 8, 9, 10, 11] : List NodeId).map aliveWorker
      capacity := maxClusterNodes
      nodup := by decide
      length_le := by decide } }

theorem piggyback_carriesState_iff_three :
    ∃ datagram, (sendPingToNode 0 true (clusterOfThree 1) 2).2.2 = some datagram ∧
      (SendsState 0 (clusterOfThree 1) (some datagram) ↔ EligibleInFront (clusterOfThree 1)) := by
  obtain ⟨datagram, hsent⟩ : ∃ datagram, (sendPingToNode 0 true (clusterOfThree 1) 2).2.2 =
      some datagram := Option.isSome_iff_exists.mp (by decide +kernel)
  exact ⟨datagram, hsent,
    (piggyback_carriesState_iff 0 (clusterOfThree 1)).2 true 2 datagram (by decide +kernel) hsent⟩

/-- The node itself takes the first of the ten entries, and node 11 is not
gossiped. -/
theorem piggyback_crowdedOut :
    ∃ datagram, nodeAmongTen.updateQueue.toList = [] ∧
      (sendPingToNode 0 true nodeAmongTen 2).2.2 = some datagram ∧
      ¬ SendsState 0 nodeAmongTen (some datagram) := by
  obtain ⟨datagram, hsent⟩ : ∃ datagram, (sendPingToNode 0 true nodeAmongTen 2).2.2 =
      some datagram := Option.isSome_iff_exists.mp (by decide +kernel)
  refine ⟨datagram, by decide +kernel, hsent, ?_⟩
  rintro ⟨msg, hmsg, hcarries⟩
  have hcount : ((sendPingToNode 0 true nodeAmongTen 2).2.2.bind gossipMessageDeserialize).map
      (fun msg => msg.updates.length) = some 9 := by decide +kernel
  rw [hsent, hmsg] at hcount
  have hnine : msg.updates.length = 9 := Option.some.inj hcount
  have hall := (hcarries.all (by decide +kernel)).length_eq
  rw [hnine, List.length_map] at hall
  exact absurd hall (by decide +kernel)

end Roole
