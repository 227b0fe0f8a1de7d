import Roole.Gossip.Handlers
import Roole.Lib.Runs

/-!
# Protocol rounds

`membership_init`, the calls that the protocol thread makes in each of its
rounds, and the steps of an engine. The listener thread dispatches messages
between any two of those calls, so each of them is a step of its own.
-/

namespace Roole

-- ----------------------------------------------------------------------------
-- Initialization
-- ----------------------------------------------------------------------------

def clusterViewInit (capacity : Nat) : Option ClusterView :=
  if capacity = 0 then none else some (.empty capacity)

def gossipEngineInit (myId : NodeId) (myType : NodeType) (bindAddr : List UInt8)
    (gossipPort dataPort : UInt16) (config : GossipConfig) (view : ClusterView) :
    GossipEngine where
  myId := myId
  myType := myType
  myIp := safeStrncpy bindAddr maxIpLen
  gossipPort := gossipPort
  dataPort := dataPort
  incarnation := 0
  sequenceNum := 0
  config := config
  view := view
  hasCallback := false
  events := []
  pendingAcks := List.replicate maxPendingAcks ⟨0, 0, false⟩
  updateQueue := .empty .zero

def selfMember (now : UInt64) (myId : NodeId) (myType : NodeType) (bindAddr : List UInt8)
    (gossipPort dataPort : UInt16) : ClusterMember where
  nodeId := myId
  nodeType := myType
  ipAddress := safeStrncpy bindAddr maxIpLen
  gossipPort := gossipPort
  dataPort := dataPort
  status := .alive
  lastSeenMs := now
  incarnation := 0

/-- The engine of `membership_init`; `bindAddr` is the bind address that the
handle keeps. -/
def membershipInit (now : UInt64) (myId : NodeId) (myType : NodeType) (bindAddr : List UInt8)
    (gossipPort dataPort : UInt16) (sharedView : ClusterView) : GossipEngine :=
  let view := (clusterViewAdd now sharedView
    (selfMember now myId myType bindAddr gossipPort dataPort)).2
  gossipEngineInit myId myType bindAddr gossipPort dataPort gossipDefaultConfig view

-- ----------------------------------------------------------------------------
-- The calls of a round
-- ----------------------------------------------------------------------------

def ClusterMember.refresh (now incarnation : UInt64) (self : ClusterMember) : ClusterMember :=
  { self with lastSeenMs := now, incarnation := incarnation, status := .alive }

def updateSelf (now : UInt64) (engine : GossipEngine) : GossipEngine :=
  { engine with
    view := engine.view.replace engine.myId (·.refresh now engine.incarnation) fun _ hself => hself }

/-- The nodes that may be pinged or gossiped to, SUSPECT ones among them. -/
def peerList (engine : GossipEngine) : List NodeId :=
  ((engine.view.members.filter fun member =>
    !(member.nodeId == engine.myId || member.status == .dead)).map ClusterMember.nodeId).take
      maxClusterNodes

def selectRandomPeer (random : Nat) (engine : GossipEngine) : NodeId :=
  let peers := peerList engine
  if peers.length = 0 then 0 else peers.getD (random % peers.length) 0

def pingRandomPeer (now : UInt64) (random : Nat) (sent : Bool) (engine : GossipEngine) :
    GossipEngine :=
  let target := selectRandomPeer random engine
  if target ≠ 0 then (sendPingToNode now sent engine target).2.1 else engine

/-- The state that is gossiped: among the first `max_piggyback` entries those
that are neither DEAD nor this node. -/
def gossipStateUpdates (now : UInt64) (engine : GossipEngine) : List GossipMemberUpdate :=
  ((engine.view.members.take engine.config.maxPiggyback.toNat).filter fun member =>
      !(member.status == .dead || member.nodeId == engine.myId)).map fun member =>
    { nodeId := member.nodeId
      nodeType := member.nodeType
      ipAddress := safeStrncpy member.ipAddress maxIpLen
      gossipPort := member.gossipPort
      dataPort := member.dataPort
      status := member.status
      incarnation := member.incarnation
      timestampMs := now }

def swapPeers (peers : List NodeId) (i j : Nat) : List NodeId :=
  (peers.set i (peers.getD j 0)).set j (peers.getD i 0)

/-- The loop body of `gossip_to_random_peers`: the peer drawn for place `i` is
sent the state. -/
def gossipToPeer (now : UInt64) (rand : Nat → Nat) :
    GossipEngine × List NodeId × List GossipEffect → Nat →
      GossipEngine × List NodeId × List GossipEffect
  | (engine, peers, sent), i =>
    let peers := swapPeers peers i (i + rand i % (peers.length - i))
    match clusterViewGet engine.view (peers.getD i 0) with
    | none => (engine, peers, sent)
    | some peer =>
      -- ALIVE serves as the generic type of gossip messages
      let msg := engine.makeMessage gossipMsgAlive (gossipStateUpdates now engine)
      ({ engine with sequenceNum := engine.sequenceNum + 1 }, peers,
        sent ++ (msg.sendTo (safeStrncpy peer.ipAddress maxIpLen) peer.gossipPort).toList)

def gossipToRandomPeers (now : UInt64) (rand : Nat → Nat) (engine : GossipEngine) :
    GossipEngine × List GossipEffect :=
  let peers := peerList engine
  let fanout := min peers.length engine.config.fanout.toNat
  let (engine, _, sent) := (List.range fanout).foldl (gossipToPeer now rand) (engine, peers, [])
  (engine, sent)

theorem updateSelf_of_ne (hne : nodeId ≠ engine.myId) :
    clusterViewGet (updateSelf now engine).view nodeId = clusterViewGet engine.view nodeId :=
  clusterViewGet_replace_of_ne (f := (·.refresh now engine.incarnation)) (fun _ hself => hself) hne

theorem updateSelf_self (now : UInt64) (hget : clusterViewGet engine.view engine.myId = some self) :
    clusterViewGet (updateSelf now engine).view engine.myId =
      some (self.refresh now engine.incarnation) := by
  have hreplaced : clusterViewGet (updateSelf now engine).view engine.myId =
      (clusterViewGet engine.view engine.myId).map (·.refresh now engine.incarnation) :=
    clusterViewGet_replace (f := (·.refresh now engine.incarnation)) fun _ hself => hself
  rw [hreplaced, hget]
  rfl

theorem addPendingAck_view (now : UInt64) (engine : GossipEngine) (targetNode : NodeId) :
    (addPendingAck now engine targetNode).view = engine.view := by
  unfold addPendingAck
  split <;> rfl

theorem addPendingAck_myId (now : UInt64) (engine : GossipEngine) (targetNode : NodeId) :
    (addPendingAck now engine targetNode).myId = engine.myId := by
  unfold addPendingAck
  split <;> rfl

theorem mem_addPendingAck {ack : PendingAck}
    (hmem : ack ∈ (addPendingAck now engine targetNode).pendingAcks) :
    ack ∈ engine.pendingAcks ∨ ack.targetNode = targetNode := by
  unfold addPendingAck at hmem
  split at hmem
  · rcases List.mem_or_eq_of_mem_set hmem with hmem | rfl
    · exact .inl hmem
    · exact .inr rfl
  · exact .inl hmem

structure PingStep (targetNode : NodeId) (before after : GossipEngine) : Prop where
  view : after.view = before.view
  myId : after.myId = before.myId
  acks : ∀ ack ∈ after.pendingAcks, ack ∈ before.pendingAcks ∨ ack.targetNode = targetNode

theorem sendPingToNode_step (now : UInt64) (sent : Bool) (engine : GossipEngine)
    (targetNode : NodeId) :
    PingStep targetNode engine (sendPingToNode now sent engine targetNode).2.1 := by
  unfold sendPingToNode
  cases clusterViewGet engine.view targetNode with
  | none => exact ⟨rfl, rfl, fun _ hmem => .inl hmem⟩
  | some _ =>
    dsimp only
    split
    · exact ⟨rfl, rfl, fun _ hmem => .inl hmem⟩
    · split_ifs
      · exact ⟨addPendingAck_view _ _ _, addPendingAck_myId _ _ _, fun _ => mem_addPendingAck⟩
      · exact ⟨rfl, rfl, fun _ hmem => .inl hmem⟩

theorem selectRandomPeer_ne (htarget : selectRandomPeer random engine ≠ 0) :
    selectRandomPeer random engine ≠ engine.myId := by
  unfold selectRandomPeer at htarget ⊢
  dsimp only at htarget ⊢
  split_ifs at htarget ⊢ with hempty
  · exact absurd rfl htarget
  · have hlt : random % (peerList engine).length < (peerList engine).length :=
      Nat.mod_lt _ (Nat.pos_of_ne_zero hempty)
    have hpeer : (peerList engine).getD (random % (peerList engine).length) 0 ∈ peerList engine := by
      simp [List.getD_eq_getElem?_getD, hlt]
    have hmem := List.mem_of_mem_take hpeer
    simp only [List.mem_map, List.mem_filter] at hmem
    obtain ⟨member, ⟨-, hpeer⟩, hid⟩ := hmem
    rw [← hid]
    simp only [Bool.not_eq_true', Bool.or_eq_false_iff, beq_eq_false_iff_ne] at hpeer
    exact hpeer.1

theorem pingRandomPeer_step (now : UInt64) (random : Nat) (sent : Bool) (engine : GossipEngine) :
    ∃ targetNode, targetNode ≠ engine.myId ∧
      PingStep targetNode engine (pingRandomPeer now random sent engine) := by
  unfold pingRandomPeer
  dsimp only
  split_ifs with htarget
  · exact ⟨_, selectRandomPeer_ne htarget, sendPingToNode_step now sent engine _⟩
  · exact ⟨engine.myId + 1, by simp, rfl, rfl, fun _ hmem => .inl hmem⟩

def GossipEngine.messageAt (engine : GossipEngine) (sequenceNum : UInt64) (msgType : UInt8)
    (updates : List GossipMemberUpdate) : GossipMessage :=
  { engine.makeMessage msgType updates with sequenceNum := sequenceNum }

def stateMessage (now : UInt64) (engine : GossipEngine) (sequenceNum : UInt64) : GossipMessage :=
  engine.messageAt sequenceNum gossipMsgAlive (gossipStateUpdates now engine)

/-- The state goes out under the sequence numbers that follow; nothing else of
the engine changes. -/
theorem gossipToRandomPeers_sends (now : UInt64) (rand : Nat → Nat) (engine : GossipEngine) :
    (∃ sequenceNum, (gossipToRandomPeers now rand engine).1 =
      { engine with sequenceNum := sequenceNum }) ∧
    ∀ effect ∈ (gossipToRandomPeers now rand engine).2, ∃ sequenceNum ip port,
      (stateMessage now engine sequenceNum).sendTo ip port = some effect := by
  let Sends (state : GossipEngine × List NodeId × List GossipEffect) : Prop :=
    (∃ sequenceNum, state.1 = { engine with sequenceNum := sequenceNum }) ∧
      ∀ effect ∈ state.2.2, ∃ sequenceNum ip port,
        (stateMessage now engine sequenceNum).sendTo ip port = some effect
  suffices hloop : ∀ turns : List Nat, Sends
      (turns.foldl (gossipToPeer now rand) (engine, peerList engine, [])) from hloop _
  intro turns
  refine List.foldlRecOn (motive := Sends) turns _ ⟨⟨_, rfl⟩, fun _ h => nomatch h⟩ ?_
  rintro ⟨_, peers, sent⟩ ⟨⟨sequenceNum, rfl⟩, hsent⟩ i -
  unfold gossipToPeer
  dsimp only
  split
  · exact ⟨⟨_, rfl⟩, hsent⟩
  · refine ⟨⟨_, rfl⟩, fun effect hmem => ?_⟩
    rcases List.mem_append.mp hmem with hmem | hmem
    · exact hsent effect hmem
    · exact ⟨sequenceNum, _, _, Option.mem_toList.mp hmem⟩

-- ----------------------------------------------------------------------------
-- Steps
-- ----------------------------------------------------------------------------

inductive GossipAction
  /-- A decoded message arrives; `past` is what the memory behind its array of
  updates holds. -/
  | receive (now : UInt64) (past : Nat → GossipMemberUpdate) (srcIp : List UInt8)
      (srcPort : UInt16) (msg : GossipMessage)
  | updateSelf (now : UInt64)
  | ping (now : UInt64) (random : Nat) (sent : Bool)
  | checkAckTimeouts (now : UInt64)
  | checkSuspectTimeouts (now : UInt64)
  | gossip (now : UInt64) (rand : Nat → Nat)
  | setCallback

namespace GossipEngine

def step (engine : GossipEngine) : GossipAction → GossipEngine
  | .receive now past srcIp srcPort msg => (receiveMessage now past srcIp srcPort engine msg).1
  | .updateSelf now => Roole.updateSelf now engine
  | .ping now random sent => pingRandomPeer now random sent engine
  | .checkAckTimeouts now => Roole.checkAckTimeouts now engine
  | .checkSuspectTimeouts now => Roole.checkSuspectTimeouts now engine
  | .gossip now rand => (gossipToRandomPeers now rand engine).1
  | .setCallback => { engine with hasCallback := true }

def run (engine : GossipEngine) (actions : List GossipAction) : GossipEngine :=
  Runs.run step engine actions

end GossipEngine

-- ----------------------------------------------------------------------------
-- A small cluster
-- ----------------------------------------------------------------------------

def firstRouter : GossipEngine := membershipInit 0 1 .router [] 7000 8000 (.empty maxClusterNodes)

def secondRouter : GossipEngine := membershipInit 0 2 .router [] 7001 8001 (.empty maxClusterNodes)

def newsOf (nodeId : NodeId) (status : NodeStatus) (incarnation : UInt64) : GossipMemberUpdate :=
  { GossipMemberUpdate.zero with
    nodeId := nodeId
    status := status
    incarnation := incarnation }

def messageOf (senderId : NodeId) (msgType : UInt8) (updates : List GossipMemberUpdate) :
    GossipMessage where
  version := 1
  msgType := msgType
  flags := 0
  senderId := senderId
  sequenceNum := 0
  numUpdates := .ofNat updates.length
  updates := updates

def arrival (msg : GossipMessage) : GossipAction := .receive 0 (fun _ => .zero) [] 7000 msg

end Roole
