import Roole.Gossip.Turns
import Roole.Lib.Network
import Roole.Node.Bootstrap

/-!
# A cluster of gossip engines

Nodes that exchange datagrams. A step of a node is a turn of one of its threads
with the datagrams that go out in it: a turn of the listener that handles a
datagram, a turn of the protocol thread, or a call from outside. The turns of
the listener come in any order and any number of times, so that those of the
threads of a node interleave in every way.
-/

namespace Roole

open Network

structure GossipNode extends NodeIdentity where
  nodeType : NodeType
  capacity : Nat

def GossipNode.start (node : GossipNode) (now : UInt64) : GossipEngine :=
  membershipInit now node.nodeId node.nodeType node.bindAddr node.gossipPort node.dataPort
    (.empty node.capacity)

inductive NodeAction
  /-- Turn `i` of the handling of a datagram. -/
  | handle (now : UInt64) (past : Nat → GossipMemberUpdate) (srcIp : List UInt8)
      (srcPort : UInt16) (datagram : List UInt8) (i : Nat)
  | updateSelf (now : UInt64)
  | ping (now : UInt64) (random : Nat) (sent : Bool)
  | checkAck (now : UInt64) (i : Nat)
  | checkSuspect (now : UInt64) (i : Nat)
  /-- Turn `i` of the loop over the peers that were drawn. -/
  | gossip (now : UInt64) (rand : Nat → Nat) (peers : List NodeId) (i : Nat)
  | addSeed (now : UInt64) (ip : List UInt8) (port : UInt16)
  | announceJoin (now : UInt64)
  | leave (now : UInt64)
  | setCallback
  | bootstrap (now : UInt64) (ip : List UInt8) (port : UInt16)
  | restart (now : UInt64)

def GossipEffect.datagram : GossipEffect → Option (List UInt8)
  | .send _ _ datagram => some datagram
  | .connect .. => none

def datagrams (effects : List GossipEffect) : List (List UInt8) :=
  effects.filterMap GossipEffect.datagram

-- ----------------------------------------------------------------------------
-- The listener
-- ----------------------------------------------------------------------------

def listenerTurns (now : UInt64) (past : Nat → GossipMemberUpdate) (srcIp : List UInt8)
    (engine : GossipEngine) (datagram : List UInt8) : List TimedTurn :=
  match gossipMessageDeserialize datagram with
  | none => []
  | some msg => if msg.senderId = engine.myId then [] else dispatchTurns now past srcIp engine msg

def listenerAnswer (now : UInt64) (srcIp : List UInt8) (srcPort : UInt16) (engine : GossipEngine)
    (msgType : UInt8) : List GossipEffect :=
  if msgType = gossipMsgPing then
    ((engine.makeMessage gossipMsgAck (clusterStateUpdates now engine)).sendTo srcIp srcPort).toList
  else (joinResponse engine).toList.map (.send srcIp srcPort)

def turnSends (srcIp : List UInt8) (srcPort : UInt16) (msgType : UInt8) (engine : GossipEngine) :
    TimedTurn → List GossipEffect
  | (now, .numbered) => listenerAnswer now srcIp srcPort engine msgType
  | (now, .workerJoin srcIp senderId update) => (joinWorker now srcIp engine senderId update).2
  | _ => []

def listenerTurn (srcIp : List UInt8) (srcPort : UInt16) (msgType : UInt8)
    (state : GossipEngine × List GossipEffect) (turn : TimedTurn) :
    GossipEngine × List GossipEffect :=
  (state.1.turn turn, state.2 ++ turnSends srcIp srcPort msgType state.1 turn)

def datagramType (datagram : List UInt8) : UInt8 := (deserializeHeader datagram).msgType

/-- The turns that a message has the listener take. -/
inductive Dispatched (now : UInt64) (past : Nat → GossipMemberUpdate) (srcIp : List UInt8)
    (msg : GossipMessage) : TimedTurn → Prop
  | pingUpdate (htype : msg.msgType = gossipMsgPing) (hmem : update ∈ msg.readUpdates past) :
      Dispatched now past srcIp msg (now, .pingUpdate update)
  | ackSender (htype : msg.msgType = gossipMsgAck) :
      Dispatched now past srcIp msg (now, .ackSender msg.senderId)
  | ackUpdate (htype : msg.msgType = gossipMsgAck) (hmem : update ∈ msg.readUpdates past) :
      Dispatched now past srcIp msg (now, .ackUpdate update)
  | suspectUpdate (htype : msg.msgType = gossipMsgSuspect) (hmem : update ∈ msg.readUpdates past) :
      Dispatched now past srcIp msg (now, .suspectUpdate update)
  | aliveUpdate (htype : msg.msgType = gossipMsgAlive) (hmem : update ∈ msg.readUpdates past) :
      Dispatched now past srcIp msg (now, .aliveUpdate update)
  | deadUpdate (htype : msg.msgType = gossipMsgDead) (hmem : update ∈ msg.readUpdates past) :
      Dispatched now past srcIp msg (now, .deadUpdate update)
  | join (htype : msg.msgType = gossipMsgJoin) (hmem : update ∈ msg.readUpdates past)
      (hself : update.nodeId = msg.senderId) :
      Dispatched now past srcIp msg (now, .join srcIp update)
  | workerJoin (htype : msg.msgType = gossipMsgWorkerJoin) (hcount : msg.numUpdates > 0) :
      Dispatched now past srcIp msg (now, .workerJoin srcIp msg.senderId (msg.update past 0))
  | leave (htype : msg.msgType = gossipMsgLeave) :
      Dispatched now past srcIp msg (now, .leave msg.senderId msg.sequenceNum)
  | numbered : Dispatched now past srcIp msg (now, .numbered)

theorem mem_updateTurns {kind : GossipMemberUpdate → GossipTurn}
    (hmem : turn ∈ updateTurns now past msg kind) :
    ∃ update ∈ msg.readUpdates past, turn = (now, kind update) := by
  obtain ⟨update, hupdate, rfl⟩ := List.mem_map.mp hmem
  exact ⟨update, hupdate, rfl⟩

theorem dispatched_of_mem (hmem : turn ∈ dispatchTurns now past srcIp engine msg) :
    Dispatched now past srcIp msg turn := by
  unfold dispatchTurns at hmem
  split_ifs at hmem with hping hack hsuspect halive hdead hjoin hworker hleave
  · rcases List.mem_append.mp hmem with hmem | hmem
    · obtain ⟨update, hupdate, rfl⟩ := mem_updateTurns hmem
      exact .pingUpdate hping hupdate
    · obtain rfl := List.mem_singleton.mp hmem
      exact .numbered
  · rcases List.mem_cons.mp hmem with rfl | hmem
    · exact .ackSender hack
    · obtain ⟨update, hupdate, rfl⟩ := mem_updateTurns hmem
      exact .ackUpdate hack hupdate
  · obtain ⟨update, hupdate, rfl⟩ := mem_updateTurns hmem
    exact .suspectUpdate hsuspect hupdate
  · obtain ⟨update, hupdate, rfl⟩ := mem_updateTurns hmem
    exact .aliveUpdate halive hupdate
  · obtain ⟨update, hupdate, rfl⟩ := mem_updateTurns hmem
    exact .deadUpdate hdead hupdate
  · obtain ⟨update, hfound, rfl⟩ := List.mem_map.mp hmem
    have hfound := Option.mem_toList.mp hfound
    exact .join hjoin (List.mem_of_find?_eq_some hfound) (by simpa using List.find?_some hfound)
  · unfold workerJoinTurns at hmem
    split_ifs at hmem with hrouter hcount
    · cases hmem
    · rcases List.mem_cons.mp hmem with rfl | hmem
      · exact .workerJoin hworker hcount
      · obtain rfl := List.mem_singleton.mp hmem
        exact .numbered
    · obtain rfl := List.mem_singleton.mp hmem
      exact .numbered
  · obtain rfl := List.mem_singleton.mp hmem
    exact .leave hleave
  · cases hmem

theorem dispatched_of_listener (hmem : turn ∈ listenerTurns now past srcIp engine datagram) :
    ∃ msg, gossipMessageDeserialize datagram = some msg ∧ msg.senderId ≠ engine.myId ∧
      Dispatched now past srcIp msg turn := by
  unfold listenerTurns at hmem
  split at hmem
  · cases hmem
  · rename_i msg hdecoded
    split_ifs at hmem with hself
    · cases hmem
    · exact ⟨msg, hdecoded, hself, dispatched_of_mem hmem⟩

-- ----------------------------------------------------------------------------
-- The steps
-- ----------------------------------------------------------------------------

def GossipNode.act (node : GossipNode) (engine : GossipEngine) :
    NodeAction → GossipEngine × List (List UInt8)
  | .handle now past srcIp srcPort datagram i =>
    match (listenerTurns now past srcIp engine datagram)[i]? with
    | some turn =>
      (engine.turn turn, datagrams (turnSends srcIp srcPort (datagramType datagram) engine turn))
    | none => (engine, [])
  | .updateSelf now => (updateSelf now engine, [])
  | .ping now random sent =>
    let target := selectRandomPeer random engine
    if target ≠ 0 then
      let (_, pinging, datagram) := sendPingToNode now sent engine target
      (pinging, datagram.toList)
    else (engine, [])
  | .checkAck now i => (checkPendingAck now engine i, [])
  | .checkSuspect now i => (checkSuspect now engine i, [])
  | .gossip now rand peers i =>
    let (gossiping, _, effects) := gossipToPeer now rand (engine, peers, []) i
    (gossiping, datagrams effects)
  | .addSeed now ip port =>
    let (joining, effect) := gossipEngineAddSeed now ip port engine
    (joining, datagrams effect.toList)
  | .announceJoin now => (gossipEngineAnnounceJoin now engine, [])
  | .leave now =>
    let (leaving, effects) := gossipEngineLeave now engine
    (leaving, datagrams effects)
  | .setCallback => ({ engine with hasCallback := true }, [])
  | .bootstrap now ip port => (engine, datagrams ((node.joinMessage now).sendTo ip port).toList)
  | .restart now => (node.start now, [])

def NodeAction.reads : NodeAction → List (List UInt8)
  | .handle _ _ _ _ datagram _ => [datagram]
  | _ => []

/-- The cluster of the nodes, whose messages are datagrams. -/
def gossipProtocol (nodes : ι → GossipNode) :
    Protocol ι GossipEngine NodeAction (List UInt8) where
  act i := (nodes i).act
  reads := NodeAction.reads

abbrev GossipCluster (ι : Type*) := Network.State ι GossipEngine (List UInt8)

def clusterStart (nodes : ι → GossipNode) (now : UInt64) : GossipCluster ι where
  party i := (nodes i).start now
  sent := []

-- ----------------------------------------------------------------------------
-- The turns of the listener are those of `gossip_listener_thread`
-- ----------------------------------------------------------------------------

section Listener

variable {now : UInt64} {past : Nat → GossipMemberUpdate} {srcIp : List UInt8} {srcPort : UInt16}
  {engine : GossipEngine} {msg : GossipMessage} {datagram : List UInt8} {msgType : UInt8}

theorem deserializeUpdates_msgType {slots : List Nat} {offset : Nat} :
    (deserializeUpdates datagram slots offset msg).msgType = msg.msgType := by
  induction slots generalizing offset msg with
  | nil => rfl
  | cons i rest ih =>
    unfold deserializeUpdates
    split
    · rfl
    · exact ih

theorem datagramType_eq (h : gossipMessageDeserialize datagram = some msg) :
    datagramType datagram = msg.msgType := by
  unfold gossipMessageDeserialize at h
  dsimp only at h
  split_ifs at h
  cases h
  exact deserializeUpdates_msgType.symm

theorem listener_quiet {turns : List TimedTurn}
    (hquiet : ∀ turn ∈ turns, ∀ engine, turnSends srcIp srcPort msgType engine turn = [])
    (state : GossipEngine × List GossipEffect) :
    turns.foldl (listenerTurn srcIp srcPort msgType) state = (state.1.turns turns, state.2) := by
  induction turns generalizing state with
  | nil => rfl
  | cons turn rest ih =>
    rw [List.foldl_cons, ih fun t ht => hquiet t (List.mem_cons_of_mem _ ht)]
    simp only [listenerTurn, hquiet turn List.mem_cons_self, List.append_nil]
    rfl

theorem updateTurns_quiet {turn : GossipMemberUpdate → GossipTurn}
    (hquiet : ∀ update engine, turnSends srcIp srcPort msgType engine (now, turn update) = []) :
    ∀ t ∈ updateTurns now past msg turn, ∀ engine,
      turnSends srcIp srcPort msgType engine t = [] := by
  intro t ht engine
  obtain ⟨update, -, rfl⟩ := List.mem_map.mp ht
  exact hquiet update engine

theorem listener_updates {handle : GossipEngine → GossipMemberUpdate → GossipEngine}
    {turn : GossipMemberUpdate → GossipTurn}
    (hquiet : ∀ update engine, turnSends srcIp srcPort msgType engine (now, turn update) = [])
    (hturn : ∀ engine update, engine.turn (now, turn update) = handle engine update)
    (engine : GossipEngine) :
    (updateTurns now past msg turn).foldl (listenerTurn srcIp srcPort msgType) (engine, []) =
      ((msg.readUpdates past).foldl handle engine, []) := by
  rw [listener_quiet (updateTurns_quiet hquiet), turns_updateTurns hturn]

theorem listener_workerJoin (htype : msg.msgType ≠ gossipMsgPing) :
    (workerJoinTurns now past srcIp engine msg).foldl (listenerTurn srcIp srcPort msg.msgType)
      (engine, []) = handleWorkerJoinMessage now past srcIp srcPort engine msg := by
  unfold workerJoinTurns handleWorkerJoinMessage
  split_ifs <;> simp [listenerTurn, turnSends, listenerAnswer, GossipEngine.turn, htype]

/-- The turns of a message, one after the other, do what the dispatcher does. -/
theorem listener_dispatch :
    (dispatchTurns now past srcIp engine msg).foldl (listenerTurn srcIp srcPort msg.msgType)
      (engine, []) = dispatchMessage now past srcIp srcPort engine msg := by
  let Same (turns : List TimedTurn) (result : GossipEngine × List GossipEffect) : Prop :=
    turns.foldl (listenerTurn srcIp srcPort msg.msgType) (engine, []) = result
  show Same (dispatchTurns now past srcIp engine msg)
    (dispatchMessage now past srcIp srcPort engine msg)
  unfold dispatchTurns dispatchMessage
  split_ifs with hping
  · show List.foldl _ _ _ = _
    rw [List.foldl_append, listener_updates (fun _ _ => rfl) fun _ _ => rfl, hping]
    simp [listenerTurn, turnSends, listenerAnswer, handlePingMessage, GossipEngine.turn,
      GossipMessage.sendTo, Option.toList_map]
  · exact listener_updates (fun _ _ => rfl) (fun _ _ => rfl)
      (recoverSender now (removePendingAck engine msg.senderId) msg.senderId)
  · exact listener_updates (fun _ _ => rfl) (fun _ _ => rfl) engine
  · exact listener_updates (fun _ _ => rfl) (fun _ _ => rfl) engine
  · exact listener_updates (fun _ _ => rfl) (fun _ _ => rfl) engine
  · show List.foldl _ _ _ = _
    unfold handleJoinMessage
    cases (msg.readUpdates past).find? fun update => update.nodeId == msg.senderId <;> rfl
  · exact listener_workerJoin hping
  · rfl
  · rfl

theorem listener_receive :
    (listenerTurns now past srcIp engine datagram).foldl
      (listenerTurn srcIp srcPort (datagramType datagram)) (engine, []) =
        receiveDatagram now past srcIp srcPort engine datagram := by
  unfold listenerTurns receiveDatagram
  cases hdecoded : gossipMessageDeserialize datagram with
  | none => split_ifs <;> rfl
  | some msg =>
    have hsize := (gossipMessageDeserialize_updates hdecoded).1
    have htype : datagramType datagram = msg.msgType := datagramType_eq hdecoded
    dsimp only
    rw [if_neg (Nat.not_lt.mpr hsize), htype, receiveMessage]
    split_ifs
    · rfl
    · exact listener_dispatch

end Listener

end Roole
