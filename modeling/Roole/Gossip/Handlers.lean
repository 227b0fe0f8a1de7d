import Roole.Gossip.Engine

/-!
# The message handlers

The handlers of `gossip_engine.c` other than that of a PING, the dispatcher and
the listener. Most of them loop over the updates of the message; what the loop
does with one update is a function of its own. Datagrams and connection attempts
are returned as effects.
-/

namespace Roole

inductive GossipEffect
  | send (ip : List UInt8) (port : UInt16) (datagram : List UInt8)
  /-- The node is added to the peer pool and its data channel set up. -/
  | connect (nodeId : NodeId) (ip : List UInt8) (gossipPort dataPort : UInt16)
  deriving DecidableEq, Repr

namespace GossipEngine

def pushAll (engine : GossipEngine) (updates : List GossipMemberUpdate) : GossipEngine :=
  updates.foldl updateQueuePush engine

@[simp] theorem pushAll_view (engine : GossipEngine) (updates : List GossipMemberUpdate) :
    (engine.pushAll updates).view = engine.view := by
  induction updates generalizing engine with
  | nil => rfl
  | cons update rest ih => exact (ih _).trans (updateQueuePush_view engine update)

@[simp] theorem pushAll_base (engine : GossipEngine) (updates : List GossipMemberUpdate) :
    (engine.pushAll updates).base = engine.base := by
  induction updates generalizing engine with
  | nil => rfl
  | cons update rest ih => exact (ih _).trans (updateQueuePush_base engine update)

theorem pushAll_take (engine : GossipEngine) (updates : List GossipMemberUpdate) :
    (engine.pushAll updates).updateQueue.toList =
      (engine.updateQueue.toList ++ updates).take maxUpdateQueue := by
  induction updates generalizing engine with
  | nil =>
    rw [List.append_nil, List.take_of_length_le engine.updateQueue.toList_length_le]
    rfl
  | cons update rest ih =>
    have hpushed := ih (engine.updateQueuePush update)
    rw [updateQueuePush_take, RingBuffer.take_append_take, List.append_assoc] at hpushed
    exact hpushed

def selfUpdate (now : UInt64) (engine : GossipEngine) : GossipMemberUpdate where
  nodeId := engine.myId
  nodeType := engine.myType
  ipAddress := safeStrncpy engine.myIp maxIpLen
  gossipPort := engine.gossipPort
  dataPort := engine.dataPort
  status := .alive
  incarnation := engine.incarnation
  timestampMs := now

end GossipEngine

-- ----------------------------------------------------------------------------
-- ACK
-- ----------------------------------------------------------------------------

def removePendingAck (engine : GossipEngine) (targetNode : NodeId) : GossipEngine :=
  match engine.pendingAcks.findIdx? fun ack => ack.active && ack.targetNode == targetNode with
  | some i =>
    { engine with
      pendingAcks := engine.pendingAcks.modify i fun ack => { ack with active := false } }
  | none => engine

/-- A sender that was SUSPECT is ALIVE again, with the same incarnation. -/
def recoverSender (now : UInt64) (engine : GossipEngine) (senderId : NodeId) : GossipEngine :=
  match clusterViewGet engine.view senderId with
  | some member =>
    if member.status = .suspect then engine.updateStatus now senderId .alive member.incarnation
    else engine
  | none => engine

def handleAckUpdate (now : UInt64) (engine : GossipEngine) (update : GossipMemberUpdate) :
    GossipEngine :=
  match clusterViewGet engine.view update.nodeId with
  | none =>
    (engine.addMember now (update.toMember now update.status)).notify (update.event .join)
  | some existing =>
    if update.incarnation > existing.incarnation then
      engine.updateStatus now update.nodeId update.status update.incarnation
    else engine

def handleAckMessage (now : UInt64) (past : Nat → GossipMemberUpdate) (engine : GossipEngine)
    (msg : GossipMessage) : GossipEngine :=
  let engine := recoverSender now (removePendingAck engine msg.senderId) msg.senderId
  (msg.readUpdates past).foldl (handleAckUpdate now) engine

-- ----------------------------------------------------------------------------
-- SUSPECT, ALIVE and DEAD
-- ----------------------------------------------------------------------------

def handleSuspectUpdate (now : UInt64) (engine : GossipEngine) (update : GossipMemberUpdate) :
    GossipEngine :=
  if update.nodeId = engine.myId ∧ update.status = .suspect then
    -- the node refutes the suspicion with its next incarnation
    let refuting := { engine with incarnation := engine.incarnation + 1 }
    refuting.pushAll (List.replicate 3 (refuting.selfUpdate now))
  else if update.nodeId ≠ engine.myId ∧ update.status = .suspect then
    match clusterViewGet engine.view update.nodeId with
    | some existing =>
      if update.incarnation ≥ existing.incarnation ∧ existing.status = .alive then
        (engine.updateStatus now update.nodeId .suspect update.incarnation).updateQueuePush update
      else engine
    | none => engine
  else engine

def handleSuspectMessage (now : UInt64) (past : Nat → GossipMemberUpdate) (engine : GossipEngine)
    (msg : GossipMessage) : GossipEngine :=
  (msg.readUpdates past).foldl (handleSuspectUpdate now) engine

/-- The status of the update is not looked at. -/
def handleAliveUpdate (now : UInt64) (engine : GossipEngine) (update : GossipMemberUpdate) :
    GossipEngine :=
  match clusterViewGet engine.view update.nodeId with
  | some existing =>
    if update.incarnation > existing.incarnation then
      (engine.updateStatus now update.nodeId .alive update.incarnation).updateQueuePush update
    else engine
  | none => engine

def handleAliveMessage (now : UInt64) (past : Nat → GossipMemberUpdate) (engine : GossipEngine)
    (msg : GossipMessage) : GossipEngine :=
  (msg.readUpdates past).foldl (handleAliveUpdate now) engine

def handleDeadUpdate (now : UInt64) (engine : GossipEngine) (update : GossipMemberUpdate) :
    GossipEngine :=
  match clusterViewGet engine.view update.nodeId with
  | some existing =>
    (engine.updateStatus now update.nodeId .dead update.incarnation).notify
      ⟨update.nodeId, existing.nodeType, safeStrncpy existing.ipAddress maxIpLen,
        existing.dataPort, .leave⟩
  | none => engine

def handleDeadMessage (now : UInt64) (past : Nat → GossipMemberUpdate) (engine : GossipEngine)
    (msg : GossipMessage) : GossipEngine :=
  (msg.readUpdates past).foldl (handleDeadUpdate now) engine

-- ----------------------------------------------------------------------------
-- JOIN
-- ----------------------------------------------------------------------------

def GossipMemberUpdate.joined (nodeType : NodeType) (srcIp : List UInt8)
    (incarnation lastSeenMs : UInt64) (update : GossipMemberUpdate) : ClusterMember where
  nodeId := update.nodeId
  nodeType := nodeType
  ipAddress := safeStrncpy srcIp maxIpLen
  gossipPort := update.gossipPort
  dataPort := update.dataPort
  status := .alive
  lastSeenMs := lastSeenMs
  incarnation := incarnation

/-- Only the first update that the sender makes about itself counts. -/
def handleJoinMessage (now : UInt64) (past : Nat → GossipMemberUpdate) (srcIp : List UInt8)
    (engine : GossipEngine) (msg : GossipMessage) : GossipEngine :=
  match (msg.readUpdates past).find? fun update => update.nodeId == msg.senderId with
  | some update =>
    ((engine.addMember now (update.joined update.nodeType srcIp update.incarnation 0)).notify
      (update.event .join)).updateQueuePush update
  | none => engine

-- ----------------------------------------------------------------------------
-- WORKER_JOIN
-- ----------------------------------------------------------------------------

/-- Whether the sender comes back after a suspicion, and its next incarnation. -/
def rejoinState (engine : GossipEngine) (senderId : NodeId) : Bool × UInt64 :=
  match clusterViewGet engine.view senderId with
  | some existing =>
    (existing.status == .dead || existing.status == .suspect, existing.incarnation + 1)
  | none => (false, 0)

/-- The incarnation under which the router enters and announces the worker. -/
def announcedIncarnation (engine : GossipEngine) (senderId : NodeId) (update : GossipMemberUpdate) :
    UInt64 :=
  let (isRejoin, newIncarnation) := rejoinState engine senderId
  if isRejoin then newIncarnation else update.incarnation

def joinAnnouncement (now : UInt64) (srcIp : List UInt8) (incarnation : UInt64)
    (update : GossipMemberUpdate) : GossipMemberUpdate where
  nodeId := update.nodeId
  nodeType := .worker
  ipAddress := safeStrncpy srcIp maxIpLen
  gossipPort := update.gossipPort
  dataPort := update.dataPort
  status := .alive
  incarnation := incarnation
  timestampMs := now

/-- The members that are told of the join at once, each with the message it is
sent. -/
def immediateGossip (engine : GossipEngine) (announcement : GossipMemberUpdate) :
    List (ClusterMember × GossipMessage) :=
  (engine.view.members.filter fun peer => peer.nodeId != engine.myId &&
    peer.nodeId != announcement.nodeId && peer.status != .dead).zipIdx.map fun (peer, i) =>
      (peer, { engine.makeMessage gossipMsgAlive [announcement] with
        sequenceNum := engine.sequenceNum + .ofNat i })

def GossipMessage.sendTo (ip : List UInt8) (port : UInt16) (msg : GossipMessage) :
    Option GossipEffect :=
  (gossipMessageSerialize msg gossipMaxPayloadSize).map (.send ip port)

theorem GossipMessage.sendTo_decoded {msg : GossipMessage} (h : msg.Sendable) (ip : List UInt8)
    (port : UInt16) : ∃ datagram, msg.sendTo ip port = some (.send ip port datagram) ∧
      gossipMessageDeserialize datagram = some msg.onWire := by
  have hbounded := h.bounded
  have hsize : gossipHeaderSize + memberUpdateSize * msg.updates.length ≤ gossipMaxPayloadSize := by
    simp only [gossipHeaderSize, memberUpdateSize, gossipMaxPayloadSize,
      gossipMaxPiggybackUpdates] at hbounded ⊢
    omega
  refine ⟨_, ?_, gossipMessage_roundTrip h⟩
  rw [GossipMessage.sendTo, gossipMessageSerialize_eq h hsize]
  rfl

theorem GossipMessage.decode_sent {msg : GossipMessage} (h : msg.Sendable)
    (hsent : msg.sendTo ip port = some effect) : ∃ datagram, effect = .send ip port datagram ∧
      gossipMessageDeserialize datagram = some msg.onWire := by
  obtain ⟨datagram, hsend, hdecoded⟩ := GossipMessage.sendTo_decoded h ip port
  cases hsend.symm.trans hsent
  exact ⟨datagram, rfl, hdecoded⟩

def joinWorker (now : UInt64) (srcIp : List UInt8) (engine : GossipEngine) (senderId : NodeId)
    (update : GossipMemberUpdate) : GossipEngine × List GossipEffect :=
  let (isRejoin, _) := rejoinState engine senderId
  let incarnation := announcedIncarnation engine senderId update
  let engine := (engine.addMember now (update.joined .worker srcIp incarnation now)).notify
    ⟨update.nodeId, .worker, srcIp, update.dataPort, if isRejoin then .update else .join⟩
  let announcement := joinAnnouncement now srcIp incarnation update
  let engine := engine.pushAll (List.replicate (if isRejoin then 10 else 5) announcement)
  let gossip := immediateGossip engine announcement
  ({ engine with sequenceNum := engine.sequenceNum + .ofNat gossip.length },
    .connect update.nodeId srcIp update.gossipPort update.dataPort ::
      gossip.filterMap fun (peer, msg) => msg.sendTo peer.ipAddress peer.gossipPort)

def decimal (n : Nat) : List UInt8 := (Nat.toDigits 10 n).map fun c => .ofNat c.toNat

def socketAddress (ip : List UInt8) (port : UInt16) : List UInt8 :=
  (cString ip ++ .ofNat ':'.toNat :: decimal port.toNat).take (maxConfigString - 1)

def bootstrapRouters (engine : GossipEngine) : List BootstrapRouter :=
  ((engine.view.members.filter fun member =>
    member.nodeType == .router && member.status == .alive).take maxConfigRouters).map
      fun member => {
        nodeId := member.nodeId
        gossipAddr := socketAddress member.ipAddress member.gossipPort
        dataAddr := socketAddress member.ipAddress member.dataPort }

def joinResponse (engine : GossipEngine) : Option (List UInt8) := do
  let header ← gossipMessageSerialize (engine.makeMessage gossipMsgJoinResponse [])
    gossipMaxPayloadSize
  let bootstrap ← gossipSerializeBootstrapResponse (bootstrapRouters engine)
    (gossipMaxPayloadSize - header.length)
  some (header ++ bootstrap)

/-- Only routers answer; the response goes out whether or not the message held
an update. -/
def handleWorkerJoinMessage (now : UInt64) (past : Nat → GossipMemberUpdate) (srcIp : List UInt8)
    (srcPort : UInt16) (engine : GossipEngine) (msg : GossipMessage) :
    GossipEngine × List GossipEffect :=
  if engine.myType ≠ .router then (engine, [])
  else
    let (engine, effects) :=
      if msg.numUpdates > 0 then joinWorker now srcIp engine msg.senderId (msg.update past 0)
      else (engine, [])
    ({ engine with sequenceNum := engine.sequenceNum + 1 },
      effects ++ (joinResponse engine).toList.map (.send srcIp srcPort))

-- ----------------------------------------------------------------------------
-- Dispatch
-- ----------------------------------------------------------------------------

def dispatchMessage (now : UInt64) (past : Nat → GossipMemberUpdate) (srcIp : List UInt8)
    (srcPort : UInt16) (engine : GossipEngine) (msg : GossipMessage) :
    GossipEngine × List GossipEffect :=
  if msg.msgType = gossipMsgPing then
    let (engine, ack) := handlePingMessage now past engine msg
    (engine, ack.toList.map (.send srcIp srcPort))
  else if msg.msgType = gossipMsgAck then (handleAckMessage now past engine msg, [])
  else if msg.msgType = gossipMsgSuspect then (handleSuspectMessage now past engine msg, [])
  else if msg.msgType = gossipMsgAlive then (handleAliveMessage now past engine msg, [])
  else if msg.msgType = gossipMsgDead then (handleDeadMessage now past engine msg, [])
  else if msg.msgType = gossipMsgJoin then (handleJoinMessage now past srcIp engine msg, [])
  else if msg.msgType = gossipMsgWorkerJoin then
    handleWorkerJoinMessage now past srcIp srcPort engine msg
  else if msg.msgType = gossipMsgLeave then
    -- the sequence number stands for the incarnation
    (engine.updateStatus now msg.senderId .dead msg.sequenceNum, [])
  else (engine, [])

section Dispatch

variable {now : UInt64} {past : Nat → GossipMemberUpdate} {srcIp : List UInt8} {srcPort : UInt16}
  {engine : GossipEngine} {msg : GossipMessage}

/-- What a message is given to, by its type. -/
theorem dispatchMessage_cases {motive : GossipEngine → Prop}
    (ping : msg.msgType = gossipMsgPing → motive (handlePingMessage now past engine msg).1)
    (ack : msg.msgType = gossipMsgAck → motive (handleAckMessage now past engine msg))
    (suspect : msg.msgType = gossipMsgSuspect → motive (handleSuspectMessage now past engine msg))
    (alive : msg.msgType = gossipMsgAlive → motive (handleAliveMessage now past engine msg))
    (dead : msg.msgType = gossipMsgDead → motive (handleDeadMessage now past engine msg))
    (join : msg.msgType = gossipMsgJoin → motive (handleJoinMessage now past srcIp engine msg))
    (workerJoin : msg.msgType = gossipMsgWorkerJoin →
      motive (handleWorkerJoinMessage now past srcIp srcPort engine msg).1)
    (leave : msg.msgType = gossipMsgLeave →
      motive (engine.updateStatus now msg.senderId .dead msg.sequenceNum))
    (ignored : motive engine) :
    motive (dispatchMessage now past srcIp srcPort engine msg).1 := by
  let after (result : GossipEngine × List GossipEffect) : Prop := motive result.1
  show after (dispatchMessage now past srcIp srcPort engine msg)
  unfold dispatchMessage
  apply iteInduction (motive := after) ping fun _ => ?_
  apply iteInduction (motive := after) ack fun _ => ?_
  apply iteInduction (motive := after) suspect fun _ => ?_
  apply iteInduction (motive := after) alive fun _ => ?_
  apply iteInduction (motive := after) dead fun _ => ?_
  apply iteInduction (motive := after) join fun _ => ?_
  apply iteInduction (motive := after) workerJoin fun _ => ?_
  apply iteInduction (motive := after) leave fun _ => ?_
  exact ignored

theorem dispatchMessage_suspect (h : msg.msgType = gossipMsgSuspect) :
    dispatchMessage now past srcIp srcPort engine msg =
      (handleSuspectMessage now past engine msg, []) := by
  unfold dispatchMessage
  rw [h]
  rfl

theorem dispatchMessage_alive (h : msg.msgType = gossipMsgAlive) :
    dispatchMessage now past srcIp srcPort engine msg =
      (handleAliveMessage now past engine msg, []) := by
  unfold dispatchMessage
  rw [h]
  rfl

theorem dispatchMessage_join (h : msg.msgType = gossipMsgJoin) :
    dispatchMessage now past srcIp srcPort engine msg =
      (handleJoinMessage now past srcIp engine msg, []) := by
  unfold dispatchMessage
  rw [h]
  rfl

theorem dispatchMessage_workerJoin (h : msg.msgType = gossipMsgWorkerJoin) :
    dispatchMessage now past srcIp srcPort engine msg =
      handleWorkerJoinMessage now past srcIp srcPort engine msg := by
  unfold dispatchMessage
  rw [h]
  rfl

end Dispatch

/-- The listener ignores messages that the node sent itself. -/
def receiveMessage (now : UInt64) (past : Nat → GossipMemberUpdate) (srcIp : List UInt8)
    (srcPort : UInt16) (engine : GossipEngine) (msg : GossipMessage) :
    GossipEngine × List GossipEffect :=
  if msg.senderId = engine.myId then (engine, [])
  else dispatchMessage now past srcIp srcPort engine msg

def receiveDatagram (now : UInt64) (past : Nat → GossipMemberUpdate) (srcIp : List UInt8)
    (srcPort : UInt16) (engine : GossipEngine) (datagram : List UInt8) :
    GossipEngine × List GossipEffect :=
  if datagram.length < gossipHeaderSize then (engine, [])
  else
    match gossipMessageDeserialize datagram with
    | none => (engine, [])
    | some msg => receiveMessage now past srcIp srcPort engine msg

end Roole
