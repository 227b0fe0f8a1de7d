import Roole.Gossip.Protocol
import Roole.Lib.RingBuffer

/-!
# The gossip engine

The failure detector and the message handling of `gossip_engine.c`: pending
acknowledgements, the queue of updates waiting to be piggybacked, the handling
of a PING and its making. `now` is the clock during one call.
-/

namespace Roole

def maxPendingAcks : Nat := 64
def maxUpdateQueue : Nat := 256

structure PendingAck where
  targetNode : NodeId
  pingSentMs : UInt64
  active : Bool
  deriving DecidableEq, Repr

structure GossipConfig where
  ackTimeoutMs : UInt32
  deadTimeoutMs : UInt32
  fanout : UInt32
  maxPiggyback : UInt32
  deriving DecidableEq, Repr

def gossipDefaultConfig : GossipConfig where
  ackTimeoutMs := 500
  deadTimeoutMs := 5000
  fanout := 3
  maxPiggyback := 10

inductive MemberEventType
  | join
  | leave
  | failed
  | update
  deriving DecidableEq, Repr

structure MemberEvent where
  nodeId : NodeId
  nodeType : NodeType
  ip : List UInt8
  dataPort : UInt16
  eventType : MemberEventType
  deriving DecidableEq, Repr

structure GossipEngine where
  myId : NodeId
  myType : NodeType
  myIp : List UInt8
  gossipPort : UInt16
  dataPort : UInt16
  incarnation : UInt64
  sequenceNum : UInt64
  config : GossipConfig
  view : ClusterView
  /-- Whether a callback is installed, and the events it was called with. -/
  hasCallback : Bool
  events : List MemberEvent
  pendingAcks : List PendingAck
  updateQueue : RingBuffer GossipMemberUpdate maxUpdateQueue

namespace GossipEngine

def updateQueuePush (engine : GossipEngine) (update : GossipMemberUpdate) : GossipEngine :=
  match engine.updateQueue.push update with
  | some queue => { engine with updateQueue := queue }
  | none => engine

def notify (engine : GossipEngine) (event : MemberEvent) : GossipEngine :=
  if engine.hasCallback then { engine with events := engine.events ++ [event] } else engine

def updateStatus (now : UInt64) (engine : GossipEngine) (nodeId : NodeId) (status : NodeStatus)
    (incarnation : UInt64) : GossipEngine :=
  { engine with view := (clusterViewUpdateStatus now engine.view nodeId status incarnation).2 }

def addMember (now : UInt64) (engine : GossipEngine) (member : ClusterMember) : GossipEngine :=
  { engine with view := (clusterViewAdd now engine.view member).2 }

@[simp] theorem updateQueuePush_view (engine : GossipEngine) (update : GossipMemberUpdate) :
    (engine.updateQueuePush update).view = engine.view := by
  unfold updateQueuePush
  split <;> rfl

@[simp] theorem notify_view (engine : GossipEngine) (event : MemberEvent) :
    (engine.notify event).view = engine.view := by
  unfold notify
  split <;> rfl

@[simp] theorem notify_updateQueue (engine : GossipEngine) (event : MemberEvent) :
    (engine.notify event).updateQueue = engine.updateQueue := by
  unfold notify
  split <;> rfl

@[simp] theorem updateStatus_view (now : UInt64) (engine : GossipEngine) (nodeId : NodeId)
    (status : NodeStatus) (incarnation : UInt64) :
    (engine.updateStatus now nodeId status incarnation).view =
      (clusterViewUpdateStatus now engine.view nodeId status incarnation).2 := rfl

@[simp] theorem addMember_view (now : UInt64) (engine : GossipEngine) (member : ClusterMember) :
    (engine.addMember now member).view = (clusterViewAdd now engine.view member).2 := rfl

def base (engine : GossipEngine) : GossipEngine :=
  { engine with view := .empty 0, events := [], updateQueue := .empty .zero }

@[simp] theorem updateQueuePush_base (engine : GossipEngine) (update : GossipMemberUpdate) :
    (engine.updateQueuePush update).base = engine.base := by
  unfold updateQueuePush
  split <;> rfl

@[simp] theorem notify_base (engine : GossipEngine) (event : MemberEvent) :
    (engine.notify event).base = engine.base := by
  unfold notify
  split <;> rfl

@[simp] theorem updateStatus_base (now : UInt64) (engine : GossipEngine) (nodeId : NodeId)
    (status : NodeStatus) (incarnation : UInt64) :
    (engine.updateStatus now nodeId status incarnation).base = engine.base := rfl

@[simp] theorem addMember_base (now : UInt64) (engine : GossipEngine) (member : ClusterMember) :
    (engine.addMember now member).base = engine.base := rfl

theorem myId_of_base {before after : GossipEngine} (h : after.base = before.base) :
    after.myId = before.myId := (congrArg myId h :)

theorem incarnation_of_base {before after : GossipEngine} (h : after.base = before.base) :
    after.incarnation = before.incarnation := (congrArg incarnation h :)

theorem pendingAcks_of_base {before after : GossipEngine} (h : after.base = before.base) :
    after.pendingAcks = before.pendingAcks := (congrArg pendingAcks h :)

theorem updateQueuePush_toList (engine : GossipEngine) (update : GossipMemberUpdate) :
    (engine.updateQueuePush update).updateQueue.toList = engine.updateQueue.toList ++ [update] ∨
      (engine.updateQueuePush update).updateQueue.toList = engine.updateQueue.toList := by
  unfold updateQueuePush
  cases hpush : engine.updateQueue.push update with
  | some queue => exact .inl (RingBuffer.toList_push hpush)
  | none => exact .inr rfl

theorem updateQueuePush_take (engine : GossipEngine) (update : GossipMemberUpdate) :
    (engine.updateQueuePush update).updateQueue.toList =
      (engine.updateQueue.toList ++ [update]).take maxUpdateQueue := by
  rw [← RingBuffer.toList_push_getD]
  unfold updateQueuePush
  cases engine.updateQueue.push update <;> rfl

end GossipEngine

-- -----------------------------------------------------------------------------
-- Failure detection

/-- The first free slot of the table; a full table is left as it is. -/
def addPendingAck (now : UInt64) (engine : GossipEngine) (targetNode : NodeId) : GossipEngine :=
  match engine.pendingAcks.findIdx? fun ack => !ack.active with
  | some i => { engine with pendingAcks := engine.pendingAcks.set i ⟨targetNode, now, true⟩ }
  | none => engine

def suspectUpdate (now : UInt64) (nodeId : NodeId) (incarnation : UInt64) : GossipMemberUpdate :=
  { GossipMemberUpdate.zero with
    nodeId := nodeId
    status := .suspect
    incarnation := incarnation
    timestampMs := now }

/-- The loop body of `check_ack_timeouts` for slot `i`. -/
def checkPendingAck (now : UInt64) (engine : GossipEngine) (i : Nat) : GossipEngine :=
  match engine.pendingAcks[i]? with
  | none => engine
  | some ack =>
    if ack.active = true ∧ now - ack.pingSentMs > engine.config.ackTimeoutMs.toUInt64 then
      -- a node that is not in the view counts as ALIVE with incarnation 0
      let (oldStatus, incarnation) := match clusterViewGet engine.view ack.targetNode with
        | some member => (member.status, member.incarnation)
        | none => (.alive, 0)
      let engine :=
        if oldStatus = .alive then
          (engine.updateStatus now ack.targetNode .suspect incarnation).updateQueuePush
            (suspectUpdate now ack.targetNode incarnation)
        else engine
      { engine with pendingAcks := engine.pendingAcks.set i { ack with active := false } }
    else engine

def checkAckTimeouts (now : UInt64) (engine : GossipEngine) : GossipEngine :=
  (List.range maxPendingAcks).foldl (checkPendingAck now) engine

def deadUpdate (now : UInt64) (member : ClusterMember) : GossipMemberUpdate where
  nodeId := member.nodeId
  nodeType := member.nodeType
  ipAddress := safeStrncpy (safeStrncpy member.ipAddress maxIpLen) maxIpLen
  gossipPort := member.gossipPort
  dataPort := member.dataPort
  status := .dead
  incarnation := member.incarnation
  timestampMs := now

/-- The loop body of `check_suspect_timeouts` for member `i` of the view. -/
def checkSuspect (now : UInt64) (engine : GossipEngine) (i : Nat) : GossipEngine :=
  match engine.view.members[i]? with
  | none => engine
  | some member =>
    if member.status = .suspect ∧
        now - member.lastSeenMs > engine.config.deadTimeoutMs.toUInt64 then
      ((engine.updateStatus now member.nodeId .dead member.incarnation).updateQueuePush
        (deadUpdate now member)).notify
        ⟨member.nodeId, member.nodeType, safeStrncpy member.ipAddress maxIpLen, member.dataPort,
          .leave⟩
    else engine

def checkSuspectTimeouts (now : UInt64) (engine : GossipEngine) : GossipEngine :=
  (List.range engine.view.members.length).foldl (checkSuspect now) engine

-- -----------------------------------------------------------------------------
-- Messages

def GossipMemberUpdate.toMember (now : UInt64) (status : NodeStatus)
    (update : GossipMemberUpdate) : ClusterMember where
  nodeId := update.nodeId
  nodeType := update.nodeType
  ipAddress := safeStrncpy update.ipAddress maxIpLen
  gossipPort := update.gossipPort
  dataPort := update.dataPort
  status := status
  lastSeenMs := now
  incarnation := update.incarnation

def GossipMemberUpdate.event (update : GossipMemberUpdate) (eventType : MemberEventType) :
    MemberEvent :=
  ⟨update.nodeId, update.nodeType, update.ipAddress, update.dataPort, eventType⟩

def statusEvent : NodeStatus → Option MemberEventType
  | .suspect => some .failed
  | .dead => some .leave
  | .alive => some .update
  | .other .. => none

def handlePingUpdate (now : UInt64) (engine : GossipEngine) (update : GossipMemberUpdate) :
    GossipEngine :=
  match clusterViewGet engine.view update.nodeId with
  | none =>
    ((engine.addMember now (update.toMember now update.status)).notify
      (update.event .join)).updateQueuePush { update with timestampMs := now }
  | some existing =>
    if (existing.status = .dead ∧ update.status = .alive) ∧
        update.incarnation > existing.incarnation then
      (engine.addMember now (update.toMember now .alive)).notify (update.event .update)
    else if update.incarnation > existing.incarnation then
      let updated := engine.updateStatus now update.nodeId update.status update.incarnation
      if update.status ≠ existing.status then
        match statusEvent update.status with
        | some eventType => updated.notify (update.event eventType)
        | none => updated
      else updated
    else engine

theorem handlePingUpdate_view (now : UInt64) (engine : GossipEngine)
    (update : GossipMemberUpdate) : (handlePingUpdate now engine update).view =
      match clusterViewGet engine.view update.nodeId with
      | none => (clusterViewAdd now engine.view (update.toMember now update.status)).2
      | some existing =>
        if (existing.status = .dead ∧ update.status = .alive) ∧
            update.incarnation > existing.incarnation then
          (clusterViewAdd now engine.view (update.toMember now .alive)).2
        else if update.incarnation > existing.incarnation then
          (clusterViewUpdateStatus now engine.view update.nodeId update.status
            update.incarnation).2
        else engine.view := by
  unfold handlePingUpdate
  cases clusterViewGet engine.view update.nodeId with
  | none => simp [GossipEngine.addMember]
  | some existing =>
    dsimp only
    split_ifs
    · simp [GossipEngine.addMember]
    · split <;> simp [GossipEngine.updateStatus]
    · rfl
    · rfl

theorem handlePingUpdate_of_ne (hne : nodeId ≠ update.nodeId) :
    clusterViewGet (handlePingUpdate now engine update).view nodeId =
      clusterViewGet engine.view nodeId := by
  rw [handlePingUpdate_view]
  split
  · exact clusterViewAdd_of_ne hne
  · split_ifs
    · exact clusterViewAdd_of_ne hne
    · exact clusterViewUpdateStatus_of_ne hne
    · rfl

/-- The state piggybacked from the view: among its first ten entries those
that are neither DEAD nor this node. -/
def clusterStateUpdates (now : UInt64) (engine : GossipEngine) : List GossipMemberUpdate :=
  ((engine.view.members.take gossipMaxPiggybackUpdates).filter fun member =>
      !(member.status == .dead || member.nodeId == engine.myId)).map fun member =>
    { nodeId := member.nodeId
      nodeType := member.nodeType
      ipAddress := safeStrncpy member.ipAddress maxIpLen
      gossipPort := member.gossipPort
      dataPort := member.dataPort
      status := member.status
      incarnation := member.incarnation
      timestampMs := now }

def GossipEngine.makeMessage (engine : GossipEngine) (msgType : UInt8)
    (updates : List GossipMemberUpdate) : GossipMessage where
  version := 1
  msgType := msgType
  flags := 0
  senderId := engine.myId
  sequenceNum := engine.sequenceNum
  numUpdates := UInt8.ofNat updates.length
  updates := updates

def GossipMessage.readUpdates (past : Nat → GossipMemberUpdate) (msg : GossipMessage) :
    List GossipMemberUpdate :=
  (List.range msg.numUpdates.toNat).map (msg.update past)

/-- `handle_ping_message`; the second component is the ACK datagram sent back
to the source address. -/
def handlePingMessage (now : UInt64) (past : Nat → GossipMemberUpdate) (engine : GossipEngine)
    (msg : GossipMessage) : GossipEngine × Option (List UInt8) :=
  let engine := (msg.readUpdates past).foldl (handlePingUpdate now) engine
  let ack := engine.makeMessage gossipMsgAck (clusterStateUpdates now engine)
  ({ engine with sequenceNum := engine.sequenceNum + 1 },
    gossipMessageSerialize ack gossipMaxPayloadSize)

/-- `send_ping_to_node`: its return value, the engine and the datagram that
went out. `sent` is whether the UDP send succeeds. -/
def sendPingToNode (now : UInt64) (sent : Bool) (engine : GossipEngine) (targetNode : NodeId) :
    Int × GossipEngine × Option (List UInt8) :=
  match clusterViewGet engine.view targetNode with
  | none => (-1, engine, none)
  | some _ =>
    let (queued, queue) := engine.updateQueue.popBatch engine.config.maxPiggyback.toNat
    let engine := { engine with updateQueue := queue }
    let updates := if UInt8.ofNat queued.length = 0 then clusterStateUpdates now engine else queued
    let ping := engine.makeMessage gossipMsgPing updates
    let engine := { engine with sequenceNum := engine.sequenceNum + 1 }
    match gossipMessageSerialize ping gossipMaxPayloadSize with
    | none => (-1, engine, none)
    | some datagram =>
      if sent then (0, addPendingAck now engine targetNode, some datagram) else (-1, engine, none)

end Roole
