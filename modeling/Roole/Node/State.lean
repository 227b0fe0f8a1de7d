import Mathlib.Data.Rat.Defs
import Roole.Cluster.View
import Roole.Dag.Catalog
import Roole.Lib.RingBuffer
import Roole.Rpc.Server

/-!
# The state of a node

The subsystems that the request handlers and the executor threads share:
`peer_pool.c`, `execution_tracker.c` and `message_queue.c`.
-/

namespace Roole

open KeyedList

def maxPeers : Nat := 512
def maxMessageSize : Nat := 4096

structure NodeCapabilities where
  hasIngress : Bool
  canExecute : Bool
  canRoute : Bool
  deriving DecidableEq, Repr

-- ----------------------------------------------------------------------------
-- Peer pool
-- ----------------------------------------------------------------------------

structure PeerInfo where
  nodeId : NodeId
  ip : List UInt8
  gossipPort : UInt16
  dataPort : UInt16
  status : NodeStatus
  activeExecutions : UInt32
  /-- A `float`; all its values are rationals. -/
  loadScore : ℚ
  dataChannel : Option RpcChannel
  capabilities : NodeCapabilities
  deriving DecidableEq, Repr

structure PeerPool where
  peers : List PeerInfo
  capacity : Nat
  /-- How often the mutex is locked more than unlocked. -/
  lockDepth : Int
  nodup : (peers.map PeerInfo.nodeId).Nodup
  length_le : peers.length ≤ capacity

def peerPoolInit (capacity : Nat) : PeerPool where
  peers := []
  capacity := capacity
  lockDepth := 0
  nodup := List.nodup_nil
  length_le := Nat.zero_le _

/-- A peer that is found is returned with the pool locked. -/
def peerPoolGet (pool : PeerPool) (nodeId : NodeId) : Option PeerInfo × PeerPool :=
  match lookup PeerInfo.nodeId pool.peers nodeId with
  | some peer => (some peer, { pool with lockDepth := pool.lockDepth + 1 })
  | none => (none, pool)

def peerPoolRelease (pool : PeerPool) : PeerPool := { pool with lockDepth := pool.lockDepth - 1 }

@[simp] theorem peerPoolRelease_peers (pool : PeerPool) :
    (peerPoolRelease pool).peers = pool.peers := rfl

@[simp] theorem peerPoolGet_peers (pool : PeerPool) (nodeId : NodeId) :
    (peerPoolGet pool nodeId).2.peers = pool.peers := by
  unfold peerPoolGet
  split <;> rfl

theorem peerPoolGet_fst (pool : PeerPool) (nodeId : NodeId) :
    (peerPoolGet pool nodeId).1 = lookup PeerInfo.nodeId pool.peers nodeId := by
  unfold peerPoolGet
  split <;> simp [*]

def PeerInfo.added (nodeId : NodeId) (ip : List UInt8) (gossipPort dataPort : UInt16) :
    PeerInfo where
  nodeId := nodeId
  ip := safeStrncpy ip maxIpLen
  gossipPort := gossipPort
  dataPort := dataPort
  status := .alive
  activeExecutions := 0
  loadScore := 0
  dataChannel := none
  capabilities := ⟨false, true, true⟩

def PeerPool.append (pool : PeerPool) (peer : PeerInfo)
    (hnew : lookup PeerInfo.nodeId pool.peers peer.nodeId = none)
    (hroom : pool.peers.length < pool.capacity) : PeerPool where
  peers := pool.peers ++ [peer]
  capacity := pool.capacity
  lockDepth := pool.lockDepth
  nodup := nodup_map_concat pool.nodup hnew
  length_le := by
    rw [List.length_append]
    exact hroom

/-- A node that is in the pool already keeps its entry. -/
def peerPoolAdd (pool : PeerPool) (nodeId : NodeId) (ip : List UInt8)
    (gossipPort dataPort : UInt16) : ResultStatus × PeerPool :=
  match hnew : lookup PeerInfo.nodeId pool.peers nodeId with
  | some _ => (.ok, pool)
  | none =>
    if hroom : pool.peers.length < pool.capacity then
      (.ok, pool.append (.added nodeId ip gossipPort dataPort) hnew hroom)
    else (.errFull, pool)

theorem mem_peerPoolAdd (h : peer ∈ (peerPoolAdd pool nodeId ip gossipPort dataPort).2.peers) :
    peer ∈ pool.peers ∨ peer.nodeId = nodeId := by
  unfold peerPoolAdd at h
  split at h
  · exact .inl h
  · split_ifs at h
    · rcases List.mem_append.mp h with hmem | hmem
      · exact .inl hmem
      · obtain rfl := List.mem_singleton.mp hmem
        exact .inr rfl
    · exact .inl h

def PeerInfo.setChannel (channel : Option RpcChannel) (peer : PeerInfo) : PeerInfo :=
  { peer with dataChannel := peer.dataChannel.or channel }

theorem map_nodeId_setChannel (nodeId : NodeId) (channel : Option RpcChannel)
    (peers : List PeerInfo) :
    (modify PeerInfo.nodeId nodeId (·.setChannel channel) peers).map PeerInfo.nodeId =
      peers.map PeerInfo.nodeId :=
  map_key_modify (f := (·.setChannel channel)) (fun _ h => h) peers

def PeerPool.setChannel (pool : PeerPool) (nodeId : NodeId) (channel : Option RpcChannel) :
    PeerPool where
  peers := modify PeerInfo.nodeId nodeId (·.setChannel channel) pool.peers
  capacity := pool.capacity
  lockDepth := pool.lockDepth
  nodup := by
    rw [map_nodeId_setChannel]
    exact pool.nodup
  length_le := by
    rw [modify_length]
    exact pool.length_le

/-- A node is added to the pool and, where it has no data channel yet, one is
set up, as `node_bootstrap_ex` and `handle_worker_join_message` do it.
`channel` is what the connection attempt gives. -/
def connectPeer (nodeId : NodeId) (ip : List UInt8) (gossipPort dataPort : UInt16)
    (channel : Option RpcChannel) (pool : PeerPool) : PeerPool :=
  let (result, pool) := peerPoolAdd pool nodeId ip gossipPort dataPort
  if result = .ok then
    let (peer, pool) := peerPoolGet pool nodeId
    match peer with
    | some _ => peerPoolRelease (pool.setChannel nodeId channel)
    | none => pool
  else pool

theorem mem_connectPeer
    (h : peer ∈ (connectPeer nodeId ip gossipPort dataPort channel pool).peers) :
    peer.nodeId = nodeId ∨ ∃ old ∈ pool.peers, old.nodeId = peer.nodeId := by
  have hadd : ∀ other ∈ (peerPoolAdd pool nodeId ip gossipPort dataPort).2.peers,
      other.nodeId = nodeId ∨ ∃ old ∈ pool.peers, old.nodeId = other.nodeId := by
    intro other hother
    rcases mem_peerPoolAdd hother with hmem | heq
    · exact .inr ⟨other, hmem, rfl⟩
    · exact .inl heq
  unfold connectPeer at h
  dsimp only at h
  split_ifs at h
  · split at h
    · have hkey := List.mem_map_of_mem (f := PeerInfo.nodeId) h
      rw [peerPoolRelease_peers, PeerPool.setChannel, map_nodeId_setChannel,
        peerPoolGet_peers] at hkey
      obtain ⟨other, hother, heq⟩ := List.mem_map.mp hkey
      exact heq ▸ hadd other hother
    · rw [peerPoolGet_peers] at h
      exact hadd peer h
  · exact hadd peer h

def PeerPool.channelTo (pool : PeerPool) (nodeId : NodeId) : Option RpcChannel :=
  (peerPoolGet pool nodeId).1.bind PeerInfo.dataChannel

/-- `roundFloat` rounds the result of an operation to a `float`. -/
def PeerInfo.loadScoreOf (roundFloat : ℚ → ℚ) (peer : PeerInfo) : ℚ :=
  roundFloat (roundFloat peer.activeExecutions.toNat + roundFloat (peer.loadScore * 10))

def selectLeastLoaded (roundFloat : ℚ → ℚ) : NodeId → ℚ → List PeerInfo → NodeId
  | best, _, [] => best
  | best, bestScore, peer :: rest =>
    if peer.status = .alive ∧ peer.capabilities.canExecute ∧
        peer.loadScoreOf roundFloat < bestScore then
      selectLeastLoaded roundFloat peer.nodeId (peer.loadScoreOf roundFloat) rest
    else selectLeastLoaded roundFloat best bestScore rest

def peerPoolSelectLeastLoaded (roundFloat : ℚ → ℚ) (pool : PeerPool) : NodeId :=
  selectLeastLoaded roundFloat 0 1000000000 pool.peers

-- ----------------------------------------------------------------------------
-- Execution tracker
-- ----------------------------------------------------------------------------

/-- Statuses arrive as single bytes in updates, so values without a name
occur. -/
inductive ExecutionStatus
  | pending
  | running
  | completed
  | failed
  | retrying
  | timeout
  | other (raw : UInt8) (unnamed : 5 < raw)
  deriving DecidableEq, Repr

namespace ExecutionStatus

def named : List ExecutionStatus := [pending, running, completed, failed, retrying, timeout]

def ofByte (b : UInt8) : ExecutionStatus :=
  if h : 5 < b then .other b h else named.getD b.toNat .pending

def toByte : ExecutionStatus → UInt8
  | .pending => 0
  | .running => 1
  | .completed => 2
  | .failed => 3
  | .retrying => 4
  | .timeout => 5
  | .other raw _ => raw

@[simp] theorem ofByte_toByte (status : ExecutionStatus) : ofByte status.toByte = status := by
  cases status with
  | other raw h => simp [ofByte, toByte, h]
  | _ => rfl

end ExecutionStatus

structure ExecutionRecord where
  execId : ExecutionId
  dagId : RuleId
  assignedPeer : NodeId
  status : ExecutionStatus
  submitTimeMs : UInt64
  startTimeMs : UInt64
  completeTimeMs : UInt64
  retryCount : UInt8
  maxRetries : UInt8
  messageData : List UInt8
  active : Bool
  deriving DecidableEq, Repr

def ExecutionRecord.zero : ExecutionRecord where
  execId := 0
  dagId := 0
  assignedPeer := 0
  status := .pending
  submitTimeMs := 0
  startTimeMs := 0
  completeTimeMs := 0
  retryCount := 0
  maxRetries := 0
  messageData := []
  active := false

/-- What the searches of the tracker compare: slots not in use never match. -/
def ExecutionRecord.key (record : ExecutionRecord) : Option ExecutionId :=
  if record.active then some record.execId else none

structure ExecutionTracker where
  records : List ExecutionRecord
  nextExecId : ExecutionId
  deriving DecidableEq, Repr

def executionTrackerInit (capacity : Nat) : ExecutionTracker where
  records := List.replicate capacity .zero
  nextExecId := 1

def fillSlot (record : ExecutionRecord) : List ExecutionRecord → Option (List ExecutionRecord)
  | [] => none
  | slot :: rest =>
    if slot.active then (fillSlot record rest).map (slot :: ·) else some (record :: rest)

/-- Zero when the message is empty or too long, or every slot is in use. -/
def executionTrackerAdd (now : UInt64) (tracker : ExecutionTracker) (dagId : RuleId)
    (peerId : NodeId) (message : List UInt8) (maxRetries : UInt8) :
    ExecutionId × ExecutionTracker :=
  if message.length = 0 ∨ message.length > maxMessageSize then (0, tracker)
  else
    let record := {
      execId := tracker.nextExecId
      dagId := dagId
      assignedPeer := peerId
      status := .pending
      submitTimeMs := now
      startTimeMs := 0
      completeTimeMs := 0
      retryCount := 0
      maxRetries := maxRetries
      messageData := message
      active := true }
    match fillSlot record tracker.records with
    | none => (0, tracker)
    | some records => (tracker.nextExecId, ⟨records, tracker.nextExecId + 1⟩)

def ExecutionRecord.setStatus (now : UInt64) (status : ExecutionStatus)
    (record : ExecutionRecord) : ExecutionRecord :=
  { record with
    status := status
    startTimeMs :=
      if status = .running ∧ record.status = .pending then now else record.startTimeMs
    completeTimeMs :=
      if status = .completed ∨ status = .failed then now else record.completeTimeMs }

def executionTrackerGet (tracker : ExecutionTracker) (execId : ExecutionId) :
    Option ExecutionRecord :=
  if execId = 0 then none else lookup ExecutionRecord.key tracker.records (some execId)

def executionTrackerUpdateStatus (now : UInt64) (tracker : ExecutionTracker)
    (execId : ExecutionId) (status : ExecutionStatus) : ResultStatus × ExecutionTracker :=
  if execId = 0 then (.errInvalid, tracker)
  else
    match executionTrackerGet tracker execId with
    | none => (.errNotfound, tracker)
    | some _ => (.ok, { tracker with
        records := modify ExecutionRecord.key (some execId) (·.setStatus now status)
          tracker.records })

theorem executionTrackerGet_updateStatus (now : UInt64) (tracker : ExecutionTracker)
    (execId : ExecutionId) (status : ExecutionStatus) :
    executionTrackerGet (executionTrackerUpdateStatus now tracker execId status).2 other =
      if other = execId then
        (executionTrackerGet tracker other).map (·.setStatus now status)
      else executionTrackerGet tracker other := by
  have hkey : ∀ record : ExecutionRecord, record.key = some execId →
      (record.setStatus now status).key = some execId := fun record h => h
  unfold executionTrackerUpdateStatus
  split_ifs with hzero hother hother
  · simp [executionTrackerGet, hzero, hother]
  · rfl
  · subst hother
    cases hget : executionTrackerGet tracker other with
    | none => simp [hget]
    | some record =>
      rw [executionTrackerGet, if_neg hzero] at hget
      simp [executionTrackerGet, hzero, lookup_modify hkey, hget]
  · cases hget : executionTrackerGet tracker execId with
    | none => rfl
    | some record =>
      have hne : some other ≠ some execId := fun h => hother (Option.some.inj h)
      simp [executionTrackerGet, lookup_modify_of_ne hkey hne]

-- ----------------------------------------------------------------------------
-- Message queue
-- ----------------------------------------------------------------------------

structure Message where
  execId : ExecutionId
  dagId : RuleId
  messageData : List UInt8
  receivedAtMs : UInt64
  senderId : NodeId
  deriving DecidableEq, Repr

def Message.zero : Message where
  execId := 0
  dagId := 0
  messageData := []
  receivedAtMs := 0
  senderId := 0

structure MessageQueue where
  capacity : Nat
  buffer : RingBuffer Message capacity
  capacity_pos : 0 < capacity

def messageQueueInit (capacity : Nat) (h : 0 < capacity) : MessageQueue where
  capacity := capacity
  buffer := .empty .zero
  capacity_pos := h

theorem shortQueue_pos : 0 < 4 := Nat.succ_pos _

def shortQueue : MessageQueue := messageQueueInit 4 shortQueue_pos

-- ----------------------------------------------------------------------------
-- Node
-- ----------------------------------------------------------------------------

structure NodeState where
  nodeId : NodeId
  capabilities : NodeCapabilities
  dagCatalog : DagCatalog
  peerPool : PeerPool
  execTracker : ExecutionTracker
  messageQueue : MessageQueue
  clusterView : ClusterView
  activeExecutions : UInt32
  executing : List Message

def NodeState.init (nodeId : NodeId) (capabilities : NodeCapabilities) (records : Nat)
    (queue : MessageQueue) : NodeState where
  nodeId := nodeId
  capabilities := capabilities
  dagCatalog := dagCatalogInit maxDags
  peerPool := peerPoolInit maxPeers
  execTracker := executionTrackerInit records
  messageQueue := queue
  clusterView := .empty maxClusterNodes
  activeExecutions := 0
  executing := []

def NodeState.held (state : NodeState) : List Message :=
  state.executing ++ state.messageQueue.buffer.toList

/-- What the operations ask of their surroundings. -/
structure NodeEnv where
  now : UInt64
  mallocOk : Bool
  /-- The configurations of a received DAG's steps, by index. -/
  deserializeAlloc : Nat → Bool
  copyAlloc : Nat → Bool
  roundFloat : ℚ → ℚ
  past : PastSlots
  /-- How many messages after the first are popped before a push that found
  the queue full goes on. -/
  popsWhileFull : Nat

def NodeEnv.calm (past : PastSlots) : NodeEnv where
  now := 1000
  mallocOk := true
  deserializeAlloc := fun _ => true
  copyAlloc := fun _ => true
  roundFloat := id
  past := past
  popsWhileFull := 0

def messageQueuePop (state : NodeState) : Option NodeState :=
  state.messageQueue.buffer.pop.map fun (message, buffer) =>
    { state with
      messageQueue := { state.messageQueue with buffer := buffer }
      executing := state.executing ++ [message] }

theorem messageQueuePop_eq (h : messageQueuePop state = some after) : ∃ executing queue,
    after = { state with executing := executing, messageQueue := queue } ∧
      after.held = state.held := by
  obtain ⟨⟨message, buffer⟩, hpop, rfl⟩ := Option.map_eq_some_iff.mp h
  refine ⟨_, _, rfl, ?_⟩
  simp [NodeState.held, RingBuffer.toList_pop hpop]

/-- The wait at the start of `message_queue_push`: while the queue is full the
executor threads pop. The messages popped, and the queue then. -/
def MessageQueue.waitNotFull (queue : MessageQueue) (popsWhileFull : Nat) :
    List Message × RingBuffer Message queue.capacity :=
  if queue.buffer.count ≥ queue.capacity then queue.buffer.popBatch (popsWhileFull + 1)
  else ([], queue.buffer)

def messageQueuePush (env : NodeEnv) (state : NodeState) (message : Message) :
    ResultStatus × NodeState :=
  let (taken, buffer) := state.messageQueue.waitNotFull env.popsWhileFull
  match buffer.push message with
  | none => (.errFull, state)
  | some buffer => (.ok, { state with
      messageQueue := { state.messageQueue with buffer := buffer }
      executing := state.executing ++ taken })

theorem MessageQueue.waitNotFull_toList (queue : MessageQueue) (pops : Nat) :
    (queue.waitNotFull pops).1 ++ (queue.waitNotFull pops).2.toList = queue.buffer.toList := by
  unfold waitNotFull
  split_ifs
  · obtain ⟨htaken, hrest⟩ := queue.buffer.popBatch_eq (pops + 1)
    rw [htaken, hrest, List.take_append_drop]
  · rfl

theorem MessageQueue.waitNotFull_room (queue : MessageQueue) (pops : Nat) :
    (queue.waitNotFull pops).2.toList.length ≠ queue.capacity := by
  have hpos := queue.capacity_pos
  have hle := queue.buffer.count_le
  unfold waitNotFull
  split_ifs with hfull
  · rw [(queue.buffer.popBatch_eq (pops + 1)).2, List.length_drop, RingBuffer.toList_length]
    omega
  · rw [RingBuffer.toList_length]
    exact (Nat.not_le.mp hfull).ne

theorem messageQueuePush_ok (env : NodeEnv) (state : NodeState) (message : Message) :
    ∃ taken buffer, messageQueuePush env state message = (.ok, { state with
        messageQueue := { state.messageQueue with buffer := buffer }
        executing := state.executing ++ taken }) ∧
      taken ++ buffer.toList = state.messageQueue.buffer.toList ++ [message] := by
  have hitems := state.messageQueue.waitNotFull_toList env.popsWhileFull
  have hroom := state.messageQueue.waitNotFull_room env.popsWhileFull
  cases hpush : (state.messageQueue.waitNotFull env.popsWhileFull).2.push message with
  | none => exact absurd (RingBuffer.push_eq_none.mp hpush) hroom
  | some buffer =>
    refine ⟨(state.messageQueue.waitNotFull env.popsWhileFull).1, buffer, ?_, ?_⟩
    · simp only [messageQueuePush, hpush]
    · rw [RingBuffer.toList_push hpush, ← hitems, List.append_assoc]

theorem messageQueuePush_held (env : NodeEnv) (state : NodeState) (message : Message) :
    ∃ executing queue, messageQueuePush env state message =
        (.ok, { state with executing := executing, messageQueue := queue }) ∧
      (messageQueuePush env state message).2.held = state.held ++ [message] := by
  obtain ⟨taken, buffer, hpush, hitems⟩ := messageQueuePush_ok env state message
  refine ⟨_, _, hpush, ?_⟩
  rw [hpush]
  simp only [NodeState.held, List.append_assoc, hitems]

end Roole
