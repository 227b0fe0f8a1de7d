import Roole.Lib.CircularArray
import Roole.Gossip.Engine
import Roole.Node.State

/-!
# The queues between the threads

The message queue, the queue of the event bus and the update queue of the gossip
engine. Each operation is one turn under the queue's lock: a call that waits
takes no step and leaves the queue to the others.
-/

namespace Roole.Queues

/-- What a call returns at its turn, and the queue behind it; `none` when it
waits. -/
abbrev Turn (α ρ : Type) := Option (ρ × CircularArray α)

-- ----------------------------------------------------------------------------
-- Message queue
-- ----------------------------------------------------------------------------

def messageQueueInit (callocOk : Bool) (capacity : Nat) :
    Except ResultStatus (CircularArray Message) :=
  if capacity = 0 then .error .errInvalid
  else if callocOk then .ok (.init .zero capacity)
  else .error .errNomem

def messageQueuePush (queue : CircularArray Message) (message : Message) :
    Turn Message ResultStatus :=
  if queue.count ≥ queue.capacity then none
  else some (.ok, queue.enqueue message)

/-- `timedOut` says whether the timed wait for an item ends without one. -/
def messageQueuePop (queue : CircularArray Message) (timeoutMs : Int) (timedOut : Bool) :
    Turn Message (ResultStatus × Option Message) :=
  if queue.count = 0 then
    if timeoutMs < 0 then none
    else if timeoutMs > 0 then
      if timedOut then some ((.errTimeout, none), queue) else none
    else some ((.errEmpty, none), queue)
  else some ((.ok, some queue.front), queue.advance)

inductive MessageQueueCall
  | push (message : Message)
  | pop (timeoutMs : Int) (timedOut : Bool)

def MessageQueueCall.request : MessageQueueCall → FifoRequest Message
  | .push message => .push message
  | .pop _ _ => .take 1

def messageQueueServe (queue : CircularArray Message) :
    MessageQueueCall → FifoReply Message × CircularArray Message
  | .push message =>
    match messageQueuePush queue message with
    | none => (.full, queue)
    | some (_, queue) => (.accepted message, queue)
  | .pop timeoutMs timedOut =>
    match messageQueuePop queue timeoutMs timedOut with
    | none => (.taken [], queue)
    | some ((_, item), queue) => (.taken item.toList, queue)

-- ----------------------------------------------------------------------------
-- Event bus
-- ----------------------------------------------------------------------------

inductive EventType
  | peerJoined
  | peerLeft
  | peerFailed
  | peerUpdated
  | peerSuspect
  | executionStarted
  | executionCompleted
  | executionFailed
  | messageReceived
  | messageRouted
  | catalogUpdated
  | max
  deriving DecidableEq, Repr

structure EventPeer where
  nodeId : NodeId
  nodeType : NodeType
  ipAddress : List UInt8
  gossipPort : UInt16
  dataPort : UInt16
  status : NodeStatus
  incarnation : UInt64
  deriving DecidableEq, Repr

structure EventExecution where
  execId : ExecutionId
  dagId : RuleId
  assignedPeer : NodeId
  timestampMs : UInt64
  statusCode : Int32
  deriving DecidableEq, Repr

structure EventMessage where
  execId : ExecutionId
  dagId : RuleId
  sourceId : NodeId
  destId : NodeId
  messageSize : UInt64
  timestampMs : UInt64
  deriving DecidableEq, Repr

structure EventCatalog where
  dagId : RuleId
  version : UInt64
  dagName : List UInt8
  deriving DecidableEq, Repr

inductive EventData
  | peer (data : EventPeer)
  | execution (data : EventExecution)
  | message (data : EventMessage)
  | catalog (data : EventCatalog)
  deriving DecidableEq, Repr

structure Event where
  type : EventType
  timestampMs : UInt64
  sourceNodeId : NodeId
  data : EventData
  deriving DecidableEq, Repr

def Event.zero : Event where
  type := .peerJoined
  timestampMs := 0
  sourceNodeId := 0
  data := .peer {
    nodeId := 0
    nodeType := .unknown
    ipAddress := []
    gossipPort := 0
    dataPort := 0
    status := .alive
    incarnation := 0 }

def eventQueueSize : Nat := 1024

def eventQueueInit (callocOk : Bool) (capacity : Nat) : Int × Option (CircularArray Event) :=
  if callocOk then (0, some (.init .zero capacity)) else (-1, none)

def eventQueuePush (queue : CircularArray Event) (event : Event) (blocking : Bool) :
    Turn Event Int :=
  if queue.count ≥ queue.capacity then
    if !blocking then some (-1, queue) else none
  else some (0, queue.enqueue event)

def eventQueuePop (queue : CircularArray Event) (timeoutMs : Int) (timedOut : Bool) :
    Turn Event (Int × Option Event) :=
  if queue.count = 0 then
    if timeoutMs < 0 then none
    else if timeoutMs > 0 then
      if timedOut then some ((-1, none), queue) else none
    else some ((-1, none), queue)
  else some ((0, some queue.front), queue.advance)

inductive EventQueueCall
  | push (event : Event) (blocking : Bool)
  | pop (timeoutMs : Int) (timedOut : Bool)

def EventQueueCall.request : EventQueueCall → FifoRequest Event
  | .push event _ => .push event
  | .pop _ _ => .take 1

def eventQueueServe (queue : CircularArray Event) :
    EventQueueCall → FifoReply Event × CircularArray Event
  | .push event blocking =>
    match eventQueuePush queue event blocking with
    | none => (.full, queue)
    | some (result, queue) => if result = 0 then (.accepted event, queue) else (.full, queue)
  | .pop timeoutMs timedOut =>
    match eventQueuePop queue timeoutMs timedOut with
    | none => (.taken [], queue)
    | some ((_, item), queue) => (.taken item.toList, queue)

-- ----------------------------------------------------------------------------
-- Update queue
-- ----------------------------------------------------------------------------

def updateQueueInit : CircularArray GossipMemberUpdate := .init .zero maxUpdateQueue

def updateQueuePush (queue : CircularArray GossipMemberUpdate) (update : GossipMemberUpdate) :
    Int × CircularArray GossipMemberUpdate :=
  if queue.count ≥ maxUpdateQueue then (-1, queue)
  else (0, queue.enqueue update)

/-- The copying loop of a batch with this many updates to go. -/
def updateQueueCopy (queue : CircularArray GossipMemberUpdate) :
    Nat → List GossipMemberUpdate × CircularArray GossipMemberUpdate
  | 0 => ([], queue)
  | left + 1 =>
    let (out, rest) := updateQueueCopy queue.advance left
    (queue.front :: out, rest)

def updateQueuePopBatch (queue : CircularArray GossipMemberUpdate) (maxCount : Nat) :
    List GossipMemberUpdate × CircularArray GossipMemberUpdate :=
  let toCopy := if queue.count < maxCount then queue.count else maxCount
  updateQueueCopy queue toCopy

inductive UpdateQueueCall
  | push (update : GossipMemberUpdate)
  | popBatch (maxCount : Nat)

def UpdateQueueCall.request : UpdateQueueCall → FifoRequest GossipMemberUpdate
  | .push update => .push update
  | .popBatch maxCount => .take maxCount

def updateQueueServe (queue : CircularArray GossipMemberUpdate) :
    UpdateQueueCall → FifoReply GossipMemberUpdate × CircularArray GossipMemberUpdate
  | .push update =>
    let (result, queue) := updateQueuePush queue update
    if result = 0 then (.accepted update, queue) else (.full, queue)
  | .popBatch maxCount =>
    let (out, queue) := updateQueuePopBatch queue maxCount
    (.taken out, queue)

-- ----------------------------------------------------------------------------
-- Each serves as a bounded queue does
-- ----------------------------------------------------------------------------

theorem messageQueue_implements (capacity : Nat) :
    BoundedFifo.Implements capacity messageQueueServe MessageQueueCall.request
      CircularArray.toList (CircularArray.Sound capacity) := by
  intro queue call hsound
  cases call with
  | push message =>
    unfold messageQueueServe messageQueuePush
    by_cases hfull : queue.count ≥ queue.capacity
    · simp only [if_pos hfull]
      exact CircularArray.served_push_full hsound hfull message
    · simp only [if_neg hfull]
      exact CircularArray.served_push_room hsound (Nat.not_le.mp hfull) message
  | pop timeoutMs timedOut =>
    unfold messageQueueServe messageQueuePop
    by_cases hempty : queue.count = 0
    · have hserved := CircularArray.served_take_empty hsound hempty 1
      simp only [if_pos hempty]
      split_ifs <;> exact hserved
    · simp only [if_neg hempty]
      exact CircularArray.served_take_one hsound (Nat.pos_of_ne_zero hempty)

theorem eventQueue_implements (capacity : Nat) :
    BoundedFifo.Implements capacity eventQueueServe EventQueueCall.request
      CircularArray.toList (CircularArray.Sound capacity) := by
  intro queue call hsound
  cases call with
  | push event blocking =>
    unfold eventQueueServe eventQueuePush
    by_cases hfull : queue.count ≥ queue.capacity
    · have hserved := CircularArray.served_push_full hsound hfull event
      simp only [if_pos hfull]
      cases blocking <;> exact hserved
    · simp only [if_neg hfull]
      exact CircularArray.served_push_room hsound (Nat.not_le.mp hfull) event
  | pop timeoutMs timedOut =>
    unfold eventQueueServe eventQueuePop
    by_cases hempty : queue.count = 0
    · have hserved := CircularArray.served_take_empty hsound hempty 1
      simp only [if_pos hempty]
      split_ifs <;> exact hserved
    · simp only [if_neg hempty]
      exact CircularArray.served_take_one hsound (Nat.pos_of_ne_zero hempty)

theorem updateQueueCopy_served (h : queue.Sound size) (hleft : left ≤ queue.count) :
    CircularArray.Served size queue (.take left)
      (.taken (updateQueueCopy queue left).1, (updateQueueCopy queue left).2) := by
  induction left generalizing queue with
  | zero => exact ⟨h, rfl⟩
  | succ left ih =>
    have hitem : 0 < queue.count := Nat.zero_lt_of_lt hleft
    have hnext : queue.advance.Sound size := (CircularArray.served_take_one h hitem).1
    exact CircularArray.served_take_succ h hitem (ih hnext (Nat.le_sub_one_of_lt hleft))

theorem updateQueue_implements :
    BoundedFifo.Implements maxUpdateQueue updateQueueServe UpdateQueueCall.request
      CircularArray.toList (CircularArray.Sound maxUpdateQueue) := by
  intro queue call hsound
  cases call with
  | push update =>
    unfold updateQueueServe updateQueuePush
    by_cases hfull : queue.count ≥ maxUpdateQueue
    · simp only [if_pos hfull]
      exact CircularArray.served_push_full hsound (hsound.2 ▸ hfull) update
    · simp only [if_neg hfull]
      exact CircularArray.served_push_room hsound (hsound.2 ▸ Nat.not_le.mp hfull) update
  | popBatch maxCount =>
    unfold updateQueueServe updateQueuePopBatch
    by_cases hfew : queue.count < maxCount
    · -- the whole queue is what a longer batch takes as well
      obtain ⟨hrest, hanswer⟩ := updateQueueCopy_served hsound (Nat.le_refl queue.count)
      simp only [if_pos hfew]
      refine ⟨hrest, hanswer.trans ?_⟩
      simp [BoundedFifo.serve, UpdateQueueCall.request, List.take_of_length_le,
        List.drop_of_length_le, Nat.le_of_lt hfew]
    · simp only [if_neg hfew]
      exact updateQueueCopy_served hsound (Nat.not_lt.mp hfew)

theorem messageQueuePush_waits (queue : CircularArray Message) (message : Message) :
    messageQueuePush queue message = none ↔ queue.capacity ≤ queue.count := by
  simp [messageQueuePush]

theorem eventQueuePush_waits (queue : CircularArray Event) (event : Event) :
    eventQueuePush queue event true = none ↔ queue.capacity ≤ queue.count := by
  simp [eventQueuePush]

theorem eventQueuePush_refused (queue : CircularArray Event) (event : Event) :
    eventQueuePush queue event false = some (-1, queue) ↔ queue.capacity ≤ queue.count := by
  unfold eventQueuePush
  by_cases hfull : queue.count ≥ queue.capacity <;> simp [hfull]

theorem updateQueuePush_refused (queue : CircularArray GossipMemberUpdate)
    (update : GossipMemberUpdate) :
    updateQueuePush queue update = (-1, queue) ↔ maxUpdateQueue ≤ queue.count := by
  unfold updateQueuePush
  by_cases hfull : queue.count ≥ maxUpdateQueue <;> simp [hfull]

-- ----------------------------------------------------------------------------
-- Every interleaving
-- ----------------------------------------------------------------------------

/-- Whichever threads make the calls, in whatever order they get the lock. -/
theorem queues_refine_boundedFifo :
    (∀ callocOk capacity start, messageQueueInit callocOk capacity = .ok start →
      ∀ calls, ∃ replies queue,
        CircularArray.RefinesFifo start messageQueueServe MessageQueueCall.request calls replies
          queue ∧ queue.capacity = capacity ∧
        ∀ message, messageQueuePush queue message = none ↔ queue.count = capacity) ∧
    (∀ callocOk capacity start, 0 < capacity →
      eventQueueInit callocOk capacity = (0, some start) → ∀ calls, ∃ replies queue,
        CircularArray.RefinesFifo start eventQueueServe EventQueueCall.request calls replies
          queue ∧ queue.capacity = capacity ∧
        ∀ event, (eventQueuePush queue event true = none ↔ queue.count = capacity) ∧
          (eventQueuePush queue event false = some (-1, queue) ↔ queue.count = capacity)) ∧
    ∀ calls, ∃ replies queue,
      CircularArray.RefinesFifo updateQueueInit updateQueueServe UpdateQueueCall.request calls
        replies queue ∧ queue.capacity = maxUpdateQueue ∧
      (∀ update, updateQueuePush queue update = (-1, queue) ↔ queue.count = maxUpdateQueue) ∧
      ∀ maxCount, (updateQueuePopBatch queue maxCount).1 =
        queue.toList.take (min queue.count maxCount) := by
  refine ⟨?_, ?_, ?_⟩
  · intro callocOk capacity start hinit calls
    unfold messageQueueInit at hinit
    split_ifs at hinit with hzero
    cases hinit
    obtain ⟨replies, queue, hfifo⟩ := CircularArray.RefinesFifo.of_implements
      (CircularArray.toList_init _ _)
      (CircularArray.init_wellFormed .zero (Nat.pos_of_ne_zero hzero))
      (messageQueue_implements capacity) calls
    refine ⟨replies, queue, hfifo, hfifo.capacity_eq, fun message => ?_⟩
    rw [messageQueuePush_waits, hfifo.capacity_eq]
    exact hfifo.full_iff
  · intro callocOk capacity start hpos hinit calls
    unfold eventQueueInit at hinit
    split_ifs at hinit <;> cases hinit
    obtain ⟨replies, queue, hfifo⟩ := CircularArray.RefinesFifo.of_implements
      (CircularArray.toList_init _ _) (CircularArray.init_wellFormed .zero hpos)
      (eventQueue_implements capacity) calls
    refine ⟨replies, queue, hfifo, hfifo.capacity_eq, fun event => ?_⟩
    rw [eventQueuePush_waits, eventQueuePush_refused, hfifo.capacity_eq]
    exact ⟨hfifo.full_iff, hfifo.full_iff⟩
  · intro calls
    obtain ⟨replies, queue, hfifo⟩ := CircularArray.RefinesFifo.of_implements
      (CircularArray.toList_init _ _) (CircularArray.init_wellFormed .zero (by decide))
      updateQueue_implements calls
    refine ⟨replies, queue, hfifo, hfifo.capacity_eq, fun update => ?_, fun maxCount => ?_⟩
    · rw [updateQueuePush_refused]
      exact hfifo.full_iff
    · exact FifoReply.taken.inj (hfifo.take_reply (.popBatch maxCount) maxCount rfl)

theorem queues_refine_boundedFifo_busy :
    ∃ replies queue,
      CircularArray.RefinesFifo (.init .zero 2) messageQueueServe MessageQueueCall.request
        [.push { Message.zero with execId := 1 }, .push { Message.zero with execId := 2 },
          .push { Message.zero with execId := 3 }, .pop 1000 false,
          .push { Message.zero with execId := 4 }, .pop (-1) false, .pop 0 false, .pop 0 false]
        replies queue := by
  obtain ⟨replies, queue, hfifo, -⟩ := queues_refine_boundedFifo.1 true 2 _ rfl _
  exact ⟨replies, queue, hfifo⟩

-- ----------------------------------------------------------------------------
-- The queues of the engine and of the node
-- ----------------------------------------------------------------------------

theorem updateQueuePush_toList {engine : GossipEngine} (h : queue.Sound maxUpdateQueue)
    (hsame : engine.updateQueue.toList = queue.toList) (update : GossipMemberUpdate) :
    (engine.updateQueuePush update).updateQueue.toList =
      (updateQueuePush queue update).2.toList := by
  rw [GossipEngine.updateQueuePush_take, hsame]
  unfold updateQueuePush
  by_cases hfull : queue.count ≥ maxUpdateQueue
  · have hlength : maxUpdateQueue ≤ queue.toList.length := by simpa using hfull
    have hle : queue.toList.length ≤ maxUpdateQueue := by simpa [← h.2] using h.1.count_le
    simp [hfull, List.take_append_of_le_length hlength, List.take_of_length_le hle]
  · have hroom : queue.count < queue.capacity := by rw [h.2]; exact Nat.not_le.mp hfull
    rw [if_neg hfull, CircularArray.toList_enqueue h.1 hroom, List.take_of_length_le]
    simp only [List.length_append, CircularArray.toList_length, List.length_singleton]
    omega

theorem updateQueuePopBatch_toList {engine : GossipEngine} (h : queue.Sound maxUpdateQueue)
    (hsame : engine.updateQueue.toList = queue.toList) (maxCount : Nat) :
    (updateQueuePopBatch queue maxCount).1 = (engine.updateQueue.popBatch maxCount).1 ∧
      (updateQueuePopBatch queue maxCount).2.toList =
        (engine.updateQueue.popBatch maxCount).2.toList := by
  obtain ⟨hitems, hrest⟩ := RingBuffer.popBatch_eq maxCount engine.updateQueue
  have hserved := (updateQueue_implements queue (.popBatch maxCount) h).2
  simp only [updateQueueServe, UpdateQueueCall.request, BoundedFifo.serve, Prod.mk.injEq,
    FifoReply.taken.injEq] at hserved
  rw [hitems, hrest, hsame]
  exact hserved

theorem messageQueuePop_toList {state after : NodeState} (h : queue.WellFormed)
    (hsame : state.messageQueue.buffer.toList = queue.toList)
    (hpop : Roole.messageQueuePop state = some after) (timeoutMs : Int) (timedOut : Bool) :
    messageQueuePop queue timeoutMs timedOut = some ((.ok, some queue.front), queue.advance) ∧
      after.executing = state.executing ++ [queue.front] ∧
      after.messageQueue.buffer.toList = queue.advance.toList := by
  obtain ⟨⟨message, buffer⟩, hbuffer, rfl⟩ := Option.map_eq_some_iff.mp hpop
  have hitems := RingBuffer.toList_pop hbuffer
  rw [hsame] at hitems
  have hitem : queue.count ≠ 0 := by
    rw [← queue.toList_length, hitems]
    simp
  rw [CircularArray.toList_advance h (Nat.pos_of_ne_zero hitem)] at hitems
  obtain ⟨hfront, hrest⟩ := List.cons.inj hitems
  simp [messageQueuePop, hitem, hfront, hrest]

end Roole.Queues
