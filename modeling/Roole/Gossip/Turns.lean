import Roole.Gossip.Announcements
import Roole.Gossip.Rounds

/-!
# Turns

The steps of an engine, taken apart into the turns of their loops. A turn makes
at most one call on the cluster view, raises the events and queues the updates
that go with it. The two threads of a node and the calls from outside share the
view between any two turns, so lists of turns stand for what a node does. Two
things are taken together: a turn reads the clock, where a scan for timeouts
reads it once for all its turns, and a PING is sent and its ACK awaited in one
turn. The steps of a single thread are the lists given here.
-/

namespace Roole

inductive GossipTurn
  | pingUpdate (update : GossipMemberUpdate)
  | ackSender (senderId : NodeId)
  | ackUpdate (update : GossipMemberUpdate)
  | suspectUpdate (update : GossipMemberUpdate)
  | aliveUpdate (update : GossipMemberUpdate)
  | deadUpdate (update : GossipMemberUpdate)
  | join (srcIp : List UInt8) (update : GossipMemberUpdate)
  | workerJoin (srcIp : List UInt8) (senderId : NodeId) (update : GossipMemberUpdate)
  | leave (senderId : NodeId) (sequenceNum : UInt64)
  /-- A sequence number is taken: for an answer, a seed or a LEAVE. -/
  | numbered
  | updateSelf
  | ping (random : Nat) (sent : Bool)
  | checkAck (i : Nat)
  | checkSuspect (i : Nat)
  | gossip (rand : Nat → Nat)
  | announceJoin
  | setCallback

def handleJoinUpdate (now : UInt64) (srcIp : List UInt8) (engine : GossipEngine)
    (update : GossipMemberUpdate) : GossipEngine :=
  ((engine.addMember now (update.joined update.nodeType srcIp update.incarnation 0)).notify
    (update.event .join)).updateQueuePush update

abbrev TimedTurn := UInt64 × GossipTurn

def MonotoneClock (turns : List TimedTurn) : Prop := (turns.map Prod.fst).Pairwise (· ≤ ·)

instance (turns : List TimedTurn) : Decidable (MonotoneClock turns) :=
  inferInstanceAs (Decidable ((turns.map Prod.fst).Pairwise (· ≤ ·)))

def timeAt (turns : List TimedTurn) (i : Nat) : UInt64 := (turns.map Prod.fst).getD i 0

theorem timeAt_eq {turns : List TimedTurn} (hi : i < turns.length) :
    timeAt turns i = turns[i].1 := by
  simp [timeAt, hi]

theorem timeAt_le {turns : List TimedTurn} (hclock : MonotoneClock turns) (hij : i ≤ j)
    (hj : j < turns.length) : timeAt turns i ≤ timeAt turns j := by
  have hi := Nat.lt_of_le_of_lt hij hj
  rw [timeAt_eq hi, timeAt_eq hj]
  rcases Nat.eq_or_lt_of_le hij with rfl | hlt
  · exact UInt64.le_refl _
  · have hpair := List.pairwise_iff_getElem.mp hclock i j (by simpa using hi) (by simpa using hj)
      hlt
    rwa [List.getElem_map, List.getElem_map] at hpair

namespace GossipEngine

def turn (engine : GossipEngine) : TimedTurn → GossipEngine
  | (now, .pingUpdate update) => handlePingUpdate now engine update
  | (now, .ackSender senderId) => recoverSender now (removePendingAck engine senderId) senderId
  | (now, .ackUpdate update) => handleAckUpdate now engine update
  | (now, .suspectUpdate update) => handleSuspectUpdate now engine update
  | (now, .aliveUpdate update) => handleAliveUpdate now engine update
  | (now, .deadUpdate update) => handleDeadUpdate now engine update
  | (now, .join srcIp update) => handleJoinUpdate now srcIp engine update
  | (now, .workerJoin srcIp senderId update) => (joinWorker now srcIp engine senderId update).1
  | (now, .leave senderId sequenceNum) => engine.updateStatus now senderId .dead sequenceNum
  | (_, .numbered) => { engine with sequenceNum := engine.sequenceNum + 1 }
  | (now, .updateSelf) => Roole.updateSelf now engine
  | (now, .ping random sent) => pingRandomPeer now random sent engine
  | (now, .checkAck i) => checkPendingAck now engine i
  | (now, .checkSuspect i) => Roole.checkSuspect now engine i
  | (now, .gossip rand) => (gossipToRandomPeers now rand engine).1
  | (now, .announceJoin) => gossipEngineAnnounceJoin now engine
  | (_, .setCallback) => { engine with hasCallback := true }

def turns (engine : GossipEngine) (turns : List TimedTurn) : GossipEngine :=
  Runs.run turn engine turns

def before (engine : GossipEngine) (turns : List TimedTurn) (i : Nat) : GossipEngine :=
  engine.turns (turns.take i)

theorem before_succ (engine : GossipEngine) {turns : List TimedTurn} {i : Nat}
    (hi : i < turns.length) :
    engine.before turns (i + 1) = (engine.before turns i).turn turns[i] :=
  Runs.run_take_succ turn engine hi

end GossipEngine

-- ----------------------------------------------------------------------------
-- The turns of a message
-- ----------------------------------------------------------------------------

section Messages

variable {now : UInt64} {past : Nat → GossipMemberUpdate} {srcIp : List UInt8} {srcPort : UInt16}
  {engine : GossipEngine} {msg : GossipMessage}

/-- The turns that handle the updates one after the other. -/
def updateTurns (now : UInt64) (past : Nat → GossipMemberUpdate) (msg : GossipMessage)
    (turn : GossipMemberUpdate → GossipTurn) : List TimedTurn :=
  (msg.readUpdates past).map fun update => (now, turn update)

def workerJoinTurns (now : UInt64) (past : Nat → GossipMemberUpdate) (srcIp : List UInt8)
    (engine : GossipEngine) (msg : GossipMessage) : List TimedTurn :=
  if engine.myType ≠ .router then []
  else if msg.numUpdates > 0 then
    [(now, .workerJoin srcIp msg.senderId (msg.update past 0)), (now, .numbered)]
  else [(now, .numbered)]

def dispatchTurns (now : UInt64) (past : Nat → GossipMemberUpdate) (srcIp : List UInt8)
    (engine : GossipEngine) (msg : GossipMessage) : List TimedTurn :=
  if msg.msgType = gossipMsgPing then updateTurns now past msg .pingUpdate ++ [(now, .numbered)]
  else if msg.msgType = gossipMsgAck then
    (now, .ackSender msg.senderId) :: updateTurns now past msg .ackUpdate
  else if msg.msgType = gossipMsgSuspect then updateTurns now past msg .suspectUpdate
  else if msg.msgType = gossipMsgAlive then updateTurns now past msg .aliveUpdate
  else if msg.msgType = gossipMsgDead then updateTurns now past msg .deadUpdate
  else if msg.msgType = gossipMsgJoin then
    ((msg.readUpdates past).find? fun update => update.nodeId == msg.senderId).toList.map
      fun update => (now, .join srcIp update)
  else if msg.msgType = gossipMsgWorkerJoin then workerJoinTurns now past srcIp engine msg
  else if msg.msgType = gossipMsgLeave then [(now, .leave msg.senderId msg.sequenceNum)]
  else []

theorem turns_updateTurns {handle : GossipEngine → GossipMemberUpdate → GossipEngine}
    {turn : GossipMemberUpdate → GossipTurn}
    (hturn : ∀ engine update, engine.turn (now, turn update) = handle engine update)
    (past : Nat → GossipMemberUpdate) (engine : GossipEngine) (msg : GossipMessage) :
    engine.turns (updateTurns now past msg turn) = (msg.readUpdates past).foldl handle engine := by
  unfold GossipEngine.turns Runs.run updateTurns
  rw [List.foldl_map]
  simp only [hturn]

theorem turns_append (engine : GossipEngine) (first rest : List TimedTurn) :
    engine.turns (first ++ rest) = (engine.turns first).turns rest := List.foldl_append

theorem turns_workerJoin : engine.turns (workerJoinTurns now past srcIp engine msg) =
    (handleWorkerJoinMessage now past srcIp srcPort engine msg).1 := by
  unfold workerJoinTurns handleWorkerJoinMessage
  split_ifs <;> rfl

theorem turns_join : engine.turns
    (((msg.readUpdates past).find? fun update => update.nodeId == msg.senderId).toList.map
      fun update => (now, .join srcIp update)) = handleJoinMessage now past srcIp engine msg := by
  unfold handleJoinMessage
  cases (msg.readUpdates past).find? fun update => update.nodeId == msg.senderId <;> rfl

theorem turns_dispatch : engine.turns (dispatchTurns now past srcIp engine msg) =
    (dispatchMessage now past srcIp srcPort engine msg).1 := by
  let Same (turns : List TimedTurn) (result : GossipEngine × List GossipEffect) : Prop :=
    engine.turns turns = result.1
  show Same (dispatchTurns now past srcIp engine msg)
    (dispatchMessage now past srcIp srcPort engine msg)
  unfold dispatchTurns dispatchMessage
  split_ifs
  · show engine.turns _ = (handlePingMessage now past engine msg).1
    rw [turns_append, turns_updateTurns fun _ _ => rfl]
    rfl
  · exact turns_updateTurns (fun _ _ => rfl) past
      (recoverSender now (removePendingAck engine msg.senderId) msg.senderId) msg
  · exact turns_updateTurns (fun _ _ => rfl) past engine msg
  · exact turns_updateTurns (fun _ _ => rfl) past engine msg
  · exact turns_updateTurns (fun _ _ => rfl) past engine msg
  · exact turns_join
  · exact turns_workerJoin
  · rfl
  · rfl

end Messages

-- ----------------------------------------------------------------------------
-- The turns of a step
-- ----------------------------------------------------------------------------

namespace GossipEngine

def stepTurns (engine : GossipEngine) : GossipAction → List TimedTurn
  | .receive now past srcIp _ msg =>
    if msg.senderId = engine.myId then [] else dispatchTurns now past srcIp engine msg
  | .updateSelf now => [(now, .updateSelf)]
  | .ping now random sent => [(now, .ping random sent)]
  | .checkAckTimeouts now => (List.range maxPendingAcks).map fun i => (now, .checkAck i)
  | .checkSuspectTimeouts now =>
    (List.range engine.view.members.length).map fun i => (now, .checkSuspect i)
  | .gossip now rand => [(now, .gossip rand)]
  | .setCallback => [(0, .setCallback)]

theorem turns_step (engine : GossipEngine) (action : GossipAction) :
    engine.turns (engine.stepTurns action) = engine.step action := by
  cases action with
  | receive now past srcIp srcPort msg =>
    unfold stepTurns step receiveMessage
    dsimp only
    split_ifs
    · rfl
    · exact turns_dispatch
  | checkAckTimeouts now =>
    unfold stepTurns turns Runs.run
    rw [List.foldl_map]
    rfl
  | checkSuspectTimeouts now =>
    unfold stepTurns turns Runs.run
    rw [List.foldl_map]
    rfl
  | _ => rfl

def runTurns : GossipEngine → List GossipAction → List TimedTurn
  | _, [] => []
  | engine, action :: rest => engine.stepTurns action ++ runTurns (engine.step action) rest

theorem turns_run (engine : GossipEngine) (actions : List GossipAction) :
    engine.turns (engine.runTurns actions) = engine.run actions := by
  induction actions generalizing engine with
  | nil => rfl
  | cons action rest ih =>
    rw [runTurns, turns_append, turns_step, ih]
    rfl

end GossipEngine

end Roole
