import Roole.Node.TerminalStatuses

/-!
# What a round of an executor calls

The calls that a round makes on the shared parts of the node, in order, and which
of them report the result. Other threads may do anything between the unlocking of
the catalog and the report.
-/

namespace Roole

open KeyedList

inductive NodeCall
  | countUp
  | countDown
  | updateStatus (execId : ExecutionId) (status : ExecutionStatus)
  | poolGet (nodeId : NodeId)
  | poolRelease
  | setChannel (nodeId : NodeId) (channel : Option RpcChannel)
  | send (peer : NodeId) (channel : RpcChannel) (requestId : UInt32) (funcId : UInt8)
      (payload : List UInt8)

namespace NodeCall

def run (env : NodeEnv) (server : NodeServer) : NodeCall → NodeServer
  | .countUp => server.setActiveExecutions (server.node.activeExecutions + 1)
  | .countDown => server.setActiveExecutions (server.node.activeExecutions - 1)
  | .updateStatus execId status => server.updateExecution env execId status
  | .poolGet nodeId => server.setPeerPool (peerPoolGet server.node.peerPool nodeId).2
  | .poolRelease => server.releasePeerPool
  | .setChannel nodeId channel =>
    server.setPeerPool (server.node.peerPool.setChannel nodeId channel)
  | .send peer channel requestId funcId payload =>
    (sendToPeer peer channel server.node.nodeId requestId funcId payload server).2

def isReport : NodeCall → Bool
  | .updateStatus _ _ => true
  | .send _ _ _ funcId _ => funcId == funcIdExecutionUpdate
  | _ => false

end NodeCall

def reportCall (message : Message) (status : ExecutionStatus) (server : NodeServer) :
    Option NodeCall :=
  if message.senderId = server.node.nodeId then some (.updateStatus message.execId status)
  else (server.node.peerPool.channelTo message.senderId).map fun channel =>
    .send message.senderId channel message.execId.toUInt32 funcIdExecutionUpdate
      (executionUpdatePayload message.execId status)

def reportCalls (message : Message) (status : ExecutionStatus) (server : NodeServer) :
    List NodeCall :=
  if message.senderId = server.node.nodeId then (reportCall message status server).toList
  else .poolGet message.senderId :: (reportCall message status server).toList ++ [.poolRelease]

def startCalls (message : Message) (server : NodeServer) : List NodeCall :=
  if (dagCatalogGet server.node.dagCatalog message.dagId).isSome then [.countUp]
  else [.countUp, .countDown]

def endCalls (message : Message) (status : ExecutionStatus) (server : NodeServer) :
    List NodeCall :=
  reportCalls message status server ++ [.countDown]

theorem reportStatus_calls (env : NodeEnv) (message : Message) (status : ExecutionStatus)
    (server : NodeServer) : reportStatus env message status server =
      (reportCalls message status server).foldl (NodeCall.run env) server := by
  unfold reportStatus reportCalls reportCall
  by_cases hsender : message.senderId = server.node.nodeId
  · simp [hsender, NodeCall.run]
  · have hchannel : (peerPoolGet server.node.peerPool message.senderId).1.bind
        PeerInfo.dataChannel = server.node.peerPool.channelTo message.senderId := rfl
    simp only [hsender, ne_eq, not_false_eq_true, if_true, if_false, hchannel]
    cases server.node.peerPool.channelTo message.senderId with
    | none => rfl
    | some channel => rfl

theorem startExecution_calls (env : NodeEnv) (executeStep : StepFunction) (message : Message)
    (server : NodeServer) : (startExecution env executeStep message server).2 =
      (startCalls message server).foldl (NodeCall.run env) server := by
  have hcatalog : (server.setActiveExecutions (server.node.activeExecutions + 1)).node.dagCatalog =
      server.node.dagCatalog := rfl
  unfold startExecution startCalls
  simp only [hcatalog]
  cases dagCatalogGet server.node.dagCatalog message.dagId with
  | none => rfl
  | some dag => rfl

theorem endExecution_calls (env : NodeEnv) (message : Message) (status : ExecutionStatus)
    (server : NodeServer) : endExecution env message status server =
      (endCalls message status server).foldl (NodeCall.run env) server := by
  rw [endCalls, List.foldl_append, ← reportStatus_calls]
  rfl

-- ----------------------------------------------------------------------------
-- A round
-- ----------------------------------------------------------------------------

/-- The node as the message is popped, as the catalog is unlocked, as the other
threads leave it then, and at the end of the round. -/
structure ExecutorRound where
  popped : NodeServer
  started : NodeServer
  later : NodeServer
  ended : NodeServer
  calls : List NodeCall

def executorRound (env : NodeEnv) (executeStep : StepFunction) (message : Message)
    (others : NodeServer → NodeServer) (server : NodeServer) : ExecutorRound :=
  let (status, started) := startExecution env executeStep message server
  let later := others started
  match status with
  | none => ⟨server, started, later, later, startCalls message server⟩
  | some status => ⟨server, started, later, endExecution env message status later,
      startCalls message server ++ endCalls message status later⟩

theorem executorRound_alone (env : NodeEnv) (executeStep : StepFunction) (message : Message)
    (server : NodeServer) : (executorRound env executeStep message id server).ended =
      (executeMessage env executeStep message server).2 := by
  rw [executeMessage_steps, executorRound]
  generalize startExecution env executeStep message server = first
  obtain ⟨_ | status, started⟩ := first <;> rfl

theorem executorRound_calls (env : NodeEnv) (executeStep : StepFunction) (message : Message)
    (others : NodeServer → NodeServer) (server : NodeServer) :
    let round := executorRound env executeStep message others server
    ∃ first last, round.calls = first ++ last ∧
      round.started = first.foldl (NodeCall.run env) server ∧
      round.ended = last.foldl (NodeCall.run env) round.later := by
  have hfirst := startExecution_calls env executeStep message server
  unfold executorRound
  dsimp only
  split
  · exact ⟨_, [], (List.append_nil _).symm, hfirst, rfl⟩
  · exact ⟨_, _, rfl, hfirst, endExecution_calls env message _ _⟩

/-- The message's status is reported once: to the tracker if it comes from this
node, else to its sender if there is a data channel to it. -/
def ReportsOnce (message : Message) (round : ExecutorRound) : Prop :=
  ∃ status : ExecutionStatus, status.Terminal ∧
    round.calls.filter NodeCall.isReport = (reportCall message status round.later).toList

/-- What the round adds to the counter before the other threads run it takes off
again. -/
def ExecutorRound.CountRestored (round : ExecutorRound) : Prop :=
  round.ended.node.activeExecutions +
      (round.started.node.activeExecutions - round.popped.node.activeExecutions) =
    round.later.node.activeExecutions

theorem executionStatusOf_terminal (result : ResultStatus) :
    (executionStatusOf result).Terminal := by
  unfold executionStatusOf
  split_ifs
  · exact .inl rfl
  · exact .inr rfl

theorem startExecution_terminal (h : (startExecution env executeStep message server).1 =
    some status) : status.Terminal := by
  unfold startExecution at h
  dsimp only at h
  split at h
  · cases h
  · cases h
    split_ifs
    · exact executionStatusOf_terminal _
    · exact .inr rfl

theorem startExecution_isSome (env : NodeEnv) (executeStep : StepFunction) (message : Message)
    (server : NodeServer) : (startExecution env executeStep message server).1.isSome =
      (dagCatalogGet server.node.dagCatalog message.dagId).isSome := by
  have hcatalog : (server.setActiveExecutions (server.node.activeExecutions + 1)).node.dagCatalog =
      server.node.dagCatalog := rfl
  unfold startExecution
  simp only [hcatalog]
  cases dagCatalogGet server.node.dagCatalog message.dagId with
  | none => rfl
  | some dag => rfl

theorem startCalls_reports (message : Message) (server : NodeServer) :
    (startCalls message server).filter NodeCall.isReport = [] := by
  unfold startCalls
  split_ifs <;> rfl

theorem reportCall_isReport (message : Message) (status : ExecutionStatus)
    (server : NodeServer) : (reportCall message status server).toList.filter NodeCall.isReport =
      (reportCall message status server).toList := by
  unfold reportCall
  split_ifs
  · rfl
  · cases server.node.peerPool.channelTo message.senderId with
    | none => rfl
    | some channel => rfl

theorem endCalls_reports (message : Message) (status : ExecutionStatus) (server : NodeServer) :
    (endCalls message status server).filter NodeCall.isReport =
      (reportCall message status server).toList := by
  unfold endCalls reportCalls
  split_ifs
  · simp [reportCall_isReport, NodeCall.isReport]
  · simp [reportCall_isReport, NodeCall.isReport]

theorem reportStatus_activeExecutions (env : NodeEnv) (message : Message)
    (status : ExecutionStatus) (server : NodeServer) :
    (reportStatus env message status server).node.activeExecutions =
      server.node.activeExecutions := by
  unfold reportStatus
  by_cases hsender : message.senderId = server.node.nodeId
  · simp only [hsender, ne_eq, not_true_eq_false, if_false]
    rfl
  · simp only [hsender, ne_eq, not_false_eq_true, if_true]
    split <;> rfl

theorem startExecution_activeExecutions (env : NodeEnv) (executeStep : StepFunction)
    (message : Message) (server : NodeServer) :
    let first := startExecution env executeStep message server
    first.2.node.activeExecutions - server.node.activeExecutions =
      if first.1.isSome then 1 else 0 := by
  have hup : ∀ count : UInt32, count + 1 - count = 1 := fun count => by
    rw [UInt32.add_comm, UInt32.add_sub_cancel]
  have hdown : ∀ count : UInt32, count + 1 - 1 - count = 0 := fun count => by
    rw [UInt32.add_sub_cancel, UInt32.sub_self]
  unfold startExecution
  dsimp only
  split
  · exact hdown _
  · exact hup _

theorem executorRound_countRestored (env : NodeEnv) (executeStep : StepFunction)
    (message : Message) (others : NodeServer → NodeServer) (server : NodeServer) :
    (executorRound env executeStep message others server).CountRestored := by
  have hcount := startExecution_activeExecutions env executeStep message server
  unfold executorRound ExecutorRound.CountRestored
  generalize startExecution env executeStep message server = first at hcount ⊢
  obtain ⟨_ | status, started⟩ := first
  · simp only at hcount ⊢
    rw [hcount]
    exact UInt32.add_zero _
  · simp only at hcount ⊢
    rw [hcount]
    simp only [endExecution, RpcServer.setActiveExecutions, RpcServer.setNode,
      reportStatus_activeExecutions]
    exact UInt32.sub_add_cancel _ 1

theorem executeMessage_activeExecutions (env : NodeEnv) (executeStep : StepFunction)
    (message : Message) (server : NodeServer) :
    (executeMessage env executeStep message server).2.node.activeExecutions =
      server.node.activeExecutions := by
  have hrestored := executorRound_countRestored env executeStep message id server
  have hlater : (executorRound env executeStep message id server).later =
      (executorRound env executeStep message id server).started := by
    unfold executorRound
    dsimp only
    split <;> rfl
  have hpopped : (executorRound env executeStep message id server).popped = server := by
    unfold executorRound
    dsimp only
    split <;> rfl
  unfold ExecutorRound.CountRestored at hrestored
  rw [hlater, hpopped, executorRound_alone] at hrestored
  grind

/-- The calls of a round are all it does, and it does all it should exactly if it
finds the DAG, or the result would have nowhere to go. -/
theorem executorRound_complete_iff (env : NodeEnv) (executeStep : StepFunction)
    (message : Message) (others : NodeServer → NodeServer) (server : NodeServer) :
    let round := executorRound env executeStep message others server
    (∃ first last, round.calls = first ++ last ∧
        round.started = first.foldl (NodeCall.run env) server ∧
        round.ended = last.foldl (NodeCall.run env) round.later) ∧
      (ReportsOnce message round ∧ round.CountRestored ↔
        (dagCatalogGet server.node.dagCatalog message.dagId).isSome ∨
          message.senderId ≠ round.later.node.nodeId ∧
            round.later.node.peerPool.channelTo message.senderId = none) := by
  intro round
  refine ⟨executorRound_calls env executeStep message others server, ?_⟩
  have hrestored : round.CountRestored :=
    executorRound_countRestored env executeStep message others server
  rw [and_iff_left hrestored, ← startExecution_isSome env executeStep message server]
  unfold ReportsOnce
  cases hfirst : (startExecution env executeStep message server).1 with
  | none =>
    have hcalls : round.calls = startCalls message server := by
      simp [round, executorRound, hfirst]
    simp only [hcalls, startCalls_reports, Option.isSome_none, Bool.false_eq_true, false_or]
    constructor
    · rintro ⟨status, -, hnone⟩
      unfold reportCall at hnone
      split_ifs at hnone with hsender
      · cases hnone
      · refine ⟨hsender, ?_⟩
        simpa using hnone.symm
    · rintro ⟨hsender, hnone⟩
      exact ⟨.failed, .inr rfl, by simp [reportCall, hsender, hnone]⟩
  | some status =>
    have hcalls : round.calls =
        startCalls message server ++ endCalls message status round.later := by
      simp [round, executorRound, hfirst]
    refine iff_of_true ⟨status, startExecution_terminal hfirst, ?_⟩ (.inl rfl)
    rw [hcalls, List.filter_append, startCalls_reports, endCalls_reports, List.nil_append]

/-- A message of this node whose DAG has been removed is dropped without a word. -/
theorem executorRound_silent :
    let message := { shortMessage with senderId := 1 }
    let round := executorRound calmEnv dagExecuteStep message id loneNode
    ¬(ReportsOnce message round ∧ round.CountRestored) := by
  rintro message round ⟨⟨status, -, hreports⟩, -⟩
  have hcalls : round.calls.filter NodeCall.isReport = [] := startCalls_reports message loneNode
  rw [hcalls] at hreports
  cases hreports

end Roole
