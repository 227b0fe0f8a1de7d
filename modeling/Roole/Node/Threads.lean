import Roole.Lib.Runs
import Roole.Node.ExecutionRecords
import Roole.Node.Executor
import Roole.Node.Submissions

/-!
# The threads of a node

The handlers of requests and the executor threads work on one node. Here
`handle_submit_message` and the round of `node_executor_thread_fn` are cut where
other threads may come in between. Nothing depends on the event loop serving one
request at a time, so any number of handlers may be under way.
-/

namespace Roole

open Bytes KeyedList

-- ----------------------------------------------------------------------------
-- The steps of a submission
-- ----------------------------------------------------------------------------

/-- What `handle_submit_message` has in its variables once the record exists. -/
structure PendingSubmission where
  context : RpcAsyncContext
  execId : ExecutionId
  dagId : RuleId
  targetPeer : NodeId
  message : List UInt8
  deriving DecidableEq

inductive RouteResult
  /-- The message is in the queue, or on its way to the peer. -/
  | sent
  /-- The record is to become FAILED, the client gets this status. -/
  | failed (status : RpcStatus)
  /-- The client gets INTERNAL_ERROR, the record is left alone. -/
  | outOfMemory
  deriving DecidableEq

def recordSubmission (env : NodeEnv) (context : RpcAsyncContext) (inData : List UInt8)
    (server : NodeServer) : Except (Int × NodeServer) (PendingSubmission × NodeServer) :=
  if inData.length < 4 then .error (rpcSendAsyncResponse context .badArgument [] server)
  else
    let dagId := readLe32 inData
    let message := inData.drop 4
    match dagCatalogGet server.node.dagCatalog dagId with
    | none => .error (rpcSendAsyncResponse context .funcNotFound [] server)
    | some _ =>
      match server.node.targetPeer env with
      | none => .error (rpcSendAsyncResponse context .internalError [] server)
      | some targetPeer =>
        let (execId, tracker) :=
          executionTrackerAdd env.now server.node.execTracker dagId targetPeer message 3
        let server := server.setNode { server.node with execTracker := tracker }
        if execId = 0 then .error (rpcSendAsyncResponse context .internalError [] server)
        else .ok (⟨context, execId, dagId, targetPeer, message⟩, server)

def routeSubmission (env : NodeEnv) (submission : PendingSubmission) (server : NodeServer) :
    RouteResult × NodeServer :=
  if submission.targetPeer = server.node.nodeId then
    let (result, node) := messageQueuePush env server.node {
      execId := submission.execId
      dagId := submission.dagId
      messageData := submission.message
      receivedAtMs := env.now
      senderId := submission.context.senderId }
    (if result = .ok then .sent else .failed .internalError, server.setNode node)
  else
    let (peer, pool) := peerPoolGet server.node.peerPool submission.targetPeer
    let server := server.setPeerPool pool
    match peer.bind PeerInfo.dataChannel with
    | none => (.failed .internalError, server.releasePeerPool)
    | some channel =>
      if env.mallocOk then
        let (sent, server) := sendToPeer submission.targetPeer channel server.node.nodeId
          submission.execId.toUInt32 funcIdProcessMessage
          (processMessagePayload submission.execId submission.dagId submission.context.senderId
            submission.message) server
        (if sent = 0 then .failed .network else .sent, server.releasePeerPool)
      else (.outOfMemory, server.releasePeerPool)

def concludeSubmission (env : NodeEnv) (submission : PendingSubmission) (server : NodeServer) :
    RouteResult → Int × NodeServer
  | .sent => finishSubmission env submission.context submission.execId server
  | .failed status => rpcSendAsyncResponse submission.context status []
      (server.updateExecution env submission.execId .failed)
  | .outOfMemory => rpcSendAsyncResponse submission.context .internalError [] server

theorem routeMessage_steps (env : NodeEnv) (submission : PendingSubmission)
    (server : NodeServer) :
    routeMessage env submission.context submission.targetPeer submission.execId submission.dagId
        submission.message server =
      match routeSubmission env submission server with
      | (.sent, server) => .ok server
      | (result, server) => .error (concludeSubmission env submission server result) := by
  unfold routeMessage routeSubmission
  by_cases htarget : submission.targetPeer = server.node.nodeId
  · simp only [htarget, if_true]
    split_ifs <;> rfl
  · simp only [htarget, if_false]
    cases (peerPoolGet server.node.peerPool submission.targetPeer).1.bind PeerInfo.dataChannel with
    | none => rfl
    | some channel =>
      dsimp only
      split_ifs <;> rfl

/-- One after the other the steps are the handler. -/
theorem handleSubmitMessage_steps (env : NodeEnv) (context : RpcAsyncContext)
    (inData : List UInt8) (server : NodeServer) :
    handleSubmitMessage env context inData server =
      match recordSubmission env context inData server with
      | .error returned => returned
      | .ok (submission, server) =>
        let (result, server) := routeSubmission env submission server
        concludeSubmission env submission server result := by
  unfold handleSubmitMessage startSubmission recordSubmission
  split_ifs with hlength
  · rfl
  · dsimp only
    cases dagCatalogGet server.node.dagCatalog (readLe32 inData) with
    | none => rfl
    | some dag =>
      cases server.node.targetPeer env with
      | none => rfl
      | some targetPeer =>
        dsimp only
        split_ifs with hzero
        · rfl
        · rw [routeMessage_steps env ⟨context, _, _, _, _⟩]
          dsimp only
          generalize routeSubmission env _ _ = routed
          obtain ⟨_ | _ | _, after⟩ := routed <;> rfl

-- ----------------------------------------------------------------------------
-- The steps of an executor's round
-- ----------------------------------------------------------------------------

/-- The round while the catalog is locked, and before: the status to report, none
where the DAG is not found. -/
def startExecution (env : NodeEnv) (executeStep : StepFunction) (message : Message)
    (server : NodeServer) : Option ExecutionStatus × NodeServer :=
  let server := server.setActiveExecutions (server.node.activeExecutions + 1)
  match dagCatalogGet server.node.dagCatalog message.dagId with
  | none => (none, server.setActiveExecutions (server.node.activeExecutions - 1))
  | some dag =>
    let status :=
      if env.mallocOk then
        executionStatusOf (dagExecute env.past executeStep env.now env.now
          (message.executionContext dag)).1
      else .failed
    (some status, server)

def endExecution (env : NodeEnv) (message : Message) (status : ExecutionStatus)
    (server : NodeServer) : NodeServer :=
  let server := reportStatus env message status server
  server.setActiveExecutions (server.node.activeExecutions - 1)

theorem executeMessage_steps (env : NodeEnv) (executeStep : StepFunction) (message : Message)
    (server : NodeServer) :
    (executeMessage env executeStep message server).2 =
      match startExecution env executeStep message server with
      | (none, server) => server
      | (some status, server) => endExecution env message status server := by
  unfold executeMessage startExecution
  dsimp only
  cases dagCatalogGet (server.setActiveExecutions
    (server.node.activeExecutions + 1)).node.dagCatalog message.dagId with
  | none => rfl
  | some dag =>
    dsimp only
    split_ifs <;> rfl

-- ----------------------------------------------------------------------------
-- The threads
-- ----------------------------------------------------------------------------

/-- A node with the handlers and the rounds that are under way. The messages that
are popped and not executed yet are in the node's state. -/
structure NodeThreads where
  server : NodeServer
  submissions : List (PendingSubmission × Option RouteResult)
  reports : List (Message × ExecutionStatus)

def NodeThreads.start (server : NodeServer) : NodeThreads where
  server := server
  submissions := []
  reports := []

def NodeThreads.tracker (threads : NodeThreads) : ExecutionTracker :=
  threads.server.node.execTracker

inductive ThreadAction
  | submit (env : NodeEnv) (context : RpcAsyncContext) (inData : List UInt8)
  | route (env : NodeEnv) (submission : PendingSubmission)
  | conclude (env : NodeEnv) (submission : PendingSubmission) (result : RouteResult)
  | request (env : NodeEnv) (context : RpcAsyncContext) (inData : List UInt8)
  | pop
  | execute (env : NodeEnv) (executeStep : StepFunction) (message : Message)
  | report (env : NodeEnv) (message : Message) (status : ExecutionStatus)
  | cleanup (now : UInt64)
  | remove (execId : ExecutionId)
  | others (dagCatalog : DagCatalog) (peerPool : PeerPool) (clusterView : ClusterView)

namespace NodeThreads

/-- An action that is not possible changes nothing. -/
def step (threads : NodeThreads) : ThreadAction → NodeThreads
  | .submit env context inData =>
    if threads.server.node.capabilities.hasIngress then
      match recordSubmission env context inData { threads.server with
          pendingContexts := context :: threads.server.pendingContexts } with
      | .error returned => { threads with server := concludeRequest context returned }
      | .ok (submission, server) => { threads with
          server := server
          submissions := (submission, none) :: threads.submissions }
    else { threads with
      server := (rpcSendAsyncResponse context .funcNotFound [] threads.server).2 }
  | .route env submission =>
    if (submission, none) ∈ threads.submissions then
      let (result, server) := routeSubmission env submission threads.server
      { threads with
        server := server
        submissions := (submission, some result) :: threads.submissions.erase (submission, none) }
    else threads
  | .conclude env submission result =>
    if (submission, some result) ∈ threads.submissions then
      { threads with
        server := concludeRequest submission.context
          (concludeSubmission env submission threads.server result)
        submissions := threads.submissions.erase (submission, some result) }
    else threads
  | .request env context inData =>
    if context.funcId = funcIdSubmitMessage then threads
    else { threads with
      server := (dispatchRequest (nodeBuildRpcServiceTable (fun _ => env)
        threads.server.node.capabilities) context inData threads.server).2 }
  | .pop =>
    match messageQueuePop threads.server.node with
    | none => threads
    | some node => { threads with server := threads.server.setNode node }
  | .execute env executeStep message =>
    if message ∈ threads.server.node.executing then
      let (status, server) := startExecution env executeStep message threads.server
      { threads with
        server := server.setNode { server.node with
          executing := server.node.executing.erase message }
        reports := status.toList.map (message, ·) ++ threads.reports }
    else threads
  | .report env message status =>
    if (message, status) ∈ threads.reports then
      { threads with
        server := endExecution env message status threads.server
        reports := threads.reports.erase (message, status) }
    else threads
  | .cleanup now => { threads with
      server := threads.server.setNode { threads.server.node with
        execTracker := (executionTrackerCleanupCompleted now threads.tracker).2 } }
  | .remove execId => { threads with
      server := threads.server.setNode { threads.server.node with
        execTracker := (executionTrackerRemove threads.tracker execId).2 } }
  | .others dagCatalog peerPool clusterView => { threads with
      server := threads.server.setNode { threads.server.node with
        dagCatalog := dagCatalog
        peerPool := peerPool
        clusterView := clusterView } }

end NodeThreads

-- ----------------------------------------------------------------------------
-- The tracker
-- ----------------------------------------------------------------------------

def receivedUpdate (context : RpcAsyncContext) (inData : List UInt8) :
    Option (ExecutionId × ExecutionStatus) :=
  if context.funcId = funcIdExecutionUpdate ∧ inData.length = 9 then
    some (readLe64 inData, .ofByte ((inData.drop 8).headD 0))
  else none

/-- The status that a step writes to a record, and the time and the record. -/
def statusWrite (threads : NodeThreads) :
    ThreadAction → Option (UInt64 × ExecutionId × ExecutionStatus)
  | .conclude env submission .sent =>
    if (submission, some .sent) ∈ threads.submissions then
      some (env.now, submission.execId, .running)
    else none
  | .conclude env submission (.failed status) =>
    if (submission, some (.failed status)) ∈ threads.submissions then
      some (env.now, submission.execId, .failed)
    else none
  | .request env context inData =>
    (receivedUpdate context inData).map fun (execId, status) => (env.now, execId, status)
  | .report env message status =>
    if (message, status) ∈ threads.reports ∧ message.senderId = threads.server.node.nodeId then
      some (env.now, message.execId, status)
    else none
  | _ => none

@[simp] theorem concludeRequest_node (context : RpcAsyncContext) (returned : Int × NodeServer) :
    (concludeRequest context returned).node = returned.2.node := by
  unfold concludeRequest
  split_ifs <;> rfl

def recordedServer : Except (Int × NodeServer) (PendingSubmission × NodeServer) → NodeServer
  | .error returned => returned.2
  | .ok (_, server) => server

theorem recordSubmission_tracker (env : NodeEnv) (context : RpcAsyncContext)
    (inData : List UInt8) (server : NodeServer) :
    let after := recordedServer (recordSubmission env context inData server)
    after.node.execTracker = server.node.execTracker ∨
      ∃ dagId targetPeer, after.node.execTracker =
        (executionTrackerAdd env.now server.node.execTracker dagId targetPeer
          (inData.drop 4) 3).2 := by
  unfold recordSubmission
  split_ifs with hlength
  · exact .inl rfl
  · dsimp only
    cases dagCatalogGet server.node.dagCatalog (readLe32 inData) with
    | none => exact .inl rfl
    | some dag =>
      cases server.node.targetPeer env with
      | none => exact .inl rfl
      | some targetPeer =>
        refine .inr ⟨readLe32 inData, targetPeer, ?_⟩
        dsimp only
        split_ifs <;> rfl

theorem messageQueuePush_tracker (env : NodeEnv) (state : NodeState) (message : Message) :
    (messageQueuePush env state message).2.execTracker = state.execTracker := by
  obtain ⟨taken, buffer, hpush, -⟩ := messageQueuePush_ok env state message
  rw [hpush]

theorem routeSubmission_tracker (env : NodeEnv) (submission : PendingSubmission)
    (server : NodeServer) :
    (routeSubmission env submission server).2.node.execTracker = server.node.execTracker := by
  unfold routeSubmission
  by_cases htarget : submission.targetPeer = server.node.nodeId
  · simp only [htarget, if_true]
    exact messageQueuePush_tracker _ _ _
  · simp only [htarget, if_false]
    split
    · rfl
    · split_ifs <;> rfl

theorem syncWorkers_tracker (dagId : RuleId) (dagBuffer : List UInt8) (workers : List NodeId)
    (server : NodeServer) :
    (workers.foldl (syncWorker dagId dagBuffer) server).node.execTracker =
      server.node.execTracker := by
  induction workers generalizing server with
  | nil => rfl
  | cons worker rest ih =>
    rw [List.foldl_cons, ih]
    unfold syncWorker
    dsimp only
    split <;> rfl

/-- Apart from submissions only updates reach the tracker. -/
theorem nodeTable_tracker (env : Nat → NodeEnv) (capabilities : NodeCapabilities) :
    ∀ entry ∈ nodeBuildRpcServiceTable env capabilities, entry.funcId ≠ funcIdSubmitMessage →
      entry.funcId ≠ funcIdExecutionUpdate → ∀ context inData server,
        (entry.handler context inData server).2.node.execTracker = server.node.execTracker := by
  refine List.forall_mem_append.mpr ⟨?_, ?_⟩
  · split
    · simp only [List.forall_mem_cons, List.not_mem_nil, false_imp_iff, implies_true, and_true]
      refine ⟨fun hsubmit => absurd rfl hsubmit, ?_, ?_, ?_⟩
      · intro _ _ context inData server
        unfold handleGetExecutionStatus
        split_ifs
        · rfl
        · split <;> rfl
      · intro _ _ context inData server
        unfold handleListDags
        dsimp only
        split_ifs <;> rfl
      · intro _ _ context inData server
        unfold handleAddDag
        split
        · rfl
        · dsimp only
          split_ifs
          · rfl
          · rfl
          · rfl
          · exact syncWorkers_tracker _ _ _ _
    · simp
  · simp only [List.forall_mem_cons, List.not_mem_nil, false_imp_iff, implies_true, and_true]
    refine ⟨?_, fun _ hupdate => absurd rfl hupdate, ?_⟩
    · intro _ _ context inData server
      unfold handleProcessMessage
      dsimp only
      split_ifs
      · rfl
      · exact messageQueuePush_tracker _ _ _
      · exact messageQueuePush_tracker _ _ _
    · intro _ _ context inData server
      unfold handleSyncCatalog
      split <;> rfl

theorem dispatchRequest_update (env : NodeEnv) (capabilities : NodeCapabilities)
    {context : RpcAsyncContext} (hfunc : context.funcId = funcIdExecutionUpdate)
    (inData : List UInt8) (server : NodeServer) :
    (dispatchRequest (nodeBuildRpcServiceTable (fun _ => env) capabilities) context inData
        server).2.node =
      (handleExecutionUpdate env context inData server).2.node := by
  have hfind : (nodeBuildRpcServiceTable (fun _ => env) capabilities).find?
      (fun entry => entry.funcId == context.funcId) = some ⟨funcIdExecutionUpdate,
        fun context => handleExecutionUpdate env context, 16⟩ := by
    rw [hfunc]
    unfold nodeBuildRpcServiceTable
    split <;> rfl
  unfold dispatchRequest
  rw [hfind]
  dsimp only
  unfold handleExecutionUpdate
  split_ifs <;> rfl

theorem dispatchRequest_tracker (env : NodeEnv) (capabilities : NodeCapabilities)
    {context : RpcAsyncContext} (hsubmit : context.funcId ≠ funcIdSubmitMessage)
    (inData : List UInt8) (server : NodeServer) :
    (dispatchRequest (nodeBuildRpcServiceTable (fun _ => env) capabilities) context inData
        server).2.node.execTracker =
      match receivedUpdate context inData with
      | some (execId, status) =>
        (executionTrackerUpdateStatus env.now server.node.execTracker execId status).2
      | none => server.node.execTracker := by
  unfold receivedUpdate
  by_cases hupdate : context.funcId = funcIdExecutionUpdate
  · rw [dispatchRequest_update env capabilities hupdate]
    unfold handleExecutionUpdate
    by_cases hlength : inData.length = 9
    · simp only [hlength, hupdate, ne_eq, not_true_eq_false, if_false, and_self, if_true]
      rfl
    · simp [hlength]
  · simp only [hupdate, false_and, if_false]
    unfold dispatchRequest
    split
    · rename_i entry hfind
      have hfunc : entry.funcId = context.funcId := by simpa using List.find?_some hfind
      have hhandler := nodeTable_tracker (fun _ => env) capabilities entry
        (List.mem_of_find?_eq_some hfind) (hfunc ▸ hsubmit) (hfunc ▸ hupdate) context inData
        { server with pendingContexts := context :: server.pendingContexts }
      dsimp only
      split_ifs
      · exact hhandler
      · exact hhandler
    · rfl

theorem startExecution_tracker (env : NodeEnv) (executeStep : StepFunction) (message : Message)
    (server : NodeServer) :
    (startExecution env executeStep message server).2.node.execTracker =
      server.node.execTracker := by
  unfold startExecution
  dsimp only
  split <;> rfl

theorem endExecution_tracker (env : NodeEnv) (message : Message) (status : ExecutionStatus)
    (server : NodeServer) :
    (endExecution env message status server).node.execTracker =
      if message.senderId = server.node.nodeId then
        (executionTrackerUpdateStatus env.now server.node.execTracker message.execId status).2
      else server.node.execTracker := by
  unfold endExecution reportStatus
  by_cases hsender : message.senderId = server.node.nodeId
  · simp only [hsender, ne_eq, not_true_eq_false, if_false, if_true]
    rfl
  · simp only [hsender, ne_eq, not_false_eq_true, if_true, if_false]
    split <;> rfl

def CallsTracker (write : Option (UInt64 × ExecutionId × ExecutionStatus))
    (before after : ExecutionTracker) : Prop :=
  match write with
  | some (now, execId, status) =>
    after = (executionTrackerUpdateStatus now before execId status).2
  | none => after = before ∨
      ∃ call, (∀ now execId status, call ≠ .updateStatus now execId status) ∧
        after = trackerStep before call

theorem CallsTracker.refl (tracker : ExecutionTracker) : CallsTracker none tracker tracker :=
  .inl rfl

theorem submit_tracker (threads : NodeThreads) (env : NodeEnv) (context : RpcAsyncContext)
    (inData : List UInt8) :
    CallsTracker none threads.tracker (threads.step (.submit env context inData)).tracker := by
  let entered := { threads.server with
    pendingContexts := context :: threads.server.pendingContexts }
  have hrecorded : CallsTracker none threads.tracker
      (recordedServer (recordSubmission env context inData entered)).node.execTracker := by
    obtain hsame | ⟨dagId, targetPeer, hadd⟩ := recordSubmission_tracker env context inData entered
    · exact .inl hsame
    · exact .inr ⟨.add env.now dagId targetPeer (inData.drop 4) 3, by simp, hadd⟩
  unfold NodeThreads.step NodeThreads.tracker
  dsimp only
  split_ifs
  · cases hresult : recordSubmission env context inData entered with
    | error returned =>
      rw [hresult] at hrecorded
      simp only [concludeRequest_node]
      exact hrecorded
    | ok result =>
      rw [hresult] at hrecorded
      exact hrecorded
  · exact .refl _

theorem conclude_tracker (threads : NodeThreads) (env : NodeEnv) (submission : PendingSubmission)
    (result : RouteResult) :
    CallsTracker (statusWrite threads (.conclude env submission result)) threads.tracker
      (threads.step (.conclude env submission result)).tracker := by
  by_cases hmem : (submission, some result) ∈ threads.submissions
  · have hnode : (threads.step (.conclude env submission result)).tracker =
        (concludeSubmission env submission threads.server result).2.node.execTracker := by
      simp [NodeThreads.step, NodeThreads.tracker, hmem]
    rw [hnode]
    cases result with
    | sent =>
      simp only [statusWrite, hmem, if_true]
      rfl
    | failed status =>
      simp only [statusWrite, hmem, if_true]
      rfl
    | outOfMemory => exact .refl _
  · have hsame : (threads.step (.conclude env submission result)).tracker = threads.tracker := by
      simp [NodeThreads.step, hmem]
    rw [hsame]
    cases result <;> simp [statusWrite, hmem, CallsTracker.refl]

theorem request_tracker (threads : NodeThreads) (env : NodeEnv) (context : RpcAsyncContext)
    (inData : List UInt8) :
    CallsTracker (statusWrite threads (.request env context inData)) threads.tracker
      (threads.step (.request env context inData)).tracker := by
  unfold NodeThreads.step NodeThreads.tracker statusWrite
  dsimp only
  split_ifs with hsubmit
  · have hnone : receivedUpdate context inData = none := by
      simp [receivedUpdate, hsubmit, funcIdSubmitMessage, funcIdExecutionUpdate]
    rw [hnone]
    exact .refl _
  · have htracker := dispatchRequest_tracker env threads.server.node.capabilities hsubmit inData
      threads.server
    cases hupdate : receivedUpdate context inData with
    | none =>
      rw [hupdate] at htracker
      exact .inl htracker
    | some update =>
      rw [hupdate] at htracker
      exact htracker

theorem report_tracker (threads : NodeThreads) (env : NodeEnv) (message : Message)
    (status : ExecutionStatus) :
    CallsTracker (statusWrite threads (.report env message status)) threads.tracker
      (threads.step (.report env message status)).tracker := by
  unfold NodeThreads.step NodeThreads.tracker statusWrite
  by_cases hmem : (message, status) ∈ threads.reports
  · simp only [hmem, if_true, endExecution_tracker, true_and]
    by_cases hsender : message.senderId = threads.server.node.nodeId
    · simp only [hsender, if_true]
      rfl
    · simp only [hsender, if_false]
      exact .refl _
  · simp [hmem, CallsTracker.refl]

theorem step_tracker (threads : NodeThreads) (action : ThreadAction) :
    CallsTracker (statusWrite threads action) threads.tracker (threads.step action).tracker := by
  cases action with
  | submit env context inData => exact submit_tracker threads env context inData
  | route env submission =>
    refine .inl ?_
    unfold NodeThreads.step NodeThreads.tracker
    dsimp only
    split_ifs
    · exact routeSubmission_tracker env submission threads.server
    · rfl
  | conclude env submission result => exact conclude_tracker threads env submission result
  | request env context inData => exact request_tracker threads env context inData
  | pop =>
    refine .inl ?_
    unfold NodeThreads.step NodeThreads.tracker
    dsimp only
    split
    · rfl
    · rename_i node hpop
      obtain ⟨executing, queue, rfl, -⟩ := messageQueuePop_eq hpop
      rfl
  | execute env executeStep message =>
    refine .inl ?_
    unfold NodeThreads.step NodeThreads.tracker
    dsimp only
    split_ifs
    · exact startExecution_tracker env executeStep message threads.server
    · rfl
  | report env message status => exact report_tracker threads env message status
  | cleanup now => exact .inr ⟨.cleanup now, by simp, rfl⟩
  | remove execId => exact .inr ⟨.remove execId, by simp, rfl⟩
  | others => exact .refl _

end Roole
