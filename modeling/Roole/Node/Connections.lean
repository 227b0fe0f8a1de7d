import Roole.Node.PoolLock
import Roole.Node.Service
import Roole.Rpc.Wire

/-!
# The connections of a node

What the handlers and the executor threads put on the node's connections, in any
interleaving. The responses go out through `send_response`, which gives up when a
send fails in the middle of a message; the requests to peers go out with a single
call of `send`, which may take only the start of a message.
-/

namespace Roole

open Bytes Framing

-- ----------------------------------------------------------------------------
-- Calls
-- ----------------------------------------------------------------------------

namespace NodeCall

def isSend : NodeCall → Bool
  | .send _ _ _ _ _ => true
  | _ => false

def Fits : NodeCall → Prop
  | .send _ _ _ _ payload => rpcHeaderSize + payload.length < 2 ^ 32
  | _ => True

theorem run_sends (env : NodeEnv) {call : NodeCall} (h : call.Fits) (server : NodeServer) :
    SendsRequests server (call.run env server) ([call].countP isSend) := by
  cases call with
  | send peer channel requestId funcId payload =>
    exact .sendToPeer h peer channel server.node.nodeId requestId funcId server
  | _ => exact (SendsRequests.refl server).setNode _

theorem foldl_sends (env : NodeEnv) {calls : List NodeCall} (h : ∀ call ∈ calls, call.Fits)
    (server : NodeServer) :
    SendsRequests server (calls.foldl (run env) server) (calls.countP isSend) := by
  induction calls generalizing server with
  | nil => exact .refl server
  | cons call rest ih =>
    obtain ⟨hcall, hrest⟩ := List.forall_mem_cons.mp h
    rw [← List.singleton_append, List.countP_append]
    exact (run_sends env hcall server).trans (ih hrest _)

end NodeCall

-- ----------------------------------------------------------------------------
-- Submissions
-- ----------------------------------------------------------------------------

theorem recordSubmission_after (env : NodeEnv) (context : RpcAsyncContext)
    (inData : List UInt8) (server : NodeServer) :
    match recordSubmission env context inData server with
    | .error returned => RespondsAfter context server 0 returned
    | .ok (submission, after) =>
      SendsRequests server after 0 ∧ submission.message = inData.drop 4 ∧
        submission.context = context := by
  have hquiet := SendsRequests.refl server
  unfold recordSubmission
  by_cases hshort : inData.length < 4
  · simp only [hshort, if_true]
    exact .respond hquiet context .badArgument (by decide)
  · simp only [hshort, if_false]
    cases dagCatalogGet server.node.dagCatalog (readLe32 inData) with
    | none => exact .respond hquiet context .funcNotFound (by decide)
    | some dag =>
      cases server.node.targetPeer env with
      | none => exact .respond hquiet context .internalError (by decide)
      | some targetPeer =>
        dsimp only
        split_ifs
        · exact .respond (hquiet.setNode _) context .internalError (by decide)
        · exact ⟨hquiet.setNode _, rfl, rfl⟩

theorem routeSubmission_sends (env : NodeEnv) {submission : PendingSubmission}
    (hfits : submission.message.length ≤ maxBufferSize) (server : NodeServer) :
    SendsRequests server (routeSubmission env submission server).2
      (routePacks env server.node submission.targetPeer submission.message.length).length := by
  by_cases hlocal : submission.targetPeer = server.node.nodeId
  · unfold routeSubmission routePacks
    simp only [hlocal, if_true, true_or]
    exact (SendsRequests.refl server).setNode _
  · have hcalls : ∀ call ∈ routeCalls env submission server, call.Fits := by
      have hlength : rpcHeaderSize + (14 + submission.message.length) < 2 ^ 32 :=
        (Nat.add_le_add_left (Nat.add_le_add_left hfits 14) rpcHeaderSize).trans_lt (by decide)
      unfold routeCalls
      cases env.mallocOk <;>
        simp [-Nat.reducePow, NodeCall.Fits, or_imp, forall_and, processMessagePayload_length,
          hlength]
    have hcount : (routeCalls env submission server).countP NodeCall.isSend =
        (routePacks env server.node submission.targetPeer submission.message.length).length := by
      unfold routeCalls routePacks
      cases env.mallocOk <;> cases server.node.peerPool.channelTo submission.targetPeer <;>
        simp [hlocal, List.countP_cons, NodeCall.isSend]
    rw [routeSubmission_calls env hlocal, ← hcount]
    exact NodeCall.foldl_sends env hcalls server

theorem concludeSubmission_responds (env : NodeEnv) (submission : PendingSubmission)
    (server : NodeServer) (result : RouteResult) :
    RespondsAfter submission.context server 0
      (concludeSubmission env submission server result) := by
  have hquiet := SendsRequests.refl server
  cases result with
  | sent => exact .respond (hquiet.setNode _) submission.context .success (by simp [rpcHeaderSize])
  | failed status => exact .respond (hquiet.setNode _) submission.context status (by decide)
  | outOfMemory => exact .respond hquiet submission.context .internalError (by decide)

-- ----------------------------------------------------------------------------
-- The other requests
-- ----------------------------------------------------------------------------

theorem syncWorker_sends (env : NodeEnv) (dagId : RuleId) {dagBuffer : List UInt8}
    (hfits : rpcHeaderSize + dagBuffer.length < 2 ^ 32) (server : NodeServer) (worker : NodeId) :
    SendsRequests server (syncWorker dagId dagBuffer server worker)
      (server.node.peerPool.channelTo worker).toList.length := by
  have hcalls : ∀ call ∈ syncCalls dagId dagBuffer worker server, call.Fits := by
    simp [-Nat.reducePow, syncCalls, NodeCall.Fits, or_imp, forall_and, hfits]
  have hcount : (syncCalls dagId dagBuffer worker server).countP NodeCall.isSend =
      (server.node.peerPool.channelTo worker).toList.length := by
    unfold syncCalls
    cases server.node.peerPool.channelTo worker <;> simp [List.countP_cons, NodeCall.isSend]
  rw [syncWorker_calls env, ← hcount]
  exact NodeCall.foldl_sends env hcalls server

theorem syncWorkers_sends (env : NodeEnv) (dagId : RuleId) {dagBuffer : List UInt8}
    (hfits : rpcHeaderSize + dagBuffer.length < 2 ^ 32) (workers : List NodeId)
    (server : NodeServer) :
    SendsRequests server (workers.foldl (syncWorker dagId dagBuffer) server)
      (workers.filterMap server.node.peerPool.channelTo).length := by
  induction workers generalizing server with
  | nil => exact .refl server
  | cons worker rest ih =>
    have hpeers := (syncWorker_quiet dagId dagBuffer server worker).2
    have hsame : (syncWorker dagId dagBuffer server worker).node.peerPool.channelTo =
        server.node.peerPool.channelTo := by
      funext nodeId
      rw [PeerPool.channelTo_eq, PeerPool.channelTo_eq, hpeers]
    have hrest := (syncWorker_sends env dagId hfits server worker).trans (ih _)
    rw [hsame] at hrest
    cases hchannel : server.node.peerPool.channelTo worker with
    | none => simpa [List.filterMap_cons, hchannel] using hrest
    | some channel => simpa [List.filterMap_cons, hchannel, Nat.add_comm] using hrest

theorem handleAddDag_after (env : NodeEnv) (context : RpcAsyncContext) (inData : List UInt8)
    (server : NodeServer) : RespondsAfter context server
      (addDagPacks env server.node inData).length (handleAddDag env context inData server) := by
  have hquiet := SendsRequests.refl server
  unfold handleAddDag addDagPacks
  cases hadded : addedDag env server.node inData with
  | none =>
    unfold addedDag at hadded
    cases hparse : parseAddDag env.now inData with
    | none => exact .respond hquiet context .badArgument (by decide)
    | some dag =>
      rw [hparse] at hadded
      dsimp only
      split_ifs with hvalid hadd
      · exact .respond hquiet context .badArgument (by decide)
      · exact .respond (hquiet.setNode _) context .internalError (by decide)
      · simp_all
      · simp_all
  | some dag =>
    obtain ⟨hparse, hstored⟩ := Option.filter_eq_some_iff.mp hadded
    obtain ⟨hvalid, hadd⟩ := of_decide_eq_true hstored
    have hsize : (dagSerialize env.past dag syncBufferSize).length = _ :=
      dagSerialize_length (addedDag_configLen hadded)
    have hfits : rpcHeaderSize + (dagSerialize env.past dag syncBufferSize).length < 2 ^ 32 := by
      rw [hsize]
      unfold syncBufferSize rpcHeaderSize
      split_ifs <;> omega
    simp only [hparse, hvalid, hadd, ne_eq, not_true_eq_false, if_false]
    by_cases hempty : (dagSerialize env.past dag syncBufferSize).length = 0
    · simp only [hempty, if_true]
      exact .respond (hquiet.setNode _) context .success (by decide)
    · simp only [hempty, if_false, List.length_map]
      have hsync := (hquiet.setNode { server.node with
        dagCatalog := (dagCatalogAdd env.copyAlloc server.node.dagCatalog dag).2 }).trans
          (syncWorkers_sends env dag.dagId hfits server.node.aliveWorkers _)
      rw [Nat.zero_add] at hsync
      exact .respond hsync context .success (by decide)

theorem after_of_answers {context : RpcAsyncContext} {server : NodeServer}
    {result : Int × NodeServer} (h : ∃ replyLen ≤ 9, Answers context server replyLen result) :
    RespondsAfter context server 0 result := by
  obtain ⟨replyLen, hle, hanswers⟩ := h
  exact hanswers.after ((Nat.add_le_add_left hle rpcHeaderSize).trans_lt (by decide))

theorem handleListDags_after (env : NodeEnv) (context : RpcAsyncContext) (inData : List UInt8)
    (server : NodeServer) :
    RespondsAfter context server 0 (handleListDags env context inData server) :=
  (handleListDags_answers env context inData server).after
    ((Nat.add_le_add_left (listReplyLen_le _ _) rpcHeaderSize).trans_lt (by decide))

theorem nodeTable_after (env : Nat → NodeEnv) (capabilities : NodeCapabilities) :
    ∀ entry ∈ nodeBuildRpcServiceTable env capabilities, entry.funcId ≠ funcIdSubmitMessage →
      ∀ context inData server, RespondsAfter context server
        (handlerPacks (env context.address) entry.funcId server.node inData).length
        (entry.handler context inData server) := by
  refine List.forall_mem_append.mpr ⟨?_, ?_⟩
  · split
    · simp only [List.forall_mem_cons, List.not_mem_nil, false_imp_iff, implies_true, and_true]
      refine ⟨fun hsubmit => absurd rfl hsubmit, fun _ context inData server => ?_,
        fun _ context => handleListDags_after (env context.address) context,
        fun _ context => handleAddDag_after (env context.address) context⟩
      exact after_of_answers (handleGetExecutionStatus_answers context inData server)
    · simp
  · simp only [List.forall_mem_cons, List.not_mem_nil, false_imp_iff, implies_true, and_true]
    refine ⟨fun _ context inData server => ?_, fun _ context inData server => ?_,
      fun _ context inData server => ?_⟩
    · exact after_of_answers (handleProcessMessage_answers _ context inData server)
    · exact after_of_answers (handleExecutionUpdate_answers _ context inData server)
    · exact after_of_answers (handleSyncCatalog_answers _ context inData server)

theorem dispatchRequest_whole_iff (env : NodeEnv) (capabilities : NodeCapabilities)
    {context : RpcAsyncContext} (hsubmit : context.funcId ≠ funcIdSubmitMessage)
    (inData : List UInt8) (server : NodeServer) :
    WholeFrames (dispatchRequest (nodeBuildRpcServiceTable (fun _ => env) capabilities) context
        inData server).2.trace ↔
      WholeFrames server.trace ∧
        match (nodeBuildRpcServiceTable (fun _ => env) capabilities).find?
            fun entry => entry.funcId == context.funcId with
        | some _ => NoneInPart (handlerPacks env context.funcId server.node inData).length
            server.peerSends ∧ servesWhole server.sends = true
        | none => takesWhole server.sends = true := by
  cases hfind : (nodeBuildRpcServiceTable (fun _ => env) capabilities).find?
      fun entry => entry.funcId == context.funcId with
  | none => exact dispatchRequest_whole_none hfind inData
  | some entry =>
    have hfunc : entry.funcId = context.funcId := by simpa using List.find?_some hfind
    have hresponds := nodeTable_after (fun _ => env) capabilities entry
      (List.mem_of_find?_eq_some hfind) (hfunc ▸ hsubmit) context inData
      { server with pendingContexts := context :: server.pendingContexts }
    rw [hfunc] at hresponds
    exact dispatchRequest_whole_some hfind hresponds

-- ----------------------------------------------------------------------------
-- Executions
-- ----------------------------------------------------------------------------

def reportChannel (message : Message) (state : NodeState) : Option RpcChannel :=
  if message.senderId = state.nodeId then none else state.peerPool.channelTo message.senderId

theorem startExecution_sends (env : NodeEnv) (executeStep : StepFunction) (message : Message)
    (server : NodeServer) :
    SendsRequests server (startExecution env executeStep message server).2 0 := by
  have hcalls : ∀ call ∈ startCalls message server, call.Fits ∧ call.isSend = false := by
    unfold startCalls
    split_ifs <;> simp [NodeCall.Fits, NodeCall.isSend]
  have hcount : (startCalls message server).countP NodeCall.isSend = 0 :=
    List.countP_eq_zero.mpr fun call hcall => by simp [(hcalls call hcall).2]
  rw [startExecution_calls, ← hcount]
  exact NodeCall.foldl_sends env (fun call hcall => (hcalls call hcall).1) server

theorem endExecution_sends (env : NodeEnv) (message : Message) (status : ExecutionStatus)
    (server : NodeServer) :
    SendsRequests server (endExecution env message status server)
      (reportChannel message server.node).toList.length := by
  have hfits : rpcHeaderSize + (executionUpdatePayload message.execId status).length < 2 ^ 32 := by
    simp [executionUpdatePayload, rpcHeaderSize]
  have hcalls : ∀ call ∈ endCalls message status server, call.Fits := by
    unfold endCalls reportCalls reportCall
    split_ifs <;> simp [-Nat.reducePow, NodeCall.Fits, or_imp, forall_and, hfits]
  have hcount : (endCalls message status server).countP NodeCall.isSend =
      (reportChannel message server.node).toList.length := by
    unfold endCalls reportCalls reportCall reportChannel
    split_ifs
    · simp [NodeCall.isSend]
    · cases server.node.peerPool.channelTo message.senderId <;>
        simp [List.countP_cons, NodeCall.isSend]
  rw [endExecution_calls, ← hcount]
  exact NodeCall.foldl_sends env hcalls server

-- ----------------------------------------------------------------------------
-- Runs
-- ----------------------------------------------------------------------------

/-- A request comes out of a receive buffer. -/
def ThreadAction.Admitted : ThreadAction → Prop
  | .submit _ _ inData => inData.length ≤ maxBufferSize
  | _ => True

def NodeThreads.Admitted (threads : NodeThreads) : Prop :=
  ∀ entry ∈ threads.submissions, entry.1.message.length ≤ maxBufferSize

/-- The kernel takes each response that the step sends wholly or not at all, and
no request to a peer in part. -/
def TakesWhole (threads : NodeThreads) : ThreadAction → Prop
  | .submit env context inData =>
    if threads.server.node.capabilities.hasIngress then
      match recordSubmission env context inData { threads.server with
          pendingContexts := context :: threads.server.pendingContexts } with
      | .error _ => servesWhole threads.server.sends = true
      | .ok _ => True
    else takesWhole threads.server.sends = true
  | .route env submission =>
    (submission, none) ∈ threads.submissions →
      NoneInPart (routePacks env threads.server.node submission.targetPeer
        submission.message.length).length threads.server.peerSends
  | .conclude _ submission result =>
    (submission, some result) ∈ threads.submissions → servesWhole threads.server.sends = true
  | .request env context inData =>
    context.funcId ≠ funcIdSubmitMessage →
      match (nodeBuildRpcServiceTable (fun _ => env) threads.server.node.capabilities).find?
          fun entry => entry.funcId == context.funcId with
      | some _ =>
        NoneInPart (handlerPacks env context.funcId threads.server.node inData).length
          threads.server.peerSends ∧ servesWhole threads.server.sends = true
      | none => takesWhole threads.server.sends = true
  | .report _ message status =>
    (message, status) ∈ threads.reports →
      NoneInPart (reportChannel message threads.server.node).toList.length
        threads.server.peerSends
  | _ => True

theorem NodeThreads.Admitted.step {threads : NodeThreads} (h : threads.Admitted)
    {action : ThreadAction} (haction : action.Admitted) : (threads.step action).Admitted := by
  unfold NodeThreads.step
  cases action with
  | submit env context inData =>
    dsimp only
    split_ifs
    · have hrecord := recordSubmission_after env context inData { threads.server with
        pendingContexts := context :: threads.server.pendingContexts }
      split
      · exact h
      · rename_i submission after hresult
        rw [hresult] at hrecord
        refine List.forall_mem_cons.mpr ⟨?_, h⟩
        rw [hrecord.2.1, List.length_drop]
        exact (Nat.sub_le _ _).trans haction
    · exact h
  | route env submission =>
    dsimp only
    split_ifs with hmem
    · have hlength : submission.message.length ≤ maxBufferSize := h (submission, none) hmem
      exact List.forall_mem_cons.mpr ⟨hlength, fun entry hentry =>
        h entry (List.mem_of_mem_erase hentry)⟩
    · exact h
  | conclude env submission result =>
    dsimp only
    split_ifs
    · exact fun entry hentry => h entry (List.mem_of_mem_erase hentry)
    · exact h
  | request env context inData =>
    dsimp only
    split_ifs <;> exact h
  | pop =>
    dsimp only
    split <;> exact h
  | execute env executeStep message =>
    dsimp only
    split_ifs <;> exact h
  | report env message status =>
    dsimp only
    split_ifs <;> exact h
  | _ => exact h

theorem concludeRequest_whole_iff {server : NodeServer}
    (h : RespondsAfter context server count returned) :
    WholeFrames (concludeRequest context returned).trace ↔
      WholeFrames server.trace ∧ NoneInPart count server.peerSends ∧
        servesWhole server.sends = true := h.whole_iff

theorem step_whole_iff {threads : NodeThreads} (h : threads.Admitted) (action : ThreadAction) :
    WholeFrames (threads.step action).server.trace ↔
      WholeFrames threads.server.trace ∧ TakesWhole threads action := by
  have hsame : WholeFrames threads.server.trace ↔ WholeFrames threads.server.trace ∧ True :=
    (and_iff_left trivial).symm
  unfold NodeThreads.step TakesWhole
  cases action with
  | submit env context inData =>
    have hrecord := recordSubmission_after env context inData { threads.server with
      pendingContexts := context :: threads.server.pendingContexts }
    dsimp only
    split_ifs
    · cases hresult : recordSubmission env context inData { threads.server with
          pendingContexts := context :: threads.server.pendingContexts } with
      | error returned =>
        rw [hresult] at hrecord
        simpa using concludeRequest_whole_iff hrecord
      | ok result =>
        rw [hresult] at hrecord
        simpa using hrecord.1.whole
    · exact rpcSendAsyncResponse_whole (by decide) context .funcNotFound threads.server
  | route env submission =>
    dsimp only
    split_ifs with hmem
    · simpa [hmem] using (routeSubmission_sends env (h _ hmem) threads.server).whole
    · simp [hmem]
  | conclude env submission result =>
    dsimp only
    split_ifs with hmem
    · simpa [hmem] using concludeRequest_whole_iff
        (concludeSubmission_responds env submission threads.server result)
    · simp [hmem]
  | request env context inData =>
    dsimp only
    split_ifs with hsubmit
    · simp [hsubmit]
    · simp only [ne_eq, hsubmit, not_false_eq_true, true_imp_iff]
      exact dispatchRequest_whole_iff env _ hsubmit inData threads.server
  | pop =>
    dsimp only
    split <;> exact hsame
  | execute env executeStep message =>
    dsimp only
    split_ifs
    · simpa using ((startExecution_sends env executeStep message threads.server).setNode _).whole
    · exact hsame
  | report env message status =>
    dsimp only
    split_ifs with hmem
    · simpa [hmem] using (endExecution_sends env message status threads.server).whole
    · simp [hmem]
  | _ => exact hsame

/-- In every interleaving the connections carry whole frames exactly if the kernel
takes each response wholly or not at all and no request to a peer in part. -/
theorem connections_whole_iff (node : NodeState) (sends peerSends : List SendOutcome)
    (actions : List ThreadAction) (hadmitted : ∀ action ∈ actions, action.Admitted) :
    (∀ i, WholeFrames (Runs.run NodeThreads.step (.start (.start node sends peerSends))
      (actions.take i)).server.trace) ↔
    Runs.Meets NodeThreads.step TakesWhole (.start (.start node sends peerSends)) actions := by
  have hstart : (NodeThreads.start (.start node sends peerSends)).Admitted := by
    simp [NodeThreads.Admitted, NodeThreads.start]
  have hany : Runs.Meets NodeThreads.step (fun _ _ => True) (.start (.start node sends peerSends))
      actions := .of_forall (fun _ _ => trivial) _ actions
  have hallowed := hany.and_mem hadmitted
  have hkept := Runs.invariant (P := NodeThreads.Admitted)
    (fun threads action h haction => h.step haction.2) hstart hallowed
  rw [← Runs.invariant_iff_meets_of
    (P := fun threads => threads.Admitted ∧ WholeFrames threads.server.trace)
    (fun threads action h haction => ?_) ⟨hstart, wholeFrames_nil⟩ hallowed]
  · simp only [hkept, true_and]
  · rw [step_whole_iff h.1, and_iff_right (h.1.step haction.2), and_iff_right h.2]

def statusContext : RpcAsyncContext := { clientContext with funcId := funcIdGetStatus }

theorem connections_whole_iff_parts :
    let start := NodeThreads.start (.start routingNode.node [.short 4, .interrupted, .rest] [])
    let actions := [.request (.calm fun _ _ => 0) statusContext (writeLe64 1)]
    (∀ i, WholeFrames (Runs.run NodeThreads.step start (actions.take i)).server.trace) ↔
      Runs.Meets NodeThreads.step TakesWhole start actions :=
  connections_whole_iff routingNode.node [.short 4, .interrupted, .rest] []
    [.request (.calm fun _ _ => 0) statusContext (writeLe64 1)]
    (List.forall_mem_singleton.mpr trivial)

def cutResponse : NodeThreads :=
  Runs.run NodeThreads.step (.start (.start routingNode.node [.short 4, .failed, .rest] []))
    [.request (.calm fun _ _ => 0) statusContext (writeLe64 1)]

def cutRequest : NodeThreads :=
  Runs.run NodeThreads.step (.start (.start routingNode.node [] [.short 3]))
    [.submit (.calm fun _ _ => 0) submitContext (List.replicate 8 1),
      .route (.calm fun _ _ => 0) ⟨submitContext, 1, 0x01010101, 2, List.replicate 4 1⟩]

/-- The reader of the response takes the first bytes of the second for the rest of
the first; that of the request waits. -/
theorem connections_cut :
    ¬WholeFrames cutResponse.server.trace ∧ ¬WholeFrames cutRequest.server.trace := by
  constructor
  · intro h
    have hwire : wireBytes 5 cutResponse.server.trace =
        [0, 0, 0, 12, 0, 0, 0, 0, 12, 0, 0, 0, 1, 0, 0, 35, 53] := by decide +kernel
    have hfront : rpcReader.front [0, 0, 0, 12, 0, 0, 0, 0, 12, 0, 0, 0, 1, 0, 0, 35, 53] =
        .frame ⟨⟨12, 0, 12, 0, 0⟩, []⟩ 12 := rfl
    have hwhole := h _ (List.prefix_refl _) 5
    rw [hwire, complete_frame hfront] at hwhole
    cases hwhole.eq_nil rfl
  · intro h
    have hwire : wireBytes 6 cutRequest.server.trace = [0, 0, 0, 30] := by decide +kernel
    have hwhole := h _ (List.prefix_refl _) 6
    rw [hwire] at hwhole
    cases hwhole.eq_nil rfl

end Roole
