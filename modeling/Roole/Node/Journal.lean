import Roole.Node.Service
import Roole.Node.Submissions
import Roole.Node.SyncCatalog

/-!
# What a node takes up and passes on

For each handler and for the executor, the requests that it sends to peers and
the messages that it accepts for execution, one after the other. Everything
else leaves the catalog, the queue and the peers alone.
-/

namespace Roole

open Bytes

-- ----------------------------------------------------------------------------
-- Journals
-- ----------------------------------------------------------------------------

/-- A request to a peer, and how many of its bytes the kernel takes. -/
structure PeerRequest where
  peer : NodeId
  message : List UInt8
  sent : Nat
  deriving DecidableEq, Repr

def RpcEvent.peerRequest : RpcEvent → Option PeerRequest
  | .request peer message count => some ⟨peer, message, count⟩
  | _ => none

def RpcServer.requests (server : NodeServer) : List PeerRequest :=
  server.trace.filterMap RpcEvent.peerRequest

theorem RpcServer.mem_requests {server : NodeServer} {request : PeerRequest} :
    request ∈ server.requests ↔
      .request request.peer request.message request.sent ∈ server.trace := by
  obtain ⟨peer, message, sent⟩ := request
  rw [requests, List.mem_filterMap]
  constructor
  · rintro ⟨event, hmem, heq⟩
    cases event with
    | request => cases heq; exact hmem
    | _ => cases heq
  · exact fun hmem => ⟨_, hmem, rfl⟩

def PeerRequest.Packs (funcId : UInt8) (request : PeerRequest) : Prop :=
  ∃ nodeId requestId type status payload,
    request.message = rpcPackMessage nodeId requestId type status funcId payload

theorem PeerRequest.Packs.read_funcId {request : PeerRequest} (h : request.Packs funcId) :
    (RpcHeader.read request.message).funcId = funcId := by
  obtain ⟨_, _, _, _, _, hmessage⟩ := h
  rw [hmessage, RpcHeader.read_pack]

/-- A node sends these requests and takes up these messages. -/
structure Journal (before after : NodeServer) (sent : List PeerRequest)
    (taken : List Message) : Prop where
  nodeId : after.node.nodeId = before.node.nodeId
  capabilities : after.node.capabilities = before.node.capabilities
  dagCatalog : after.node.dagCatalog = before.node.dagCatalog
  requests : after.requests = before.requests ++ sent
  held : after.node.held = before.node.held ++ taken

/-- A handler that neither sends a request nor takes up a message. -/
abbrev Silent (before after : NodeServer) : Prop := Journal before after [] []

namespace Journal

variable {before server after : NodeServer}

theorem trans (h : Journal before server sent taken) (h' : Journal server after sent' taken') :
    Journal before after (sent ++ sent') (taken ++ taken') where
  nodeId := h'.nodeId.trans h.nodeId
  capabilities := h'.capabilities.trans h.capabilities
  dagCatalog := h'.dagCatalog.trans h.dagCatalog
  requests := by rw [h'.requests, h.requests, List.append_assoc]
  held := by rw [h'.held, h.held, List.append_assoc]

theorem silent (h : Journal before server sent taken) (h' : Silent server after) :
    Journal before after sent taken := by
  have htrans := h.trans h'
  rwa [List.append_nil, List.append_nil] at htrans

theorem after_silent (h : Silent before server) (h' : Journal server after sent taken) :
    Journal before after sent taken := h.trans h'

theorem setNode {node : NodeState} (server : NodeServer)
    (hnodeId : node.nodeId = server.node.nodeId)
    (hcapabilities : node.capabilities = server.node.capabilities)
    (hcatalog : node.dagCatalog = server.node.dagCatalog)
    (hheld : node.held = server.node.held ++ taken) :
    Journal server (server.setNode node) [] taken where
  nodeId := hnodeId
  capabilities := hcapabilities
  dagCatalog := hcatalog
  requests := (List.append_nil _).symm
  held := hheld

theorem setPeerPool (pool : PeerPool) (server : NodeServer) :
    Silent server (server.setPeerPool pool) :=
  setNode server rfl rfl rfl (List.append_nil _).symm

theorem updateExecution (env : NodeEnv) (execId : ExecutionId) (status : ExecutionStatus)
    (server : NodeServer) : Silent server (server.updateExecution env execId status) :=
  setNode server rfl rfl rfl (List.append_nil _).symm

theorem refl (server : NodeServer) : Silent server server where
  nodeId := rfl
  capabilities := rfl
  dagCatalog := rfl
  requests := (List.append_nil _).symm
  held := (List.append_nil _).symm

theorem link (pending : List RpcAsyncContext) (server : NodeServer) :
    Silent server { server with pendingContexts := pending } :=
  ⟨rfl, rfl, rfl, (List.append_nil _).symm, (List.append_nil _).symm⟩

theorem respond (context : RpcAsyncContext) (status : RpcStatus) (payload : List UInt8)
    (server : NodeServer) :
    Silent server (rpcSendAsyncResponse context status payload server).2 where
  nodeId := rfl
  capabilities := rfl
  dagCatalog := rfl
  requests := by simp [RpcServer.requests, rpcSendAsyncResponse, RpcEvent.peerRequest]
  held := (List.append_nil _).symm

theorem push (env : NodeEnv) (message : Message) (server : NodeServer) :
    Journal server (server.setNode (messageQueuePush env server.node message).2) [] [message] := by
  obtain ⟨executing, queue, hpush, hheld⟩ := messageQueuePush_held env server.node message
  refine setNode server ?_ ?_ ?_ hheld <;> rw [hpush]

theorem sendToPeer (peer : NodeId) (channel : RpcChannel) (nodeId : NodeId) (requestId : UInt32)
    (funcId : UInt8) (payload : List UInt8) (server : NodeServer) :
    Journal server (sendToPeer peer channel nodeId requestId funcId payload server).2
      [⟨peer, rpcPackMessage nodeId requestId RpcType.request.toByte RpcStatus.unknown.toByte
          funcId payload,
        (Roole.sendToPeer peer channel nodeId requestId funcId payload server).1⟩] [] where
  nodeId := rfl
  capabilities := rfl
  dagCatalog := rfl
  requests := List.filterMap_append
  held := (List.append_nil _).symm

theorem exchange (peer : NodeId) (channel : RpcChannel) (requestId : UInt32) (funcId : UInt8)
    (payload : List UInt8) (server : NodeServer) :
    let looked := server.setPeerPool (peerPoolGet server.node.peerPool peer).2
    let result := Roole.sendToPeer peer channel looked.node.nodeId requestId funcId payload looked
    Journal server result.2.releasePeerPool
      [⟨peer, rpcPackMessage server.node.nodeId requestId RpcType.request.toByte
        RpcStatus.unknown.toByte funcId payload, result.1⟩] [] :=
  ((setPeerPool _ server).after_silent (sendToPeer peer channel server.node.nodeId requestId funcId
    payload _)).silent (setPeerPool _ _)

end Journal

-- ----------------------------------------------------------------------------
-- Submissions
-- ----------------------------------------------------------------------------

def processRequest (nodeId peer : NodeId) (message : Message) (sent : Nat) : PeerRequest where
  peer := peer
  message := rpcPackMessage nodeId message.execId.toUInt32 RpcType.request.toByte
    RpcStatus.unknown.toByte funcIdProcessMessage
    (processMessagePayload message.execId message.dagId message.senderId message.messageData)
  sent := sent

/-- The message is taken up by the node itself, or sent to a peer. -/
inductive Routed (before after : NodeServer) (message : Message) : Prop
  | locally (h : Journal before after [] [message])
  | remotely (peer : NodeId) (sent : Nat) (hsent : sent ≠ 0)
      (h : Journal before after [processRequest before.node.nodeId peer message sent] [])

def Unrouted (before after : NodeServer) (message : Message) : Prop :=
  Silent before after ∨
    ∃ peer, Journal before after [processRequest before.node.nodeId peer message 0] []

theorem Unrouted.silent {before server after : NodeServer} (h : Unrouted before server message)
    (h' : Silent server after) : Unrouted before after message := by
  rcases h with hsilent | ⟨peer, hjournal⟩
  · exact .inl (hsilent.silent h')
  · exact .inr ⟨peer, hjournal.silent h'⟩

def submittedMessage (env : NodeEnv) (context : RpcAsyncContext) (execId : ExecutionId)
    (inData : List UInt8) : Message where
  execId := execId
  dagId := readLe32 inData
  messageData := inData.drop 4
  receivedAtMs := env.now
  senderId := context.senderId

theorem routeMessage_journal (env : NodeEnv) (context : RpcAsyncContext) (targetPeer : NodeId)
    (execId : ExecutionId) (inData : List UInt8) (server : NodeServer) :
    match routeMessage env context targetPeer execId (readLe32 inData) (inData.drop 4) server with
    | .error returned =>
      Unrouted server returned.2 (submittedMessage env context execId inData)
    | .ok after => Routed server after (submittedMessage env context execId inData) := by
  unfold routeMessage
  by_cases hlocal : targetPeer = server.node.nodeId
  · simp only [hlocal, if_true]
    obtain ⟨executing, queue, hpush, -⟩ := messageQueuePush_held env server.node
      (submittedMessage env context execId inData)
    have hjournal := Journal.push env (submittedMessage env context execId inData) server
    unfold submittedMessage at hpush hjournal ⊢
    rw [hpush] at hjournal ⊢
    exact .locally hjournal
  · have hlookup := Journal.setPeerPool (peerPoolGet server.node.peerPool targetPeer).2 server
    simp only [hlocal, if_false]
    cases (peerPoolGet server.node.peerPool targetPeer).1.bind PeerInfo.dataChannel with
    | none =>
      exact .inl (((hlookup.silent (.updateExecution env execId .failed _)).silent
        (.setPeerPool _ _)).silent (.respond _ _ _ _))
    | some channel =>
      have hsend := Journal.exchange targetPeer channel execId.toUInt32 funcIdProcessMessage
        (processMessagePayload execId (readLe32 inData) context.senderId (inData.drop 4)) server
      dsimp only at hsend ⊢
      split_ifs with hmalloc hzero
      · rw [hzero] at hsend
        exact .inr ⟨targetPeer, (hsend.silent (.updateExecution env execId .failed _)).silent
          (.respond _ _ _ _)⟩
      · exact .remotely targetPeer _ hzero hsend
      · exact .inl ((hlookup.silent (.setPeerPool _ _)).silent (.respond _ _ _ _))

theorem Routed.after_silent {before server after : NodeServer} (h : Silent before server)
    (h' : Routed server after message) : Routed before after message := by
  cases h' with
  | locally hjournal => exact .locally (h.after_silent hjournal)
  | remotely peer sent hsent hjournal =>
    rw [h.nodeId] at hjournal
    exact .remotely peer sent hsent (h.after_silent hjournal)

theorem Unrouted.after_silent {before server after : NodeServer} (h : Silent before server)
    (h' : Unrouted server after message) : Unrouted before after message := by
  rcases h' with hsilent | ⟨peer, hjournal⟩
  · exact .inl (h.after_silent hsilent)
  · rw [h.nodeId] at hjournal
    exact .inr ⟨peer, h.after_silent hjournal⟩

theorem startSubmission_journal (env : NodeEnv) (context : RpcAsyncContext) (inData : List UInt8)
    (server : NodeServer) :
    match startSubmission env context inData server with
    | .error returned =>
      ∃ execId, Unrouted server returned.2 (submittedMessage env context execId inData)
    | .ok (execId, after) => Routed server after (submittedMessage env context execId inData) := by
  unfold startSubmission
  split_ifs
  · exact ⟨0, .inl (.respond _ _ _ _)⟩
  dsimp only
  cases dagCatalogGet server.node.dagCatalog (readLe32 inData) with
  | none => exact ⟨0, .inl (.respond _ _ _ _)⟩
  | some dag =>
    cases server.node.targetPeer env with
    | none => exact ⟨0, .inl (.respond _ _ _ _)⟩
    | some targetPeer =>
      dsimp only
      generalize executionTrackerAdd env.now server.node.execTracker (readLe32 inData) targetPeer
        (inData.drop 4) 3 = added
      obtain ⟨execId, tracker⟩ := added
      have hadded : Silent server
          (server.setNode { server.node with execTracker := tracker }) :=
        .setNode server rfl rfl rfl (List.append_nil _).symm
      have hroute := routeMessage_journal env context targetPeer execId inData
        (server.setNode { server.node with execTracker := tracker })
      dsimp only
      split_ifs
      · exact ⟨0, .inl (hadded.silent (.respond _ _ _ _))⟩
      · revert hroute
        cases routeMessage env context targetPeer execId (readLe32 inData) (inData.drop 4)
            (server.setNode { server.node with execTracker := tracker }) with
        | error returned => exact fun hroute => ⟨execId, hroute.after_silent hadded⟩
        | ok after => exact fun hroute => hroute.after_silent hadded

-- ----------------------------------------------------------------------------
-- The other requests
-- ----------------------------------------------------------------------------

def RpcServer.setCatalog (catalog : DagCatalog) (server : NodeServer) : NodeServer :=
  server.setNode { server.node with dagCatalog := catalog }

def receivedMessage (env : NodeEnv) (inData : List UInt8) : Message where
  execId := readLe64 inData
  dagId := readLe32 (inData.drop 8)
  messageData := inData.drop 14
  receivedAtMs := env.now
  senderId := readLe16 (inData.drop 12)

def syncedCatalog (env : NodeEnv) (dag : Dag) (catalog : DagCatalog) : DagCatalog :=
  let (result, added) := dagCatalogAdd env.copyAlloc catalog dag
  if result = .errExists then (dagCatalogUpdate env.copyAlloc env.now added dag).2 else added

def syncRequest (past : PastSlots) (nodeId worker : NodeId) (dag : Dag) (sent : Nat) :
    PeerRequest where
  peer := worker
  message := rpcPackMessage nodeId dag.dagId RpcType.request.toByte RpcStatus.unknown.toByte
    funcIdSyncCatalog (dagSerialize past dag syncBufferSize)
  sent := sent

/-- What a request that is no submission does to a node. -/
inductive Served (env : NodeEnv) (capabilities : NodeCapabilities) (context : RpcAsyncContext)
    (inData : List UInt8) (server after : NodeServer) : Prop
  | silent (hnone : context.funcId = funcIdAddDag → capabilities.hasIngress = true →
        addedDag env server.node inData = none)
      (hshort : context.funcId = funcIdProcessMessage → inData.length < 14)
      (h : Silent server after)
  | process (hfunc : context.funcId = funcIdProcessMessage) (hlen : 14 ≤ inData.length)
      (h : Journal server after [] [receivedMessage env inData])
  | sync (hfunc : context.funcId = funcIdSyncCatalog)
      (hdag : dagDeserialize env.deserializeAlloc env.now inData = .ok dag)
      (h : Silent (server.setCatalog (syncedCatalog env dag server.node.dagCatalog)) after)
  | add (hfunc : context.funcId = funcIdAddDag) (hingress : capabilities.hasIngress = true)
      (hadded : addedDag env server.node inData = some dag)
      (hcatalog : catalog.dags = server.node.dagCatalog.dags ++ [dag])
      (hsent : ∀ request ∈ sent, ∃ worker count,
        request = syncRequest env.past server.node.nodeId worker dag count)
      (h : Journal (server.setCatalog catalog) after sent [])

section Served

variable {env : NodeEnv} {capabilities : NodeCapabilities} {context : RpcAsyncContext}
  {inData : List UInt8} {server after later : NodeServer}

theorem Served.of_silent (hadd : context.funcId ≠ funcIdAddDag)
    (hprocess : context.funcId ≠ funcIdProcessMessage) (h : Silent server after) :
    Served env capabilities context inData server after :=
  .silent (fun hfunc => absurd hfunc hadd) (fun hfunc => absurd hfunc hprocess) h

theorem Served.silent_after (h : Served env capabilities context inData server after)
    (h' : Silent after later) : Served env capabilities context inData server later := by
  cases h with
  | silent hnone hshort hsilent => exact .silent hnone hshort (hsilent.silent h')
  | process hfunc hlen hjournal => exact .process hfunc hlen (hjournal.silent h')
  | sync hfunc hdag hsilent => exact .sync hfunc hdag (hsilent.silent h')
  | add hfunc hingress hadded hcatalog hsent hjournal =>
    exact .add hfunc hingress hadded hcatalog hsent (hjournal.silent h')

theorem Served.of_link (pending : List RpcAsyncContext)
    (h : Served env capabilities context inData { server with pendingContexts := pending } after) :
    Served env capabilities context inData server after := by
  have hjournal : ∀ {server after : NodeServer} {sent taken},
      Journal { server with pendingContexts := pending } after sent taken →
        Journal server after sent taken :=
    fun h => ⟨h.nodeId, h.capabilities, h.dagCatalog, h.requests, h.held⟩
  cases h with
  | silent hnone hshort h => exact .silent hnone hshort (hjournal h)
  | process hfunc hlen h => exact .process hfunc hlen (hjournal h)
  | sync hfunc hdag h => exact .sync hfunc hdag (hjournal h)
  | add hfunc hingress hadded hcatalog hsent h =>
    exact .add hfunc hingress hadded hcatalog hsent (hjournal h)

end Served

theorem handleGetExecutionStatus_silent (context : RpcAsyncContext) (inData : List UInt8)
    (server : NodeServer) : Silent server (handleGetExecutionStatus context inData server).2 := by
  unfold handleGetExecutionStatus
  split_ifs
  · exact .respond _ _ _ _
  · split <;> exact .respond _ _ _ _

theorem handleListDags_silent (env : NodeEnv) (context : RpcAsyncContext) (inData : List UInt8)
    (server : NodeServer) : Silent server (handleListDags env context inData server).2 := by
  unfold handleListDags
  dsimp only
  split_ifs <;> exact .respond _ _ _ _

theorem handleExecutionUpdate_silent (env : NodeEnv) (context : RpcAsyncContext)
    (inData : List UInt8) (server : NodeServer) :
    Silent server (handleExecutionUpdate env context inData server).2 := by
  unfold handleExecutionUpdate
  split_ifs
  · exact .respond _ _ _ _
  · exact (Journal.updateExecution env _ _ server).silent (.respond _ _ _ _)

theorem handleProcessMessage_served (env : NodeEnv) (capabilities : NodeCapabilities)
    {context : RpcAsyncContext} (hfunc : context.funcId = funcIdProcessMessage)
    (inData : List UInt8) (server : NodeServer) :
    Served env capabilities context inData server
      (handleProcessMessage env context inData server).2 := by
  unfold handleProcessMessage
  split_ifs with hshort
  · exact .silent (fun hadd => absurd (hfunc.symm.trans hadd) (by decide)) (fun _ => hshort)
      (.respond _ _ _ _)
  · have hpush := Journal.push env (receivedMessage env inData) server
    unfold receivedMessage at hpush
    dsimp only
    split_ifs <;> exact .process hfunc (Nat.not_lt.mp hshort) (hpush.silent (.respond _ _ _ _))

theorem handleSyncCatalog_served (env : NodeEnv) (capabilities : NodeCapabilities)
    {context : RpcAsyncContext} (hfunc : context.funcId = funcIdSyncCatalog) (inData : List UInt8)
    (server : NodeServer) :
    Served env capabilities context inData server
      (handleSyncCatalog env context inData server).2 := by
  unfold handleSyncCatalog
  cases hdag : dagDeserialize env.deserializeAlloc env.now inData with
  | error _ =>
    exact .of_silent (by simp [hfunc, funcIdSyncCatalog, funcIdAddDag])
      (by simp [hfunc, funcIdSyncCatalog, funcIdProcessMessage]) (.respond _ _ _ _)
  | ok dag => exact .sync hfunc hdag (.respond _ _ _ _)

theorem syncWorker_journal (past : PastSlots) (dag : Dag) (worker : NodeId) (server : NodeServer) :
    ∃ sent, Journal server (syncWorker dag.dagId (dagSerialize past dag syncBufferSize) server
        worker) sent [] ∧
      ∀ request ∈ sent, ∃ count,
        request = syncRequest past server.node.nodeId worker dag count := by
  unfold syncWorker
  dsimp only
  split
  · exact ⟨[], (Journal.setPeerPool _ _).silent (.setPeerPool _ _), fun _ hmem => nomatch hmem⟩
  · rename_i channel _
    exact ⟨_, Journal.exchange worker channel dag.dagId funcIdSyncCatalog
      (dagSerialize past dag syncBufferSize) server,
      List.forall_mem_singleton.mpr ⟨_, rfl⟩⟩

theorem syncWorkers_journal (past : PastSlots) (dag : Dag) (workers : List NodeId)
    (server : NodeServer) :
    ∃ sent, Journal server (workers.foldl
        (syncWorker dag.dagId (dagSerialize past dag syncBufferSize)) server) sent [] ∧
      ∀ request ∈ sent, ∃ worker count,
        request = syncRequest past server.node.nodeId worker dag count := by
  induction workers generalizing server with
  | nil => exact ⟨[], .refl server, fun _ hmem => nomatch hmem⟩
  | cons worker rest ih =>
    obtain ⟨sent, hfirst, hsent⟩ := syncWorker_journal past dag worker server
    obtain ⟨later, hrest, hlater⟩ := ih _
    rw [hfirst.nodeId] at hlater
    refine ⟨sent ++ later, hfirst.trans hrest, List.forall_mem_append.mpr ⟨?_, hlater⟩⟩
    exact fun request hmem => ⟨worker, hsent request hmem⟩

theorem handleAddDag_served (env : NodeEnv) {capabilities : NodeCapabilities}
    (hingress : capabilities.hasIngress = true) {context : RpcAsyncContext}
    (hfunc : context.funcId = funcIdAddDag) (inData : List UInt8) (server : NodeServer) :
    Served env capabilities context inData server (handleAddDag env context inData server).2 := by
  have hrejected : addedDag env server.node inData = none → ∀ status payload after,
      Silent server after → Served env capabilities context inData server
        (rpcSendAsyncResponse context status payload after).2 := fun hnone _ _ _ hsilent =>
    .silent (fun _ _ => hnone) (fun hprocess => absurd (hfunc.symm.trans hprocess) (by decide))
      (hsilent.silent (.respond _ _ _ _))
  unfold handleAddDag
  cases hparse : parseAddDag env.now inData with
  | none => exact hrejected (by rw [addedDag, hparse]; rfl) _ _ _ (.refl _)
  | some dag =>
    by_cases hvalid : dagValidate env.past dag = .ok
    · obtain ⟨result, hresult, hadd⟩ | ⟨hnew, hroom, hadd⟩ :=
        dagCatalogAdd_cases env.copyAlloc server.node.dagCatalog dag
      · have hnone : addedDag env server.node inData = none := by
          simp [addedDag, hparse, hadd, hresult]
        simp only [hvalid, hadd, hresult, ne_eq, not_true_eq_false, not_false_eq_true, if_true,
          if_false]
        exact hrejected hnone _ _ _ (.refl _)
      · have hadded : addedDag env server.node inData = some dag := by
          simp [addedDag, hparse, hvalid, hadd]
        have hdags : (server.node.dagCatalog.append dag hnew hroom).dags =
            server.node.dagCatalog.dags ++ [dag] := rfl
        simp only [hvalid, hadd, ne_eq, not_true_eq_false, if_false]
        split_ifs
        · exact .add hfunc hingress hadded hdags (List.forall_mem_nil _) (.respond _ _ _ _)
        · obtain ⟨sent, hjournal, hsent⟩ := syncWorkers_journal env.past dag
            server.node.aliveWorkers
            (server.setCatalog (server.node.dagCatalog.append dag hnew hroom))
          exact .add hfunc hingress hadded hdags hsent (hjournal.silent (.respond _ _ _ _))
    · have hnone : addedDag env server.node inData = none := by
        simp [addedDag, hparse, hvalid]
      simp only [hvalid, ne_eq, not_false_eq_true, if_true]
      exact hrejected hnone _ _ _ (.refl _)

theorem nodeTable_served (env : NodeEnv) (capabilities : NodeCapabilities) :
    ∀ entry ∈ nodeBuildRpcServiceTable (fun _ => env) capabilities,
      entry.funcId ≠ funcIdSubmitMessage → ∀ context inData server,
        context.funcId = entry.funcId →
          Served env capabilities context inData server
            (entry.handler context inData server).2 := by
  refine List.forall_mem_append.mpr ⟨?_, ?_⟩
  · split
    · rename_i hingress
      simp only [List.forall_mem_cons, List.not_mem_nil, false_imp_iff, implies_true, and_true]
      refine ⟨fun hsubmit => absurd rfl hsubmit, ?_, ?_, ?_⟩
      · intro _ context inData server hfunc
        exact .of_silent (by simp [hfunc, funcIdGetStatus, funcIdAddDag])
          (by simp [hfunc, funcIdGetStatus, funcIdProcessMessage])
          (handleGetExecutionStatus_silent context inData server)
      · intro _ context inData server hfunc
        exact .of_silent (by simp [hfunc, funcIdListDags, funcIdAddDag])
          (by simp [hfunc, funcIdListDags, funcIdProcessMessage])
          (handleListDags_silent env context inData server)
      · exact fun _ context inData server hfunc =>
          handleAddDag_served env hingress hfunc inData server
    · simp
  · simp only [List.forall_mem_cons, List.not_mem_nil, false_imp_iff, implies_true, and_true]
    refine ⟨?_, ?_, ?_⟩
    · exact fun _ context inData server hfunc =>
        handleProcessMessage_served env capabilities hfunc inData server
    · intro _ context inData server hfunc
      exact .of_silent (by simp [hfunc, funcIdExecutionUpdate, funcIdAddDag])
        (by simp [hfunc, funcIdExecutionUpdate, funcIdProcessMessage])
        (handleExecutionUpdate_silent env context inData server)
    · exact fun _ context inData server hfunc =>
        handleSyncCatalog_served env capabilities hfunc inData server

theorem nodeTable_find_process (env : Nat → NodeEnv) (capabilities : NodeCapabilities) :
    ((nodeBuildRpcServiceTable env capabilities).find? fun entry =>
      entry.funcId == funcIdProcessMessage).isSome = true := by
  unfold nodeBuildRpcServiceTable
  cases capabilities.hasIngress <;> rfl

theorem dispatchRequest_served (env : NodeEnv) (capabilities : NodeCapabilities)
    {context : RpcAsyncContext} (hsubmit : context.funcId ≠ funcIdSubmitMessage)
    (inData : List UInt8) (server : NodeServer) :
    Served env capabilities context inData server
      (dispatchRequest (nodeBuildRpcServiceTable (fun _ => env) capabilities) context inData
        server).2 := by
  unfold dispatchRequest
  split
  · rename_i entry hfind
    have hfunc : entry.funcId = context.funcId := by simpa using List.find?_some hfind
    have hserved := Served.of_link _ (nodeTable_served env capabilities entry
      (List.mem_of_find?_eq_some hfind) (hfunc ▸ hsubmit) context inData
      { server with pendingContexts := context :: server.pendingContexts } hfunc.symm)
    dsimp only
    split_ifs
    · exact hserved
    · exact hserved.silent_after (.respond _ _ _ _)
  · rename_i hfind
    refine .silent (fun hadd hingress => ?_) (fun hprocess => ?_) (.respond _ _ _ _)
    · have hfound := nodeTable_find_ingress (fun _ => env) capabilities
        (List.mem_cons_of_mem _ (List.mem_cons_of_mem _ (List.mem_singleton.mpr hadd)))
      rw [hfind, hingress] at hfound
      cases hfound
    · rw [hprocess] at hfind
      have hfound := nodeTable_find_process (fun _ => env) capabilities
      rw [hfind] at hfound
      cases hfound

theorem concludeRequest_silent (context : RpcAsyncContext) (returned : Int × NodeServer) :
    Silent returned.2 (concludeRequest context returned) := by
  unfold concludeRequest
  split_ifs
  · exact .refl _
  · exact .respond _ _ _ _

theorem finishSubmission_silent (env : NodeEnv) (context : RpcAsyncContext)
    (execId : ExecutionId) (server : NodeServer) :
    Silent server (concludeRequest context (finishSubmission env context execId server)) :=
  ((Journal.updateExecution env execId .running server).silent (.respond _ _ _ _)).silent
    (concludeRequest_silent context _)

-- ----------------------------------------------------------------------------
-- Executions
-- ----------------------------------------------------------------------------

theorem setActiveExecutions_silent (count : UInt32) (server : NodeServer) :
    Silent server (server.setActiveExecutions count) :=
  .setNode server rfl rfl rfl (List.append_nil _).symm

theorem reportStatus_journal (env : NodeEnv) (message : Message) (status : ExecutionStatus)
    (server : NodeServer) :
    ∃ sent, Journal server (reportStatus env message status server) sent [] ∧
      (∀ request ∈ sent, request.Packs funcIdExecutionUpdate) ∧
      (reportStatus env message status server).node.executing = server.node.executing := by
  unfold reportStatus
  split_ifs
  · dsimp only
    split
    · exact ⟨[], (Journal.setPeerPool _ _).silent (.setPeerPool _ _), List.forall_mem_nil _, rfl⟩
    · rename_i channel _
      exact ⟨_, Journal.exchange message.senderId channel message.execId.toUInt32
        funcIdExecutionUpdate (executionUpdatePayload message.execId status) server,
        List.forall_mem_singleton.mpr ⟨_, _, _, _, _, rfl⟩, rfl⟩
  · exact ⟨[], .updateExecution env _ _ server, List.forall_mem_nil _, rfl⟩

theorem executeMessage_journal (env : NodeEnv) (executeStep : StepFunction) (message : Message)
    (server : NodeServer) :
    ∃ sent, Journal server (executeMessage env executeStep message server).2 sent [] ∧
      (∀ request ∈ sent, request.Packs funcIdExecutionUpdate) ∧
      (executeMessage env executeStep message server).2.node.executing =
        server.node.executing := by
  have hreport : ∀ status, ∃ sent, Journal server
      ((reportStatus env message status (server.setActiveExecutions
        (server.node.activeExecutions + 1))).setActiveExecutions
          ((reportStatus env message status (server.setActiveExecutions
            (server.node.activeExecutions + 1))).node.activeExecutions - 1)) sent [] ∧
      (∀ request ∈ sent, request.Packs funcIdExecutionUpdate) ∧
      (reportStatus env message status (server.setActiveExecutions
        (server.node.activeExecutions + 1))).node.executing = server.node.executing := by
    intro status
    obtain ⟨sent, hjournal, hsent, hexecuting⟩ := reportStatus_journal env message status
      (server.setActiveExecutions (server.node.activeExecutions + 1))
    exact ⟨sent, ((setActiveExecutions_silent _ server).after_silent hjournal).silent
      (setActiveExecutions_silent _ _), hsent, hexecuting⟩
  unfold executeMessage
  dsimp only
  split
  · exact ⟨[], (setActiveExecutions_silent _ server).silent (setActiveExecutions_silent _ _),
      List.forall_mem_nil _, rfl⟩
  · split_ifs <;> exact hreport _

def RpcServer.dropMessage (message : Message) (server : NodeServer) : NodeServer :=
  server.setNode { server.node with executing := server.node.executing.erase message }

theorem finishMessage_journal (env : NodeEnv) (executeStep : StepFunction) (message : Message)
    (server : NodeServer) :
    ∃ sent, Journal (server.dropMessage message)
        (finishMessage env executeStep message server).2 sent [] ∧
      ∀ request ∈ sent, request.Packs funcIdExecutionUpdate := by
  obtain ⟨sent, hjournal, hsent, hexecuting⟩ :=
    executeMessage_journal env executeStep message server
  refine ⟨sent, ⟨hjournal.nodeId, hjournal.capabilities, hjournal.dagCatalog, hjournal.requests,
    ?_⟩, hsent⟩
  have hheld := hjournal.held
  unfold NodeState.held at hheld
  rw [hexecuting, List.append_nil] at hheld
  have hqueue := List.append_cancel_left hheld
  have hlater : (finishMessage env executeStep message server).2.node.held =
      (executeMessage env executeStep message server).2.node.executing.erase message ++
        (executeMessage env executeStep message server).2.node.messageQueue.buffer.toList := rfl
  rw [hlater, hexecuting, hqueue, List.append_nil]
  rfl

theorem dropMessage_held (h : message ∈ server.node.executing) :
    (RpcServer.dropMessage message server).node.held = server.node.held.erase message := by
  unfold NodeState.held
  rw [List.erase_append_left _ h]
  rfl

end Roole
