import Roole.Node.Executor
import Roole.Node.Tracking

/-!
# What a request or an execution does to a node

The parts of a node that decide where the status of an execution goes: its
peers, the messages it holds, the requests it has sent, and its records. The
nodes of the system are those that satisfy `isNode`.
-/

namespace Roole

open Bytes

-- ----------------------------------------------------------------------------
-- Effects
-- ----------------------------------------------------------------------------

/-- A request to a peer brings it a DAG or a message of a client. -/
def RpcEvent.FromClient (isNode : NodeId → Prop) : RpcEvent → Prop
  | .request _ message _ =>
    (RpcHeader.read message).funcId = funcIdSyncCatalog ∨
    (RpcHeader.read message).funcId = funcIdProcessMessage ∧
      ¬ isNode (readLe16 ((message.drop rpcHeaderSize).drop 12))
  | _ => True

/-- Peers and messages come from where they came from before, or are a node's
and a client's; records are only added. -/
structure NodeFrame (isNode : NodeId → Prop) (before after : NodeServer) : Prop where
  nodeId : after.node.nodeId = before.node.nodeId
  peers : ∀ peer ∈ after.node.peerPool.peers,
    peer.nodeId ∈ before.node.peerPool.peers.map PeerInfo.nodeId ∨ isNode peer.nodeId
  held : ∀ message ∈ after.node.held, message ∈ before.node.held ∨ ¬ isNode message.senderId
  requests : ∀ event ∈ after.trace, event ∈ before.trace ∨ event.FromClient isNode
  numbered : before.node.execTracker.Numbered → after.node.execTracker.Numbered

structure NodeEffect (isNode : NodeId → Prop) (before after : NodeServer) : Prop
    extends NodeFrame isNode before after where
  records : before.node.execTracker.Numbered → ∀ execId record,
    executionTrackerGet before.node.execTracker execId = some record →
      executionTrackerGet after.node.execTracker execId = some record

namespace NodeFrame

variable {isNode : NodeId → Prop} {before server after : NodeServer}

theorem trans (h : NodeFrame isNode before server) (h' : NodeFrame isNode server after) :
    NodeFrame isNode before after where
  nodeId := h'.nodeId.trans h.nodeId
  peers := fun peer hpeer => by
    rcases h'.peers peer hpeer with hold | hnode
    · obtain ⟨old, hmem, heq⟩ := List.mem_map.mp hold
      exact heq ▸ h.peers old hmem
    · exact .inr hnode
  held := fun message hmessage => (h'.held message hmessage).elim (h.held message) .inr
  requests := fun event hevent => (h'.requests event hevent).elim (h.requests event) .inr
  numbered := h'.numbered ∘ h.numbered

theorem setTracker (server : NodeServer)
    (hnumbered : server.node.execTracker.Numbered → tracker.Numbered) :
    NodeFrame isNode server (server.setNode { server.node with execTracker := tracker }) where
  nodeId := rfl
  peers := fun _ hpeer => .inl (List.mem_map_of_mem hpeer)
  held := fun _ hmessage => .inl hmessage
  requests := fun _ hevent => .inl hevent
  numbered := hnumbered

theorem updateExecution (env : NodeEnv) (execId : ExecutionId) (status : ExecutionStatus)
    (server : NodeServer) :
    NodeFrame isNode server (server.updateExecution env execId status) :=
  setTracker server fun hnumbered =>
    executionTrackerUpdateStatus_numbered hnumbered env.now execId status

end NodeFrame

namespace NodeEffect

variable {isNode : NodeId → Prop} {before server after : NodeServer}

theorem trans (h : NodeEffect isNode before server) (h' : NodeEffect isNode server after) :
    NodeEffect isNode before after where
  toNodeFrame := h.toNodeFrame.trans h'.toNodeFrame
  records := fun hnumbered execId record hget =>
    h'.records (h.numbered hnumbered) execId record (h.records hnumbered execId record hget)

theorem setNode {node : NodeState} (server : NodeServer)
    (hnodeId : node.nodeId = server.node.nodeId)
    (hpeers : ∀ peer ∈ node.peerPool.peers,
      peer.nodeId ∈ server.node.peerPool.peers.map PeerInfo.nodeId ∨ isNode peer.nodeId)
    (hheld : ∀ message ∈ node.held, message ∈ server.node.held ∨ ¬ isNode message.senderId)
    (htracker : node.execTracker = server.node.execTracker) :
    NodeEffect isNode server (server.setNode node) where
  nodeId := hnodeId
  peers := hpeers
  held := hheld
  requests := fun _ hevent => .inl hevent
  numbered := fun hnumbered => htracker ▸ hnumbered
  records := fun _ _ _ hget => htracker ▸ hget

theorem setPeerPool {pool : PeerPool} (server : NodeServer)
    (hpeers : pool.peers = server.node.peerPool.peers) :
    NodeEffect isNode server (server.setPeerPool pool) :=
  setNode server rfl (fun _ hpeer => .inl (List.mem_map_of_mem (hpeers ▸ hpeer)))
    (fun _ hmessage => .inl hmessage) rfl

theorem setCatalog (catalog : DagCatalog) (server : NodeServer) :
    NodeEffect isNode server (server.setNode { server.node with dagCatalog := catalog }) :=
  setNode server rfl (fun _ hpeer => .inl (List.mem_map_of_mem hpeer))
    (fun _ hmessage => .inl hmessage) rfl

theorem refl (server : NodeServer) : NodeEffect isNode server server :=
  have h : NodeEffect isNode server (server.setPeerPool server.node.peerPool) :=
    setPeerPool server rfl
  h

theorem respond (context : RpcAsyncContext) (status : RpcStatus) (payload : List UInt8)
    (server : NodeServer) :
    NodeEffect isNode server (rpcSendAsyncResponse context status payload server).2 where
  nodeId := rfl
  peers := fun _ hpeer => .inl (List.mem_map_of_mem hpeer)
  held := fun _ hmessage => .inl hmessage
  requests := by
    refine List.forall_mem_append.mpr ⟨fun _ hevent => .inl hevent, ?_⟩
    simp [RpcEvent.FromClient]
  numbered := id
  records := fun _ _ _ hget => hget

theorem sendToPeer (peer : NodeId) (channel : RpcChannel) (nodeId : NodeId) (requestId : UInt32)
    {funcId : UInt8} {payload : List UInt8} (server : NodeServer)
    (hpayload : funcId = funcIdSyncCatalog ∨
      funcId = funcIdProcessMessage ∧ ¬ isNode (readLe16 (payload.drop 12))) :
    NodeEffect isNode server
      (sendToPeer peer channel nodeId requestId funcId payload server).2 where
  nodeId := rfl
  peers := fun _ hpeer => .inl (List.mem_map_of_mem hpeer)
  held := fun _ hmessage => .inl hmessage
  requests := by
    refine List.forall_mem_append.mpr ⟨fun _ hevent => .inl hevent, ?_⟩
    refine List.forall_mem_cons.mpr ⟨.inr trivial, List.forall_mem_singleton.mpr (.inr ?_)⟩
    simpa only [RpcEvent.FromClient, RpcHeader.read_pack, rpcPackMessage_drop] using hpayload
  numbered := id
  records := fun _ _ _ hget => hget

theorem updateNew (h : NodeEffect isNode before server) (env : NodeEnv)
    (hnew : executionTrackerGet before.node.execTracker execId = none)
    (status : ExecutionStatus) :
    NodeEffect isNode before (server.updateExecution env execId status) where
  toNodeFrame := h.toNodeFrame.trans (.updateExecution env execId status server)
  records := by
    intro hnumbered other record hget
    have hne : other ≠ execId := by
      rintro rfl
      rw [hnew] at hget
      cases hget
    have hrecord := h.records hnumbered other record hget
    simpa [RpcServer.updateExecution, RpcServer.setNode, executionTrackerGet_updateStatus, hne]
      using hrecord

theorem pushMessage (env : NodeEnv) (message : Message) (server : NodeServer)
    (hsender : ¬ isNode message.senderId) :
    NodeEffect isNode server (server.setNode (messageQueuePush env server.node message).2) := by
  obtain ⟨executing, queue, hpush, hheld⟩ := messageQueuePush_held env server.node message
  refine setNode server ?_ ?_ ?_ ?_
  · rw [hpush]
  · rw [hpush]
    exact fun _ hpeer => .inl (List.mem_map_of_mem hpeer)
  · intro held hmem
    rw [hheld, List.mem_append, List.mem_singleton] at hmem
    rcases hmem with hold | rfl
    · exact .inl hold
    · exact .inr hsender
  · rw [hpush]

end NodeEffect

-- ----------------------------------------------------------------------------
-- Submissions
-- ----------------------------------------------------------------------------

theorem processMessagePayload_sender (execId : ExecutionId) (dagId : RuleId) (senderId : NodeId)
    (message : List UInt8) :
    readLe16 ((processMessagePayload execId dagId senderId message).drop 12) = senderId := by
  simp [processMessagePayload, List.drop_append, List.drop_eq_nil_of_le]

section Handlers

variable {isNode : NodeId → Prop} {before server : NodeServer}

theorem releasePeerPool_effect (server : NodeServer) :
    NodeEffect isNode server server.releasePeerPool := .setPeerPool server rfl

theorem peerPoolGet_effect (nodeId : NodeId) (server : NodeServer) :
    NodeEffect isNode server (server.setPeerPool (peerPoolGet server.node.peerPool nodeId).2) :=
  .setPeerPool server (peerPoolGet_peers _ _)

theorem routeMessage_effect (h : NodeEffect isNode before server) (env : NodeEnv)
    (hnew : executionTrackerGet before.node.execTracker execId = none)
    {context : RpcAsyncContext} (hsender : ¬ isNode context.senderId) (targetPeer : NodeId)
    (dagId : RuleId) (message : List UInt8) :
    match routeMessage env context targetPeer execId dagId message server with
    | .error returned => NodeEffect isNode before returned.2
    | .ok after => NodeEffect isNode before after ∧
        after.node.execTracker = server.node.execTracker := by
  have hfail := fun {after : NodeServer} (h : NodeEffect isNode before after) =>
    h.updateNew env hnew .failed
  unfold routeMessage
  by_cases hlocal : targetPeer = server.node.nodeId
  · simp only [hlocal, if_true]
    obtain ⟨executing, queue, hpush, -⟩ := messageQueuePush_held env server.node
      ⟨execId, dagId, message, env.now, context.senderId⟩
    have hpushed := h.trans (.pushMessage env ⟨execId, dagId, message, env.now, context.senderId⟩
      server hsender)
    rw [hpush] at hpushed ⊢
    exact ⟨hpushed, rfl⟩
  · have hget := h.trans (peerPoolGet_effect targetPeer server)
    simp only [hlocal, if_false]
    cases (peerPoolGet server.node.peerPool targetPeer).1.bind PeerInfo.dataChannel with
    | none => exact ((hfail hget).trans (releasePeerPool_effect _)).trans (.respond _ _ _ _)
    | some channel =>
      have hpayload : ¬ isNode (readLe16
          ((processMessagePayload execId dagId context.senderId message).drop 12)) := by
        rwa [processMessagePayload_sender]
      have hsend := hget.trans (.sendToPeer targetPeer channel server.node.nodeId
        execId.toUInt32 _ (.inr ⟨rfl, hpayload⟩))
      have hreleased := hsend.trans (releasePeerPool_effect _)
      dsimp only
      split_ifs
      · exact (hfail hreleased).trans (.respond _ _ _ _)
      · exact ⟨hreleased, rfl⟩
      · exact (hget.trans (releasePeerPool_effect _)).trans (.respond _ _ _ _)

theorem startSubmission_effect (env : NodeEnv) {context : RpcAsyncContext}
    (hsender : ¬ isNode context.senderId) (inData : List UInt8)
    (hnumbered : server.node.execTracker.Numbered) :
    match startSubmission env context inData server with
    | .error returned => NodeEffect isNode server returned.2
    | .ok (execId, after) => NodeEffect isNode server after ∧
        (executionTrackerGet after.node.execTracker execId).isSome := by
  unfold startSubmission
  split_ifs
  · exact .respond _ _ _ _
  dsimp only
  cases dagCatalogGet server.node.dagCatalog (readLe32 inData) with
  | none => exact .respond _ _ _ _
  | some dag =>
    cases server.node.targetPeer env with
    | none => exact .respond _ _ _ _
    | some targetPeer =>
      rcases executionTrackerAdd_cases hnumbered env.now (readLe32 inData) targetPeer
        (inData.drop 4) 3 with hfailed | ⟨tracker, record, hadd, hne, hafter, hnew, hget⟩
      · simp only [hfailed, if_true]
        exact .respond _ _ _ _
      · have hadded : NodeEffect isNode server
            (server.setNode { server.node with execTracker := tracker }) :=
          ⟨.setTracker server fun _ => hafter, fun _ other old hold => by
            have hother : other ≠ server.node.execTracker.nextExecId := by
              rintro rfl
              rw [hnew] at hold
              cases hold
            simpa only [RpcServer.setNode, hget, if_neg hother] using hold⟩
        have hroute := routeMessage_effect hadded env hnew hsender targetPeer (readLe32 inData)
          (inData.drop 4)
        simp only [hadd, if_neg hne]
        revert hroute
        cases routeMessage env context targetPeer server.node.execTracker.nextExecId
            (readLe32 inData) (inData.drop 4)
            (server.setNode { server.node with execTracker := tracker }) with
        | error returned => exact id
        | ok after =>
          rintro ⟨hrouted, htracker⟩
          refine ⟨hrouted, ?_⟩
          rw [htracker, RpcServer.setNode, hget, if_pos rfl]
          rfl

-- ----------------------------------------------------------------------------
-- The other requests
-- ----------------------------------------------------------------------------

theorem handleGetExecutionStatus_effect (context : RpcAsyncContext) (inData : List UInt8)
    (server : NodeServer) :
    NodeEffect isNode server (handleGetExecutionStatus context inData server).2 := by
  unfold handleGetExecutionStatus
  split_ifs
  · exact .respond _ _ _ _
  · split <;> exact .respond _ _ _ _

theorem handleListDags_effect (env : NodeEnv) (context : RpcAsyncContext) (inData : List UInt8)
    (server : NodeServer) : NodeEffect isNode server (handleListDags env context inData server).2 := by
  unfold handleListDags
  dsimp only
  split_ifs <;> exact .respond _ _ _ _

theorem handleProcessMessage_effect (env : NodeEnv) (context : RpcAsyncContext)
    {inData : List UInt8} (hsender : ¬ isNode (readLe16 (inData.drop 12))) (server : NodeServer) :
    NodeEffect isNode server (handleProcessMessage env context inData server).2 := by
  unfold handleProcessMessage
  split_ifs
  · exact .respond _ _ _ _
  · have hpush := NodeEffect.pushMessage env ⟨readLe64 inData, readLe32 (inData.drop 8),
      inData.drop 14, env.now, readLe16 (inData.drop 12)⟩ server hsender
    dsimp only
    split_ifs <;> exact hpush.trans (.respond _ _ _ _)

theorem handleSyncCatalog_effect (env : NodeEnv) (context : RpcAsyncContext)
    (inData : List UInt8) (server : NodeServer) :
    NodeEffect isNode server (handleSyncCatalog env context inData server).2 := by
  unfold handleSyncCatalog
  split
  · exact .respond _ _ _ _
  · exact (NodeEffect.setCatalog _ server).trans (.respond _ _ _ _)

theorem syncWorkers_effect (dagId : RuleId) (dagBuffer : List UInt8) (workers : List NodeId)
    (server : NodeServer) :
    NodeEffect isNode server (workers.foldl (syncWorker dagId dagBuffer) server) := by
  induction workers generalizing server with
  | nil => exact .refl server
  | cons worker rest ih =>
    refine NodeEffect.trans ?_ (ih _)
    have hget : NodeEffect isNode server
        (server.setPeerPool (peerPoolGet server.node.peerPool worker).2) :=
      peerPoolGet_effect worker server
    unfold syncWorker
    dsimp only
    split
    · exact hget.trans (releasePeerPool_effect _)
    · exact (hget.trans (.sendToPeer _ _ _ _ _ (.inl rfl))).trans (releasePeerPool_effect _)

theorem handleAddDag_effect (env : NodeEnv) (context : RpcAsyncContext) (inData : List UInt8)
    (server : NodeServer) : NodeEffect isNode server (handleAddDag env context inData server).2 := by
  unfold handleAddDag
  split
  · exact .respond _ _ _ _
  · split_ifs
    · exact .respond _ _ _ _
    · have hadd : ∀ catalog, NodeEffect isNode server
          (server.setNode { server.node with dagCatalog := catalog }) :=
        fun catalog => .setCatalog catalog server
      dsimp only
      split_ifs
      · exact (hadd _).trans (.respond _ _ _ _)
      · exact (hadd _).trans (.respond _ _ _ _)
      · exact ((hadd _).trans (syncWorkers_effect _ _ _ _)).trans (.respond _ _ _ _)

theorem nodeTable_effect (env : Nat → NodeEnv) (capabilities : NodeCapabilities) :
    ∀ entry ∈ nodeBuildRpcServiceTable env capabilities, entry.funcId ≠ funcIdSubmitMessage →
      entry.funcId ≠ funcIdExecutionUpdate → ∀ context inData server,
        (entry.funcId = funcIdProcessMessage → ¬ isNode (readLe16 (inData.drop 12))) →
          NodeEffect isNode server (entry.handler context inData server).2 := by
  refine List.forall_mem_append.mpr ⟨?_, ?_⟩
  · split
    · simp only [List.forall_mem_cons, List.not_mem_nil, false_imp_iff, implies_true, and_true]
      refine ⟨fun hsubmit => absurd rfl hsubmit, ?_, ?_, ?_⟩
      · exact fun _ _ context inData server _ => handleGetExecutionStatus_effect context inData server
      · exact fun _ _ context inData server _ => handleListDags_effect _ context inData server
      · exact fun _ _ context inData server _ => handleAddDag_effect _ context inData server
    · simp
  · simp only [List.forall_mem_cons, List.not_mem_nil, false_imp_iff, implies_true, and_true]
    refine ⟨?_, fun _ hupdate => absurd rfl hupdate, ?_⟩
    · exact fun _ _ context inData server hsender =>
        handleProcessMessage_effect _ context (hsender trivial) server
    · exact fun _ _ context inData server _ => handleSyncCatalog_effect _ context inData server

theorem NodeEffect.pendingContexts (pending : List RpcAsyncContext) (server : NodeServer) :
    NodeEffect isNode server { server with pendingContexts := pending } :=
  have h : NodeEffect isNode server server := .refl server
  ⟨⟨h.nodeId, h.peers, h.held, h.requests, h.numbered⟩, h.records⟩

theorem dispatchRequest_nodeEffect (env : Nat → NodeEnv) (capabilities : NodeCapabilities)
    {context : RpcAsyncContext} {inData : List UInt8} (server : NodeServer)
    (hsubmit : context.funcId ≠ funcIdSubmitMessage)
    (hupdate : context.funcId ≠ funcIdExecutionUpdate)
    (hsender : context.funcId = funcIdProcessMessage → ¬ isNode (readLe16 (inData.drop 12))) :
    NodeEffect isNode server
      (dispatchRequest (nodeBuildRpcServiceTable env capabilities) context inData server).2 := by
  unfold dispatchRequest
  split
  · rename_i entry hfind
    have hfunc : entry.funcId = context.funcId := by simpa using List.find?_some hfind
    have hhandler := (NodeEffect.pendingContexts (context :: server.pendingContexts) server).trans
      (nodeTable_effect env capabilities entry (List.mem_of_find?_eq_some hfind) (hfunc ▸ hsubmit)
        (hfunc ▸ hupdate) context inData _ (hfunc ▸ hsender))
    dsimp only
    split_ifs
    · exact hhandler
    · exact hhandler.trans (.respond _ _ _ _)
  · exact .respond _ _ _ _

-- ----------------------------------------------------------------------------
-- Executions
-- ----------------------------------------------------------------------------

theorem setActiveExecutions_effect (count : UInt32) (server : NodeServer) :
    NodeEffect isNode server (server.setActiveExecutions count) :=
  .setNode server rfl (fun _ hpeer => .inl (List.mem_map_of_mem hpeer))
    (fun _ hmessage => .inl hmessage) rfl

theorem reportStatus_effect (env : NodeEnv) (hsender : ¬ isNode message.senderId)
    (status : ExecutionStatus) (hself : isNode server.node.nodeId)
    (hpeers : ∀ peer ∈ server.node.peerPool.peers, isNode peer.nodeId) :
    NodeEffect isNode server (reportStatus env message status server) := by
  have hne : message.senderId ≠ server.node.nodeId := fun heq => hsender (heq ▸ hself)
  have hnone : (peerPoolGet server.node.peerPool message.senderId).1 = none := by
    rw [peerPoolGet_fst]
    exact KeyedList.lookup_eq_none.mpr fun peer hpeer heq => hsender (heq ▸ hpeers peer hpeer)
  simp only [reportStatus, ne_eq, hne, not_false_eq_true, if_true, hnone, Option.bind_none]
  exact (peerPoolGet_effect message.senderId server).trans (releasePeerPool_effect _)

theorem finishMessage_effect (env : NodeEnv) (executeStep : StepFunction)
    (hsender : ¬ isNode message.senderId) (hself : isNode server.node.nodeId)
    (hpeers : ∀ peer ∈ server.node.peerPool.peers, isNode peer.nodeId) :
    NodeEffect isNode server (finishMessage env executeStep message server).2 := by
  have hactive : ∀ count (server : NodeServer),
      NodeEffect isNode server (server.setActiveExecutions count) := setActiveExecutions_effect
  have hreport : ∀ status (count : UInt32), NodeEffect isNode (server.setActiveExecutions count)
      (reportStatus env message status (server.setActiveExecutions count)) :=
    fun status count => reportStatus_effect env hsender status hself hpeers
  have hrun : NodeEffect isNode server (executeMessage env executeStep message server).2 := by
    unfold executeMessage
    dsimp only
    split
    · exact (hactive _ _).trans (hactive _ _)
    · split_ifs
      · exact ((hactive _ _).trans (hreport _ _)).trans (hactive _ _)
      · exact ((hactive _ _).trans (hreport _ _)).trans (hactive _ _)
  refine hrun.trans (.setNode _ rfl (fun _ hpeer => .inl (List.mem_map_of_mem hpeer)) ?_ rfl)
  intro held hmem
  rcases List.mem_append.mp hmem with hexecuting | hqueued
  · exact .inl (List.mem_append_left _ (List.mem_of_mem_erase hexecuting))
  · exact .inl (List.mem_append_right _ hqueued)

end Handlers
end Roole
