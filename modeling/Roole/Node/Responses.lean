import Roole.Node.Handlers
import Roole.Rpc.Contexts

/-!
# How the handlers respond

For each handler, the one response it ends in and the messages that it packs
for peers before.
-/

namespace Roole

open Bytes KeyedList

-- ----------------------------------------------------------------------------
-- Submit message
-- ----------------------------------------------------------------------------

theorem PeerPool.channelTo_eq (pool : PeerPool) (nodeId : NodeId) :
    pool.channelTo nodeId =
      (lookup PeerInfo.nodeId pool.peers nodeId).bind PeerInfo.dataChannel := by
  rw [channelTo, peerPoolGet_fst]

def submitChannel (env : NodeEnv) (state : NodeState) (inData : List UInt8) : Option RpcChannel :=
  if inData.length < 4 then none
  else
    match dagCatalogGet state.dagCatalog (readLe32 inData), state.targetPeer env with
    | some _, some target =>
      let execId := (executionTrackerAdd env.now state.execTracker (readLe32 inData) target
        (inData.drop 4) 3).1
      if execId = 0 ∨ target = state.nodeId ∨ env.mallocOk = false then none
      else state.peerPool.channelTo target
    | _, _ => none

def submitPacks (env : NodeEnv) (state : NodeState) (inData : List UInt8) :
    List (RpcChannel × Nat) :=
  (submitChannel env state inData).toList.map fun channel => (channel, inData.length + 10)

theorem processMessagePayload_length (execId : ExecutionId) (dagId : RuleId) (senderId : NodeId)
    (message : List UInt8) :
    (processMessagePayload execId dagId senderId message).length = 14 + message.length := by
  simp only [processMessagePayload, List.length_append, writeLe64_length, writeLe32_length,
    writeLe16_length]
  omega

/-- The messages that the routing of a submitted message packs. -/
def routePacks (env : NodeEnv) (state : NodeState) (target : NodeId) (messageLen : Nat) :
    List (RpcChannel × Nat) :=
  if target = state.nodeId ∨ env.mallocOk = false then []
  else (state.peerPool.channelTo target).toList.map fun channel => (channel, 14 + messageLen)

theorem routeMessage_responds (env : NodeEnv) (context : RpcAsyncContext) (target : NodeId)
    (execId : ExecutionId) (dagId : RuleId) (message : List UInt8) (server : NodeServer) :
    match routeMessage env context target execId dagId message server with
    | .error result =>
      Responds context server (routePacks env server.node target message.length) 0 result
    | .ok after => Quiet server after (routePacks env server.node target message.length) := by
  have hquiet := Quiet.refl server
  unfold routeMessage routePacks
  by_cases hlocal : target = server.node.nodeId
  · simp only [hlocal, if_true, true_or]
    split_ifs
    · exact hquiet.setNode _
    · exact .respond ((hquiet.setNode _).setNode _) context .internalError []
  · have hchannel : (peerPoolGet server.node.peerPool target).1.bind PeerInfo.dataChannel =
        server.node.peerPool.channelTo target := rfl
    simp only [hlocal, if_false, false_or, hchannel]
    cases hpeer : server.node.peerPool.channelTo target with
    | none =>
      simp only [Option.toList_none, List.map_nil, ite_self]
      exact .respond (((hquiet.setNode _).setNode _).setNode _) context .internalError []
    | some channel =>
      cases hmalloc : env.mallocOk with
      | false => exact .respond ((hquiet.setNode _).setNode _) context .internalError []
      | true =>
        have hsend := (hquiet.setNode _).trans (.sendToPeer target channel server.node.nodeId
          execId.toUInt32 funcIdProcessMessage
          (processMessagePayload execId dagId context.senderId message)
          (server.setPeerPool (peerPoolGet server.node.peerPool target).2))
        rw [List.nil_append, processMessagePayload_length] at hsend
        simp only [if_true, Bool.true_eq_false, if_false, Option.toList_some, List.map_cons,
          List.map_nil]
        split_ifs
        · exact .respond ((hsend.setNode _).setNode _) context .network []
        · exact hsend.setNode _

theorem startSubmission_responds (env : NodeEnv) (context : RpcAsyncContext)
    (inData : List UInt8) (server : NodeServer) :
    match startSubmission env context inData server with
    | .error result => Responds context server (submitPacks env server.node inData) 0 result
    | .ok (_, after) => Quiet server after (submitPacks env server.node inData) := by
  have hquiet := Quiet.refl server
  unfold startSubmission submitPacks submitChannel
  by_cases hshort : inData.length < 4
  · simp only [hshort, if_true]
    exact .respond hquiet context .badArgument []
  simp only [hshort, if_false]
  cases dagCatalogGet server.node.dagCatalog (readLe32 inData) with
  | none => exact .respond hquiet context .funcNotFound []
  | some dag =>
    cases server.node.targetPeer env with
    | none => exact .respond hquiet context .internalError []
    | some target =>
      dsimp only
      generalize executionTrackerAdd env.now server.node.execTracker (readLe32 inData) target
        (inData.drop 4) 3 = added
      obtain ⟨execId, tracker⟩ := added
      dsimp only
      by_cases hzero : execId = 0
      · simp only [hzero, if_true, true_or]
        exact .respond (hquiet.setNode _) context .internalError []
      have hroute := routeMessage_responds env context target execId (readLe32 inData)
        (inData.drop 4) (server.setNode { server.node with execTracker := tracker })
      have hpacks : routePacks env { server.node with execTracker := tracker } target
          (inData.drop 4).length = ((if target = server.node.nodeId ∨ env.mallocOk = false then none
            else server.node.peerPool.channelTo target).toList.map fun channel =>
              (channel, inData.length + 10)) := by
        have hlen : 14 + (inData.length - 4) = inData.length + 10 := by omega
        unfold routePacks
        rw [List.length_drop, hlen]
        split_ifs <;> rfl
      simp only [hzero, if_false, false_or, ← hpacks]
      generalize routeMessage env context target execId (readLe32 inData) (inData.drop 4)
        (server.setNode { server.node with execTracker := tracker }) = routed at hroute
      cases routed with
      | error result =>
        obtain ⟨status, reply, quiet, hresult, hrouted, hlen⟩ := hroute
        exact ⟨status, reply, quiet, hresult, (hquiet.setNode _).trans hrouted, hlen⟩
      | ok after => exact (hquiet.setNode _).trans hroute

theorem handleSubmitMessage_responds (env : NodeEnv) (context : RpcAsyncContext)
    (inData : List UInt8) (server : NodeServer) :
    ∃ replyLen ≤ 9, Responds context server (submitPacks env server.node inData) replyLen
      (handleSubmitMessage env context inData server) := by
  have hstart := startSubmission_responds env context inData server
  unfold handleSubmitMessage
  cases hresult : startSubmission env context inData server with
  | error result =>
    rw [hresult] at hstart
    exact ⟨0, Nat.zero_le _, hstart⟩
  | ok started =>
    rw [hresult] at hstart
    refine ⟨_, ?_, .respond (hstart.setNode _) context .success _⟩
    simp

-- ----------------------------------------------------------------------------
-- The other handlers
-- ----------------------------------------------------------------------------

theorem handleGetExecutionStatus_answers (context : RpcAsyncContext) (inData : List UInt8)
    (server : NodeServer) : ∃ replyLen ≤ 9, Answers context server replyLen
      (handleGetExecutionStatus context inData server) := by
  unfold handleGetExecutionStatus
  split_ifs
  · exact ⟨_, by simp, .respond context .badArgument [] server server.node⟩
  · cases executionTrackerGet server.node.execTracker (readLe64 inData) with
    | none => exact ⟨_, by simp, .respond context .funcNotFound [] server server.node⟩
    | some record => exact ⟨_, by simp, .respond context .success _ server server.node⟩

def listReplyLen (env : NodeEnv) (state : NodeState) : Nat :=
  if env.mallocOk then 4 + 4 * min maxDags state.dagCatalog.dags.length else 0

theorem listReplyLen_le (env : NodeEnv) (state : NodeState) : listReplyLen env state ≤ 4100 := by
  have hmin : min maxDags state.dagCatalog.dags.length ≤ 1024 := min_le_left _ _
  unfold listReplyLen
  split_ifs <;> omega

theorem handleListDags_answers (env : NodeEnv) (context : RpcAsyncContext) (inData : List UInt8)
    (server : NodeServer) : Answers context server (listReplyLen env server.node)
      (handleListDags env context inData server) := by
  have hwords : ∀ ids : List RuleId, (ids.flatMap writeLe32).length = 4 * ids.length := by
    intro ids
    simp [List.length_flatMap, Nat.mul_comm]
  unfold handleListDags listReplyLen
  dsimp only
  split_ifs
  · refine ⟨.success, _, server.node, rfl, ?_⟩
    rw [List.length_append, writeLe32_length, hwords, dagCatalogList, List.length_map,
      List.length_take]
  · exact .respond context .internalError [] server server.node

theorem handleProcessMessage_answers (env : NodeEnv) (context : RpcAsyncContext)
    (inData : List UInt8) (server : NodeServer) : ∃ replyLen ≤ 9,
      Answers context server replyLen (handleProcessMessage env context inData server) := by
  unfold handleProcessMessage
  split_ifs
  · exact ⟨_, by simp, .respond context .badArgument [] server server.node⟩
  · dsimp only
    split_ifs
    · exact ⟨_, by simp, .respond context .success [1] server _⟩
    · exact ⟨_, by simp, .respond context .internalError [] server _⟩

theorem handleExecutionUpdate_answers (env : NodeEnv) (context : RpcAsyncContext)
    (inData : List UInt8) (server : NodeServer) : ∃ replyLen ≤ 9,
      Answers context server replyLen (handleExecutionUpdate env context inData server) := by
  unfold handleExecutionUpdate
  split_ifs
  · exact ⟨_, by simp, .respond context .badArgument [] server server.node⟩
  · exact ⟨_, by simp, .respond context .success [1] server _⟩

theorem handleSyncCatalog_answers (env : NodeEnv) (context : RpcAsyncContext)
    (inData : List UInt8) (server : NodeServer) : ∃ replyLen ≤ 9,
      Answers context server replyLen (handleSyncCatalog env context inData server) := by
  unfold handleSyncCatalog
  cases dagDeserialize env.deserializeAlloc env.now inData with
  | error _ => exact ⟨_, by simp, .respond context .badArgument [] server server.node⟩
  | ok dag => exact ⟨_, by simp, .respond context .success [1] server _⟩

-- ----------------------------------------------------------------------------
-- Add DAG
-- ----------------------------------------------------------------------------

theorem syncWorker_quiet (dagId : RuleId) (dagBuffer : List UInt8) (server : NodeServer)
    (worker : NodeId) :
    Quiet server (syncWorker dagId dagBuffer server worker)
        ((server.node.peerPool.channelTo worker).toList.map (·, dagBuffer.length)) ∧
      (syncWorker dagId dagBuffer server worker).node.peerPool.peers =
        server.node.peerPool.peers := by
  have hquiet := Quiet.refl server
  have hchannel : (peerPoolGet server.node.peerPool worker).1.bind PeerInfo.dataChannel =
      server.node.peerPool.channelTo worker := rfl
  unfold syncWorker
  simp only [hchannel]
  cases server.node.peerPool.channelTo worker with
  | none => exact ⟨(hquiet.setNode _).setNode _, peerPoolGet_peers _ _⟩
  | some channel =>
    have hsend := (hquiet.setNode _).trans (.sendToPeer worker channel server.node.nodeId dagId
      funcIdSyncCatalog dagBuffer
      (server.setPeerPool (peerPoolGet server.node.peerPool worker).2))
    exact ⟨hsend.setNode _, peerPoolGet_peers _ _⟩

theorem syncWorkers_quiet (dagId : RuleId) (dagBuffer : List UInt8) (workers : List NodeId)
    (server : NodeServer) :
    Quiet server (workers.foldl (syncWorker dagId dagBuffer) server)
      ((workers.filterMap server.node.peerPool.channelTo).map (·, dagBuffer.length)) := by
  induction workers generalizing server with
  | nil => exact .refl server
  | cons worker rest ih =>
    obtain ⟨hquiet, hpeers⟩ := syncWorker_quiet dagId dagBuffer server worker
    have hsame : (syncWorker dagId dagBuffer server worker).node.peerPool.channelTo =
        server.node.peerPool.channelTo := by
      funext nodeId
      rw [PeerPool.channelTo_eq, PeerPool.channelTo_eq, hpeers]
    have hrest := hquiet.trans (ih _)
    rw [hsame] at hrest
    rw [List.foldl_cons]
    cases hchannel : server.node.peerPool.channelTo worker with
    | none => simpa [List.filterMap_cons, hchannel] using hrest
    | some channel => simpa [List.filterMap_cons, hchannel] using hrest

def addedDag (env : NodeEnv) (state : NodeState) (inData : List UInt8) : Option Dag :=
  (parseAddDag env.now inData).filter fun dag =>
    dagValidate env.past dag = .ok ∧ (dagCatalogAdd env.copyAlloc state.dagCatalog dag).1 = .ok

def addDagPacks (env : NodeEnv) (state : NodeState) (inData : List UInt8) :
    List (RpcChannel × Nat) :=
  match addedDag env state inData with
  | none => []
  | some dag =>
    let size := (dagSerialize env.past dag syncBufferSize).length
    if size = 0 then []
    else (state.aliveWorkers.filterMap state.peerPool.channelTo).map (·, size)

theorem handleAddDag_responds (env : NodeEnv) (context : RpcAsyncContext) (inData : List UInt8)
    (server : NodeServer) : ∃ replyLen ≤ 9, Responds context server
      (addDagPacks env server.node inData) replyLen (handleAddDag env context inData server) := by
  have hquiet := Quiet.refl server
  unfold handleAddDag addDagPacks addedDag
  cases parseAddDag env.now inData with
  | none => exact ⟨_, by simp, .respond hquiet context .badArgument []⟩
  | some dag =>
    by_cases hvalid : dagValidate env.past dag = .ok
    · by_cases hadd : (dagCatalogAdd env.copyAlloc server.node.dagCatalog dag).1 = .ok
      · have hadded := hquiet.setNode { server.node with
          dagCatalog := (dagCatalogAdd env.copyAlloc server.node.dagCatalog dag).2 }
        simp only [hvalid, hadd, ne_eq, not_true_eq_false, if_false, Option.filter_some,
          and_self, decide_true, if_true]
        by_cases hsize : (dagSerialize env.past dag syncBufferSize).length = 0
        · simp only [hsize, if_true]
          exact ⟨_, by simp, .respond hadded context .success [1]⟩
        · simp only [hsize, if_false]
          have hsync := hadded.trans (syncWorkers_quiet dag.dagId
            (dagSerialize env.past dag syncBufferSize) server.node.aliveWorkers _)
          exact ⟨_, by simp, .respond hsync context .success [1]⟩
      · simp only [hvalid, hadd, ne_eq, not_true_eq_false, not_false_eq_true, if_true, if_false,
          Option.filter_some, and_false, decide_false, Bool.false_eq_true]
        exact ⟨_, by simp, .respond (hquiet.setNode _) context .internalError []⟩
    · simp only [hvalid, ne_eq, not_false_eq_true, if_true, Option.filter_some, false_and,
        decide_false, Bool.false_eq_true, if_false]
      exact ⟨_, by simp, .respond hquiet context .badArgument []⟩

end Roole
