import Roole.Node.State

/-!
# The request handlers

`node_handlers.c` and the service table of `node_rpc.c`. A handler returns
through `rpc_send_async_response` on every path; where a part of a handler is a
definition of its own, `Except.error` is such a return. The integers that are
copied with `memcpy` are in the byte order of the host, which is taken to be
little endian.
-/

namespace Roole

open Bytes

abbrev NodeServer := RpcServer NodeState

-- ----------------------------------------------------------------------------
-- Submit message
-- ----------------------------------------------------------------------------

namespace RpcServer

def updateExecution (env : NodeEnv) (execId : ExecutionId) (status : ExecutionStatus)
    (server : NodeServer) : NodeServer :=
  server.setNode { server.node with
    execTracker := (executionTrackerUpdateStatus env.now server.node.execTracker execId status).2 }

def setPeerPool (pool : PeerPool) (server : NodeServer) : NodeServer :=
  server.setNode { server.node with peerPool := pool }

def releasePeerPool (server : NodeServer) : NodeServer :=
  server.setPeerPool (peerPoolRelease server.node.peerPool)

end RpcServer

def NodeState.targetPeer (env : NodeEnv) (state : NodeState) : Option NodeId :=
  if state.capabilities.canExecute then some state.nodeId
  else if state.capabilities.canRoute then
    let target := peerPoolSelectLeastLoaded env.roundFloat state.peerPool
    if target = 0 then none else some target
  else none

def processMessagePayload (execId : ExecutionId) (dagId : RuleId) (senderId : NodeId)
    (message : List UInt8) : List UInt8 :=
  writeLe64 execId ++ (writeLe32 dagId ++ (writeLe16 senderId ++ message))

def routeMessage (env : NodeEnv) (context : RpcAsyncContext) (targetPeer : NodeId)
    (execId : ExecutionId) (dagId : RuleId) (message : List UInt8) (server : NodeServer) :
    Except (Int × NodeServer) NodeServer :=
  if targetPeer = server.node.nodeId then
    let (result, node) := messageQueuePush env server.node {
      execId := execId
      dagId := dagId
      messageData := message
      receivedAtMs := env.now
      senderId := context.senderId }
    let server := server.setNode node
    if result = .ok then .ok server
    else
      .error (rpcSendAsyncResponse context .internalError []
        (server.updateExecution env execId .failed))
  else
    let (peer, pool) := peerPoolGet server.node.peerPool targetPeer
    let server := server.setPeerPool pool
    match peer.bind PeerInfo.dataChannel with
    | none =>
      .error (rpcSendAsyncResponse context .internalError []
        (server.updateExecution env execId .failed).releasePeerPool)
    | some channel =>
      if env.mallocOk then
        let (sent, server) := sendToPeer targetPeer channel server.node.nodeId execId.toUInt32
          funcIdProcessMessage (processMessagePayload execId dagId context.senderId message) server
        let server := server.releasePeerPool
        if sent = 0 then
          .error (rpcSendAsyncResponse context .network []
            (server.updateExecution env execId .failed))
        else .ok server
      else .error (rpcSendAsyncResponse context .internalError [] server.releasePeerPool)

/-- `handle_submit_message` up to the point where the message is on its way. -/
def startSubmission (env : NodeEnv) (context : RpcAsyncContext) (inData : List UInt8)
    (server : NodeServer) : Except (Int × NodeServer) (ExecutionId × NodeServer) :=
  if inData.length < 4 then .error (rpcSendAsyncResponse context .badArgument [] server)
  else
    let dagId := readLe32 inData
    let message := inData.drop 4
    match dagCatalogGet server.node.dagCatalog dagId with
    | none => .error (rpcSendAsyncResponse context .funcNotFound [] server)
    | some _ =>
      match server.node.targetPeer env with
      | none => .error (rpcSendAsyncResponse context .internalError [] server)
      | some targetPeer =>
        let (execId, tracker) :=
          executionTrackerAdd env.now server.node.execTracker dagId targetPeer message 3
        let server := server.setNode { server.node with execTracker := tracker }
        if execId = 0 then .error (rpcSendAsyncResponse context .internalError [] server)
        else
          match routeMessage env context targetPeer execId dagId message server with
          | .error returned => .error returned
          | .ok server => .ok (execId, server)

def finishSubmission (env : NodeEnv) (context : RpcAsyncContext) (execId : ExecutionId)
    (server : NodeServer) : Int × NodeServer :=
  rpcSendAsyncResponse context .success (writeLe64 execId ++ [ExecutionStatus.running.toByte])
    (server.updateExecution env execId .running)

def handleSubmitMessage (env : NodeEnv) : RpcHandler NodeState := fun context inData server =>
  match startSubmission env context inData server with
  | .error returned => returned
  | .ok (execId, server) => finishSubmission env context execId server

-- ----------------------------------------------------------------------------
-- Status and catalog queries
-- ----------------------------------------------------------------------------

def handleGetExecutionStatus : RpcHandler NodeState := fun context inData server =>
  if inData.length ≠ 8 then rpcSendAsyncResponse context .badArgument [] server
  else
    match executionTrackerGet server.node.execTracker (readLe64 inData) with
    | none => rpcSendAsyncResponse context .funcNotFound [] server
    | some record => rpcSendAsyncResponse context .success [record.status.toByte] server

def handleListDags (env : NodeEnv) : RpcHandler NodeState := fun context _ server =>
  let dagIds := dagCatalogList server.node.dagCatalog maxDags
  if env.mallocOk then
    rpcSendAsyncResponse context .success
      (writeLe32 (.ofNat dagIds.length) ++ dagIds.flatMap writeLe32) server
  else rpcSendAsyncResponse context .internalError [] server

-- ----------------------------------------------------------------------------
-- Requests of peers
-- ----------------------------------------------------------------------------

def handleProcessMessage (env : NodeEnv) : RpcHandler NodeState := fun context inData server =>
  if inData.length < 14 then rpcSendAsyncResponse context .badArgument [] server
  else
    let (result, node) := messageQueuePush env server.node {
      execId := readLe64 inData
      dagId := readLe32 (inData.drop 8)
      messageData := inData.drop 14
      receivedAtMs := env.now
      senderId := readLe16 (inData.drop 12) }
    let server := server.setNode node
    if result = .ok then rpcSendAsyncResponse context .success [1] server
    else rpcSendAsyncResponse context .internalError [] server

def handleExecutionUpdate (env : NodeEnv) : RpcHandler NodeState := fun context inData server =>
  if inData.length ≠ 9 then rpcSendAsyncResponse context .badArgument [] server
  else
    let status := ExecutionStatus.ofByte ((inData.drop 8).headD 0)
    rpcSendAsyncResponse context .success [1]
      (server.updateExecution env (readLe64 inData) status)

/-- The acknowledgement does not depend on what the catalog did. -/
def handleSyncCatalog (env : NodeEnv) : RpcHandler NodeState := fun context inData server =>
  match dagDeserialize env.deserializeAlloc env.now inData with
  | .error _ => rpcSendAsyncResponse context .badArgument [] server
  | .ok dag =>
    let (result, catalog) := dagCatalogAdd env.copyAlloc server.node.dagCatalog dag
    let catalog :=
      if result = .errExists then (dagCatalogUpdate env.copyAlloc env.now catalog dag).2
      else catalog
    rpcSendAsyncResponse context .success [1]
      (server.setNode { server.node with dagCatalog := catalog })

-- ----------------------------------------------------------------------------
-- Add DAG
-- ----------------------------------------------------------------------------

def ascii (chars : List Char) : List UInt8 := chars.map fun c => .ofNat c.toNat

def stageName (stageId : UInt32) : List UInt8 :=
  (ascii (['s', 't', 'a', 'g', 'e', '_'] ++ Nat.toDigits 10 stageId.toNat)).take (maxStepName - 1)

def stageFunctionName (stageId : UInt32) : List UInt8 :=
  (ascii (['p', 'r', 'o', 'c', 'e', 's', 's', '_', 's', 't', 'a', 'g', 'e', '_'] ++
    Nat.toDigits 10 stageId.toNat)).take (maxStepName - 1)

def parseDependencies : Nat → List UInt8 → Option (List UInt32 × List UInt8)
  | 0, bytes => some ([], bytes)
  | n + 1, bytes => do
    let (dependency, bytes) ← takeBe32 bytes
    let (rest, bytes) ← parseDependencies n bytes
    some (dependency :: rest, bytes)

/-- The count is stored as it was sent; only the reading stops at the size of
the array. -/
def parseStage (bytes : List UInt8) : Option (DagStep × List UInt8) := do
  let (stageId, bytes) ← takeBe32 bytes
  let (numDeps, bytes) ← takeBe32 bytes
  let (dependencies, bytes) ← parseDependencies (min numDeps.toNat maxStepDependencies) bytes
  some ({
    stepId := stageId
    name := stageName stageId
    functionName := stageFunctionName stageId
    configData := none
    configLen := 0
    dependencies := dependencies
    dependencyCount := numDeps.toNat
    timeoutMs := 30000
    maxRetries := 3 }, bytes)

def parseStages : Nat → List UInt8 → Option (List DagStep × List UInt8)
  | 0, bytes => some ([], bytes)
  | n + 1, bytes => do
    let (step, bytes) ← parseStage bytes
    let (rest, bytes) ← parseStages n bytes
    some (step :: rest, bytes)

/-- The parsing part of `handle_add_dag`. Its early returns all answer with
BAD_ARGUMENT. -/
def parseAddDag (now : UInt64) (inData : List UInt8) : Option Dag := do
  let (dagId, bytes) ← takeBe32 inData
  let (nameLen, bytes) ← takeBe32 bytes
  if nameLen.toNat ≥ maxDagName then none
  else
    let (dagName, bytes) ← takeBytes nameLen.toNat bytes
    let (numStages, bytes) ← takeBe32 bytes
    let (steps, _) ← parseStages (min numStages.toNat maxDagSteps) bytes
    some {
      dagId := dagId
      name := safeStrncpy dagName maxDagName
      version := 1
      steps := steps
      stepCount := numStages.toNat
      createdAtMs := now
      updatedAtMs := now }

def NodeState.aliveWorkers (state : NodeState) : List NodeId :=
  ((state.clusterView.members.filter fun member => member.nodeType = .worker ∧
    member.status = .alive ∧ member.nodeId ≠ state.nodeId).map ClusterMember.nodeId).take maxPeers

def syncWorker (dagId : RuleId) (dagBuffer : List UInt8) (server : NodeServer)
    (worker : NodeId) : NodeServer :=
  let (peer, pool) := peerPoolGet server.node.peerPool worker
  let server := server.setPeerPool pool
  match peer.bind PeerInfo.dataChannel with
  | none => server.releasePeerPool
  | some channel =>
    (sendToPeer worker channel server.node.nodeId dagId funcIdSyncCatalog dagBuffer
      server).2.releasePeerPool

def syncBufferSize : Nat := 8192

def handleAddDag (env : NodeEnv) : RpcHandler NodeState := fun context inData server =>
  match parseAddDag env.now inData with
  | none => rpcSendAsyncResponse context .badArgument [] server
  | some dag =>
    if dagValidate env.past dag ≠ .ok then rpcSendAsyncResponse context .badArgument [] server
    else
      let (result, catalog) := dagCatalogAdd env.copyAlloc server.node.dagCatalog dag
      let server := server.setNode { server.node with dagCatalog := catalog }
      if result ≠ .ok then rpcSendAsyncResponse context .internalError [] server
      else
        let dagBuffer := dagSerialize env.past dag syncBufferSize
        let server :=
          if dagBuffer.length = 0 then server
          else server.node.aliveWorkers.foldl (syncWorker dag.dagId dagBuffer) server
        rpcSendAsyncResponse context .success [1] server

-- ----------------------------------------------------------------------------
-- Service table
-- ----------------------------------------------------------------------------

def nodeBuildRpcServiceTable (env : Nat → NodeEnv) (capabilities : NodeCapabilities) :
    List (RpcServiceEntry NodeState) :=
  (if capabilities.hasIngress then [
    ⟨funcIdSubmitMessage, fun context => handleSubmitMessage (env context.address) context, 8192⟩,
    ⟨funcIdGetStatus, handleGetExecutionStatus, 16⟩,
    ⟨funcIdListDags, fun context => handleListDags (env context.address) context, 4096⟩,
    ⟨funcIdAddDag, fun context => handleAddDag (env context.address) context, 8192⟩]
  else []) ++ [
    ⟨funcIdProcessMessage, fun context => handleProcessMessage (env context.address) context, 8192⟩,
    ⟨funcIdExecutionUpdate, fun context => handleExecutionUpdate (env context.address) context, 16⟩,
    ⟨funcIdSyncCatalog, fun context => handleSyncCatalog (env context.address) context, 8192⟩]

end Roole
