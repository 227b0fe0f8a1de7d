import Roole.Dag.Executor
import Roole.Node.Handlers

/-!
# The executor

One round of the loop of `node_executor_thread_fn`, from the point where a
message has been popped.
-/

namespace Roole

open Bytes

def outputCapacity : Nat := 4096

def Message.executionContext (message : Message) (dag : Dag) : DagExecutionContext where
  execId := message.execId
  dag := dag
  inputData := message.messageData
  outputData := some []
  outputCapacity := outputCapacity
  status := .pending
  startTimeMs := 0
  endTimeMs := 0
  stepCompleted := List.replicate maxDagSteps false

def executionStatusOf (result : ResultStatus) : ExecutionStatus :=
  if result = .ok then .completed else .failed

def executionUpdatePayload (execId : ExecutionId) (status : ExecutionStatus) : List UInt8 :=
  writeLe64 execId ++ [status.toByte]

/-- The status goes to the sender of the message, or into the tracker where
that is this node. -/
def reportStatus (env : NodeEnv) (message : Message) (status : ExecutionStatus)
    (server : NodeServer) : NodeServer :=
  if message.senderId ≠ server.node.nodeId then
    let (sender, pool) := peerPoolGet server.node.peerPool message.senderId
    let server := server.setPeerPool pool
    match sender.bind PeerInfo.dataChannel with
    | none => server.releasePeerPool
    | some channel =>
      (sendToPeer message.senderId channel server.node.nodeId message.execId.toUInt32
        funcIdExecutionUpdate (executionUpdatePayload message.execId status)
        server).2.releasePeerPool
  else server.updateExecution env message.execId status

def RpcServer.setActiveExecutions (count : UInt32) (server : NodeServer) : NodeServer :=
  server.setNode { server.node with activeExecutions := count }

/-- The round after the pop, and the result of `dag_execute` where it was
called. -/
def executeMessage (env : NodeEnv) (executeStep : StepFunction) (message : Message)
    (server : NodeServer) : Option ResultStatus × NodeServer :=
  let server := server.setActiveExecutions (server.node.activeExecutions + 1)
  let finish := fun server : NodeServer =>
    server.setActiveExecutions (server.node.activeExecutions - 1)
  match dagCatalogGet server.node.dagCatalog message.dagId with
  | none => (none, finish server)
  | some dag =>
    if env.mallocOk then
      let result := (dagExecute env.past executeStep env.now env.now
        (message.executionContext dag)).1
      (some result, finish (reportStatus env message (executionStatusOf result) server))
    else (none, finish (reportStatus env message .failed server))

def finishMessage (env : NodeEnv) (executeStep : StepFunction) (message : Message)
    (server : NodeServer) : Option ResultStatus × NodeServer :=
  let (result, server) := executeMessage env executeStep message server
  (result, server.setNode { server.node with executing := server.node.executing.erase message })

end Roole
