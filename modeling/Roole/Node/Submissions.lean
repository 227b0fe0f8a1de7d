import Mathlib.Logic.Function.Basic
import Roole.Node.AddDag
import Roole.Node.Effects

/-!
# Submissions in a cluster

Nodes that accept messages from clients, pass them on to each other, execute
them and report the results. Peers say what the handlers and executors of a
node make them say, and clients submit messages, ask for statuses and lists and
add DAGs.
-/

namespace Roole

-- ----------------------------------------------------------------------------
-- The cluster
-- ----------------------------------------------------------------------------

/-- A request that `handle_submit_message` answers with SUCCESS. -/
structure Submission where
  node : NodeId
  context : RpcAsyncContext
  execId : ExecutionId
  deriving DecidableEq, Repr

/-- A run of `dag_execute` by an executor thread of a node. -/
structure Execution where
  node : NodeId
  message : Message
  result : ResultStatus
  deriving DecidableEq, Repr

structure Cluster where
  nodes : NodeId → Option NodeServer
  /-- The submissions on their way that are not answered yet. -/
  started : List Submission
  accepted : List Submission
  executed : List Execution

structure NodeConfig where
  capabilities : NodeCapabilities
  records : Nat
  queueSize : Nat
  sends : List SendOutcome
  peerSends : List SendOutcome
  records_lt : records * maxMessageSize < 2 ^ 64
  queueSize_pos : 0 < queueSize

def NodeConfig.boot (config : NodeConfig) (nodeId : NodeId) : NodeServer :=
  .start (.init nodeId config.capabilities config.records
    (messageQueueInit config.queueSize config.queueSize_pos)) config.sends config.peerSends

inductive ClusterAction
  | submit (node : NodeId) (env : NodeEnv) (context : RpcAsyncContext) (inData : List UInt8)
  | finish (env : NodeEnv) (submission : Submission)
  | request (node : NodeId) (env : NodeEnv) (context : RpcAsyncContext) (inData : List UInt8)
  /-- A request of a node that was sent whole reaches its peer. -/
  | deliver (sender receiver : NodeId) (env : NodeEnv) (context : RpcAsyncContext)
      (message : List UInt8)
  | pop (node : NodeId)
  | execute (node : NodeId) (env : NodeEnv) (executeStep : StepFunction) (message : Message)
  | connect (node peer : NodeId) (ip : List UInt8) (gossipPort dataPort : UInt16)
      (channel : Option RpcChannel)
  | gossip (node : NodeId) (view : ClusterView)

/-- What `process_buffered_data` does when a handler has returned. -/
def concludeRequest (context : RpcAsyncContext) (returned : Int × NodeServer) : NodeServer :=
  if returned.1 = 0 then returned.2
  else (rpcSendAsyncResponse context .internalError [] returned.2).2

def peerFunctions : List UInt8 := [funcIdProcessMessage, funcIdExecutionUpdate, funcIdSyncCatalog]

namespace Cluster

def start (configs : NodeId → Option NodeConfig) : Cluster where
  nodes := fun nodeId => (configs nodeId).map (·.boot nodeId)
  started := []
  accepted := []
  executed := []

def set (cluster : Cluster) (nodeId : NodeId) (server : NodeServer) : Cluster :=
  { cluster with nodes := Function.update cluster.nodes nodeId (some server) }

/-- An action that is not possible gives nothing. The sender id of a client is
not the id of a node. -/
def step (cluster : Cluster) : ClusterAction → Option Cluster
  | .submit node env context inData => do
    let server ← cluster.nodes node
    if server.node.capabilities.hasIngress ∧ (cluster.nodes context.senderId).isNone then
      match startSubmission env context inData
          { server with pendingContexts := context :: server.pendingContexts } with
      | .error returned => some (cluster.set node (concludeRequest context returned))
      | .ok (execId, server) => some { cluster.set node server with
          started := ⟨node, context, execId⟩ :: cluster.started }
    else none
  | .finish env submission => do
    let server ← cluster.nodes submission.node
    if submission ∈ cluster.started then
      some { cluster.set submission.node (concludeRequest submission.context
          (finishSubmission env submission.context submission.execId server)) with
        started := cluster.started.erase submission
        accepted := submission :: cluster.accepted }
    else none
  | .request node env context inData => do
    let server ← cluster.nodes node
    if context.funcId ≠ funcIdSubmitMessage ∧ context.funcId ∉ peerFunctions then
      some (cluster.set node (dispatchRequest (nodeBuildRpcServiceTable (fun _ => env)
        server.node.capabilities) context inData server).2)
    else none
  | .deliver sender receiver env context message => do
    let source ← cluster.nodes sender
    let server ← cluster.nodes receiver
    if .request receiver message message.length ∈ source.trace then
      let header := RpcHeader.read message
      some (cluster.set receiver (dispatchRequest (nodeBuildRpcServiceTable (fun _ => env)
        server.node.capabilities)
        { context with requestId := header.requestId, funcId := header.funcId }
        (message.drop rpcHeaderSize) server).2)
    else none
  | .pop node => do
    let server ← cluster.nodes node
    if server.node.capabilities.canExecute then
      let state ← messageQueuePop server.node
      some (cluster.set node (server.setNode state))
    else none
  | .execute node env executeStep message => do
    let server ← cluster.nodes node
    if message ∈ server.node.executing then
      let (result, server) := finishMessage env executeStep message server
      some { cluster.set node server with
        executed := result.toList.map (⟨node, message, ·⟩) ++ cluster.executed }
    else none
  | .connect node peer ip gossipPort dataPort channel => do
    let server ← cluster.nodes node
    if (cluster.nodes peer).isSome then
      some (cluster.set node (server.setPeerPool
        (connectPeer peer ip gossipPort dataPort channel server.node.peerPool)))
    else none
  | .gossip node view => do
    let server ← cluster.nodes node
    some (cluster.set node (server.setNode { server.node with clusterView := view }))

def run (cluster : Cluster) (actions : List ClusterAction) : Option Cluster :=
  actions.foldlM step cluster

def statusOf (cluster : Cluster) (submission : Submission) : Option ExecutionStatus := do
  let server ← cluster.nodes submission.node
  let record ← executionTrackerGet server.node.execTracker submission.execId
  some record.status

/-- The record of a submission says what its execution came to. -/
def Reports (cluster : Cluster) (submission : Submission) (result : ResultStatus) : Prop :=
  cluster.statusOf submission = some (executionStatusOf result)

end Cluster

theorem dispatchRequest_submit (env : NodeEnv) {capabilities : NodeCapabilities}
    (hingress : capabilities.hasIngress = true) {context : RpcAsyncContext}
    (hfunc : context.funcId = funcIdSubmitMessage) (inData : List UInt8) (server : NodeServer) :
    (dispatchRequest (nodeBuildRpcServiceTable (fun _ => env) capabilities) context inData
        server).2 =
      concludeRequest context
        (match startSubmission env context inData
          { server with pendingContexts := context :: server.pendingContexts } with
        | .error returned => returned
        | .ok (execId, after) => finishSubmission env context execId after) := by
  have hfind : (nodeBuildRpcServiceTable (fun _ => env) capabilities).find?
      (fun entry => entry.funcId == context.funcId) = some ⟨funcIdSubmitMessage,
        fun context => handleSubmitMessage env context, 8192⟩ := by
    simp [nodeBuildRpcServiceTable, hingress, hfunc]
  simp only [dispatchRequest, hfind, concludeRequest]
  rfl

-- ----------------------------------------------------------------------------
-- What every run keeps
-- ----------------------------------------------------------------------------

/-- A node knows only nodes as peers, and only clients as senders. -/
structure ServesClients (isNode : NodeId → Prop) (nodeId : NodeId) (server : NodeServer) :
    Prop where
  nodeId : server.node.nodeId = nodeId
  peers : ∀ peer ∈ server.node.peerPool.peers, isNode peer.nodeId
  held : ∀ message ∈ server.node.held, ¬ isNode message.senderId
  requests : ∀ event ∈ server.trace, event.FromClient isNode
  numbered : server.node.execTracker.Numbered

theorem ServesClients.frame {nodeId : NodeId} (h : ServesClients isNode nodeId server)
    (hframe : NodeFrame isNode server after) : ServesClients isNode nodeId after where
  nodeId := hframe.nodeId.trans h.nodeId
  peers := fun peer hpeer => by
    rcases hframe.peers peer hpeer with hold | hnode
    · obtain ⟨old, hmem, heq⟩ := List.mem_map.mp hold
      exact heq ▸ h.peers old hmem
    · exact hnode
  held := fun message hmessage => (hframe.held message hmessage).elim (h.held message) id
  requests := fun event hevent => (hframe.requests event hevent).elim (h.requests event) id
  numbered := hframe.numbered h.numbered

theorem NodeConfig.boot_serves (isNode : NodeId → Prop) (config : NodeConfig) (nodeId : NodeId) :
    ServesClients isNode nodeId (config.boot nodeId) where
  nodeId := rfl
  peers := by simp [boot, RpcServer.start, NodeState.init, peerPoolInit]
  held := by
    simp [boot, RpcServer.start, NodeState.init, NodeState.held, messageQueueInit]
  requests := by simp [boot, RpcServer.start]
  numbered := executionTrackerInit_numbered config.records_lt

def RecordedAt (cluster : Cluster) (running : Prop) (submission : Submission) : Prop :=
  ∃ server record, cluster.nodes submission.node = some server ∧
    executionTrackerGet server.node.execTracker submission.execId = some record ∧
    (running → record.status = .running)

structure Cluster.Tracked (isNode : NodeId → Prop) (cluster : Cluster) : Prop where
  isNode_iff : ∀ nodeId, (cluster.nodes nodeId).isSome ↔ isNode nodeId
  serves : ∀ nodeId server, cluster.nodes nodeId = some server →
    ServesClients isNode nodeId server
  started : ∀ submission ∈ cluster.started, RecordedAt cluster False submission
  accepted : ∀ submission ∈ cluster.accepted, RecordedAt cluster True submission

namespace Cluster.Tracked

variable {isNode : NodeId → Prop} {cluster : Cluster} {nodeId : NodeId}
  {server after : NodeServer}

theorem start (configs : NodeId → Option NodeConfig) :
    (Cluster.start configs).Tracked fun nodeId => (configs nodeId).isSome where
  isNode_iff := fun nodeId => by simp [Cluster.start]
  serves := by
    intro nodeId server hserver
    obtain ⟨config, -, rfl⟩ := Option.map_eq_some_iff.mp hserver
    exact config.boot_serves _ nodeId
  started := by simp [Cluster.start]
  accepted := by simp [Cluster.start]

def KeepsRecords (server after : NodeServer) : Prop :=
  ∀ execId record, executionTrackerGet server.node.execTracker execId = some record →
    ∃ later, executionTrackerGet after.node.execTracker execId = some later ∧
      (record.status = .running → later.status = .running)

theorem recordedAt_set (hnode : cluster.nodes nodeId = some server)
    (hkeeps : KeepsRecords server after) {running : Prop}
    (h : RecordedAt cluster running submission) :
    RecordedAt (cluster.set nodeId after) running submission := by
  obtain ⟨holder, record, hholder, hget, hrunning⟩ := h
  by_cases hself : submission.node = nodeId
  · subst hself
    obtain rfl := Option.some.inj (hnode.symm.trans hholder)
    obtain ⟨later, hlater, hkept⟩ := hkeeps _ _ hget
    exact ⟨after, later, by simp [Cluster.set], hlater, fun h => hkept (hrunning h)⟩
  · exact ⟨holder, record, by simp [Cluster.set, hself, hholder], hget, hrunning⟩

theorem set (h : cluster.Tracked isNode) (hnode : cluster.nodes nodeId = some server)
    (hframe : NodeFrame isNode server after) (hkeeps : KeepsRecords server after) :
    (cluster.set nodeId after).Tracked isNode where
  isNode_iff := by
    intro other
    have hisNode := h.isNode_iff other
    by_cases hother : other = nodeId
    · subst hother
      simpa [Cluster.set, hnode] using hisNode
    · simpa [Cluster.set, hother] using hisNode
  serves := by
    intro other found hfound
    by_cases hother : other = nodeId
    · subst hother
      obtain rfl : after = found := by simpa [Cluster.set] using hfound
      exact (h.serves _ _ hnode).frame hframe
    · exact h.serves other found (by simpa [Cluster.set, hother] using hfound)
  started := fun submission hmem => recordedAt_set hnode hkeeps (h.started submission hmem)
  accepted := fun submission hmem => recordedAt_set hnode hkeeps (h.accepted submission hmem)

theorem effect (h : cluster.Tracked isNode) (hnode : cluster.nodes nodeId = some server)
    (heffect : NodeEffect isNode server after) : (cluster.set nodeId after).Tracked isNode :=
  h.set hnode heffect.toNodeFrame fun execId record hget =>
    ⟨record, heffect.records (h.serves _ _ hnode).numbered execId record hget, id⟩

theorem conclude_effect (context : RpcAsyncContext) (returned : Int × NodeServer) :
    NodeEffect isNode returned.2 (concludeRequest context returned) := by
  unfold concludeRequest
  split_ifs
  · exact .refl _
  · exact .respond _ _ _ _

theorem finish_get (env : NodeEnv) (submission : Submission) (server : NodeServer)
    (execId : ExecutionId) :
    executionTrackerGet (concludeRequest submission.context
        (finishSubmission env submission.context submission.execId server)).node.execTracker execId =
      if execId = submission.execId then
        (executionTrackerGet server.node.execTracker execId).map (·.setStatus env.now .running)
      else executionTrackerGet server.node.execTracker execId := by
  rw [← executionTrackerGet_updateStatus, concludeRequest]
  split_ifs <;> rfl

theorem finish_frame (env : NodeEnv) (submission : Submission) (server : NodeServer) :
    NodeFrame isNode server (concludeRequest submission.context
      (finishSubmission env submission.context submission.execId server)) :=
  have hupdate : NodeFrame isNode server (server.updateExecution env submission.execId .running) :=
    .updateExecution env submission.execId .running server
  (hupdate.trans (NodeEffect.respond _ _ _ _).toNodeFrame).trans
    (conclude_effect submission.context _).toNodeFrame

theorem finish_keepsRecords (env : NodeEnv) (submission : Submission) (server : NodeServer) :
    KeepsRecords server (concludeRequest submission.context
      (finishSubmission env submission.context submission.execId server)) := by
  intro execId record hget
  rw [finish_get, hget]
  split_ifs
  · exact ⟨_, rfl, fun _ => rfl⟩
  · exact ⟨_, rfl, id⟩

/-- A submission that is taken up has a record; any other is answered at once. -/
theorem step_submit (h : cluster.Tracked isNode)
    (hstep : cluster.step (.submit node env context inData) = some later) : later.Tracked isNode := by
  obtain ⟨server, hnode, hstep⟩ := Option.bind_eq_some_iff.mp hstep
  split_ifs at hstep with hguard
  have hsender : ¬ isNode context.senderId := by
    rw [← h.isNode_iff, Option.not_isSome_iff_eq_none]
    exact Option.isNone_iff_eq_none.mp hguard.2
  have hlink : NodeEffect isNode server
      { server with pendingContexts := context :: server.pendingContexts } :=
    .pendingContexts _ server
  have hsubmit := startSubmission_effect env hsender inData
    (hlink.numbered (h.serves _ _ hnode).numbered)
  split at hstep
  · rename_i returned hresult
    rw [hresult] at hsubmit
    cases hstep
    exact h.effect hnode ((hlink.trans hsubmit).trans (conclude_effect context returned))
  · rename_i execId after hresult
    rw [hresult] at hsubmit
    cases hstep
    obtain ⟨heffect, hrecord⟩ := hsubmit
    have hset := h.effect hnode (hlink.trans heffect)
    refine ⟨hset.isNode_iff, hset.serves, ?_, hset.accepted⟩
    refine List.forall_mem_cons.mpr ⟨?_, hset.started⟩
    obtain ⟨record, hget⟩ := Option.isSome_iff_exists.mp hrecord
    exact ⟨after, record, by simp [Cluster.set], hget, False.elim⟩

theorem step_finish (h : cluster.Tracked isNode)
    (hstep : cluster.step (.finish env submission) = some later) : later.Tracked isNode := by
  obtain ⟨server, hnode, hstep⟩ := Option.bind_eq_some_iff.mp hstep
  split_ifs at hstep with hguard
  cases hstep
  have hset := h.set hnode (finish_frame env submission server)
    (finish_keepsRecords env submission server)
  refine ⟨hset.isNode_iff, hset.serves,
    fun other hother => hset.started other (List.mem_of_mem_erase hother), ?_⟩
  refine List.forall_mem_cons.mpr ⟨?_, hset.accepted⟩
  obtain ⟨holder, record, hholder, hget, -⟩ := h.started submission hguard
  obtain rfl := Option.some.inj (hnode.symm.trans hholder)
  refine ⟨_, record.setStatus env.now .running, Function.update_self _ _ _, ?_, fun _ => rfl⟩
  rw [finish_get, if_pos rfl, hget]
  rfl

theorem step_deliver (h : cluster.Tracked isNode)
    (hstep : cluster.step (.deliver sender receiver env context message) = some later) :
    later.Tracked isNode := by
  obtain ⟨source, hsource, hstep⟩ := Option.bind_eq_some_iff.mp hstep
  obtain ⟨server, hnode, hstep⟩ := Option.bind_eq_some_iff.mp hstep
  split_ifs at hstep with hguard
  cases hstep
  have hevent := (h.serves _ _ hsource).requests _ hguard
  refine h.effect hnode (dispatchRequest_nodeEffect _ _ server ?_ ?_ ?_)
  · rcases hevent with hsync | ⟨hprocess, -⟩
    · simp [hsync, funcIdSyncCatalog, funcIdSubmitMessage]
    · simp [hprocess, funcIdProcessMessage, funcIdSubmitMessage]
  · rcases hevent with hsync | ⟨hprocess, -⟩
    · simp [hsync, funcIdSyncCatalog, funcIdExecutionUpdate]
    · simp [hprocess, funcIdProcessMessage, funcIdExecutionUpdate]
  · intro hprocess
    rcases hevent with hsync | ⟨-, hsender⟩
    · exact absurd (hsync.symm.trans hprocess) (by decide)
    · exact hsender

theorem step (h : cluster.Tracked isNode) {action : ClusterAction}
    (hstep : cluster.step action = some later) : later.Tracked isNode := by
  cases action with
  | submit => exact step_submit h hstep
  | finish => exact step_finish h hstep
  | request node env context inData =>
    obtain ⟨server, hnode, hstep⟩ := Option.bind_eq_some_iff.mp hstep
    split_ifs at hstep with hguard
    cases hstep
    obtain ⟨hsubmit, hpeer⟩ := hguard
    simp only [peerFunctions, List.mem_cons, List.not_mem_nil, or_false, not_or] at hpeer
    exact h.effect hnode (dispatchRequest_nodeEffect _ _ server hsubmit hpeer.2.1
      fun hprocess => absurd hprocess hpeer.1)
  | deliver => exact step_deliver h hstep
  | pop node =>
    obtain ⟨server, hnode, hstep⟩ := Option.bind_eq_some_iff.mp hstep
    split_ifs at hstep
    obtain ⟨state, hpop, hstep⟩ := Option.bind_eq_some_iff.mp hstep
    cases hstep
    obtain ⟨executing, queue, rfl, hheld⟩ := messageQueuePop_eq hpop
    exact h.effect hnode (.setNode server rfl (fun _ hpeer => .inl (List.mem_map_of_mem hpeer))
      (fun _ hmessage => .inl (hheld ▸ hmessage)) rfl)
  | execute node env executeStep message =>
    obtain ⟨server, hnode, hstep⟩ := Option.bind_eq_some_iff.mp hstep
    split_ifs at hstep with hguard
    cases hstep
    have hserves := h.serves _ _ hnode
    have hself : isNode server.node.nodeId := by
      rw [hserves.nodeId, ← h.isNode_iff, hnode]
      rfl
    have hset := h.effect hnode (finishMessage_effect env executeStep
      (hserves.held message (List.mem_append_left _ hguard)) hself hserves.peers)
    exact ⟨hset.isNode_iff, hset.serves, hset.started, hset.accepted⟩
  | connect node peer ip gossipPort dataPort channel =>
    obtain ⟨server, hnode, hstep⟩ := Option.bind_eq_some_iff.mp hstep
    split_ifs at hstep with hguard
    cases hstep
    refine h.effect hnode (.setNode server rfl ?_ (fun _ hmessage => .inl hmessage) rfl)
    intro other hother
    rcases mem_connectPeer hother with heq | ⟨old, hold, heq⟩
    · exact .inr (heq ▸ (h.isNode_iff peer).mp hguard)
    · exact .inl (heq ▸ List.mem_map_of_mem hold)
  | gossip node view =>
    obtain ⟨server, hnode, hstep⟩ := Option.bind_eq_some_iff.mp hstep
    cases hstep
    exact h.effect hnode (.setNode server rfl (fun _ hpeer => .inl (List.mem_map_of_mem hpeer))
      (fun _ hmessage => .inl hmessage) rfl)

theorem run (h : cluster.Tracked isNode) {actions : List ClusterAction}
    (hrun : cluster.run actions = some later) : later.Tracked isNode := by
  induction actions generalizing cluster with
  | nil =>
    cases hrun
    exact h
  | cons action rest ih =>
    obtain ⟨next, hstep, hrest⟩ := Option.bind_eq_some_iff.mp hrun
    exact ih (h.step hstep) hrest

end Cluster.Tracked

-- ----------------------------------------------------------------------------
-- The status of a submission
-- ----------------------------------------------------------------------------

/-- In every run an accepted submission stays running, whatever its execution
comes to: the update is addressed to the client's id, which no node has. -/
theorem submission_never_reported (configs : NodeId → Option NodeConfig)
    {actions : List ClusterAction} {cluster : Cluster}
    (hrun : (Cluster.start configs).run actions = some cluster) :
    ∀ submission ∈ cluster.accepted, cluster.statusOf submission = some .running ∧
      ∀ execution ∈ cluster.executed, ¬ cluster.Reports submission execution.result := by
  intro submission haccepted
  obtain ⟨server, record, hnode, hget, hrunning⟩ :=
    ((Cluster.Tracked.start configs).run hrun).accepted submission haccepted
  have hstatus : cluster.statusOf submission = some .running := by
    simp [Cluster.statusOf, hnode, hget, hrunning trivial]
  refine ⟨hstatus, fun execution _ => ?_⟩
  rw [Cluster.Reports, hstatus, Option.some.injEq, executionStatusOf]
  split_ifs <;> simp

def shortDag : AddDagPayload := ⟨0x01010101, [], 1, [⟨7, 0, []⟩]⟩

def shortMessage : Message := ⟨1, 0x01010101, [42], 1000, 0⟩

def shortContext : RpcAsyncContext := { clientContext with funcId := funcIdSubmitMessage }

def shortSubmission : Submission := ⟨1, shortContext, 1⟩

def calmEnv : NodeEnv := .calm fun _ _ => 0

theorem shortConfig_records : 4 * maxMessageSize < 2 ^ 64 := by decide

def shortConfig (capabilities : NodeCapabilities) : NodeConfig where
  capabilities := capabilities
  records := 4
  queueSize := 4
  sends := List.replicate 4 .rest
  peerSends := List.replicate 4 .rest
  records_lt := shortConfig_records
  queueSize_pos := shortQueue_pos

def localRoute : Option Cluster :=
  (Cluster.start fun nodeId => if nodeId = 1 then some (shortConfig ⟨true, true, true⟩) else none).run
    [.request 1 calmEnv clientContext shortDag.encode,
      .submit 1 calmEnv shortContext [1, 1, 1, 1, 42], .finish calmEnv shortSubmission,
      .pop 1, .execute 1 calmEnv dagExecuteStep shortMessage]

theorem submission_never_reported_local :
    (localRoute.get (by decide +kernel)).statusOf shortSubmission = some .running :=
  (submission_never_reported _ (Option.some_get _).symm shortSubmission (by decide +kernel)).1

def remoteRoute : Option Cluster :=
  let worker : ClusterMember := ⟨2, .worker, [], 0, 0, .alive, 0, 1⟩
  let channel := RpcChannel.init 6 maxBufferSize
  let dag := rpcPackMessage 1 shortDag.dagId RpcType.request.toByte RpcStatus.unknown.toByte
    funcIdSyncCatalog (dagSerialize calmEnv.past (shortDag.dag calmEnv.now) syncBufferSize)
  let message := rpcPackMessage 1 1 RpcType.request.toByte RpcStatus.unknown.toByte
    funcIdProcessMessage (processMessagePayload 1 shortDag.dagId 0 [42])
  (Cluster.start fun nodeId =>
    if nodeId = 1 then some (shortConfig ⟨true, false, true⟩)
    else if nodeId = 2 then some (shortConfig ⟨false, true, true⟩)
    else none).run
    [.connect 1 2 [] 0 0 (some channel), .connect 2 1 [] 0 0 (some channel),
      .gossip 1 ⟨[worker], maxClusterNodes, by decide, by decide⟩,
      .request 1 calmEnv clientContext shortDag.encode, .deliver 1 2 calmEnv clientContext dag,
      .submit 1 calmEnv shortContext [1, 1, 1, 1, 42], .finish calmEnv shortSubmission,
      .deliver 1 2 calmEnv clientContext message,
      .pop 2, .execute 2 calmEnv dagExecuteStep shortMessage]

def Cluster.outcome (cluster : Cluster) :
    List Submission × List Execution × Option ExecutionStatus :=
  (cluster.accepted, cluster.executed, cluster.statusOf shortSubmission)

/-- On either route the execution succeeds and the status remains RUNNING. -/
theorem submission_unreported :
    localRoute.map Cluster.outcome =
        some ([shortSubmission], [⟨1, shortMessage, .ok⟩], some .running) ∧
      remoteRoute.map Cluster.outcome =
        some ([shortSubmission], [⟨2, shortMessage, .ok⟩], some .running) ∧
      ∀ route ∈ [localRoute, remoteRoute], ∀ cluster ∈ route,
        ¬ cluster.Reports shortSubmission .ok := by
  have hlocal : localRoute.map Cluster.outcome =
      some ([shortSubmission], [⟨1, shortMessage, .ok⟩], some .running) := by decide +kernel
  have hremote : remoteRoute.map Cluster.outcome =
      some ([shortSubmission], [⟨2, shortMessage, .ok⟩], some .running) := by decide +kernel
  have hrunning : ∀ route : Option Cluster, ∀ executed, route.map Cluster.outcome =
      some ([shortSubmission], executed, some .running) → ∀ cluster ∈ route,
        ¬ cluster.Reports shortSubmission .ok := by
    rintro _ executed houtcome cluster rfl hreports
    obtain ⟨-, -, hstatus⟩ : _ ∧ _ ∧ cluster.statusOf shortSubmission = some .running := by
      simpa [Cluster.outcome] using houtcome
    rw [Cluster.Reports, hstatus] at hreports
    cases hreports
  refine ⟨hlocal, hremote, List.forall_mem_cons.mpr ⟨hrunning _ _ hlocal, ?_⟩⟩
  exact List.forall_mem_singleton.mpr (hrunning _ _ hremote)

end Roole
