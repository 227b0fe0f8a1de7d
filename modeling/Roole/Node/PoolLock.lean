import Roole.Lib.Locking
import Roole.Node.ExecutorRounds
import Roole.Node.PeerAddresses

/-!
# The lock of the peer pool

`peer_pool_get` keeps the pool locked exactly when it finds the peer, and its
callers release it in either case. The calls of a path come in groups; another
thread may change the pool between two of them, and between the choice of a peer
and the search for it.
-/

namespace Roole

open KeyedList Locking

/-- Calls that nothing comes between, and the node that they meet. -/
structure CallGroup where
  env : NodeEnv
  server : NodeServer
  calls : List NodeCall

namespace NodeCall

def lockEvent (peers : List PeerInfo) : NodeCall → Option Event
  | .poolGet nodeId =>
    some (if (lookup PeerInfo.nodeId peers nodeId).isSome then .acquired else .missed)
  | .poolRelease => some .released
  | _ => none

def isLockCall : NodeCall → Bool
  | .poolGet _ | .poolRelease => true
  | _ => false

end NodeCall

namespace CallGroup

def locks (group : CallGroup) : List Event :=
  group.calls.filterMap (NodeCall.lockEvent group.server.node.peerPool.peers)

def after (group : CallGroup) : NodeServer :=
  group.calls.foldl (NodeCall.run group.env) group.server

def FindsPeers (group : CallGroup) : Prop :=
  ∀ nodeId, NodeCall.poolGet nodeId ∈ group.calls →
    (lookup PeerInfo.nodeId group.server.node.peerPool.peers nodeId).isSome

/-- The group leaves the pool alone, or searches it once and releases it then. -/
def Searches (group : CallGroup) : Prop :=
  group.calls.filter NodeCall.isLockCall = [] ∨
    ∃ nodeId, group.calls.filter NodeCall.isLockCall = [.poolGet nodeId, .poolRelease]

variable {group : CallGroup}

theorem locks_filter (group : CallGroup) : group.locks =
    (group.calls.filter NodeCall.isLockCall).filterMap
      (NodeCall.lockEvent group.server.node.peerPool.peers) := by
  unfold locks
  rw [List.filterMap_filter]
  refine List.filterMap_congr fun call _ => ?_
  cases call <;> rfl

theorem Searches.balanced_append (h : group.Searches) (rest : List Event) :
    LockBalanced false (group.locks ++ rest) ↔ group.FindsPeers ∧ LockBalanced false rest := by
  have hgets : group.FindsPeers ↔ ∀ nodeId,
      NodeCall.poolGet nodeId ∈ group.calls.filter NodeCall.isLockCall →
        (lookup PeerInfo.nodeId group.server.node.peerPool.peers nodeId).isSome := by
    simp [FindsPeers, NodeCall.isLockCall]
  rw [hgets, locks_filter]
  obtain hnone | ⟨nodeId, hsearch⟩ := h
  · simp [hnone]
  · rw [hsearch]
    simp only [List.filterMap_cons, NodeCall.lockEvent, List.filterMap_nil, List.cons_append,
      List.nil_append, balanced_search]
    refine and_congr_left fun _ => ?_
    split_ifs with hfound <;> simp [hfound]

end CallGroup

/-- No call takes a peer out of the pool or into it, and each changes the depth of
the lock by what it does with it. -/
theorem NodeCall.run_pool (env : NodeEnv) (call : NodeCall) {server : NodeServer}
    {peers : List PeerInfo}
    (hpeers : ∀ nodeId, (lookup PeerInfo.nodeId server.node.peerPool.peers nodeId).isSome =
      (lookup PeerInfo.nodeId peers nodeId).isSome) :
    (∀ nodeId, (lookup PeerInfo.nodeId (call.run env server).node.peerPool.peers nodeId).isSome =
      (lookup PeerInfo.nodeId peers nodeId).isSome) ∧
    (call.run env server).node.peerPool.lockDepth =
      server.node.peerPool.lockDepth + net (call.lockEvent peers).toList := by
  cases call with
  | poolGet nodeId =>
    have hfound := hpeers nodeId
    refine ⟨fun other => ?_, ?_⟩
    · simp only [run, RpcServer.setPeerPool, RpcServer.setNode, peerPoolGet_peers]
      exact hpeers other
    · simp only [run, RpcServer.setPeerPool, RpcServer.setNode, peerPoolGet, lockEvent]
      cases hget : lookup PeerInfo.nodeId server.node.peerPool.peers nodeId with
      | none =>
        rw [hget] at hfound
        simp [← hfound, net]
      | some peer =>
        rw [hget] at hfound
        simp [← hfound, net]
  | poolRelease => exact ⟨hpeers, rfl⟩
  | setChannel nodeId channel =>
    refine ⟨fun other => ?_, (Int.add_zero _).symm⟩
    rw [← hpeers other]
    have hsame := poolAddress_setChannel server.node.peerPool nodeId other channel
    simpa [poolAddress, run, RpcServer.setPeerPool, RpcServer.setNode] using
      congrArg Option.isSome hsame
  | _ => exact ⟨hpeers, (Int.add_zero _).symm⟩

theorem CallGroup.after_lockDepth (group : CallGroup) :
    group.after.node.peerPool.lockDepth =
      group.server.node.peerPool.lockDepth + net group.locks := by
  obtain ⟨env, server, calls⟩ := group
  have hrun : ∀ peers : List PeerInfo, ∀ server : NodeServer,
      (∀ nodeId, (lookup PeerInfo.nodeId server.node.peerPool.peers nodeId).isSome =
        (lookup PeerInfo.nodeId peers nodeId).isSome) →
      (calls.foldl (NodeCall.run env) server).node.peerPool.lockDepth =
        server.node.peerPool.lockDepth + net (calls.filterMap (NodeCall.lockEvent peers)) := by
    induction calls with
    | nil => exact fun _ _ _ => (Int.add_zero _).symm
    | cons call rest ih =>
      intro peers server hpeers
      obtain ⟨hkept, hdepth⟩ := call.run_pool env hpeers
      have hcons : net ((call :: rest).filterMap (NodeCall.lockEvent peers)) =
          net (call.lockEvent peers).toList +
            net (rest.filterMap (NodeCall.lockEvent peers)) := by
        rw [← net_append]
        cases hevent : call.lockEvent peers <;> simp [hevent]
      rw [List.foldl_cons, ih peers _ hkept, hdepth, hcons, Int.add_assoc]
  exact hrun _ server fun _ => rfl

-- ----------------------------------------------------------------------------
-- The paths
-- ----------------------------------------------------------------------------

def routeCalls (env : NodeEnv) (submission : PendingSubmission) (server : NodeServer) :
    List NodeCall :=
  let channel := server.node.peerPool.channelTo submission.targetPeer
  .poolGet submission.targetPeer ::
    (if env.mallocOk then channel.toList.map fun channel =>
      .send submission.targetPeer channel submission.execId.toUInt32 funcIdProcessMessage
        (processMessagePayload submission.execId submission.dagId submission.context.senderId
          submission.message)
    else []) ++ [.poolRelease]

theorem routeSubmission_calls (env : NodeEnv) {submission : PendingSubmission}
    {server : NodeServer} (hpeer : submission.targetPeer ≠ server.node.nodeId) :
    (routeSubmission env submission server).2 =
      (routeCalls env submission server).foldl (NodeCall.run env) server := by
  have hchannel : (peerPoolGet server.node.peerPool submission.targetPeer).1.bind
      PeerInfo.dataChannel = server.node.peerPool.channelTo submission.targetPeer := rfl
  unfold routeSubmission routeCalls
  simp only [hpeer, if_false, hchannel]
  cases server.node.peerPool.channelTo submission.targetPeer with
  | none => simp [NodeCall.run]
  | some channel => split_ifs <;> rfl

def syncCalls (dagId : RuleId) (dagBuffer : List UInt8) (worker : NodeId) (server : NodeServer) :
    List NodeCall :=
  .poolGet worker :: ((server.node.peerPool.channelTo worker).toList.map fun channel =>
    .send worker channel dagId funcIdSyncCatalog dagBuffer) ++ [.poolRelease]

theorem syncWorker_calls (env : NodeEnv) (dagId : RuleId) (dagBuffer : List UInt8)
    (worker : NodeId) (server : NodeServer) : syncWorker dagId dagBuffer server worker =
      (syncCalls dagId dagBuffer worker server).foldl (NodeCall.run env) server := by
  have hchannel : (peerPoolGet server.node.peerPool worker).1.bind PeerInfo.dataChannel =
      server.node.peerPool.channelTo worker := rfl
  unfold syncWorker syncCalls
  simp only [hchannel]
  cases server.node.peerPool.channelTo worker with
  | none => rfl
  | some channel => rfl

def syncGroups (env : NodeEnv) (others : Nat → NodeServer → NodeServer) (dagId : RuleId)
    (dagBuffer : List UInt8) : Nat → List NodeId → NodeServer → List CallGroup
  | _, [], _ => []
  | i, worker :: rest, server =>
    let met := others i server
    ⟨env, met, syncCalls dagId dagBuffer worker met⟩ ::
      syncGroups env others dagId dagBuffer (i + 1) rest (syncWorker dagId dagBuffer met worker)

theorem syncGroups_after (env : NodeEnv) (dagId : RuleId) (dagBuffer : List UInt8) (i : Nat)
    (workers : List NodeId) (server : NodeServer) :
    workers.foldl (syncWorker dagId dagBuffer) server =
      (syncGroups env (fun _ => id) dagId dagBuffer i workers server).foldl
        (fun server group => group.calls.foldl (NodeCall.run env) server) server := by
  induction workers generalizing i server with
  | nil => rfl
  | cons worker rest ih =>
    rw [List.foldl_cons, ih (i + 1), syncGroups, List.foldl_cons]
    simp only [id]
    rw [← syncWorker_calls]

def joinCalls (nodeId : NodeId) (channel : Option RpcChannel) : List NodeCall :=
  [.poolGet nodeId, .setChannel nodeId channel, .poolRelease]

theorem peerPoolAdd_found
    (h : (peerPoolAdd pool nodeId ip gossipPort dataPort).1 = .ok) :
    (lookup PeerInfo.nodeId (peerPoolAdd pool nodeId ip gossipPort dataPort).2.peers
      nodeId).isSome := by
  unfold peerPoolAdd at h ⊢
  split at h
  · rename_i hget
    simp [hget]
  · rename_i hget
    split_ifs at h ⊢
    simp [PeerPool.append, lookup_append, hget, lookup_cons, PeerInfo.added]

theorem connectPeer_calls (env : NodeEnv) {server : NodeServer}
    (h : (peerPoolAdd server.node.peerPool nodeId ip gossipPort dataPort).1 = .ok)
    (channel : Option RpcChannel) :
    server.setPeerPool (connectPeer nodeId ip gossipPort dataPort channel server.node.peerPool) =
      (joinCalls nodeId channel).foldl (NodeCall.run env) (server.setPeerPool
        (peerPoolAdd server.node.peerPool nodeId ip gossipPort dataPort).2) := by
  obtain ⟨peer, hpeer⟩ := Option.isSome_iff_exists.mp (peerPoolAdd_found h)
  unfold connectPeer
  simp only [h, if_true, peerPoolGet, hpeer]
  simp [joinCalls, NodeCall.run, peerPoolGet, hpeer, RpcServer.setPeerPool, RpcServer.setNode,
    RpcServer.releasePeerPool]

/-- A path of one of the four functions, with what other threads do on the way. -/
inductive PoolPath
  | submit (env : NodeEnv) (context : RpcAsyncContext) (inData : List UInt8)
      (others : NodeServer → NodeServer) (server : NodeServer)
  | addDag (env : NodeEnv) (inData : List UInt8) (others : Nat → NodeServer → NodeServer)
      (server : NodeServer)
  | execute (env : NodeEnv) (executeStep : StepFunction) (message : Message)
      (others : NodeServer → NodeServer) (server : NodeServer)
  | workerJoin (env : NodeEnv) (past : Nat → GossipMemberUpdate) (srcIp : List UInt8)
      (srcPort : UInt16) (engine : GossipEngine) (msg : GossipMessage)
      (channel : Option RpcChannel) (others : NodeServer → NodeServer) (server : NodeServer)

def submitGroups (env : NodeEnv) (context : RpcAsyncContext) (inData : List UInt8)
    (others : NodeServer → NodeServer) (server : NodeServer) : List CallGroup :=
  match recordSubmission env context inData server with
  | .error _ => []
  | .ok (submission, recorded) =>
    let met := others recorded
    if submission.targetPeer = met.node.nodeId then []
    else [⟨env, met, routeCalls env submission met⟩]

def addDagGroups (env : NodeEnv) (inData : List UInt8) (others : Nat → NodeServer → NodeServer)
    (server : NodeServer) : List CallGroup :=
  match parseAddDag env.now inData with
  | none => []
  | some dag =>
    if dagValidate env.past dag ≠ .ok then []
    else
      let (result, catalog) := dagCatalogAdd env.copyAlloc server.node.dagCatalog dag
      let server := server.setNode { server.node with dagCatalog := catalog }
      let dagBuffer := dagSerialize env.past dag syncBufferSize
      if result ≠ .ok ∨ dagBuffer.length = 0 then []
      else syncGroups env others dag.dagId dagBuffer 0 server.node.aliveWorkers server

def executeGroups (env : NodeEnv) (executeStep : StepFunction) (message : Message)
    (others : NodeServer → NodeServer) (server : NodeServer) : List CallGroup :=
  let (status, started) := startExecution env executeStep message server
  let met := others started
  ⟨env, server, startCalls message server⟩ ::
    status.toList.map fun status => ⟨env, met, endCalls message status met⟩

def joinGroups (env : NodeEnv) (channel : Option RpcChannel) (others : NodeServer → NodeServer)
    (server : NodeServer) : GossipEffect → List CallGroup
  | .send .. => []
  | .connect nodeId ip gossipPort dataPort =>
    let (result, pool) := peerPoolAdd server.node.peerPool nodeId ip gossipPort dataPort
    if result = .ok then [⟨env, others (server.setPeerPool pool), joinCalls nodeId channel⟩]
    else []

def PoolPath.groups : PoolPath → List CallGroup
  | .submit env context inData others server => submitGroups env context inData others server
  | .addDag env inData others server => addDagGroups env inData others server
  | .execute env executeStep message others server =>
    executeGroups env executeStep message others server
  | .workerJoin env past srcIp srcPort engine msg channel others server =>
    (handleWorkerJoinMessage env.now past srcIp srcPort engine msg).2.flatMap
      (joinGroups env channel others server)

namespace PoolPath

def locks (path : PoolPath) : List Event := path.groups.flatMap CallGroup.locks

/-- Each search that finds its peer has its release and there are no others, and
no group leaves the lock of the pool deeper or less deep than it was. -/
def Disciplined (path : PoolPath) : Prop :=
  LockBalanced false path.locks ∧ ∀ group ∈ path.groups,
    group.after.node.peerPool.lockDepth = group.server.node.peerPool.lockDepth

def FindsPeers (path : PoolPath) : Prop := ∀ group ∈ path.groups, group.FindsPeers

end PoolPath

-- ----------------------------------------------------------------------------
-- The discipline
-- ----------------------------------------------------------------------------

theorem routeCalls_searches (env : NodeEnv) (submission : PendingSubmission)
    (server : NodeServer) : CallGroup.Searches ⟨env, server, routeCalls env submission server⟩ := by
  refine .inr ⟨submission.targetPeer, ?_⟩
  unfold routeCalls
  cases server.node.peerPool.channelTo submission.targetPeer with
  | none => split_ifs <;> rfl
  | some channel => split_ifs <;> rfl

theorem syncGroups_searches (env : NodeEnv) (others : Nat → NodeServer → NodeServer)
    (dagId : RuleId) (dagBuffer : List UInt8) (i : Nat) (workers : List NodeId)
    (server : NodeServer) :
    ∀ group ∈ syncGroups env others dagId dagBuffer i workers server, group.Searches := by
  induction workers generalizing i server with
  | nil => simp [syncGroups]
  | cons worker rest ih =>
    refine List.forall_mem_cons.mpr ⟨.inr ⟨worker, ?_⟩, ih (i + 1) _⟩
    unfold syncCalls
    cases (others i server).node.peerPool.channelTo worker <;> rfl

theorem endCalls_searches (env : NodeEnv) (message : Message) (status : ExecutionStatus)
    (server : NodeServer) :
    CallGroup.Searches ⟨env, server, endCalls message status server⟩ := by
  unfold CallGroup.Searches endCalls reportCalls reportCall
  by_cases hsender : message.senderId = server.node.nodeId
  · simp only [hsender, if_true]
    exact .inl rfl
  · simp only [hsender, if_false]
    refine .inr ⟨message.senderId, ?_⟩
    cases server.node.peerPool.channelTo message.senderId <;> rfl

theorem PoolPath.searches (path : PoolPath) : ∀ group ∈ path.groups, group.Searches := by
  cases path with
  | submit env context inData others server =>
    simp only [groups, submitGroups]
    split
    · simp
    · split_ifs
      · simp
      · exact List.forall_mem_singleton.mpr (routeCalls_searches _ _ _)
  | addDag env inData others server =>
    simp only [groups, addDagGroups]
    split
    · simp
    · split_ifs
      · simp
      · simp
      · exact syncGroups_searches _ _ _ _ _ _ _
  | execute env executeStep message others server =>
    simp only [groups, executeGroups]
    refine List.forall_mem_cons.mpr ⟨?_, ?_⟩
    · unfold CallGroup.Searches startCalls
      split_ifs <;> exact .inl rfl
    · simp only [List.mem_map, Option.mem_toList]
      rintro _ ⟨status, -, rfl⟩
      exact endCalls_searches _ _ _ _
  | workerJoin env past srcIp srcPort engine msg channel others server =>
    intro group hgroup
    obtain ⟨effect, -, heffect⟩ := List.mem_flatMap.mp hgroup
    cases effect with
    | send => cases heffect
    | connect nodeId ip gossipPort dataPort =>
      unfold joinGroups at heffect
      dsimp only at heffect
      split_ifs at heffect
      · obtain rfl := List.mem_singleton.mp heffect
        exact .inr ⟨nodeId, rfl⟩
      · cases heffect

theorem balanced_groups {groups : List CallGroup}
    (hsearches : ∀ group ∈ groups, group.Searches) :
    LockBalanced false (groups.flatMap CallGroup.locks) ↔ ∀ group ∈ groups, group.FindsPeers := by
  induction groups with
  | nil => simp [LockBalanced]
  | cons group rest ih =>
    obtain ⟨hfirst, hrest⟩ := List.forall_mem_cons.mp hsearches
    rw [List.flatMap_cons, hfirst.balanced_append, ih hrest, List.forall_mem_cons]

/-- A path keeps to the discipline exactly if it finds every peer that it looks
up. -/
theorem poolPath_disciplined_iff (path : PoolPath) : path.Disciplined ↔ path.FindsPeers := by
  unfold PoolPath.Disciplined PoolPath.locks
  rw [balanced_groups path.searches]
  refine and_iff_left_of_imp fun hfinds group hgroup => ?_
  have hbalanced : LockBalanced false (group.locks ++ []) :=
    ((path.searches group hgroup).balanced_append []).mpr ⟨hfinds group hgroup, rfl⟩
  rw [List.append_nil] at hbalanced
  rw [group.after_lockDepth, hbalanced.net_eq]
  exact Int.add_zero _

def unconnectedNode : NodeServer :=
  let state := loneNode.node
  loneNode.setNode { state with
    clusterView := ⟨[⟨2, .worker, [], 0, 0, .alive, 0, 1⟩], maxClusterNodes,
      List.nodup_singleton 2, Nat.le_of_ble_eq_true rfl⟩ }

/-- The handler releases a lock that it does not hold. -/
theorem poolPath_undisciplined :
    ¬PoolPath.Disciplined (.addDag calmEnv shortDag.encode (fun _ => id) unconnectedNode) ∧
      (handleAddDag calmEnv clientContext shortDag.encode
        unconnectedNode).2.node.peerPool.lockDepth = -1 := by
  refine ⟨fun h => ?_, by decide +kernel⟩
  exact absurd h.1 (by decide +kernel)

end Roole
