import Roole.Dag.RoundTrip
import Roole.Node.AddDag
import Roole.Node.Responses

/-!
# Which workers learn a registered DAG

A registration that succeeds is passed on to the other ALIVE workers in the
encoding of `dag_serialize`. The request may describe DAGs that this encoding,
or the buffer for it, has no room for; the client is told SUCCESS all the same.
-/

namespace Roole

open Bytes KeyedList Format

-- ----------------------------------------------------------------------------
-- What is sent to the workers
-- ----------------------------------------------------------------------------

/-- The other ALIVE workers with a data channel, in the order of the view. -/
def NodeState.syncTargets (state : NodeState) : List (NodeId × RpcChannel) :=
  (state.clusterView.members.filter fun member => member.nodeType = .worker ∧
    member.status = .alive ∧ member.nodeId ≠ state.nodeId).filterMap fun member =>
      (state.peerPool.channelTo member.nodeId).map (member.nodeId, ·)

def syncEvents (nodeId : NodeId) (dagId : RuleId) (dagBuffer : List UInt8) :
    List (NodeId × RpcChannel) → List SendOutcome → List RpcEvent
  | [], _ => []
  | (worker, channel) :: rest, sends =>
    let message := rpcPackMessage nodeId dagId RpcType.request.toByte RpcStatus.unknown.toByte
      funcIdSyncCatalog dagBuffer
    let (sent, sends) := sendOnce sends (rpcTotalLen dagBuffer.length).toNat
    .pack channel dagBuffer.length :: .request worker message sent ::
      syncEvents nodeId dagId dagBuffer rest sends

theorem syncWorkers_trace (dagId : RuleId) (dagBuffer : List UInt8) (workers : List NodeId)
    (server : NodeServer) :
    (workers.foldl (syncWorker dagId dagBuffer) server).trace =
      server.trace ++ syncEvents server.node.nodeId dagId dagBuffer
        (workers.filterMap fun worker =>
          (server.node.peerPool.channelTo worker).map (worker, ·)) server.peerSends := by
  induction workers generalizing server with
  | nil => simp [syncEvents]
  | cons worker rest ih =>
    obtain ⟨-, hpeers⟩ := syncWorker_quiet dagId dagBuffer server worker
    have hsame : (syncWorker dagId dagBuffer server worker).node.peerPool.channelTo =
        server.node.peerPool.channelTo := by
      funext nodeId
      rw [PeerPool.channelTo_eq, PeerPool.channelTo_eq, hpeers]
    have hchannel : (peerPoolGet server.node.peerPool worker).1.bind PeerInfo.dataChannel =
        server.node.peerPool.channelTo worker := rfl
    rw [List.foldl_cons, ih, hsame]
    unfold syncWorker
    simp only [hchannel, List.filterMap_cons]
    cases server.node.peerPool.channelTo worker with
    | none => rfl
    | some channel =>
      change (server.trace ++ [_, _]) ++ _ = server.trace ++ (_ :: _ :: _)
      rw [List.append_assoc]
      rfl

theorem mem_syncEvents (nodeId : NodeId) (dagId : RuleId) {targets : List (NodeId × RpcChannel)}
    {sends : List SendOutcome} {i : Nat} (hsize : rpcHeaderSize + dagBuffer.length < 2 ^ 32)
    (htarget : targets[i]? = some (worker, channel)) (hsend : sends[i]? = some .rest) :
    let message := rpcPackMessage nodeId dagId RpcType.request.toByte RpcStatus.unknown.toByte
      funcIdSyncCatalog dagBuffer
    .request worker message message.length ∈ syncEvents nodeId dagId dagBuffer targets sends := by
  intro message
  induction targets generalizing i sends with
  | nil => cases htarget
  | cons target rest ih =>
    obtain ⟨worker', channel'⟩ := target
    simp only [syncEvents, List.mem_cons]
    cases i with
    | zero =>
      cases htarget
      obtain ⟨later, rfl⟩ : ∃ later, sends = .rest :: later := by
        cases sends with
        | nil => cases hsend
        | cons outcome later =>
          cases hsend
          exact ⟨later, rfl⟩
      refine .inr (.inl ?_)
      simp [sendOnce, message, rpcTotalLen_toNat hsize]
    | succ i =>
      refine .inr (.inr (ih htarget ?_))
      rw [sendOnce_snd]
      cases sends with
      | nil => cases hsend
      | cons outcome later => exact hsend

theorem NodeState.aliveWorkers_filterMap (state : NodeState)
    (hview : state.clusterView.capacity ≤ maxPeers) :
    state.aliveWorkers.filterMap (fun worker =>
      (state.peerPool.channelTo worker).map (worker, ·)) = state.syncTargets := by
  have hlen := state.clusterView.length_le
  unfold aliveWorkers syncTargets
  rw [List.take_of_length_le, List.filterMap_map]
  · rfl
  · rw [List.length_map]
    exact (List.length_filter_le ..).trans (hlen.trans hview)

-- ----------------------------------------------------------------------------
-- The handler
-- ----------------------------------------------------------------------------

theorem mem_respond_drop {server quiet : NodeServer} (htrace : quiet.trace = server.trace ++ events) :
    event ∈ (rpcSendAsyncResponse context status reply quiet).2.trace.drop server.trace.length ↔
      event ∈ events ∨ event = .respond context status reply ∨
        event = .pack context.channel reply.length ∨
        event = .sent context.channel.socketFd
          ((rpcPackMessage context.senderId context.requestId RpcType.response.toByte
            status.toByte context.funcId reply).take
              (sendResponse quiet.sends (rpcTotalLen reply.length).toNat).2.1) ∨
        event = .free context.address := by
  simp [rpcSendAsyncResponse, htrace]

def addDagEvents (env : NodeEnv) (server : NodeServer) (dag : Dag) : List RpcEvent :=
  let dagBuffer := dagSerialize env.past dag syncBufferSize
  if dagBuffer.length = 0 then []
  else syncEvents server.node.nodeId dag.dagId dagBuffer
    (server.node.aliveWorkers.filterMap fun worker =>
      (server.node.peerPool.channelTo worker).map (worker, ·)) server.peerSends

theorem handleAddDag_trace (env : NodeEnv) (context : RpcAsyncContext) (inData : List UInt8)
    (server : NodeServer) : ∃ status reply quiet,
      (handleAddDag env context inData server).2 =
        (rpcSendAsyncResponse context status reply quiet).2 ∧
      match addedDag env server.node inData with
      | none => status ≠ .success ∧ quiet.trace = server.trace
      | some dag => status = .success ∧ reply = [1] ∧
        quiet.trace = server.trace ++ addDagEvents env server dag ∧
        quiet.node.dagCatalog.dags = server.node.dagCatalog.dags ++ [dag] := by
  unfold handleAddDag addedDag
  cases parseAddDag env.now inData with
  | none => exact ⟨.badArgument, [], server, rfl, by decide, rfl⟩
  | some dag =>
    rw [Option.filter_some]
    by_cases hvalid : dagValidate env.past dag = .ok
    · obtain ⟨result, hresult, hadd⟩ | ⟨hnew, hroom, hadd⟩ :=
        dagCatalogAdd_cases env.copyAlloc server.node.dagCatalog dag
      · simp only [hvalid, hadd, hresult, ne_eq, not_true_eq_false, not_false_eq_true, if_true,
          if_false, and_false, decide_false, Bool.false_eq_true]
        exact ⟨.internalError, [], _, rfl, by decide, rfl⟩
      · simp only [hvalid, hadd, ne_eq, not_true_eq_false, if_false, and_self, decide_true, if_true]
        refine ⟨.success, [1], _, rfl, rfl, rfl, ?_, ?_⟩
        · unfold addDagEvents
          by_cases hempty : (dagSerialize env.past dag syncBufferSize).length = 0
          · simp only [hempty, if_true, List.append_nil]
            rfl
          · simp only [hempty, if_false, syncWorkers_trace]
            rfl
        · split <;> simp [syncWorkers_dagCatalog, RpcServer.setNode, DagCatalog.append]
    · simp only [hvalid, ne_eq, not_false_eq_true, if_true, false_and, decide_false,
        Bool.false_eq_true, if_false]
      exact ⟨.badArgument, [], server, rfl, by decide, rfl⟩

theorem handleAddDag_rejects (context : RpcAsyncContext)
    (h : addedDag env server.node inData = none) : ∃ status reply quiet, status ≠ .success ∧
      (handleAddDag env context inData server).2 =
        (rpcSendAsyncResponse context status reply quiet).2 ∧ quiet.trace = server.trace ++ [] := by
  obtain ⟨status, reply, quiet, hafter, hcases⟩ := handleAddDag_trace env context inData server
  rw [h] at hcases
  exact ⟨status, reply, quiet, hcases.1, hafter, by rw [hcases.2, List.append_nil]⟩

theorem handleAddDag_adds (context : RpcAsyncContext)
    (h : addedDag env server.node inData = some dag) : ∃ quiet,
      (handleAddDag env context inData server).2 =
        (rpcSendAsyncResponse context .success [1] quiet).2 ∧
      quiet.trace = server.trace ++ addDagEvents env server dag ∧
      quiet.node.dagCatalog.dags = server.node.dagCatalog.dags ++ [dag] := by
  obtain ⟨status, reply, quiet, hafter, hcases⟩ := handleAddDag_trace env context inData server
  rw [h] at hcases
  obtain ⟨rfl, rfl, htrace, hdags⟩ := hcases
  exact ⟨quiet, hafter, htrace, hdags⟩

-- ----------------------------------------------------------------------------
-- The DAG that is sent
-- ----------------------------------------------------------------------------

/-- A catalog message that any receiver with memory decodes to this DAG. -/
def CarriesDag (past : PastSlots) (dag : Dag) (message : List UInt8) : Prop :=
  (∃ header, rpcUnpackHeader message = some header ∧ header.funcId = funcIdSyncCatalog ∧
    header.totalLen.toNat = message.length) ∧
  ∀ now, ∃ decoded,
    dagDeserialize (fun _ => true) now (message.drop rpcHeaderSize) = .ok decoded ∧
      decoded.SameFields past dag

/-- The DAG is within the limits of the encoding and of the buffer. -/
def Dag.FitsSync (dag : Dag) : Prop :=
  dag.serializedSize ≤ syncBufferSize ∧
    ∀ i < dag.stepCount, (dag.step i).dependencyCount ≤ maxStepDependencies

theorem dagDeserialize_dependencies_le
    (h : dagDeserialize (fun _ => true) now buffer = .ok dag) :
    ∀ i < dag.stepCount, (dag.step i).dependencyCount ≤ maxStepDependencies := by
  obtain ⟨wire, rest, hfits, -, rfl⟩ := dagDeserialize_ok_iff.mp h
  intro i hi
  have hi : i < wire.steps.length := hi
  have hstep : (wire.dag now).step i = wire.steps[i].step := by
    simp [Dag.step, DagWire.dag, hi]
  rw [hstep]
  exact (hfits.steps _ (List.getElem_mem hi)).dependencies_le

theorem CarriesDag.fits (h : CarriesDag past dag message) :
    ∀ i < dag.stepCount, (dag.step i).dependencyCount ≤ maxStepDependencies := by
  obtain ⟨-, hdecodes⟩ := h
  obtain ⟨decoded, hok, hsame⟩ := hdecodes 0
  intro i hi
  have hi' : i < decoded.stepCount := hsame.stepCount ▸ hi
  rw [← (hsame.steps i hi').dependencyCount]
  exact dagDeserialize_dependencies_le hok i hi'

theorem stageName_strlen (stageId : UInt32) : strlen (stageName stageId) < maxStepName :=
  (strlen_le _).trans_lt ((List.length_take_le _ _).trans_lt (by decide))

theorem stageFunctionName_strlen (stageId : UInt32) :
    strlen (stageFunctionName stageId) < maxStepName :=
  (strlen_le _).trans_lt ((List.length_take_le _ _).trans_lt (by decide))

theorem AddDagPayload.dag_encodable (payload : AddDagPayload) (now : UInt64)
    (hle : (payload.dag now).stepCount ≤ maxDagSteps)
    (hdeps : ∀ i < (payload.dag now).stepCount,
      ((payload.dag now).step i).dependencyCount ≤ maxStepDependencies) :
    (payload.dag now).Encodable where
  name_lt := by
    refine (strlen_le _).trans_lt ((List.length_take_le _ _).trans_lt ?_)
    decide
  steps_le := hle
  steps := by
    intro i hi
    have hcount := hdeps i hi
    cases hget : payload.stages[i]? with
    | none =>
      rw [dag_step_none hget] at hcount ⊢
      exact ⟨by decide, by decide, hcount, by decide, by simp [DagStep.zero, DagStep.ConfigPresent]⟩
    | some stage =>
      rw [dag_step hget] at hcount ⊢
      exact ⟨stageName_strlen _, stageFunctionName_strlen _, hcount, by simp [AddDagStage.step],
        by simp [AddDagStage.step, DagStep.ConfigPresent]⟩

theorem dagSerialize_message_lt (past : PastSlots) {dag : Dag} (hdag : dag.Encodable)
    (hsize : dag.serializedSize ≤ syncBufferSize) :
    rpcHeaderSize + (dagSerialize past dag syncBufferSize).length < 2 ^ 32 := by
  obtain ⟨hlen, -⟩ := (dagSerialize_roundTrip past 0 hdag).1 syncBufferSize hsize
  rw [hlen]
  exact (Nat.add_le_add_left hsize _).trans_lt (by decide)

theorem carriesDag_pack (nodeId : NodeId) (requestId : UInt32) (type status : UInt8)
    {dag : Dag} (hdag : dag.Encodable) (hsize : dag.serializedSize ≤ syncBufferSize) :
    CarriesDag past dag (rpcPackMessage nodeId requestId type status funcIdSyncCatalog
      (dagSerialize past dag syncBufferSize)) := by
  have hlt := dagSerialize_message_lt past hdag hsize
  refine ⟨⟨_, rpcUnpackHeader_pack hlt, rfl, ?_⟩, fun now => ?_⟩
  · rw [rpcTotalLen_toNat hlt, rpcPackMessage_length]
  · rw [rpcPackMessage_drop]
    have hround := ((dagSerialize_roundTrip past now hdag).1 syncBufferSize hsize).2 []
    rwa [List.append_nil] at hround

-- ----------------------------------------------------------------------------
-- Registration
-- ----------------------------------------------------------------------------

/-- A registration that is answered with SUCCESS has added a DAG, and every
other ALIVE worker with a data channel that takes the whole of its message has
been sent that DAG. -/
def CatalogSynced (env : NodeEnv) (context : RpcAsyncContext) (inData : List UInt8)
    (server : NodeServer) : Prop :=
  let after := (handleAddDag env context inData server).2
  let events := after.trace.drop server.trace.length
  RpcEvent.respond context .success [1] ∈ events →
    ∃ dag, after.node.dagCatalog.dags = server.node.dagCatalog.dags ++ [dag] ∧
      ∀ (i : Nat) worker channel, server.node.syncTargets[i]? = some (worker, channel) →
        server.peerSends[i]? = some .rest →
          ∃ message, RpcEvent.request worker message message.length ∈ events ∧
            CarriesDag env.past dag message

structure AddDagPayload.Registered (env : NodeEnv) (state : NodeState) (payload : AddDagPayload) :
    Prop where
  valid : dagValidate env.past (payload.dag env.now) = .ok
  new : dagCatalogGet state.dagCatalog payload.dagId = none
  room : state.dagCatalog.dags.length < state.dagCatalog.capacity

/-- Some worker could be sent the whole message. -/
def ReachesWorker (server : NodeServer) : Prop :=
  ∃ i : Nat, i < server.node.syncTargets.length ∧ server.peerSends[i]? = some .rest

theorem addedDag_eq_some : addedDag env state inData = some dag ↔
    ∃ (payload : AddDagPayload) (rest : List UInt8), inData = payload.encode ++ rest ∧
      payload.Clamped ∧ payload.Registered env state ∧ dag = payload.dag env.now := by
  simp only [addedDag, Option.filter_eq_some_iff, parseAddDag_eq_some, decide_eq_true_eq]
  constructor
  · rintro ⟨⟨payload, rest, rfl, hclamped, rfl⟩, hvalid, hadd⟩
    obtain ⟨hnew, hroom⟩ := (dagCatalogAdd_ok env.copyAlloc (payload.dag_hasConfig env.now)).mp hadd
    exact ⟨payload, rest, rfl, hclamped, ⟨hvalid, hnew, hroom⟩, rfl⟩
  · rintro ⟨payload, rest, rfl, hclamped, hregistered, rfl⟩
    exact ⟨⟨payload, rest, rfl, hclamped, rfl⟩, hregistered.valid,
      (dagCatalogAdd_ok env.copyAlloc (payload.dag_hasConfig env.now)).mpr
        ⟨hregistered.new, hregistered.room⟩⟩

theorem addDagEvents_eq (env : NodeEnv) {server : NodeServer}
    (hview : server.node.clusterView.capacity ≤ maxPeers) (payload : AddDagPayload) :
    addDagEvents env server (payload.dag env.now) =
      if syncBufferSize < (payload.dag env.now).serializedSize then []
      else syncEvents server.node.nodeId payload.dagId
        (dagSerialize env.past (payload.dag env.now) syncBufferSize) server.node.syncTargets
        server.peerSends := by
  have hconfig : ∀ i < (payload.dag env.now).stepCount,
      ((payload.dag env.now).step i).configLen = 0 := by
    intro i _
    cases hget : payload.stages[i]? with
    | none => rw [AddDagPayload.dag_step_none hget]; rfl
    | some stage => rw [AddDagPayload.dag_step hget]; rfl
  have hpos : (payload.dag env.now).serializedSize ≠ 0 := by simp [Dag.serializedSize]
  unfold addDagEvents
  simp only [server.node.aliveWorkers_filterMap hview, dagSerialize_length hconfig]
  by_cases hlarge : syncBufferSize < (payload.dag env.now).serializedSize
  · simp only [hlarge, if_true]
  · simp only [hlarge, if_false, hpos]
    rfl

theorem addDagEvents_fits {server : NodeServer}
    (hview : server.node.clusterView.capacity ≤ maxPeers) {payload : AddDagPayload}
    (hmem : .request worker message sent ∈ addDagEvents env server (payload.dag env.now))
    (hcarries : CarriesDag env.past (payload.dag env.now) message) :
    (payload.dag env.now).FitsSync := by
  rw [addDagEvents_eq env hview payload] at hmem
  split_ifs at hmem with hlarge
  · cases hmem
  · exact ⟨Nat.not_lt.mp hlarge, hcarries.fits⟩

theorem addDagEvents_carries {server : NodeServer} {i : Nat}
    (hview : server.node.clusterView.capacity ≤ maxPeers) {payload : AddDagPayload}
    (hregistered : payload.Registered env state) (hfits : (payload.dag env.now).FitsSync)
    (htarget : server.node.syncTargets[i]? = some (worker, channel))
    (hsend : server.peerSends[i]? = some .rest) :
    ∃ message, .request worker message message.length ∈
        addDagEvents env server (payload.dag env.now) ∧
      CarriesDag env.past (payload.dag env.now) message := by
  have hsteps := (dagValidate_ok.mp hregistered.valid).2.1
  have hdag := payload.dag_encodable env.now hsteps hfits.2
  have hsize := dagSerialize_message_lt env.past hdag hfits.1
  rw [addDagEvents_eq env hview payload, if_neg (Nat.not_lt.mpr hfits.1)]
  exact ⟨_, mem_syncEvents server.node.nodeId payload.dagId hsize htarget hsend,
    carriesDag_pack _ _ _ _ hdag hfits.1⟩

theorem catalogSynced_of_rejected (context : RpcAsyncContext) {server : NodeServer}
    (hadded : addedDag env server.node inData = none) :
    CatalogSynced env context inData server := by
  obtain ⟨status, reply, quiet, hstatus, hafter, htrace⟩ := handleAddDag_rejects context hadded
  unfold CatalogSynced
  simp only [hafter]
  intro hsuccess
  obtain hmem | heq | heq | heq | heq := (mem_respond_drop htrace).mp hsuccess
  · cases hmem
  all_goals cases heq
  exact absurd rfl hstatus

/-- A registered DAG is sent to the workers that can be reached exactly if it
fits. -/
theorem catalogSynced_added_iff (context : RpcAsyncContext) {server : NodeServer}
    (hview : server.node.clusterView.capacity ≤ maxPeers) {payload : AddDagPayload}
    (hregistered : payload.Registered env server.node)
    (hadded : addedDag env server.node inData = some (payload.dag env.now)) :
    CatalogSynced env context inData server ↔
      (ReachesWorker server → (payload.dag env.now).FitsSync) := by
  obtain ⟨quiet, hafter, htrace, hdags⟩ := handleAddDag_adds context hadded
  unfold CatalogSynced
  simp only [hafter]
  have hsuccess : RpcEvent.respond context .success [1] ∈
      (rpcSendAsyncResponse context .success [1] quiet).2.trace.drop server.trace.length :=
    (mem_respond_drop htrace).mpr (.inr (.inl rfl))
  have hrequest : ∀ worker message sent, RpcEvent.request worker message sent ∈
      (rpcSendAsyncResponse context .success [1] quiet).2.trace.drop server.trace.length ↔
        .request worker message sent ∈ addDagEvents env server (payload.dag env.now) := by
    intro worker message sent
    rw [mem_respond_drop htrace]
    simp
  constructor
  · rintro hsynced ⟨i, hi, hsend⟩
    obtain ⟨dag, hdag, hsent⟩ := hsynced hsuccess
    obtain rfl := List.singleton_inj.mp (List.append_cancel_left (hdags.symm.trans hdag))
    obtain ⟨message, hmem, hcarries⟩ := hsent i _ _ (List.getElem?_eq_getElem hi) hsend
    exact addDagEvents_fits hview ((hrequest ..).mp hmem) hcarries
  · intro hreached _
    refine ⟨_, hdags, fun i worker channel htarget hsend => ?_⟩
    obtain ⟨hi, -⟩ := List.getElem?_eq_some_iff.mp htarget
    obtain ⟨message, hmem, hcarries⟩ :=
      addDagEvents_carries hview hregistered (hreached ⟨i, hi, hsend⟩) htarget hsend
    exact ⟨message, (hrequest ..).mpr hmem, hcarries⟩

/-- The workers learn every registered DAG that the encoding and its buffer have
room for, and no other one. -/
theorem handleAddDag_synced_iff (env : NodeEnv) (context : RpcAsyncContext) (inData : List UInt8)
    {server : NodeServer} (hview : server.node.clusterView.capacity ≤ maxPeers) :
    CatalogSynced env context inData server ↔
      ¬ (ReachesWorker server ∧
        ∃ (payload : AddDagPayload) (rest : List UInt8), inData = payload.encode ++ rest ∧
          payload.Clamped ∧ payload.Registered env server.node ∧
          ¬ (payload.dag env.now).FitsSync) := by
  cases hadded : addedDag env server.node inData with
  | none =>
    refine iff_of_true (catalogSynced_of_rejected context hadded) ?_
    rintro ⟨-, payload, rest, hencode, hclamped, hregistered, -⟩
    have hsome := addedDag_eq_some.mpr ⟨payload, rest, hencode, hclamped, hregistered, rfl⟩
    rw [hadded] at hsome
    cases hsome
  | some dag =>
    obtain ⟨payload, rest, hencode, hclamped, hregistered, rfl⟩ := addedDag_eq_some.mp hadded
    rw [catalogSynced_added_iff context hview hregistered hadded]
    constructor
    · rintro hfits ⟨hreached, payload', rest', hencode', hclamped', hregistered', hunfit⟩
      have hsame := hadded.symm.trans
        (addedDag_eq_some.mpr ⟨payload', rest', hencode', hclamped', hregistered', rfl⟩)
      rw [← Option.some.inj hsame] at hunfit
      exact hunfit (hfits hreached)
    · intro hnot hreached
      by_contra hunfit
      exact hnot ⟨hreached, payload, rest, hencode, hclamped, hregistered, hunfit⟩

def syncingNode : NodeServer :=
  let state := NodeState.init 1 ⟨true, false, true⟩ 4 shortQueue
  .start { state with
    peerPool := connectPeer 2 [] 0 0 (some (.init 6 maxBufferSize)) state.peerPool
    clusterView := (clusterViewAdd 0 state.clusterView ⟨2, .worker, [], 0, 0, .alive, 0, 1⟩).2 }
    [.rest] [.rest]

instance (dag : Dag) : Decidable dag.FitsSync := by
  unfold Dag.FitsSync
  infer_instance

theorem handleAddDag_synced_short :
    CatalogSynced (.calm fun _ _ => 0) clientContext
      (AddDagPayload.encode ⟨1, [], 1, [⟨7, 1, [7]⟩]⟩) syncingNode := by
  refine (handleAddDag_synced_iff _ _ _ (by decide)).mpr ?_
  rintro ⟨-, payload, rest, hencode, hclamped, hregistered, hfits⟩
  have hadded := addedDag_eq_some.mpr ⟨payload, rest, hencode, hclamped, hregistered, rfl⟩
  have hshort : addedDag (.calm fun _ _ => 0) syncingNode.node
      (AddDagPayload.encode ⟨1, [], 1, [⟨7, 1, [7]⟩]⟩) =
        some (AddDagPayload.dag 1000 ⟨1, [], 1, [⟨7, 1, [7]⟩]⟩) := by decide +kernel
  rw [← Option.some.inj (hshort.symm.trans hadded)] at hfits
  exact hfits (by decide +kernel)

def longPayload : AddDagPayload where
  dagId := 1
  name := []
  numStages := 128
  stages := List.replicate 128 ⟨7, 5, List.replicate 5 7⟩

theorem longPayload_added : addedDag (.calm fun _ _ => 0) syncingNode.node longPayload.encode =
    some (longPayload.dag 1000) :=
  addedDag_eq_some.mpr ⟨longPayload, [], (List.append_nil _).symm,
    ⟨Nat.succ_pos _, by decide +kernel, by decide +kernel⟩,
    ⟨by decide +kernel, by decide +kernel, by decide +kernel⟩, rfl⟩

theorem longPayload_large : syncBufferSize < (longPayload.dag 1000).serializedSize := by
  decide +kernel

theorem longPayload_silent :
    addDagEvents (.calm fun _ _ => 0) syncingNode (longPayload.dag 1000) = [] :=
  (addDagEvents_eq (.calm fun _ _ => 0) (Nat.le_refl _) longPayload).trans
    (if_pos longPayload_large)

/-- The client is told SUCCESS and the worker, whose channel takes everything,
is sent nothing. -/
theorem handleAddDag_unsynced :
    ¬ CatalogSynced (.calm fun _ _ => 0) clientContext longPayload.encode syncingNode := by
  obtain ⟨quiet, hafter, htrace, -⟩ := handleAddDag_adds clientContext longPayload_added
  rw [longPayload_silent] at htrace
  have htargets : syncingNode.node.syncTargets = [(2, .init 6 maxBufferSize)] := by decide +kernel
  unfold CatalogSynced
  simp only [hafter]
  intro hsynced
  obtain ⟨dag, -, hsent⟩ := hsynced ((mem_respond_drop htrace).mpr (.inr (.inl rfl)))
  obtain ⟨message, hmem, -⟩ := hsent 0 2 (.init 6 maxBufferSize) (by rw [htargets]; rfl) rfl
  obtain hmem | heq | heq | heq | heq := (mem_respond_drop htrace).mp hmem
  · cases hmem
  all_goals cases heq

end Roole
