import Roole.Node.AddDag
import Roole.Node.Responses
import Roole.Rpc.Correlation
import Roole.Rpc.Redispatch

/-!
# The service table

Results about every request that the node's service table handles: how often it
is answered, which request its answers name, and how much is packed into the send
buffers.
-/

namespace Roole

-- ----------------------------------------------------------------------------
-- One response for each request
-- ----------------------------------------------------------------------------

theorem RespondsOnce.of_short {handler : RpcHandler NodeState} (packed : NodeState → List UInt8 →
      RpcAsyncContext → List (RpcChannel × Nat))
    (h : ∀ context inData server, ∃ replyLen ≤ 9,
      Responds context server (packed server.node inData context) replyLen
        (handler context inData server)) : RespondsOnce handler := by
  intro context inData server
  obtain ⟨replyLen, hle, hresponds⟩ := h context inData server
  have hword : rpcHeaderSize + replyLen < 2 ^ 32 :=
    (Nat.add_le_add_left hle rpcHeaderSize).trans_lt (by decide)
  exact ⟨_, replyLen, hword, hresponds⟩

theorem RespondsOnce.of_answers {handler : RpcHandler NodeState}
    (h : ∀ context inData server, ∃ replyLen ≤ 9, Answers context server replyLen
      (handler context inData server)) : RespondsOnce handler :=
  .of_short (fun _ _ _ => []) fun context inData server =>
    let ⟨replyLen, hle, hanswers⟩ := h context inData server
    ⟨replyLen, hle, hanswers.responds⟩

theorem handleListDags_respondsOnce (env : Nat → NodeEnv) :
    RespondsOnce fun context => handleListDags (env context.address) context := by
  intro context inData server
  refine ⟨_, _, ?_, (handleListDags_answers (env context.address) context inData server).responds⟩
  exact (Nat.add_le_add_left (listReplyLen_le _ _) rpcHeaderSize).trans_lt (by decide)

theorem nodeTable_respondsOnce (env : Nat → NodeEnv) (capabilities : NodeCapabilities) :
    ∀ entry ∈ nodeBuildRpcServiceTable env capabilities, RespondsOnce entry.handler := by
  have hsubmit : RespondsOnce fun context => handleSubmitMessage (env context.address) context :=
    .of_short (fun state inData context => submitPacks (env context.address) state inData)
      fun context => handleSubmitMessage_responds (env context.address) context
  have hadd : RespondsOnce fun context => handleAddDag (env context.address) context :=
    .of_short (fun state inData context => addDagPacks (env context.address) state inData)
      fun context => handleAddDag_responds (env context.address) context
  have hstatus : RespondsOnce handleGetExecutionStatus :=
    .of_answers handleGetExecutionStatus_answers
  have hprocess : RespondsOnce fun context => handleProcessMessage (env context.address) context :=
    .of_answers fun context => handleProcessMessage_answers _ context
  have hupdate : RespondsOnce fun context => handleExecutionUpdate (env context.address) context :=
    .of_answers fun context => handleExecutionUpdate_answers _ context
  have hsync : RespondsOnce fun context => handleSyncCatalog (env context.address) context :=
    .of_answers fun context => handleSyncCatalog_answers _ context
  refine List.forall_mem_append.mpr ⟨?_, ?_⟩
  · split
    · simpa using ⟨hsubmit, hstatus, handleListDags_respondsOnce env, hadd⟩
    · simp
  · simpa using ⟨hprocess, hupdate, hsync⟩

/-- In every run of the server, the context of a request to a handler is
settled exactly when the kernel takes the whole response: a handler whose
response could not be sent returns -1, and the server responds again on the
context just freed. -/
theorem service_settles_iff (env : Nat → NodeEnv) (capabilities : NodeCapabilities)
    (contextMemory : Nat → Option NodeId) (node : NodeState) (sends peerSends : List SendOutcome)
    (rounds : List (RpcRound NodeState)) :
    let after := serveRounds contextMemory (nodeBuildRpcServiceTable env capabilities) rounds
      (.start node sends peerSends)
    ∀ dispatch ∈ after.1, dispatch.entry.isSome →
      (SettledOnce dispatch.context after.2 ↔ answersAccept dispatch.server.sends = true) := by
  intro after dispatch hdispatch hentry
  have hfresh := RpcServer.Fresh.start node sends peerSends
  have heffect := serveRounds_effect contextMemory (nodeTable_respondsOnce env capabilities)
    rounds hfresh
  exact heffect.settled_iff hfresh hdispatch hentry

/-- A client asks for a status and does not take the answer. -/
theorem service_double_free :
    let node := NodeState.init 1 ⟨true, true, true⟩ 4 (messageQueueInit 4 (by decide))
    let request := rpcPackMessage 0 7 RpcType.request.toByte 0 funcIdGetStatus (Bytes.writeLe64 1)
    let context := ⟨0, .init 5 maxBufferSize, 7, funcIdGetStatus, 0⟩
    let after := serveRounds (fun _ => some 0)
      (nodeBuildRpcServiceTable (fun _ => .calm fun _ _ => 0) node.capabilities)
      [⟨.init 5 maxBufferSize, request, node, [.failed], []⟩] (.start node [] [])
    (after.1.map fun dispatch => (dispatch.context, dispatch.entry.isSome)) = [(context, true)] ∧
      contextEvents 0 after.2.trace = [.respond context .funcNotFound [], .free 0,
        .respond context .internalError [], .free 0] ∧
      ¬ SettledOnce context after.2 :=
  ⟨by decide +kernel, by decide +kernel, fun h => absurd h.length (by decide +kernel)⟩

theorem service_followsStream (env : Nat → NodeEnv) (capabilities : NodeCapabilities)
    (channel : RpcChannel) (server : NodeServer) (stream : List UInt8) (reads : List StreamRead)
    (i : Nat) :
    let table := nodeBuildRpcServiceTable env capabilities
    (Runs.run (StreamReader.step channel table) (.accepted server stream)
      (reads.take i)).Follows table stream := by
  intro table
  have hkeeps : ∀ entry ∈ table, KeepsAllocated entry.handler := fun entry hentry =>
    (nodeTable_respondsOnce env capabilities entry hentry).keepsAllocated
  exact StreamReader.run_follows channel hkeeps server stream reads i

-- ----------------------------------------------------------------------------
-- Which request a response names
-- ----------------------------------------------------------------------------

/-- In every run of the server, the responses to a request name it exactly when
the memory of its context held its sender id, since `process_buffered_data` never
sets that, and a second response, if there is one, still finds the fields in the
freed context. -/
theorem service_correlates_iff (env : Nat → NodeEnv) (capabilities : NodeCapabilities)
    (contextMemory : Nat → Option NodeId) (freed : Nat → RpcAsyncContext) (node : NodeState)
    (sends peerSends : List SendOutcome) (rounds : List (RpcRound NodeState)) :
    let after := serveRounds contextMemory (nodeBuildRpcServiceTable env capabilities) rounds
      (.start node sends peerSends)
    List.Forall₂ (fun header (dispatch : RpcDispatch NodeState) =>
      (∀ frame ∈ responsesTo freed dispatch.context.address after.2.trace,
        RespondsTo header frame) ↔
        contextMemory dispatch.context.address = some header.senderId ∧
          (dispatch.AnsweredOnce ∨ (freed dispatch.context.address).Matches header))
      (servedHeaders contextMemory rounds 0) after.1 := by
  intro after
  have hserves := serveRounds_serves contextMemory (nodeTable_respondsOnce env capabilities)
    rounds (RpcServer.Fresh.start node sends peerSends)
  exact hserves.correlates_iff freed

/-- Node 7 asks for a status on memory that is zero; the response names node 0. -/
theorem service_forgets_sender :
    let node := NodeState.init 1 ⟨true, true, true⟩ 4 (messageQueueInit 4 (by decide))
    let request := rpcPackMessage 7 9 RpcType.request.toByte 0 funcIdGetStatus (Bytes.writeLe64 1)
    let rounds := [⟨.init 5 maxBufferSize, request, node, [.rest], []⟩]
    let after := serveRounds (fun _ => some 0)
      (nodeBuildRpcServiceTable (fun _ => .calm fun _ _ => 0) node.capabilities) rounds
      (.start node [] [])
    ¬List.Forall₂ (fun header (dispatch : RpcDispatch NodeState) =>
      ∀ frame ∈ responsesTo (fun address => ⟨address, .init 5 maxBufferSize, 0, 0, 0⟩)
        dispatch.context.address after.2.trace, RespondsTo header frame)
      (servedHeaders (fun _ => some 0) rounds 0) after.1 := by
  intro node request rounds after h
  rw [← List.forall₂_map_right_iff (f := fun dispatch : RpcDispatch NodeState =>
    responsesTo (fun address => ⟨address, .init 5 maxBufferSize, 0, 0, 0⟩)
      dispatch.context.address after.2.trace) (R := fun header frames =>
    ∀ frame ∈ frames, RespondsTo header frame)] at h
  have hheaders : servedHeaders (fun _ => some 0) rounds 0 =
      [⟨20, 9, 7, 0x10, funcIdGetStatus⟩] := by decide +kernel
  have hframes : (after.1.map fun dispatch =>
      responsesTo (fun address => ⟨address, .init 5 maxBufferSize, 0, 0, 0⟩)
        dispatch.context.address after.2.trace) =
      [[rpcPackMessage 0 9 0x02 0x02 funcIdGetStatus []]] := by decide +kernel
  rw [hheaders, hframes] at h
  obtain ⟨hfirst, -⟩ := List.forall₂_cons.mp h
  have hsender := (hfirst _ (List.mem_singleton_self _)).senderId
  exact absurd hsender (by decide)

-- ----------------------------------------------------------------------------
-- The send buffers
-- ----------------------------------------------------------------------------

/-- The messages packed between two states fit the send buffers they are
packed into. -/
def PacksFit {N : Type} (before after : RpcServer N) : Prop :=
  ∀ channel payloadLen, .pack channel payloadLen ∈ after.trace.drop before.trace.length →
    rpcHeaderSize + payloadLen ≤ channel.txBufferSize

theorem mem_packs : (channel, payloadLen) ∈ packs trace ↔ .pack channel payloadLen ∈ trace := by
  simp only [packs, List.mem_filterMap]
  constructor
  · rintro ⟨event, hmem, hevent⟩
    cases event with
    | pack channel' payloadLen' =>
      cases hevent
      exact hmem
    | _ => cases hevent
  · exact fun hmem => ⟨_, hmem, rfl⟩

theorem packsFit_iff {N : Type} {before after : RpcServer N}
    (h : after.trace = before.trace ++ events) : PacksFit before after ↔
      ∀ p ∈ packs events, rpcHeaderSize + p.2 ≤ p.1.txBufferSize := by
  simp only [PacksFit, h, List.drop_left, Prod.forall, mem_packs]

def responseEvents {N : Type} (context : RpcAsyncContext) (status : RpcStatus)
    (payload : List UInt8) (server : RpcServer N) : List RpcEvent :=
  (rpcSendAsyncResponse context status payload server).2.trace.drop server.trace.length

@[simp] theorem packs_responseEvents {N : Type} (context : RpcAsyncContext) (status : RpcStatus)
    (payload : List UInt8) (server : RpcServer N) :
    packs (responseEvents context status payload server) = [(context.channel, payload.length)] := by
  simp [responseEvents, rpcSendAsyncResponse, packs]

theorem rpcSendAsyncResponse_extends {N : Type} (context : RpcAsyncContext) (status : RpcStatus)
    (payload : List UInt8) {server : RpcServer N} (h : server.trace = trace ++ events) :
    (rpcSendAsyncResponse context status payload server).2.trace =
      trace ++ (events ++ responseEvents context status payload server) := by
  simp [responseEvents, rpcSendAsyncResponse, h]

def handlerPacks (env : NodeEnv) (funcId : UInt8) (state : NodeState) (inData : List UInt8) :
    List (RpcChannel × Nat) :=
  if funcId = funcIdSubmitMessage then submitPacks env state inData
  else if funcId = funcIdAddDag then addDagPacks env state inData
  else []

theorem nodeTable_responds (env : Nat → NodeEnv) (capabilities : NodeCapabilities) :
    ∀ entry ∈ nodeBuildRpcServiceTable env capabilities, ∀ context inData server,
      ∃ replyLen, Responds context server
          (handlerPacks (env context.address) entry.funcId server.node inData) replyLen
          (entry.handler context inData server) ∧
        if entry.funcId = funcIdListDags then
          replyLen = listReplyLen (env context.address) server.node
        else replyLen ≤ 9 := by
  have hshort : ∀ {packed : List (RpcChannel × Nat)} {context : RpcAsyncContext}
      {server : NodeServer} {result : Int × NodeServer},
      (∃ replyLen ≤ 9, Responds context server packed replyLen result) →
        ∃ replyLen, Responds context server packed replyLen result ∧ replyLen ≤ 9 :=
    fun ⟨replyLen, hle, h⟩ => ⟨replyLen, h, hle⟩
  have hanswer : ∀ {context : RpcAsyncContext} {server : NodeServer} {result : Int × NodeServer},
      (∃ replyLen ≤ 9, Answers context server replyLen result) →
        ∃ replyLen, Responds context server [] replyLen result ∧ replyLen ≤ 9 :=
    fun ⟨replyLen, hle, h⟩ => ⟨replyLen, h.responds, hle⟩
  refine List.forall_mem_append.mpr ⟨?_, ?_⟩
  · split
    · simp only [List.forall_mem_cons, List.not_mem_nil, false_imp_iff, implies_true, and_true]
      refine ⟨?_, ?_, ?_, ?_⟩
      · exact fun context inData server =>
          hshort (handleSubmitMessage_responds _ context inData server)
      · exact fun context inData server =>
          hanswer (handleGetExecutionStatus_answers context inData server)
      · exact fun context inData server =>
          ⟨_, (handleListDags_answers _ context inData server).responds, rfl⟩
      · exact fun context inData server =>
          hshort (handleAddDag_responds _ context inData server)
    · simp
  · simp only [List.forall_mem_cons, List.not_mem_nil, false_imp_iff, implies_true, and_true]
    refine ⟨?_, ?_, ?_⟩
    · exact fun context inData server =>
        hanswer (handleProcessMessage_answers _ context inData server)
    · exact fun context inData server =>
        hanswer (handleExecutionUpdate_answers _ context inData server)
    · exact fun context inData server =>
        hanswer (handleSyncCatalog_answers _ context inData server)

theorem nodeTable_find_ingress (env : Nat → NodeEnv) (capabilities : NodeCapabilities)
    (h : funcId ∈ [funcIdSubmitMessage, funcIdListDags, funcIdAddDag]) :
    ((nodeBuildRpcServiceTable env capabilities).find? fun entry =>
      entry.funcId == funcId).isSome = capabilities.hasIngress := by
  simp only [List.mem_cons, List.not_mem_nil, or_false] at h
  unfold nodeBuildRpcServiceTable
  cases capabilities.hasIngress <;> rcases h with rfl | rfl | rfl <;> rfl

theorem dispatchRequest_packsFit {N : Type} {table : List (RpcServiceEntry N)}
    {server : RpcServer N} {context : RpcAsyncContext} {entry : RpcServiceEntry N}
    (hfind : (table.find? fun entry => entry.funcId == context.funcId) = some entry)
    (hresponds : Responds context
      { server with pendingContexts := context :: server.pendingContexts } packed replyLen
      (entry.handler context payload
        { server with pendingContexts := context :: server.pendingContexts }))
    (hchannel : rpcHeaderSize ≤ context.channel.txBufferSize) :
    PacksFit server (dispatchRequest table context payload server).2 ↔
      (∀ p ∈ packed, rpcHeaderSize + p.2 ≤ p.1.txBufferSize) ∧
        rpcHeaderSize + replyLen ≤ context.channel.txBufferSize := by
  obtain ⟨status, reply, quiet, hhandler, hquiet, rfl⟩ := hresponds
  obtain ⟨events, htrace, rfl, -⟩ := hquiet.trace
  have hfirst : (rpcSendAsyncResponse context status reply quiet).2.trace = server.trace ++
      (events ++ responseEvents context status reply quiet) :=
    rpcSendAsyncResponse_extends context status reply htrace
  simp only [dispatchRequest, hfind, hhandler]
  split_ifs
  · rw [packsFit_iff hfirst]
    simp [packs_append, or_imp, forall_and]
  · -- the server answers for the handler with an empty payload
    rw [packsFit_iff (rpcSendAsyncResponse_extends context .internalError [] hfirst)]
    simp [packs_append, or_imp, forall_and, hchannel]

theorem dispatchRequest_packsFit_none {N : Type} {table : List (RpcServiceEntry N)}
    {server : RpcServer N} {context : RpcAsyncContext}
    (hfind : (table.find? fun entry => entry.funcId == context.funcId) = none)
    (hchannel : rpcHeaderSize ≤ context.channel.txBufferSize) :
    PacksFit server (dispatchRequest table context payload server).2 := by
  simp only [dispatchRequest, hfind]
  rw [packsFit_iff rfl]
  simpa [packs] using hchannel

-- ----------------------------------------------------------------------------
-- The requests that overflow a buffer
-- ----------------------------------------------------------------------------

/-- The DAG is added, its encoding fits the scratch buffer but not a send
buffer, and some worker is to get it. -/
def AddDagOverflows (env : NodeEnv) (state : NodeState) (inData : List UInt8) : Prop :=
  ∃ dag, addedDag env state inData = some dag ∧
    maxBufferSize < rpcHeaderSize + dag.serializedSize ∧ dag.serializedSize ≤ syncBufferSize ∧
    ∃ worker ∈ state.aliveWorkers, (state.peerPool.channelTo worker).isSome

/-- A long message is forwarded, a long list of DAGs is sent, or a long DAG is
passed on. -/
def OverflowsBuffer (env : NodeEnv) (funcId : UInt8) (state : NodeState) (inData : List UInt8) :
    Prop :=
  (funcId = funcIdSubmitMessage ∧ 4074 < inData.length ∧
    (submitChannel env state inData).isSome) ∨
  (funcId = funcIdListDags ∧ env.mallocOk ∧ 1020 < state.dagCatalog.dags.length) ∨
  (funcId = funcIdAddDag ∧ AddDagOverflows env state inData)

theorem addedDag_configLen (h : addedDag env state inData = some dag) :
    ∀ i < dag.stepCount, (dag.step i).configLen = 0 := by
  obtain ⟨hparse, -⟩ := Option.filter_eq_some_iff.mp h
  obtain ⟨payload, -, -, -, rfl⟩ := parseAddDag_eq_some.mp hparse
  intro i _
  cases hget : payload.stages[i]? with
  | none => rw [AddDagPayload.dag_step_none hget]; rfl
  | some stage => rw [AddDagPayload.dag_step hget]; rfl

section Overflow

variable {env : NodeEnv} {state : NodeState} {inData : List UInt8}
  (hpeers : ∀ peer ∈ state.peerPool.peers, ∀ channel, peer.dataChannel = some channel →
    channel.txBufferSize = maxBufferSize)

include hpeers

theorem channelTo_size (h : state.peerPool.channelTo nodeId = some channel) :
    channel.txBufferSize = maxBufferSize := by
  rw [PeerPool.channelTo_eq, Option.bind_eq_some_iff] at h
  obtain ⟨peer, hlookup, hchannel⟩ := h
  exact hpeers peer (KeyedList.lookup_mem hlookup) channel hchannel

theorem submitChannel_size (h : submitChannel env state inData = some channel) :
    channel.txBufferSize = maxBufferSize := by
  unfold submitChannel at h
  split at h
  · cases h
  · split at h
    · dsimp only at h
      split at h
      · cases h
      · exact channelTo_size hpeers h
    · cases h

theorem submitPacks_fit :
    (∀ p ∈ submitPacks env state inData, rpcHeaderSize + p.2 ≤ p.1.txBufferSize) ↔
      ¬ (4074 < inData.length ∧ (submitChannel env state inData).isSome) := by
  unfold submitPacks
  cases hchannel : submitChannel env state inData with
  | none => simp
  | some channel =>
    have hsize := submitChannel_size hpeers hchannel
    simp [hsize, maxBufferSize, rpcHeaderSize]
    omega

theorem addDagPacks_fit :
    (∀ p ∈ addDagPacks env state inData, rpcHeaderSize + p.2 ≤ p.1.txBufferSize) ↔
      ¬ AddDagOverflows env state inData := by
  unfold addDagPacks AddDagOverflows
  cases hadded : addedDag env state inData with
  | none => simp
  | some dag =>
    simp only [dagSerialize_length (addedDag_configLen hadded), Option.some.injEq, exists_eq_left']
    by_cases hlarge : syncBufferSize < dag.serializedSize
    · simp [hlarge, Nat.not_le.mpr hlarge]
    · have hpos : dag.serializedSize ≠ 0 := by
        simp [Dag.serializedSize]
      have hle : dag.serializedSize ≤ syncBufferSize := Nat.not_lt.mp hlarge
      simp only [hlarge, hpos, if_false, hle, true_and, List.forall_mem_map, not_and, not_exists]
      constructor
      · rintro hfit hover worker hworker hchannel
        obtain ⟨channel, hchannel⟩ := Option.isSome_iff_exists.mp hchannel
        have hroom := hfit channel (List.mem_filterMap.mpr ⟨worker, hworker, hchannel⟩)
        rw [channelTo_size hpeers hchannel] at hroom
        exact Nat.not_lt.mpr hroom hover
      · intro hnone channel hmem
        obtain ⟨worker, hworker, hchannel⟩ := List.mem_filterMap.mp hmem
        rw [channelTo_size hpeers hchannel]
        exact Nat.not_lt.mp fun hover =>
          hnone hover worker hworker (Option.isSome_iff_exists.mpr ⟨channel, hchannel⟩)

theorem handlerPacks_fit :
    (∀ p ∈ handlerPacks env funcId state inData, rpcHeaderSize + p.2 ≤ p.1.txBufferSize) ↔
      ¬ ((funcId = funcIdSubmitMessage ∧ 4074 < inData.length ∧
          (submitChannel env state inData).isSome) ∨
        (funcId = funcIdAddDag ∧ AddDagOverflows env state inData)) := by
  have hne : funcIdAddDag ≠ funcIdSubmitMessage := by decide
  unfold handlerPacks
  split_ifs with hsubmit hadd
  · subst hsubmit
    simp only [submitPacks_fit hpeers, hne.symm, true_and, false_and, or_false]
  · subst hadd
    simp only [addDagPacks_fit hpeers, hne, true_and, false_and, false_or]
  · simp [hsubmit, hadd]

end Overflow

theorem listReplyLen_fits (env : NodeEnv) (state : NodeState) :
    rpcHeaderSize + listReplyLen env state ≤ maxBufferSize ↔
      ¬ (env.mallocOk ∧ 1020 < state.dagCatalog.dags.length) := by
  unfold listReplyLen
  cases env.mallocOk with
  | false => simp [rpcHeaderSize, maxBufferSize]
  | true =>
    simp only [if_true, true_and, rpcHeaderSize, maxBufferSize, maxDags]
    omega

/-- Of the requests that a node serves, those that overflow a send buffer. -/
theorem service_packsFit_iff (env : Nat → NodeEnv) (capabilities : NodeCapabilities)
    {context : RpcAsyncContext} {server : NodeServer} (payload : List UInt8)
    (hcontext : context.channel.txBufferSize = maxBufferSize)
    (hpeers : ∀ peer ∈ server.node.peerPool.peers, ∀ channel, peer.dataChannel = some channel →
      channel.txBufferSize = maxBufferSize) :
    PacksFit server
        (dispatchRequest (nodeBuildRpcServiceTable env capabilities) context payload server).2 ↔
      ¬ (capabilities.hasIngress ∧
        OverflowsBuffer (env context.address) context.funcId server.node payload) := by
  have hchannel : rpcHeaderSize ≤ context.channel.txBufferSize := hcontext ▸ by decide
  have hingress : OverflowsBuffer (env context.address) context.funcId server.node payload →
      context.funcId ∈ [funcIdSubmitMessage, funcIdListDags, funcIdAddDag] := by
    rintro (⟨h, -⟩ | ⟨h, -⟩ | ⟨h, -⟩) <;> simp [h]
  cases hfind : (nodeBuildRpcServiceTable env capabilities).find? fun entry =>
      entry.funcId == context.funcId with
  | none =>
    refine iff_of_true (dispatchRequest_packsFit_none hfind hchannel) ?_
    rintro ⟨hserved, hover⟩
    have hfound := nodeTable_find_ingress env capabilities (hingress hover)
    rw [hfind, hserved] at hfound
    cases hfound
  | some entry =>
    have hfunc : entry.funcId = context.funcId := by simpa using List.find?_some hfind
    obtain ⟨replyLen, hresponds, hlen⟩ := nodeTable_responds env capabilities entry
      (List.mem_of_find?_eq_some hfind) context payload
      { server with pendingContexts := context :: server.pendingContexts }
    have hserved : OverflowsBuffer (env context.address) context.funcId server.node payload →
        capabilities.hasIngress = true := fun hover => by
      rw [← nodeTable_find_ingress env capabilities (hingress hover), hfind]
      rfl
    rw [dispatchRequest_packsFit hfind hresponds hchannel, handlerPacks_fit hpeers, hcontext,
      and_iff_right_of_imp hserved, hfunc]
    rw [hfunc] at hlen
    unfold OverflowsBuffer
    by_cases hlist : context.funcId = funcIdListDags
    · rw [if_pos hlist] at hlen
      rw [hlen, listReplyLen_fits]
      simp only [hlist, true_and]
      rw [← not_or, or_right_comm, or_assoc]
    · rw [if_neg hlist] at hlen
      have hshort : rpcHeaderSize + replyLen ≤ maxBufferSize :=
        (Nat.add_le_add_left hlen rpcHeaderSize).trans (by decide)
      simp only [hshort, hlist, false_and, false_or, and_true]

def routingNode : NodeServer :=
  let state := NodeState.init 1 ⟨true, false, true⟩ 4 shortQueue
  let payload : AddDagPayload := ⟨0x01010101, [], 1, [⟨7, 0, []⟩]⟩
  .start { state with
    dagCatalog := (dagCatalogAdd (fun _ => true) state.dagCatalog (payload.dag 1000)).2
    peerPool := connectPeer 2 [] 0 0 (some (.init 6 maxBufferSize)) (peerPoolInit maxPeers) }
    [.rest] [.rest]

theorem routingNode_peers : ∀ peer ∈ routingNode.node.peerPool.peers, ∀ channel,
    peer.dataChannel = some channel → channel.txBufferSize = maxBufferSize := by
  intro peer hpeer channel hchannel
  obtain rfl := List.mem_singleton.mp hpeer
  obtain rfl := Option.some.inj hchannel
  rfl

def submitContext : RpcAsyncContext := { clientContext with funcId := funcIdSubmitMessage }

theorem service_packsFit_short : PacksFit routingNode
    (dispatchRequest (nodeBuildRpcServiceTable (fun _ => .calm fun _ _ => 0) ⟨true, false, true⟩)
      submitContext (List.replicate 8 1) routingNode).2 := by
  refine (service_packsFit_iff _ _ _ rfl routingNode_peers).mpr ?_
  rintro ⟨-, ⟨-, hlong, -⟩ | ⟨hfunc, -⟩ | ⟨hfunc, -⟩⟩
  · exact absurd hlong (by decide)
  · exact absurd hfunc (by decide)
  · exact absurd hfunc (by decide)

/-- The longest request that is admitted, forwarded to the worker. -/
theorem service_overflow :
    let payload := List.replicate 4084 1
    let after := (dispatchRequest
      (nodeBuildRpcServiceTable (fun _ => .calm fun _ _ => 0) ⟨true, false, true⟩)
      submitContext payload routingNode).2
    rpcHeaderSize + payload.length = maxBufferSize ∧
      packs after.trace = [(.init 6 maxBufferSize, 4094), (.init 5 maxBufferSize, 9)] ∧
      ¬ PacksFit routingNode after := by
  intro payload after
  have hpacks : packs after.trace =
      [(.init 6 maxBufferSize, 4094), (.init 5 maxBufferSize, 9)] := by decide +kernel
  refine ⟨by decide +kernel, hpacks, fun hfit => ?_⟩
  have hpacked : .pack (.init 6 maxBufferSize) 4094 ∈ after.trace :=
    mem_packs.mp (hpacks ▸ List.mem_cons_self)
  exact Nat.not_lt.mpr (hfit (.init 6 maxBufferSize) 4094 hpacked) (by decide)

end Roole
