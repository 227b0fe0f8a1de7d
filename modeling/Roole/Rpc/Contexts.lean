import Roole.Rpc.Server

/-!
# The life of a request context

A context is allocated for each request, linked into the pending list while its
handler runs, and unlinked and freed by `rpc_send_async_response`. This module
follows the contexts through `process_buffered_data` for any table whose
handlers respond once on every path.
-/

namespace Roole

variable {N : Type}

-- ----------------------------------------------------------------------------
-- Events
-- ----------------------------------------------------------------------------

def RpcEvent.concerns (address : Nat) : RpcEvent → Bool
  | .respond context _ _ => context.address == address
  | .free freed => freed == address
  | .pack _ _ => false
  | .sent _ _ => false
  | .request _ _ _ => false

def contextEvents (address : Nat) (trace : List RpcEvent) : List RpcEvent :=
  trace.filter (RpcEvent.concerns address)

def packs (trace : List RpcEvent) : List (RpcChannel × Nat) :=
  trace.filterMap fun event =>
    match event with
    | .pack channel payloadLen => some (channel, payloadLen)
    | _ => none

@[simp] theorem contextEvents_append (address : Nat) (trace trace' : List RpcEvent) :
    contextEvents address (trace ++ trace') =
      contextEvents address trace ++ contextEvents address trace' := List.filter_append ..

@[simp] theorem packs_append (trace trace' : List RpcEvent) :
    packs (trace ++ trace') = packs trace ++ packs trace' := List.filterMap_append ..

/-- What a handler may do before it responds: nothing that touches a context. -/
structure Quiet (before after : RpcServer N) (packed : List (RpcChannel × Nat)) : Prop where
  pendingContexts : after.pendingContexts = before.pendingContexts
  allocated : after.allocated = before.allocated
  sends : after.sends = before.sends
  trace : ∃ events, after.trace = before.trace ++ events ∧ packs events = packed ∧
    ∀ address, contextEvents address events = []

namespace Quiet

theorem refl (server : RpcServer N) : Quiet server server [] :=
  ⟨rfl, rfl, rfl, [], by simp, rfl, fun _ => rfl⟩

theorem setNode {server : RpcServer N} (h : Quiet before server packed) (node : N) :
    Quiet before (server.setNode node) packed :=
  ⟨h.pendingContexts, h.allocated, h.sends, h.trace⟩

theorem trans {a b c : RpcServer N} (h : Quiet a b packed) (h' : Quiet b c packed') :
    Quiet a c (packed ++ packed') := by
  obtain ⟨events, htrace, hpacks, hnone⟩ := h.trace
  obtain ⟨events', htrace', hpacks', hnone'⟩ := h'.trace
  refine ⟨h'.pendingContexts.trans h.pendingContexts, h'.allocated.trans h.allocated,
    h'.sends.trans h.sends, events ++ events', ?_, ?_, ?_⟩
  · rw [htrace', htrace, List.append_assoc]
  · rw [packs_append, hpacks, hpacks']
  · intro address
    rw [contextEvents_append, hnone, hnone', List.append_nil]

theorem sendToPeer (peer : NodeId) (channel : RpcChannel) (nodeId : NodeId) (requestId : UInt32)
    (funcId : UInt8) (payload : List UInt8) (server : RpcServer N) :
    Quiet server (sendToPeer peer channel nodeId requestId funcId payload server).2
      [(channel, payload.length)] :=
  ⟨rfl, rfl, rfl, _, rfl, rfl, fun _ => rfl⟩

end Quiet

def Responds (context : RpcAsyncContext) (server : RpcServer N)
    (packed : List (RpcChannel × Nat)) (replyLen : Nat) (result : Int × RpcServer N) : Prop :=
  ∃ status reply quiet, result = rpcSendAsyncResponse context status reply quiet ∧
    Quiet server quiet packed ∧ reply.length = replyLen

theorem Responds.respond (h : Quiet server quiet packed) (context : RpcAsyncContext)
    (status : RpcStatus) (reply : List UInt8) :
    Responds context server packed reply.length
      (rpcSendAsyncResponse context status reply quiet) :=
  ⟨status, reply, quiet, rfl, h, rfl⟩

def Answers (context : RpcAsyncContext) (server : RpcServer N) (replyLen : Nat)
    (result : Int × RpcServer N) : Prop :=
  ∃ status reply node, result = rpcSendAsyncResponse context status reply (server.setNode node) ∧
    reply.length = replyLen

theorem Answers.respond (context : RpcAsyncContext) (status : RpcStatus) (reply : List UInt8)
    (server : RpcServer N) (node : N) : Answers context server reply.length
      (rpcSendAsyncResponse context status reply (server.setNode node)) :=
  ⟨status, reply, node, rfl, rfl⟩

theorem Answers.responds {server : RpcServer N} (h : Answers context server replyLen result) :
    Responds context server [] replyLen result := by
  obtain ⟨status, reply, node, hresult, hlen⟩ := h
  exact ⟨status, reply, server.setNode node, hresult, (Quiet.refl server).setNode node, hlen⟩

/-- On every path the handler responds once, with less than four gigabytes. -/
def RespondsOnce (handler : RpcHandler N) : Prop :=
  ∀ context payload server, ∃ packed replyLen, rpcHeaderSize + replyLen < 2 ^ 32 ∧
    Responds context server packed replyLen (handler context payload server)

-- ----------------------------------------------------------------------------
-- Sending a response
-- ----------------------------------------------------------------------------

/-- The kernel takes the whole of the next response: no call of `send` fails
before one has taken the last byte. -/
def answersAccept : List SendOutcome → Bool
  | [] => false
  | .rest :: _ => true
  | .failed :: _ => false
  | .interrupted :: sends => answersAccept sends
  | .short _ :: sends => answersAccept sends

theorem short_left_pos (n left : Nat) : 0 < left + 1 - min (n + 1) left :=
  Nat.sub_pos_of_lt (Nat.lt_succ_of_le (min_le_right _ _))

theorem sendResponse_fst (sends : List SendOutcome) (hleft : 0 < left) :
    (sendResponse sends left).1 = answersAccept sends := by
  fun_induction sendResponse sends left with
  | case1 => cases hleft
  | case3 sends left ih => exact ih hleft
  | case4 n sends left taken ok sent after hsent ih =>
    rw [hsent] at ih
    exact ih (short_left_pos n left)
  | _ => rfl

theorem rpcSendAsyncResponse_fst (h : rpcHeaderSize + payload.length < 2 ^ 32)
    (context : RpcAsyncContext) (status : RpcStatus) (server : RpcServer N) :
    (rpcSendAsyncResponse context status payload server).1 =
      if answersAccept server.sends then 0 else -1 := by
  have hpos : 0 < (rpcTotalLen payload.length).toNat := by
    rw [rpcTotalLen_toNat h]
    exact Nat.lt_of_lt_of_le (by decide) (Nat.le_add_right rpcHeaderSize _)
  simp only [rpcSendAsyncResponse, sendResponse_fst _ hpos]

theorem rpcSendAsyncResponse_events (address : Nat) (context : RpcAsyncContext)
    (status : RpcStatus) (payload : List UInt8) (server : RpcServer N) :
    contextEvents address (rpcSendAsyncResponse context status payload server).2.trace =
      contextEvents address server.trace ++
        if context.address = address then [.respond context status payload, .free context.address]
        else [] := by
  simp only [rpcSendAsyncResponse, contextEvents_append]
  congr 1
  split_ifs with h
  · simp [contextEvents, RpcEvent.concerns, h]
  · simp [contextEvents, RpcEvent.concerns, h]

theorem rpcRemoveContext_self (context : RpcAsyncContext) (pending : List RpcAsyncContext) :
    rpcRemoveContext context (context :: pending) = pending := by
  simp [rpcRemoveContext]

theorem rpcRemoveContext_absent (h : ∀ other ∈ pending, other.address ≠ context.address) :
    rpcRemoveContext context pending = pending := by
  refine List.eraseP_of_forall_not fun other hother => ?_
  simpa using h other hother

-- ----------------------------------------------------------------------------
-- Dispatching
-- ----------------------------------------------------------------------------

structure RpcServer.Fresh (server : RpcServer N) : Prop where
  pending : ∀ context ∈ server.pendingContexts, context.address < server.allocated
  trace : ∀ address, server.allocated ≤ address → contextEvents address server.trace = []

theorem RpcServer.Fresh.start (node : N) (sends peerSends : List SendOutcome) :
    (RpcServer.start node sends peerSends).Fresh := ⟨by simp [RpcServer.start], fun _ _ => rfl⟩

/-- The response is sent once and the context freed once; it is used by nothing
else, and no longer linked into the pending list. -/
def SettledOnce (context : RpcAsyncContext) (server : RpcServer N) : Prop :=
  (∃ status reply, contextEvents context.address server.trace =
    [.respond context status reply, .free context.address]) ∧
  ∀ other ∈ server.pendingContexts, other.address ≠ context.address

theorem SettledOnce.length {server : RpcServer N} (h : SettledOnce context server) :
    (contextEvents context.address server.trace).length = 2 := by
  obtain ⟨⟨status, reply, hevents⟩, -⟩ := h
  rw [hevents]
  rfl

/-- What the dispatch of one request does to all contexts. -/
structure DispatchEffect (before after : RpcServer N) (dispatch : RpcDispatch N) : Prop where
  address : dispatch.context.address = before.allocated
  pendingContexts : after.pendingContexts = before.pendingContexts
  allocated : after.allocated = before.allocated + 1
  others : ∀ address ≠ before.allocated,
    contextEvents address after.trace = contextEvents address before.trace
  handled : dispatch.entry.isSome → ∃ status reply,
    contextEvents dispatch.context.address after.trace =
      [.respond dispatch.context status reply, .free dispatch.context.address] ++
        if answersAccept dispatch.server.sends then []
        else [.respond dispatch.context .internalError [], .free dispatch.context.address]

theorem dispatchRequest_effect {table : List (RpcServiceEntry N)} {server : RpcServer N}
    (htable : ∀ entry ∈ table, RespondsOnce entry.handler) (hfresh : server.Fresh)
    {context : RpcAsyncContext} (hcontext : context.address = server.allocated)
    (payload : List UInt8) :
    let result := dispatchRequest table context payload
      { server with allocated := server.allocated + 1 }
    DispatchEffect server result.2 result.1 := by
  have habsent : ∀ other ∈ server.pendingContexts, other.address ≠ context.address :=
    fun other hother => hcontext ▸ (hfresh.pending other hother).ne
  have hself := hfresh.trace context.address hcontext.ge
  unfold dispatchRequest
  split
  · rename_i entry hfind
    obtain ⟨packed, replyLen, hlen, status, reply, quiet, hhandler, hquiet, rfl⟩ :=
      htable entry (List.mem_of_find?_eq_some hfind) context payload
        { server with
          allocated := server.allocated + 1
          pendingContexts := context :: server.pendingContexts }
    obtain ⟨events, htrace, -, hnone⟩ := hquiet.trace
    have hevents : ∀ address, contextEvents address quiet.trace =
        contextEvents address server.trace := fun address => by
      rw [htrace, contextEvents_append, hnone, List.append_nil]
    have hremoved : rpcRemoveContext context quiet.pendingContexts = server.pendingContexts := by
      rw [hquiet.pendingContexts, rpcRemoveContext_self]
    have hfirst := rpcSendAsyncResponse_fst hlen context status quiet
    rw [hquiet.sends] at hfirst
    simp only [hhandler, hfirst]
    cases haccept : answersAccept server.sends with
    | true =>
      refine ⟨hcontext, hremoved, hquiet.allocated, fun address hne => ?_, fun _ => ?_⟩
      · simp [rpcSendAsyncResponse_events, hevents, hcontext, hne.symm]
      · exact ⟨status, reply, by simp [rpcSendAsyncResponse_events, hevents, hself, haccept]⟩
    | false =>
      refine ⟨hcontext, ?_, hquiet.allocated, fun address hne => ?_, fun _ => ?_⟩
      · -- the second response finds the context already unlinked
        simp [rpcSendAsyncResponse, hremoved, rpcRemoveContext_absent habsent]
      · simp [rpcSendAsyncResponse_events, hevents, hcontext, hne.symm]
      · exact ⟨status, reply, by simp [rpcSendAsyncResponse_events, hevents, hself, haccept]⟩
  · refine ⟨hcontext, rpcRemoveContext_absent habsent, rfl, fun address hne => ?_, by simp⟩
    simp [rpcSendAsyncResponse_events, hcontext, hne.symm]

structure RunEffect (before after : RpcServer N) (dispatches : List (RpcDispatch N)) : Prop where
  pendingContexts : after.pendingContexts = before.pendingContexts
  allocated : before.allocated ≤ after.allocated
  others : ∀ address, address < before.allocated ∨ after.allocated ≤ address →
    contextEvents address after.trace = contextEvents address before.trace
  address : ∀ dispatch ∈ dispatches, before.allocated ≤ dispatch.context.address ∧
    dispatch.context.address < after.allocated
  handled : ∀ dispatch ∈ dispatches, dispatch.entry.isSome → ∃ status reply,
    contextEvents dispatch.context.address after.trace =
      [.respond dispatch.context status reply, .free dispatch.context.address] ++
        if answersAccept dispatch.server.sends then []
        else [.respond dispatch.context .internalError [], .free dispatch.context.address]

namespace RunEffect

theorem refl (server : RpcServer N) : RunEffect server server [] :=
  ⟨rfl, le_refl _, fun _ _ => rfl, by simp, by simp⟩

theorem single (h : DispatchEffect before after dispatch) : RunEffect before after [dispatch] := by
  have hnext : after.allocated = before.allocated + 1 := h.allocated
  refine ⟨h.pendingContexts, by omega, fun address houtside => h.others address (by omega), ?_, ?_⟩
  · simp [h.address, hnext]
  · simpa using h.handled

theorem append (h : RunEffect before middle dispatches) (h' : RunEffect middle after later) :
    RunEffect before after (dispatches ++ later) := by
  have hle := h.allocated
  have hle' := h'.allocated
  refine ⟨h'.pendingContexts.trans h.pendingContexts, hle.trans hle', ?_, ?_, ?_⟩
  · rintro address houtside
    rw [h'.others address (by omega), h.others address (by omega)]
  · refine List.forall_mem_append.mpr ⟨fun d hd => ?_, fun d hd => ?_⟩
    · have haddress := h.address d hd
      omega
    · have haddress := h'.address d hd
      omega
  · refine List.forall_mem_append.mpr ⟨fun d hd hentry => ?_, h'.handled⟩
    rw [h'.others _ (.inl (h.address d hd).2)]
    exact h.handled d hd hentry

theorem fresh (h : RunEffect before after dispatches) (hfresh : before.Fresh) : after.Fresh where
  pending := fun context hcontext => by
    rw [h.pendingContexts] at hcontext
    exact (hfresh.pending context hcontext).trans_le h.allocated
  trace := fun address haddress => by
    rw [h.others address (.inr haddress), hfresh.trace address (h.allocated.trans haddress)]

theorem settled_iff (h : RunEffect before after dispatches) (hfresh : before.Fresh)
    (hdispatch : dispatch ∈ dispatches) (hentry : dispatch.entry.isSome) :
    SettledOnce dispatch.context after ↔ answersAccept dispatch.server.sends = true := by
  obtain ⟨status, reply, hevents⟩ := h.handled dispatch hdispatch hentry
  have habsent : ∀ other ∈ after.pendingContexts, other.address ≠ dispatch.context.address := by
    rw [h.pendingContexts]
    intro other hother
    exact ((hfresh.pending other hother).trans_le (h.address dispatch hdispatch).1).ne
  cases haccept : answersAccept dispatch.server.sends with
  | true =>
    simp only [haccept, if_true, List.append_nil] at hevents
    exact iff_of_true ⟨⟨status, reply, hevents⟩, habsent⟩ rfl
  | false =>
    simp only [haccept, Bool.false_eq_true, if_false] at hevents
    refine iff_of_false (fun hsettled => ?_) (by simp)
    have hlen := hsettled.length
    rw [hevents] at hlen
    cases hlen

end RunEffect

-- ----------------------------------------------------------------------------
-- Runs
-- ----------------------------------------------------------------------------

section Runs

variable {table : List (RpcServiceEntry N)} (contextMemory : Nat → Option NodeId)

theorem processLoop_effect (htable : ∀ entry ∈ table, RespondsOnce entry.handler)
    (channel : RpcChannel) (fuel : Nat) (bytes : List UInt8) {server : RpcServer N}
    (hfresh : server.Fresh) :
    let after := processLoop contextMemory table channel fuel bytes server
    RunEffect server after.2.2 after.2.1 := by
  induction fuel generalizing bytes server with
  | zero => exact .refl server
  | succ fuel ih =>
    unfold processLoop
    split
    · exact .refl server
    split
    · exact .refl server
    dsimp only
    split
    · exact .refl server
    split
    · exact .refl server
    · have heffect := fun (context : RpcAsyncContext) (hcontext : context.address = _) payload =>
        RunEffect.single (dispatchRequest_effect htable hfresh hcontext payload)
      exact (heffect _ rfl _).append (ih _ ((heffect _ rfl _).fresh hfresh))

theorem processBufferedData_effect (htable : ∀ entry ∈ table, RespondsOnce entry.handler)
    (channel : RpcChannel) (rxData : List UInt8) {server : RpcServer N} (hfresh : server.Fresh) :
    let after := processBufferedData contextMemory channel (some table) rxData server
    RunEffect server after.2.2 after.2.1 := by
  have heffect : RunEffect server _ _ :=
    processLoop_effect contextMemory htable channel (rxData.length + 1) rxData hfresh
  rcases hloop : processLoop contextMemory table channel (rxData.length + 1) rxData server with
    ⟨exit, dispatches, after⟩
  rw [hloop] at heffect
  cases exit <;> simpa [processBufferedData, hloop] using heffect

/-- A call of `process_buffered_data`. Since the call before, other threads may
have changed the node, and the kernel answers as it likes. -/
structure RpcRound (N : Type) where
  channel : RpcChannel
  rxData : List UInt8
  node : N
  sends : List SendOutcome
  peerSends : List SendOutcome

def RpcRound.enter (round : RpcRound N) (server : RpcServer N) : RpcServer N :=
  { server with node := round.node, sends := round.sends, peerSends := round.peerSends }

def serveRounds (table : List (RpcServiceEntry N)) :
    List (RpcRound N) → RpcServer N → List (RpcDispatch N) × RpcServer N
  | [], server => ([], server)
  | round :: rounds, server =>
    let (_, dispatches, server) := processBufferedData contextMemory round.channel (some table)
      round.rxData (round.enter server)
    let (later, server) := serveRounds table rounds server
    (dispatches ++ later, server)

theorem serveRounds_effect (htable : ∀ entry ∈ table, RespondsOnce entry.handler)
    (rounds : List (RpcRound N)) {server : RpcServer N} (hfresh : server.Fresh) :
    RunEffect server (serveRounds contextMemory table rounds server).2
      (serveRounds contextMemory table rounds server).1 := by
  induction rounds generalizing server with
  | nil => exact .refl server
  | cons round rounds ih =>
    have henter : (round.enter server).Fresh := ⟨hfresh.pending, hfresh.trace⟩
    have hround := processBufferedData_effect contextMemory htable round.channel round.rxData henter
    have hlater := ih (hround.fresh henter)
    exact ⟨(hround.append hlater).pendingContexts, (hround.append hlater).allocated,
      (hround.append hlater).others, (hround.append hlater).address,
      (hround.append hlater).handled⟩

end Runs
end Roole
