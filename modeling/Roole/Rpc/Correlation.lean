import Mathlib.Data.List.Forall2
import Roole.Rpc.Contexts
import Roole.Rpc.Stream

/-!
# Which request a response answers

A client finds the request of a response by the fields of its header. They pass
from the header of the request through the context into `rpc_pack_message`: the
request id and the function id are copied, the sender id is whatever stood in the
memory of the context, and a response on a freed context takes what stands there
then.
-/

namespace Roole

open Framing

variable {N : Type}

/-- The header of a response with this header's request id, function id and
sender id. -/
structure RespondsTo (header : RpcHeader) (frame : List UInt8) : Prop where
  type : (RpcHeader.read frame).typeAndStatus >>> 4 = RpcType.response.toByte
  requestId : (RpcHeader.read frame).requestId = header.requestId
  funcId : (RpcHeader.read frame).funcId = header.funcId
  senderId : (RpcHeader.read frame).senderId = header.senderId

def RpcAsyncContext.response (context : RpcAsyncContext) (status : RpcStatus)
    (payload : List UInt8) : List UInt8 :=
  rpcPackMessage context.senderId context.requestId RpcType.response.toByte status.toByte
    context.funcId payload

def RpcAsyncContext.Matches (context : RpcAsyncContext) (header : RpcHeader) : Prop :=
  context.requestId = header.requestId ∧ context.funcId = header.funcId ∧
    context.senderId = header.senderId

instance (context : RpcAsyncContext) (header : RpcHeader) : Decidable (context.Matches header) :=
  inferInstanceAs (Decidable (_ ∧ _))

theorem rpcTypeStatus_type (type : RpcType) (status : RpcStatus) :
    rpcTypeStatus type.toByte status.toByte >>> 4 = type.toByte := by
  cases type <;> cases status <;> decide

theorem respondsTo_response (context : RpcAsyncContext) (header : RpcHeader) (status : RpcStatus)
    (payload : List UInt8) :
    RespondsTo header (context.response status payload) ↔ context.Matches header := by
  have hread := RpcHeader.read_pack context.senderId context.requestId RpcType.response.toByte
    status.toByte context.funcId payload
  constructor
  · rintro ⟨-, hrequest, hfunc, hsender⟩
    rw [RpcAsyncContext.response, hread] at hrequest hfunc hsender
    exact ⟨hrequest, hfunc, hsender⟩
  · rintro ⟨hrequest, hfunc, hsender⟩
    refine ⟨?_, ?_, ?_, ?_⟩ <;> rw [RpcAsyncContext.response, hread]
    · exact rpcTypeStatus_type .response status
    · exact hrequest
    · exact hfunc
    · exact hsender

def responseFrames (freed : RpcAsyncContext) : Bool → List RpcEvent → List (List UInt8)
  | _, [] => []
  | isFreed, .respond context status payload :: events =>
    (if isFreed then freed else context).response status payload ::
      responseFrames freed isFreed events
  | _, .free _ :: events => responseFrames freed true events
  | isFreed, .pack _ _ :: events => responseFrames freed isFreed events
  | isFreed, .sent _ _ :: events => responseFrames freed isFreed events
  | isFreed, .request _ _ _ :: events => responseFrames freed isFreed events

def responsesTo (freed : Nat → RpcAsyncContext) (address : Nat) (trace : List RpcEvent) :
    List (List UInt8) :=
  responseFrames (freed address) false (contextEvents address trace)

-- ----------------------------------------------------------------------------
-- The answers to one request
-- ----------------------------------------------------------------------------

/-- The dispatch needs no second response. -/
def RpcDispatch.AnsweredOnce (dispatch : RpcDispatch N) : Prop :=
  dispatch.entry = none ∨ answersAccept dispatch.server.sends = true

structure RpcDispatch.Answered (dispatch : RpcDispatch N) (trace : List RpcEvent) : Prop where
  once : dispatch.AnsweredOnce → ∃ status reply, contextEvents dispatch.context.address trace =
    [.respond dispatch.context status reply, .free dispatch.context.address]
  twice : ¬dispatch.AnsweredOnce → ∃ status reply, contextEvents dispatch.context.address trace =
    [.respond dispatch.context status reply, .free dispatch.context.address,
      .respond dispatch.context .internalError [], .free dispatch.context.address]

theorem RpcDispatch.Answered.congr {dispatch : RpcDispatch N} (h : dispatch.Answered trace)
    (hsame : contextEvents dispatch.context.address trace' =
      contextEvents dispatch.context.address trace) : dispatch.Answered trace' where
  once := fun honce => by simpa only [hsame] using h.once honce
  twice := fun htwice => by simpa only [hsame] using h.twice htwice

theorem RpcDispatch.Answered.correlates_iff {dispatch : RpcDispatch N}
    (h : dispatch.Answered trace) (freed : Nat → RpcAsyncContext) (header : RpcHeader) :
    (∀ frame ∈ responsesTo freed dispatch.context.address trace, RespondsTo header frame) ↔
      dispatch.context.Matches header ∧
        (dispatch.AnsweredOnce ∨ (freed dispatch.context.address).Matches header) := by
  unfold responsesTo
  by_cases honce : dispatch.AnsweredOnce
  · obtain ⟨status, reply, hevents⟩ := h.once honce
    simp [hevents, responseFrames, respondsTo_response, honce]
  · obtain ⟨status, reply, hevents⟩ := h.twice honce
    simp [hevents, responseFrames, respondsTo_response, honce]

section

variable {table : List (RpcServiceEntry N)} {server : RpcServer N} {context : RpcAsyncContext}

@[simp] theorem dispatchRequest_context (table : List (RpcServiceEntry N))
    (context : RpcAsyncContext) (payload : List UInt8) (server : RpcServer N) :
    (dispatchRequest table context payload server).1.context = context := by
  unfold dispatchRequest
  split <;> rfl

theorem dispatchRequest_answered (htable : ∀ entry ∈ table, RespondsOnce entry.handler)
    (hfresh : server.Fresh) (hcontext : context.address = server.allocated)
    (payload : List UInt8) :
    let result := dispatchRequest table context payload
      { server with allocated := server.allocated + 1 }
    result.1.Answered result.2.trace := by
  intro result
  have heffect : DispatchEffect server result.2 result.1 :=
    dispatchRequest_effect htable hfresh hcontext payload
  cases hfind : table.find? fun entry => entry.funcId == context.funcId with
  | some entry =>
    have hentry : result.1.entry = some entry := by simp [result, dispatchRequest, hfind]
    obtain ⟨status, reply, hevents⟩ := heffect.handled (by simp [hentry])
    cases haccept : answersAccept result.1.server.sends with
    | true => exact ⟨fun _ => ⟨status, reply, by simpa [haccept] using hevents⟩,
        fun htwice => absurd (.inr haccept) htwice⟩
    | false =>
      refine ⟨?_, fun _ => ⟨status, reply, by simpa [haccept] using hevents⟩⟩
      rintro (hnone | htrue)
      · cases hentry.symm.trans hnone
      · cases haccept.symm.trans htrue
  | none =>
    have hresult : result = (⟨none, context, payload, { server with
          allocated := server.allocated + 1 }⟩,
        (rpcSendAsyncResponse context .funcNotFound []
          { server with allocated := server.allocated + 1 }).2) := by
      simp [result, dispatchRequest, hfind]
    have hself := hfresh.trace context.address hcontext.ge
    refine ⟨fun _ => ⟨.funcNotFound, [], ?_⟩, fun htwice => absurd (.inl ?_) htwice⟩
    · simp [hresult, rpcSendAsyncResponse_events, hself]
    · simp [hresult]

end

-- ----------------------------------------------------------------------------
-- Runs
-- ----------------------------------------------------------------------------

section Runs

variable (contextMemory : Nat → Option NodeId)

def loopHeaders : Nat → List UInt8 → Nat → List RpcHeader
  | 0, _, _ => []
  | fuel + 1, bytes, allocated =>
    match rpcFront bytes with
    | .frame frame size =>
      if (contextMemory allocated).isSome then
        frame.header :: loopHeaders fuel (bytes.drop size) (allocated + 1)
      else []
    | _ => []

def servedHeaders : List (RpcRound N) → Nat → List RpcHeader
  | [], _ => []
  | round :: rounds, allocated =>
    let headers := loopHeaders contextMemory (round.rxData.length + 1) round.rxData allocated
    headers ++ servedHeaders rounds (allocated + headers.length)

structure FilledFrom (header : RpcHeader) (context : RpcAsyncContext) : Prop where
  requestId : context.requestId = header.requestId
  funcId : context.funcId = header.funcId
  senderId : contextMemory context.address = some context.senderId

theorem FilledFrom.matches_iff (h : FilledFrom contextMemory header context) :
    context.Matches header ↔ contextMemory context.address = some header.senderId := by
  simp [RpcAsyncContext.Matches, h.requestId, h.funcId, h.senderId]

/-- Each header's request is dispatched with a context filled from it, and
answered. -/
structure Serves (before after : RpcServer N) (headers : List RpcHeader)
    (dispatches : List (RpcDispatch N)) : Prop extends RunEffect before after dispatches where
  count : after.allocated = before.allocated + headers.length
  filled : List.Forall₂ (fun header (dispatch : RpcDispatch N) =>
    FilledFrom contextMemory header dispatch.context) headers dispatches
  answered : ∀ dispatch ∈ dispatches, dispatch.Answered after.trace

variable {contextMemory}

theorem Serves.refl (server : RpcServer N) : Serves contextMemory server server [] [] :=
  ⟨.refl server, rfl, .nil, by simp⟩

theorem Serves.append (h : Serves contextMemory before middle headers dispatches)
    (h' : Serves contextMemory middle after headers' dispatches') :
    Serves contextMemory before after (headers ++ headers') (dispatches ++ dispatches') := by
  refine ⟨h.toRunEffect.append h'.toRunEffect, ?_, List.rel_append h.filled h'.filled, ?_⟩
  · rw [h'.count, h.count, List.length_append, Nat.add_assoc]
  · refine List.forall_mem_append.mpr ⟨fun dispatch hdispatch => ?_, h'.answered⟩
    have hearlier := (h.address dispatch hdispatch).2
    exact (h.answered dispatch hdispatch).congr (h'.others _ (.inl hearlier))

variable {table : List (RpcServiceEntry N)}

theorem dispatchRequest_serves (htable : ∀ entry ∈ table, RespondsOnce entry.handler)
    {server : RpcServer N} (hfresh : server.Fresh) (context : RpcAsyncContext)
    (hcontext : context.address = server.allocated)
    (hfilled : FilledFrom contextMemory header context) (payload : List UInt8) :
    let result := dispatchRequest table context payload
      { server with allocated := server.allocated + 1 }
    Serves contextMemory server result.2 [header] [result.1] := by
  intro result
  have heffect : DispatchEffect server result.2 result.1 :=
    dispatchRequest_effect htable hfresh hcontext payload
  refine ⟨.single heffect, heffect.allocated, .cons ?_ .nil, ?_⟩
  · simpa [result] using hfilled
  · simpa using dispatchRequest_answered htable hfresh hcontext payload

theorem processLoop_stop {server : RpcServer N}
    (h : ∀ frame size, rpcFront bytes = .frame frame size →
      contextMemory server.allocated = none) (channel : RpcChannel) (fuel : Nat) :
    (processLoop contextMemory table channel (fuel + 1) bytes server).2 = ([], server) := by
  unfold processLoop
  unfold rpcFront at h
  split_ifs at h ⊢ with hshort
  · rfl
  · cases hheader : rpcUnpackHeader bytes with
    | none => rfl
    | some header =>
      simp only [hheader] at h ⊢
      split_ifs at h ⊢ with hpartial
      · rfl
      · simp [h _ _ rfl]

theorem processLoop_serves (htable : ∀ entry ∈ table, RespondsOnce entry.handler)
    (channel : RpcChannel) (fuel : Nat) (bytes : List UInt8) {server : RpcServer N}
    (hfresh : server.Fresh) :
    let after := processLoop contextMemory table channel fuel bytes server
    Serves contextMemory server after.2.2
      (loopHeaders contextMemory fuel bytes server.allocated) after.2.1 := by
  induction fuel generalizing bytes server with
  | zero => exact .refl server
  | succ fuel ih =>
    by_cases hnext : ∀ frame size, rpcFront bytes = .frame frame size →
        contextMemory server.allocated = none
    · have hheaders : loopHeaders contextMemory (fuel + 1) bytes server.allocated = [] := by
        unfold loopHeaders
        cases hfront : rpcFront bytes with
        | frame frame size => simp [hnext frame size hfront]
        | _ => rfl
      intro after
      have hafter : after.2 = ([], server) := processLoop_stop hnext channel fuel
      rw [hheaders, hafter]
      exact .refl server
    · simp only [not_forall] at hnext
      obtain ⟨frame, size, hfront, hmemory⟩ := hnext
      obtain ⟨senderId, hmemory⟩ := Option.ne_none_iff_exists'.mp hmemory
      let context : RpcAsyncContext :=
        ⟨server.allocated, channel, frame.header.requestId, frame.header.funcId, senderId⟩
      have hfilled : FilledFrom contextMemory frame.header context := ⟨rfl, rfl, hmemory⟩
      have hfirst := dispatchRequest_serves htable hfresh context rfl hfilled frame.payload
      have hrest := ih (bytes.drop size) (hfirst.fresh hfresh)
      rw [hfirst.count] at hrest
      rw [processLoop_frame hfront hmemory]
      simpa [loopHeaders, hfront, hmemory] using hfirst.append hrest

theorem processBufferedData_serves (contextMemory : Nat → Option NodeId)
    (htable : ∀ entry ∈ table, RespondsOnce entry.handler)
    (channel : RpcChannel) (rxData : List UInt8) {server : RpcServer N} (hfresh : server.Fresh) :
    let after := processBufferedData contextMemory channel (some table) rxData server
    Serves contextMemory server after.2.2
      (loopHeaders contextMemory (rxData.length + 1) rxData server.allocated) after.2.1 := by
  have hserves : Serves contextMemory server _ _ _ :=
    processLoop_serves htable channel (rxData.length + 1) rxData hfresh
  rcases hloop : processLoop contextMemory table channel (rxData.length + 1) rxData server with
    ⟨exit, dispatches, after⟩
  rw [hloop] at hserves
  cases exit <;> simpa [processBufferedData, hloop] using hserves

theorem serveRounds_serves (contextMemory : Nat → Option NodeId)
    (htable : ∀ entry ∈ table, RespondsOnce entry.handler)
    (rounds : List (RpcRound N)) {server : RpcServer N} (hfresh : server.Fresh) :
    Serves contextMemory server (serveRounds contextMemory table rounds server).2
      (servedHeaders contextMemory rounds server.allocated)
      (serveRounds contextMemory table rounds server).1 := by
  induction rounds generalizing server with
  | nil => exact .refl server
  | cons round rounds ih =>
    have henter : (round.enter server).Fresh := ⟨hfresh.pending, hfresh.trace⟩
    have hround := processBufferedData_serves contextMemory htable round.channel round.rxData
      henter
    have hlater := ih (hround.fresh henter)
    rw [hround.count] at hlater
    have hall := hround.append hlater
    exact ⟨⟨hall.pendingContexts, hall.toRunEffect.allocated, hall.others, hall.address,
      hall.handled⟩, hall.count, hall.filled, hall.answered⟩

theorem Serves.correlates_iff {before after : RpcServer N}
    (h : Serves contextMemory before after headers dispatches) (freed : Nat → RpcAsyncContext) :
    List.Forall₂ (fun header (dispatch : RpcDispatch N) =>
      (∀ frame ∈ responsesTo freed dispatch.context.address after.trace, RespondsTo header frame) ↔
        contextMemory dispatch.context.address = some header.senderId ∧
          (dispatch.AnsweredOnce ∨ (freed dispatch.context.address).Matches header))
      headers dispatches := by
  refine (List.forall₂_iff_zip.mpr ⟨h.filled.length_eq, fun {header dispatch} hmem => ?_⟩)
  have hfilled := (List.forall₂_iff_zip.mp h.filled).2 hmem
  rw [(h.answered dispatch (List.of_mem_zip hmem).2).correlates_iff, hfilled.matches_iff]

end Runs
end Roole
