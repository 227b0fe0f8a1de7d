import Roole.Rpc.Contexts
import Roole.Rpc.Stream

/-!
# The bytes on a connection

What the kernel takes of the messages that are sent, connection by connection.
Connections are not closed here, so a send that fails leaves the connection open,
as EAGAIN does. Its reader finds whole frames as long as each message is taken
wholly or not at all.
-/

namespace Roole

open Framing

structure Wire where
  /-- The channel packed last. A request to a peer goes out on it. -/
  packed : Option RpcChannel
  bytes : List UInt8

def Wire.after (socketFd : Int) (wire : Wire) : RpcEvent → Wire
  | .pack channel _ => { wire with packed := some channel }
  | .sent fd bytes => if fd = socketFd then { wire with bytes := wire.bytes ++ bytes } else wire
  | .request _ message sent =>
    if wire.packed.map RpcChannel.socketFd = some socketFd then
      { wire with bytes := wire.bytes ++ message.take sent }
    else wire
  | .respond _ _ _ => wire
  | .free _ => wire

def wireBytes (socketFd : Int) (trace : List RpcEvent) : List UInt8 :=
  (trace.foldl (Wire.after socketFd) ⟨none, []⟩).bytes

/-- Whenever a sender has returned, the bytes taken on each connection are whole
frames. -/
def WholeFrames (trace : List RpcEvent) : Prop :=
  ∀ past, past <+: trace → ∀ socketFd, Complete rpcReader (wireBytes socketFd past)

variable {trace : List RpcEvent} {event : RpcEvent}

theorem wholeFrames_nil : WholeFrames [] := by
  intro past hpast socketFd
  rw [List.prefix_nil.mp hpast]
  exact .nil

theorem wholeFrames_concat : WholeFrames (trace ++ [event]) ↔
    WholeFrames trace ∧
      ∀ socketFd, Complete rpcReader (wireBytes socketFd (trace ++ [event])) := by
  simp only [WholeFrames, List.prefix_concat_iff, or_imp, forall_and, forall_eq]
  exact and_comm

theorem wholeFrames_silent
    (h : ∀ socketFd, wireBytes socketFd (trace ++ [event]) = wireBytes socketFd trace) :
    WholeFrames (trace ++ [event]) ↔ WholeFrames trace := by
  rw [wholeFrames_concat, and_iff_left_iff_imp]
  intro hwhole socketFd
  rw [h]
  exact hwhole trace (List.prefix_refl trace) socketFd

theorem wholeFrames_taken (fd : Int) (bytes : List UInt8)
    (h : ∀ socketFd, wireBytes socketFd (trace ++ [event]) =
      wireBytes socketFd trace ++ if fd = socketFd then bytes else []) :
    WholeFrames (trace ++ [event]) ↔ WholeFrames trace ∧ Complete rpcReader bytes := by
  rw [wholeFrames_concat]
  refine and_congr_right fun hwhole => ?_
  have happend := fun socketFd =>
    (hwhole trace (List.prefix_refl trace) socketFd).append_iff
      (if fd = socketFd then bytes else [])
  simp only [h, happend]
  constructor
  · intro hall
    simpa using hall fd
  · intro hbytes socketFd
    split_ifs
    · exact hbytes
    · exact .nil

theorem wholeFrames_pair (first second : RpcEvent) :
    WholeFrames (trace ++ [first, second]) ↔ WholeFrames (trace ++ [first] ++ [second]) := by
  rw [List.append_assoc, List.singleton_append]

theorem wholeFrames_request (channel : RpcChannel) (payloadLen : Nat) (peer : NodeId)
    (message : List UInt8) (sent : Nat) :
    WholeFrames (trace ++ [.pack channel payloadLen, .request peer message sent]) ↔
      WholeFrames trace ∧ Complete rpcReader (message.take sent) := by
  rw [wholeFrames_pair, wholeFrames_taken channel.socketFd (message.take sent),
    wholeFrames_silent]
  · intro socketFd
    simp [wireBytes, Wire.after]
  · intro socketFd
    simp only [wireBytes, List.foldl_append, List.foldl_cons, List.foldl_nil, Wire.after,
      Option.map_some, Option.some.injEq]
    split_ifs <;> simp

theorem wholeFrames_response (context : RpcAsyncContext) (status : RpcStatus)
    (payload : List UInt8) (channel : RpcChannel) (payloadLen : Nat) (fd : Int)
    (bytes : List UInt8) (address : Nat) :
    WholeFrames (trace ++ [.respond context status payload, .pack channel payloadLen,
      .sent fd bytes, .free address]) ↔ WholeFrames trace ∧ Complete rpcReader bytes := by
  have hfirst : WholeFrames (trace ++ [.respond context status payload,
      .pack channel payloadLen]) ↔ WholeFrames trace := by
    rw [wholeFrames_pair, wholeFrames_silent, wholeFrames_silent]
    · intro socketFd
      simp [wireBytes, Wire.after]
    · intro socketFd
      simp [wireBytes, Wire.after]
  rw [List.append_cons, List.append_cons, List.append_assoc trace, wholeFrames_pair,
    wholeFrames_silent, wholeFrames_taken fd bytes]
  · exact and_congr_left' hfirst
  · intro socketFd
    simp only [wireBytes, List.foldl_append, List.foldl_cons, List.foldl_nil, Wire.after]
    split_ifs <;> simp
  · intro socketFd
    simp [wireBytes, Wire.after]

-- ----------------------------------------------------------------------------
-- The answers of the kernel
-- ----------------------------------------------------------------------------

def refuses : List SendOutcome → Bool
  | [] => true
  | .failed :: _ => true
  | .interrupted :: sends => refuses sends
  | .short _ :: _ => false
  | .rest :: _ => false

def takesWhole (sends : List SendOutcome) : Bool := answersAccept sends || refuses sends

def answersLeft : List SendOutcome → List SendOutcome
  | [] => []
  | .failed :: sends => sends
  | .rest :: sends => sends
  | .interrupted :: sends => answersLeft sends
  | .short _ :: sends => answersLeft sends

/-- What a handler sends, and what the server sends if that fails, is taken
wholly or not at all. -/
def servesWhole (sends : List SendOutcome) : Bool :=
  answersAccept sends || (refuses sends && takesWhole (answersLeft sends))

def SendOutcome.takesPart : SendOutcome → Bool
  | .short _ => true
  | _ => false

def NoneInPart (count : Nat) (peerSends : List SendOutcome) : Prop :=
  ∀ outcome ∈ peerSends.take count, outcome.takesPart = false

instance (count : Nat) (peerSends : List SendOutcome) : Decidable (NoneInPart count peerSends) :=
  inferInstanceAs (Decidable (∀ _ ∈ _, _))

@[simp] theorem noneInPart_zero (peerSends : List SendOutcome) : NoneInPart 0 peerSends := by
  simp [NoneInPart]

theorem noneInPart_add (m n : Nat) (peerSends : List SendOutcome) :
    NoneInPart (m + n) peerSends ↔
      NoneInPart m peerSends ∧ NoneInPart n (peerSends.drop m) := by
  simp only [NoneInPart, List.take_add, List.forall_mem_append]

theorem sendResponse_all_iff (sends : List SendOutcome) (hleft : 0 < left) :
    left ≤ (sendResponse sends left).2.1 ↔ answersAccept sends = true := by
  fun_induction sendResponse sends left with
  | case1 => cases hleft
  | case3 sends left ih => exact ih hleft
  | case4 n sends left taken ok sent after hsent ih =>
    rw [hsent] at ih
    rw [answersAccept, ← ih (short_left_pos n left)]
    exact Nat.sub_le_iff_le_add'.symm
  | _ => simp [answersAccept]

theorem sendResponse_none_iff (sends : List SendOutcome) (hleft : 1 < left) :
    (sendResponse sends left).2.1 = 0 ↔ refuses sends = true := by
  obtain ⟨left, rfl⟩ := Nat.exists_eq_add_of_lt hleft
  induction sends with
  | nil => simp [sendResponse, refuses]
  | cons outcome sends ih =>
    cases outcome with
    | interrupted => exact ih
    | rest => simp [sendResponse, refuses]
    | failed => simp [sendResponse, refuses]
    | short n => simp [sendResponse, refuses]

theorem sendResponse_left (sends : List SendOutcome) (hleft : 0 < left) :
    (sendResponse sends left).2.2 = answersLeft sends := by
  fun_induction sendResponse sends left with
  | case1 => cases hleft
  | case3 sends left ih => exact ih hleft
  | case4 n sends left taken ok sent after hsent ih =>
    rw [hsent] at ih
    exact ih (short_left_pos n left)
  | _ => rfl

theorem sendOnce_whole_iff (peerSends : List SendOutcome) (hlength : 1 < length) :
    (sendOnce peerSends length).1 = 0 ∨ length ≤ (sendOnce peerSends length).1 ↔
      NoneInPart 1 peerSends := by
  cases peerSends with
  | nil => simp [sendOnce, NoneInPart]
  | cons outcome peerSends =>
    cases outcome with
    | short n =>
      have hpart : ¬(min (n + 1) (length - 1) = 0 ∨ length ≤ min (n + 1) (length - 1)) := by omega
      exact iff_of_false hpart (by simp [NoneInPart, SendOutcome.takesPart])
    | _ => simp [sendOnce, NoneInPart, SendOutcome.takesPart]

-- ----------------------------------------------------------------------------
-- Senders
-- ----------------------------------------------------------------------------

variable {N : Type}

theorem complete_pack_iff (h : rpcHeaderSize + payload.length < 2 ^ 32) (nodeId : NodeId)
    (requestId : UInt32) (type status funcId : UInt8) (sent : Nat) :
    Complete rpcReader
        ((rpcPackMessage nodeId requestId type status funcId payload).take sent) ↔
      sent = 0 ∨ rpcHeaderSize + payload.length ≤ sent := by
  have hlength := rpcPackMessage_length nodeId requestId type status funcId payload
  have hfront := rpcFront_pack h nodeId requestId type status funcId []
  rw [List.append_nil, ← hlength, ← rpcReader_front] at hfront
  rw [← hlength]
  exact complete_take_iff hfront sent

theorem rpcSendAsyncResponse_whole (h : rpcHeaderSize + payload.length < 2 ^ 32)
    (context : RpcAsyncContext) (status : RpcStatus) (server : RpcServer N) :
    WholeFrames (rpcSendAsyncResponse context status payload server).2.trace ↔
      WholeFrames server.trace ∧ takesWhole server.sends = true := by
  have hlong : 1 < rpcHeaderSize + payload.length :=
    Nat.lt_of_lt_of_le (by decide) (Nat.le_add_right rpcHeaderSize _)
  simp only [rpcSendAsyncResponse, wholeFrames_response, complete_pack_iff h,
    rpcTotalLen_toNat h, sendResponse_none_iff _ hlong,
    sendResponse_all_iff _ (Nat.zero_lt_of_lt hlong), takesWhole, Bool.or_eq_true, or_comm]

theorem rpcSendAsyncResponse_sends (h : rpcHeaderSize + payload.length < 2 ^ 32)
    (context : RpcAsyncContext) (status : RpcStatus) (server : RpcServer N) :
    (rpcSendAsyncResponse context status payload server).2.sends = answersLeft server.sends := by
  have hpos : 0 < rpcHeaderSize + payload.length :=
    Nat.lt_of_lt_of_le (by decide) (Nat.le_add_right rpcHeaderSize _)
  simp only [rpcSendAsyncResponse, rpcTotalLen_toNat h, sendResponse_left _ hpos]

structure SendsRequests (before after : RpcServer N) (count : Nat) : Prop where
  sends : after.sends = before.sends
  peerSends : after.peerSends = before.peerSends.drop count
  whole : WholeFrames after.trace ↔ WholeFrames before.trace ∧ NoneInPart count before.peerSends

namespace SendsRequests

theorem refl (server : RpcServer N) : SendsRequests server server 0 := ⟨rfl, rfl, by simp⟩

theorem setNode {server : RpcServer N} (h : SendsRequests before server count) (node : N) :
    SendsRequests before (server.setNode node) count := ⟨h.sends, h.peerSends, h.whole⟩

theorem trans {a b c : RpcServer N} (h : SendsRequests a b m) (h' : SendsRequests b c n) :
    SendsRequests a c (m + n) where
  sends := h'.sends.trans h.sends
  peerSends := by rw [h'.peerSends, h.peerSends, List.drop_drop]
  whole := by rw [h'.whole, h.whole, h.peerSends, noneInPart_add, and_assoc]

theorem sendToPeer (h : rpcHeaderSize + payload.length < 2 ^ 32) (peer : NodeId)
    (channel : RpcChannel) (nodeId : NodeId) (requestId : UInt32) (funcId : UInt8)
    (server : RpcServer N) :
    SendsRequests server
      (sendToPeer peer channel nodeId requestId funcId payload server).2 1 := by
  have hlong : 1 < rpcHeaderSize + payload.length :=
    Nat.lt_of_lt_of_le (by decide) (Nat.le_add_right rpcHeaderSize _)
  have hrest := sendOnce_snd server.peerSends (rpcTotalLen payload.length).toNat
  refine ⟨rfl, hrest.trans List.drop_one.symm, ?_⟩
  simp only [Roole.sendToPeer, wholeFrames_request, complete_pack_iff h, rpcTotalLen_toNat h,
    sendOnce_whole_iff _ hlong]

end SendsRequests

def RespondsAfter (context : RpcAsyncContext) (server : RpcServer N) (count : Nat)
    (result : Int × RpcServer N) : Prop :=
  ∃ status reply quiet, result = rpcSendAsyncResponse context status reply quiet ∧
    SendsRequests server quiet count ∧ rpcHeaderSize + reply.length < 2 ^ 32

theorem RespondsAfter.respond (h : SendsRequests server quiet count) (context : RpcAsyncContext)
    (status : RpcStatus) (hreply : rpcHeaderSize + reply.length < 2 ^ 32) :
    RespondsAfter context server count (rpcSendAsyncResponse context status reply quiet) :=
  ⟨status, reply, quiet, rfl, h, hreply⟩

theorem Answers.after {server : RpcServer N} (h : Answers context server replyLen result)
    (hreply : rpcHeaderSize + replyLen < 2 ^ 32) : RespondsAfter context server 0 result := by
  obtain ⟨status, reply, node, rfl, rfl⟩ := h
  exact .respond ((SendsRequests.refl server).setNode node) context status hreply

theorem RespondsAfter.whole_iff {server : RpcServer N}
    (h : RespondsAfter context server count result) :
    WholeFrames (if result.1 = 0 then result.2
        else (rpcSendAsyncResponse context .internalError [] result.2).2).trace ↔
      WholeFrames server.trace ∧ NoneInPart count server.peerSends ∧
        servesWhole server.sends = true := by
  obtain ⟨status, reply, quiet, rfl, hquiet, hreply⟩ := h
  rw [rpcSendAsyncResponse_fst hreply, hquiet.sends]
  cases haccept : answersAccept server.sends with
  | true =>
    simp [rpcSendAsyncResponse_whole hreply, hquiet.whole, hquiet.sends, takesWhole, servesWhole,
      haccept]
  | false =>
    have hempty : rpcHeaderSize + ([] : List UInt8).length < 2 ^ 32 := by decide
    simp [rpcSendAsyncResponse_whole hempty, rpcSendAsyncResponse_whole hreply,
      rpcSendAsyncResponse_sends hreply, hquiet.whole, hquiet.sends, takesWhole, servesWhole,
      haccept, and_assoc]

theorem dispatchRequest_whole_some {table : List (RpcServiceEntry N)} {server : RpcServer N}
    (hfind : (table.find? fun entry => entry.funcId == context.funcId) = some entry)
    (hresponds : RespondsAfter context
      { server with pendingContexts := context :: server.pendingContexts } count
      (entry.handler context payload
        { server with pendingContexts := context :: server.pendingContexts })) :
    WholeFrames (dispatchRequest table context payload server).2.trace ↔
      WholeFrames server.trace ∧ NoneInPart count server.peerSends ∧
        servesWhole server.sends = true := by
  unfold dispatchRequest
  rw [hfind]
  exact hresponds.whole_iff

theorem dispatchRequest_whole_none {table : List (RpcServiceEntry N)} {server : RpcServer N}
    (hfind : (table.find? fun entry => entry.funcId == context.funcId) = none)
    (payload : List UInt8) :
    WholeFrames (dispatchRequest table context payload server).2.trace ↔
      WholeFrames server.trace ∧ takesWhole server.sends = true := by
  unfold dispatchRequest
  rw [hfind]
  exact rpcSendAsyncResponse_whole (by decide) context .funcNotFound server

end Roole
