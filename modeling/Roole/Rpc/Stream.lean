import Roole.Lib.Framing
import Roole.Rpc.Server

/-!
# Requests on a stream

The receive buffer of a connection as a reader of frames. A stream of packed
requests is dispatched request by request, however the reads cut it.
-/

namespace Roole

open Framing

structure RpcFrame where
  header : RpcHeader
  payload : List UInt8
  deriving DecidableEq, Repr

/-- What one round of `process_buffered_data` finds at the front. -/
def rpcFront (bytes : List UInt8) : Front RpcFrame :=
  if bytes.length < rpcHeaderSize then .incomplete
  else
    match rpcUnpackHeader bytes with
    | none => .malformed
    | some header =>
      let totalLen := header.totalLen.toNat
      if bytes.length < totalLen then .incomplete
      else .frame ⟨header, (bytes.take totalLen).drop rpcHeaderSize⟩ totalLen

theorem rpcFront_frame : rpcFront bytes = .frame frame size ↔
    rpcHeaderSize ≤ bytes.length ∧ rpcUnpackHeader bytes = some frame.header ∧
      frame.header.totalLen.toNat = size ∧ size ≤ bytes.length ∧
      frame.payload = (bytes.take size).drop rpcHeaderSize := by
  unfold rpcFront
  constructor
  · intro h
    split_ifs at h with hshort
    split at h
    · cases h
    · rename_i header hheader
      dsimp only at h
      split_ifs at h with hpartial
      cases h
      exact ⟨Nat.not_lt.mp hshort, hheader, rfl, Nat.not_lt.mp hpartial, rfl⟩
  · rintro ⟨hlen, hheader, rfl, hsize, hpayload⟩
    simp [Nat.not_lt.mpr hlen, hheader, Nat.not_lt.mpr hsize, ← hpayload]

theorem rpcFront_malformed : rpcFront bytes = .malformed ↔
    rpcHeaderSize ≤ bytes.length ∧ rpcUnpackHeader bytes = none := by
  unfold rpcFront
  split_ifs with hshort
  · simp [Nat.not_le.mpr hshort]
  · cases hheader : rpcUnpackHeader bytes with
    | none => simp [Nat.not_lt.mp hshort]
    | some header =>
      dsimp only
      split_ifs <;> simp

def rpcReader : Reader UInt8 RpcFrame where
  front := rpcFront
  front_nil := rfl
  size_le := fun h => (rpcFront_frame.mp h).2.2.2.1
  frame_append := by
    intro bytes frame size more h
    obtain ⟨hlen, hheader, htotal, hsize, hpayload⟩ := rpcFront_frame.mp h
    have hle := (List.prefix_append bytes more).length_le
    refine rpcFront_frame.mpr ⟨hlen.trans hle, ?_, htotal, hsize.trans hle, ?_⟩
    · rw [rpcUnpackHeader_append hlen, hheader]
    · rw [List.take_append_of_le_length hsize, hpayload]
  malformed_append := by
    intro bytes more h
    obtain ⟨hlen, hheader⟩ := rpcFront_malformed.mp h
    have hle := (List.prefix_append bytes more).length_le
    exact rpcFront_malformed.mpr ⟨hlen.trans hle, rpcUnpackHeader_append hlen ▸ hheader⟩

theorem rpcFront_pack (h : rpcHeaderSize + payload.length < 2 ^ 32) (nodeId : NodeId)
    (requestId : UInt32) (type status funcId : UInt8) (more : List UInt8) :
    rpcFront (rpcPackMessage nodeId requestId type status funcId payload ++ more) = .frame ⟨{
      totalLen := rpcTotalLen payload.length
      requestId := requestId
      senderId := nodeId
      typeAndStatus := rpcTypeStatus type status
      funcId := funcId }, payload⟩ (rpcHeaderSize + payload.length) := by
  have hlength := rpcPackMessage_length nodeId requestId type status funcId payload
  have hsize : rpcHeaderSize ≤
      (rpcPackMessage nodeId requestId type status funcId payload).length :=
    hlength ▸ Nat.le_add_right _ _
  have hle := (List.prefix_append (rpcPackMessage nodeId requestId type status funcId payload)
    more).length_le
  refine rpcFront_frame.mpr ⟨hsize.trans hle, ?_, rpcTotalLen_toNat h, hlength ▸ hle, ?_⟩
  · rw [rpcUnpackHeader_append hsize]
    exact rpcUnpackHeader_pack h
  · rw [← hlength, List.take_left]
    exact (rpcPackMessage_drop ..).symm

theorem rpcReader_front (bytes : List UInt8) : rpcReader.front bytes = rpcFront bytes := rfl

/-- The arguments of a call of `rpc_pack_message` whose message fits into a
receive buffer. -/
structure RpcRequest where
  nodeId : NodeId
  requestId : UInt32
  type : UInt8
  status : UInt8
  funcId : UInt8
  payload : List UInt8
  fits : rpcHeaderSize + payload.length ≤ maxBufferSize

namespace RpcRequest

def pack (request : RpcRequest) : List UInt8 :=
  rpcPackMessage request.nodeId request.requestId request.type request.status request.funcId
    request.payload

def frame (request : RpcRequest) : RpcFrame where
  header := {
    totalLen := rpcTotalLen request.payload.length
    requestId := request.requestId
    senderId := request.nodeId
    typeAndStatus := rpcTypeStatus request.type request.status
    funcId := request.funcId }
  payload := request.payload

theorem lt_word (request : RpcRequest) : rpcHeaderSize + request.payload.length < 2 ^ 32 :=
  request.fits.trans_lt (by decide)

@[simp] theorem pack_length (request : RpcRequest) :
    request.pack.length = rpcHeaderSize + request.payload.length := rpcPackMessage_length ..

theorem front_pack (request : RpcRequest) (more : List UInt8) :
    rpcFront (request.pack ++ more) = .frame request.frame request.pack.length := by
  rw [pack_length]
  exact rpcFront_pack request.lt_word _ _ _ _ _ more

end RpcRequest

def rpcEncoder : Encoder rpcReader RpcRequest where
  encode := RpcRequest.pack
  item := RpcRequest.frame
  front_encode := RpcRequest.front_pack _ _

variable {N : Type} {contextMemory : Nat → Option NodeId} {table : List (RpcServiceEntry N)}
  {channel : RpcChannel}

def RpcDispatch.request (dispatch : RpcDispatch N) :
    UInt8 × UInt32 × List UInt8 × Option (RpcServiceEntry N) :=
  (dispatch.context.funcId, dispatch.context.requestId, dispatch.payload, dispatch.entry)

def RpcFrame.request (table : List (RpcServiceEntry N)) (frame : RpcFrame) :
    UInt8 × UInt32 × List UInt8 × Option (RpcServiceEntry N) :=
  (frame.header.funcId, frame.header.requestId, frame.payload,
    table.find? fun entry => entry.funcId == frame.header.funcId)

/-- A request is given to the first entry with its function id, and answered for
where the handler fails; without an entry it is answered FUNC_NOT_FOUND. -/
inductive TableServes (table : List (RpcServiceEntry N)) (context : RpcAsyncContext)
    (payload : List UInt8) (server : RpcServer N) : RpcServer N → Prop
  | handled (hentry : table.find? (fun entry => entry.funcId == context.funcId) = some entry)
      (hcall : entry.handler context payload
        { server with pendingContexts := context :: server.pendingContexts } = (0, after)) :
      TableServes table context payload server after
  | failed (hentry : table.find? (fun entry => entry.funcId == context.funcId) = some entry)
      (hcall : entry.handler context payload
        { server with pendingContexts := context :: server.pendingContexts } = (result, after))
      (hresult : result ≠ 0) :
      TableServes table context payload server
        (rpcSendAsyncResponse context .internalError [] after).2
  | unknown (hentry : table.find? (fun entry => entry.funcId == context.funcId) = none) :
      TableServes table context payload server
        (rpcSendAsyncResponse context .funcNotFound [] server).2

/-- The frames one after another, each in a context of its own. -/
inductive TableServesAll (contextMemory : Nat → Option NodeId) (table : List (RpcServiceEntry N))
    (channel : RpcChannel) : RpcServer N → List RpcFrame → RpcServer N → Prop
  | nil : TableServesAll contextMemory table channel server [] server
  | cons (hmemory : contextMemory server.allocated = some senderId)
      (hserves : TableServes table
        ⟨server.allocated, channel, frame.header.requestId, frame.header.funcId, senderId⟩
        frame.payload { server with allocated := server.allocated + 1 } next)
      (hrest : TableServesAll contextMemory table channel next frames after) :
      TableServesAll contextMemory table channel server (frame :: frames) after

theorem dispatchRequest_tableServes (table : List (RpcServiceEntry N)) (context : RpcAsyncContext)
    (payload : List UInt8) (server : RpcServer N) :
    TableServes table context payload server (dispatchRequest table context payload server).2 := by
  unfold dispatchRequest
  split
  · rename_i entry hfind
    dsimp only
    split_ifs with hresult
    · exact .handled hfind (Prod.ext hresult rfl)
    · exact .failed hfind rfl hresult
  · rename_i hfind
    exact .unknown hfind

theorem TableServesAll.append (h : TableServesAll contextMemory table channel server frames next)
    (hmore : TableServesAll contextMemory table channel next more after) :
    TableServesAll contextMemory table channel server (frames ++ more) after := by
  induction h with
  | nil => exact hmore
  | cons hmemory hserves _ ih => exact .cons hmemory hserves (ih hmore)

theorem dispatchRequest_request (table : List (RpcServiceEntry N)) (context : RpcAsyncContext)
    (payload : List UInt8) (server : RpcServer N) :
    (dispatchRequest table context payload server).1.request = (context.funcId, context.requestId,
      payload, table.find? fun entry => entry.funcId == context.funcId) := by
  unfold dispatchRequest
  split
  · rename_i entry hfind
    simp [RpcDispatch.request, hfind]
  · rename_i hfind
    simp only [RpcDispatch.request, hfind]

theorem processLoop_wait (hfront : rpcFront bytes = .incomplete) (fuel : Nat)
    (server : RpcServer N) :
    processLoop contextMemory table channel (fuel + 1) bytes server =
      (.partialMessage bytes, [], server) := by
  unfold rpcFront at hfront
  unfold processLoop
  split_ifs at hfront ⊢
  · rfl
  · split at hfront
    · cases hfront
    · dsimp only at hfront
      split_ifs at hfront with hpartial
      simp [*]

theorem processLoop_frame (hfront : rpcFront bytes = .frame frame size)
    (hmemory : contextMemory server.allocated = some senderId) (fuel : Nat) :
    let context := ⟨server.allocated, channel, frame.header.requestId, frame.header.funcId,
      senderId⟩
    let dispatched := dispatchRequest table context frame.payload
      { server with allocated := server.allocated + 1 }
    let later := processLoop contextMemory table channel fuel (bytes.drop size) dispatched.2
    processLoop contextMemory table channel (fuel + 1) bytes server =
      (later.1, dispatched.1 :: later.2.1, later.2.2) := by
  obtain ⟨hlen, hheader, rfl, hsize, hpayload⟩ := rpcFront_frame.mp hfront
  intro context dispatched later
  rw [processLoop]
  simp [later, dispatched, context, Nat.not_lt.mpr hlen, hheader, Nat.not_lt.mpr hsize, hmemory,
    hpayload]

variable (table channel)

/-- The loop dispatches the frames that the buffer holds, in order. -/
theorem processLoop_drains (hmemory : ∀ n, (contextMemory n).isSome)
    (h : Drains rpcReader bytes frames rest) (hfuel : bytes.length < fuel) (server : RpcServer N) :
    let after := processLoop contextMemory table channel fuel bytes server
    after.1 = .partialMessage rest ∧
      after.2.1.map RpcDispatch.request = frames.map (RpcFrame.request table) ∧
      TableServesAll contextMemory table channel server frames after.2.2 := by
  induction h generalizing fuel server with
  | wait hfront =>
    cases fuel with
    | zero => cases hfuel
    | succ fuel =>
      rw [processLoop_wait hfront]
      exact ⟨rfl, rfl, .nil⟩
  | @frame bytes frame size frames rest hfront hrest ih =>
    cases fuel with
    | zero => cases hfuel
    | succ fuel =>
      obtain ⟨senderId, hmemory⟩ := Option.isSome_iff_exists.mp (hmemory server.allocated)
      obtain ⟨hlen, hheader, htotal, hsize, -⟩ := rpcFront_frame.mp hfront
      have hpos : 0 < size := htotal ▸ rpcUnpackHeader_pos hheader
      have hless : (bytes.drop size).length < fuel := by
        rw [List.length_drop]
        omega
      rw [processLoop_frame hfront hmemory]
      obtain ⟨hexit, hdispatches, hserves⟩ := ih hless _
      exact ⟨hexit, by simp [dispatchRequest_request, RpcFrame.request, hdispatches],
        .cons hmemory (dispatchRequest_tableServes ..) hserves⟩

theorem processBufferedData_drains (hmemory : ∀ n, (contextMemory n).isSome)
    (h : Drains rpcReader rxData frames rest) (server : RpcServer N) :
    let after := processBufferedData contextMemory channel (some table) rxData server
    after.1 = rest ∧ after.2.1.map RpcDispatch.request = frames.map (RpcFrame.request table) ∧
      TableServesAll contextMemory table channel server frames after.2.2 := by
  obtain ⟨hexit, hdispatches, hserves⟩ :=
    processLoop_drains table channel hmemory h (Nat.lt_succ_self _) server
  rcases hloop : processLoop contextMemory table channel (rxData.length + 1) rxData server with
    ⟨exit, dispatches, after⟩
  rw [Nat.succ_eq_add_one, hloop] at hexit hdispatches hserves
  cases hexit
  simp only [processBufferedData, hloop, true_and]
  exact ⟨hdispatches, hserves⟩

variable {table channel}

theorem rpcReceive_drains (hmemory : ∀ n, (contextMemory n).isSome) {session : RpcSession N}
    (hopen : session.closed = false)
    (hfit : session.rxData.length + bytes.length ≤ channel.rxBufferSize)
    (h : Drains rpcReader (session.rxData ++ bytes) frames rest)
    (hroom : rest.length < channel.rxBufferSize) :
    let after := rpcReceive contextMemory channel (some table) session bytes
    after.rxData = rest ∧ after.closed = false ∧
      after.dispatched.map RpcDispatch.request =
        session.dispatched.map RpcDispatch.request ++ frames.map (RpcFrame.request table) ∧
      TableServesAll contextMemory table channel session.server frames after.server := by
  obtain ⟨hrest, hdispatches, hserves⟩ :=
    processBufferedData_drains table channel hmemory h session.server
  have htake := List.take_of_length_le (Nat.le_sub_of_add_le' hfit)
  simp only [rpcReceive, hopen, htake, hrest, Bool.false_eq_true, if_false, List.map_append,
    hdispatches, true_and]
  exact ⟨beq_eq_false_iff_ne.mpr (Nat.ne_of_lt hroom), hserves⟩

theorem rpcReceive_feeds (hmemory : ∀ n, (contextMemory n).isSome)
    (h : Feeds rpcReader (fun rest => rest.length < channel.rxBufferSize) buffer chunks frames last)
    {session : RpcSession N} (hbuffer : session.rxData = buffer) (hopen : session.closed = false)
    (hfit : ReadsFit contextMemory channel (some table) session chunks) :
    let after := chunks.foldl (rpcReceive contextMemory channel (some table)) session
    after.closed = false ∧
      after.dispatched.map RpcDispatch.request =
        session.dispatched.map RpcDispatch.request ++ frames.map (RpcFrame.request table) ∧
      TableServesAll contextMemory table channel session.server frames after.server := by
  induction h generalizing session with
  | done => exact ⟨hopen, by simp, .nil⟩
  | chunk hdrains hroom _ ih =>
    subst hbuffer
    obtain ⟨hrx, hopen', hdispatched, hserves⟩ :=
      rpcReceive_drains hmemory hopen hfit.1 hdrains hroom
    obtain ⟨hclosed, hall, hlater⟩ := ih hrx hopen' hfit.2
    refine ⟨hclosed, ?_, hserves.append hlater⟩
    rw [List.foldl_cons, hall, hdispatched, List.map_append, List.append_assoc]

/-- Packed requests are dispatched in order, each once and to the first table
entry with its function id, however the reads cut the stream; the connection
stays open. The server is left as it is by serving the requests one by one. -/
theorem rpcReceive_stream (hmemory : ∀ n, (contextMemory n).isSome)
    (hsize : channel.rxBufferSize = maxBufferSize) (requests : List RpcRequest)
    (hcut : chunks.flatten = requests.flatMap RpcRequest.pack) (server : RpcServer N)
    (hfit : ReadsFit contextMemory channel (some table) (.accepted server) chunks) :
    let after := chunks.foldl (rpcReceive contextMemory channel (some table)) (.accepted server)
    (after.dispatched.map fun dispatch =>
      (dispatch.context.funcId, dispatch.context.requestId, dispatch.payload, dispatch.entry)) =
        (requests.map fun request => (request.funcId, request.requestId, request.payload,
          table.find? fun entry => entry.funcId == request.funcId)) ∧
      TableServesAll contextMemory table channel server (requests.map RpcRequest.frame)
        after.server ∧
      after.closed = false := by
  have hshort : ∀ (rest : List UInt8) (request : RpcRequest), rest.length < request.pack.length →
      rest.length < channel.rxBufferSize := by
    intro rest request hlt
    rw [hsize]
    exact hlt.trans_le (RpcRequest.pack_length request ▸ request.fits)
  have hawaits : rpcEncoder.Awaits [] requests := by
    cases requests with
    | nil => rfl
    | cons request _ => exact List.length_pos_of_ne_nil (rpcEncoder.encode_ne_nil request)
  have hfeeds := rpcEncoder.feeds_stream (by rw [hsize]; decide) hshort chunks requests hawaits hcut
  obtain ⟨hclosed, hall, hserves⟩ := rpcReceive_feeds hmemory hfeeds rfl rfl hfit
  refine ⟨?_, hserves, hclosed⟩
  rw [List.map_map] at hall
  exact hall

def echoTable : List (RpcServiceEntry Unit) :=
  [⟨0x01, fun context payload => rpcSendAsyncResponse context .success payload, 16⟩]

def echoRequest (requestId : UInt32) (funcId : UInt8) : RpcRequest where
  nodeId := 0
  requestId := requestId
  type := RpcType.request.toByte
  status := 0
  funcId := funcId
  payload := [1, 2, 3]
  fits := by decide

theorem rpcReceive_stream_two :
    let requests := [echoRequest 1 0x01, echoRequest 2 0x02]
    let stream := requests.flatMap RpcRequest.pack
    let after := [stream.take 20, stream.drop 20].foldl
      (rpcReceive (fun _ => some 0) (.init 5 maxBufferSize) (some echoTable))
      (.accepted (.start () [] []))
    (after.dispatched.map fun dispatch =>
      (dispatch.context.funcId, dispatch.context.requestId, dispatch.payload, dispatch.entry)) =
        (requests.map fun request => (request.funcId, request.requestId, request.payload,
          echoTable.find? fun entry => entry.funcId == request.funcId)) ∧
      TableServesAll (fun _ => some 0) echoTable (.init 5 maxBufferSize) (.start () [] [])
        (requests.map RpcRequest.frame) after.server ∧
      after.closed = false :=
  rpcReceive_stream (fun _ => rfl) rfl [echoRequest 1 0x01, echoRequest 2 0x02] (by decide)
    (.start () [] []) ⟨by decide, by decide +kernel, trivial⟩

end Roole
