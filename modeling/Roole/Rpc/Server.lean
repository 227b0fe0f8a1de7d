import Roole.Rpc.Message

/-!
# The RPC server

`rpc_send_async_response`, `process_buffered_data` and the handling of read
events in the event loop of `rpc.c`. The state of the node that the handlers
work on is a parameter. The receive buffer is not part of what a handler sees.
-/

namespace Roole

def maxBufferSize : Nat := 4096

structure RpcChannel where
  socketFd : Int
  rxBufferSize : Nat
  txBufferSize : Nat
  deriving DecidableEq, Repr

def RpcChannel.init (fd : Int) (bufferSize : Nat) : RpcChannel where
  socketFd := fd
  rxBufferSize := bufferSize
  txBufferSize := bufferSize

structure RpcAsyncContext where
  /-- Stands for the pointer. Addresses are not handed out twice. -/
  address : Nat
  channel : RpcChannel
  requestId : UInt32
  funcId : UInt8
  senderId : NodeId
  deriving DecidableEq, Repr

inductive SendOutcome
  | interrupted
  /-- The kernel takes `n + 1` bytes, but not the last one. -/
  | short (n : Nat)
  | rest
  | failed
  deriving DecidableEq, Repr

/-- What the program does that a client, a peer or the heap can see. -/
inductive RpcEvent
  /-- `rpc_send_async_response` is entered. -/
  | respond (context : RpcAsyncContext) (status : RpcStatus) (payload : List UInt8)
  /-- `rpc_pack_message` writes into the channel's `tx_buffer`. -/
  | pack (channel : RpcChannel) (payloadLen : Nat)
  /-- The kernel takes these bytes of a response. -/
  | sent (socketFd : Int) (bytes : List UInt8)
  /-- The kernel takes the first `sent` bytes of a request to a peer. -/
  | request (peer : NodeId) (message : List UInt8) (sent : Nat)
  | free (address : Nat)
  deriving DecidableEq, Repr

structure RpcServer (N : Type) where
  node : N
  pendingContexts : List RpcAsyncContext
  /-- The contexts allocated so far; the address of the next one. -/
  allocated : Nat
  /-- The kernel's answers to the sends of responses to come. -/
  sends : List SendOutcome
  peerSends : List SendOutcome
  trace : List RpcEvent

def RpcServer.start (node : N) (sends peerSends : List SendOutcome) : RpcServer N where
  node := node
  pendingContexts := []
  allocated := 0
  sends := sends
  peerSends := peerSends
  trace := []

abbrev RpcHandler (N : Type) :=
  RpcAsyncContext → List UInt8 → RpcServer N → Int × RpcServer N

structure RpcServiceEntry (N : Type) where
  funcId : UInt8
  handler : RpcHandler N
  maxResponseLen : Nat

-- ----------------------------------------------------------------------------
-- Responses
-- ----------------------------------------------------------------------------

/-- The loop of `send_response` over the bytes left: whether they all went out,
how many did, and the answers not used. -/
def sendResponse : List SendOutcome → Nat → Bool × Nat × List SendOutcome
  | sends, 0 => (true, 0, sends)
  | [], _ + 1 => (false, 0, [])
  | .interrupted :: sends, left + 1 => sendResponse sends (left + 1)
  | .short n :: sends, left + 1 =>
    let taken := min (n + 1) left
    let (ok, sent, sends) := sendResponse sends (left + 1 - taken)
    (ok, taken + sent, sends)
  | .rest :: sends, left + 1 => (true, left + 1, sends)
  | .failed :: sends, _ + 1 => (false, 0, sends)

variable {N : Type}

def RpcServer.setNode (server : RpcServer N) (node : N) : RpcServer N :=
  { server with node := node }

def rpcRemoveContext (context : RpcAsyncContext) (pending : List RpcAsyncContext) :
    List RpcAsyncContext :=
  pending.eraseP fun other => other.address == context.address

def rpcSendAsyncResponse (context : RpcAsyncContext) (status : RpcStatus)
    (responsePayload : List UInt8) (server : RpcServer N) : Int × RpcServer N :=
  let message := rpcPackMessage context.senderId context.requestId RpcType.response.toByte
    status.toByte context.funcId responsePayload
  let (ok, sent, sends) := sendResponse server.sends (rpcTotalLen responsePayload.length).toNat
  (if ok then 0 else -1, {
    node := server.node
    pendingContexts := rpcRemoveContext context server.pendingContexts
    allocated := server.allocated
    sends := sends
    peerSends := server.peerSends
    trace := server.trace ++ [
      .respond context status responsePayload,
      .pack context.channel responsePayload.length,
      .sent context.channel.socketFd (message.take sent),
      .free context.address] })

@[simp] theorem rpcSendAsyncResponse_node (context : RpcAsyncContext) (status : RpcStatus)
    (payload : List UInt8) (server : RpcServer N) :
    (rpcSendAsyncResponse context status payload server).2.node = server.node := rfl

def sendOnce : List SendOutcome → Nat → Nat × List SendOutcome
  | .rest :: sends, length => (length, sends)
  | .short n :: sends, length => (min (n + 1) (length - 1), sends)
  | _ :: sends, _ => (0, sends)
  | [], _ => (0, [])

theorem sendOnce_snd (sends : List SendOutcome) (length : Nat) :
    (sendOnce sends length).2 = sends.tail := by
  rcases sends with _ | ⟨⟨⟩ | _ | ⟨⟩ | ⟨⟩, rest⟩ <;> rfl

/-- A request packed into the buffer of a peer's channel and sent with a single
call of `send`, as the handlers and the executor do it. -/
def sendToPeer (peer : NodeId) (channel : RpcChannel) (nodeId : NodeId) (requestId : UInt32)
    (funcId : UInt8) (payload : List UInt8) (server : RpcServer N) : Nat × RpcServer N :=
  let message := rpcPackMessage nodeId requestId RpcType.request.toByte RpcStatus.unknown.toByte
    funcId payload
  let (sent, peerSends) := sendOnce server.peerSends (rpcTotalLen payload.length).toNat
  (sent, { server with
    peerSends := peerSends
    trace := server.trace ++ [.pack channel payload.length, .request peer message sent] })

-- ----------------------------------------------------------------------------
-- Requests
-- ----------------------------------------------------------------------------

structure RpcDispatch (N : Type) where
  entry : Option (RpcServiceEntry N)
  context : RpcAsyncContext
  payload : List UInt8
  server : RpcServer N

/-- The search of the table and the call of the handler. A handler that fails
is answered for by the server. -/
def dispatchRequest (table : List (RpcServiceEntry N)) (context : RpcAsyncContext)
    (payload : List UInt8) (server : RpcServer N) : RpcDispatch N × RpcServer N :=
  match table.find? fun entry => entry.funcId == context.funcId with
  | some entry =>
    let pending := { server with pendingContexts := context :: server.pendingContexts }
    let (result, after) := entry.handler context payload pending
    (⟨some entry, context, payload, pending⟩,
      if result = 0 then after else (rpcSendAsyncResponse context .internalError [] after).2)
  | none =>
    (⟨none, context, payload, server⟩, (rpcSendAsyncResponse context .funcNotFound [] server).2)

inductive ProcessExit
  | partialMessage (rest : List UInt8)
  | invalidHeader
  | outOfMemory

section Processing

variable (contextMemory : Nat → Option NodeId) (table : List (RpcServiceEntry N))
  (channel : RpcChannel)

/-- The `while` loop of `process_buffered_data` over the bytes not processed
yet. The first argument bounds the rounds. `contextMemory` says which contexts
can be allocated, and what stands in their `sender_id`, which is never set. -/
def processLoop : Nat → List UInt8 → RpcServer N →
    ProcessExit × List (RpcDispatch N) × RpcServer N
  | 0, bytes, server => (.partialMessage bytes, [], server)
  | fuel + 1, bytes, server =>
    if bytes.length < rpcHeaderSize then (.partialMessage bytes, [], server)
    else
      match rpcUnpackHeader bytes with
      | none => (.invalidHeader, [], server)
      | some header =>
        let totalLen := header.totalLen.toNat
        if bytes.length < totalLen then (.partialMessage bytes, [], server)
        else
          match contextMemory server.allocated with
          | none => (.outOfMemory, [], server)
          | some senderId =>
            let context := {
              address := server.allocated
              channel := channel
              requestId := header.requestId
              funcId := header.funcId
              senderId := senderId }
            let payload := (bytes.take totalLen).drop rpcHeaderSize
            let (dispatch, server) := dispatchRequest table context payload
              { server with allocated := server.allocated + 1 }
            let (exit, dispatches, server) := processLoop fuel (bytes.drop totalLen) server
            (exit, dispatch :: dispatches, server)

variable (table : Option (List (RpcServiceEntry N)))

/-- `process_buffered_data`: the buffered bytes afterwards, the requests
dispatched, and the server. Without memory for a context the buffer is left as
it was, the requests already dispatched included. -/
def processBufferedData (rxData : List UInt8) (server : RpcServer N) :
    List UInt8 × List (RpcDispatch N) × RpcServer N :=
  match table with
  | none => ([], [], server)
  | some table =>
    match processLoop contextMemory table channel (rxData.length + 1) rxData server with
    | (.partialMessage rest, dispatches, server) => (rest, dispatches, server)
    | (.invalidHeader, dispatches, server) => ([], dispatches, server)
    | (.outOfMemory, dispatches, server) => (rxData, dispatches, server)

/-- A connection of the event loop. `dispatched` is not in the source: it lists
the requests dispatched so far. -/
structure RpcSession (N : Type) where
  rxData : List UInt8
  closed : Bool
  dispatched : List (RpcDispatch N)
  server : RpcServer N

def RpcSession.accepted (server : RpcServer N) : RpcSession N where
  rxData := []
  closed := false
  dispatched := []
  server := server

/-- The event loop reads at most as much as the buffer has room for, processes
the buffer, and closes the connection if the buffer is full afterwards. -/
def rpcReceive (session : RpcSession N) (bytes : List UInt8) : RpcSession N :=
  if session.closed then session
  else
    let taken := bytes.take (channel.rxBufferSize - session.rxData.length)
    let (rest, dispatches, server) :=
      processBufferedData contextMemory channel table (session.rxData ++ taken) session.server
    { rxData := rest
      closed := rest.length == channel.rxBufferSize
      dispatched := session.dispatched ++ dispatches
      server := server }

/-- Each chunk fits into the free part of the receive buffer when it arrives. -/
def ReadsFit : RpcSession N → List (List UInt8) → Prop
  | _, [] => True
  | session, bytes :: later =>
    session.rxData.length + bytes.length ≤ channel.rxBufferSize ∧
      ReadsFit (rpcReceive contextMemory channel table session bytes) later

end Processing
end Roole
