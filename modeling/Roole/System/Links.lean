import Roole.System.CatalogLog

/-!
# A cluster with its connections

What the nodes have sent to each other and nobody has handled yet. Two nodes have
one connection at a time, and it is a stream of bytes: the receiver takes frames
off its front, and of a request that the kernel took in part the next one's
first bytes become the rest. A reset loses what is under way. Where that
joining does not happen, the cluster with its connections is the cluster whose
requests are delivered one by one.
-/

namespace Roole

open Bytes

-- ----------------------------------------------------------------------------
-- Work
-- ----------------------------------------------------------------------------

/-- A message to be executed, whenever the node that holds it got it. -/
structure Work where
  execId : ExecutionId
  dagId : RuleId
  messageData : List UInt8
  senderId : NodeId
  deriving DecidableEq, Repr

def Message.work (message : Message) : Work where
  execId := message.execId
  dagId := message.dagId
  messageData := message.messageData
  senderId := message.senderId

def payloadWork (payload : List UInt8) : Work where
  execId := readLe64 payload
  dagId := readLe32 (payload.drop 8)
  messageData := payload.drop 14
  senderId := readLe16 (payload.drop 12)

def PeerRequest.work (request : PeerRequest) : Option Work :=
  let payload := request.message.drop rpcHeaderSize
  if (RpcHeader.read request.message).funcId = funcIdProcessMessage ∧ 14 ≤ payload.length then
    some (payloadWork payload)
  else none

-- ----------------------------------------------------------------------------
-- Connections
-- ----------------------------------------------------------------------------

structure LinkedCluster where
  cluster : Cluster
  /-- What the node has sent, as far as nobody has handled it. -/
  links : NodeId → List PeerRequest
  submitted : List Work
  /-- Messages that their executor gave up before `dag_execute`. -/
  dropped : List Work
  lost : List Work

inductive LinkAction
  | act (action : ClusterAction)
  /-- The receiver handles the frame at the front of the stream. -/
  | deliver (sender receiver : NodeId) (env : NodeEnv) (context : RpcAsyncContext)
  /-- The receiver drops its buffer at a header that is none. -/
  | discard (sender receiver : NodeId) (buffered : Nat)
  | reset (sender receiver : NodeId)

/-- The requests that a node has sent in a step, as far as any of their bytes
went out. -/
def newRequests (before after : NodeServer) : List PeerRequest :=
  (after.requests.drop before.requests.length).filter fun request => request.sent ≠ 0

def PeerRequest.bytes (request : PeerRequest) : List UInt8 := request.message.take request.sent

/-- The requests without the first bytes of what goes to the receiver. -/
def takeBytes (receiver : NodeId) : Nat → List PeerRequest → List PeerRequest
  | _, [] => []
  | count, request :: rest =>
    if count = 0 ∨ request.peer ≠ receiver then request :: takeBytes receiver count rest
    else if request.sent ≤ count then takeBytes receiver (count - request.sent) rest
    else { request with
      message := request.message.drop count
      sent := request.sent - count } :: rest

/-- The receiver handles a frame, as `process_buffered_data` does. -/
def Cluster.receive (cluster : Cluster) (receiver : NodeId) (env : NodeEnv)
    (context : RpcAsyncContext) (frame : RpcFrame) : Option Cluster := do
  let server ← cluster.nodes receiver
  some (cluster.set receiver (dispatchRequest (nodeBuildRpcServiceTable (fun _ => env)
    server.node.capabilities)
    { context with requestId := frame.header.requestId, funcId := frame.header.funcId }
    frame.payload server).2)

namespace LinkedCluster

def start (configs : NodeId → Option NodeConfig) : LinkedCluster where
  cluster := .start configs
  links := fun _ => []
  submitted := []
  dropped := []
  lost := []

/-- The stream from one node to another. -/
def underWay (state : LinkedCluster) (sender receiver : NodeId) : List UInt8 :=
  ((state.links sender).filter fun request => request.peer = receiver).flatMap PeerRequest.bytes

def extend (before after : Cluster) (links : NodeId → List PeerRequest) (nodeId : NodeId) :
    List PeerRequest :=
  match before.nodes nodeId, after.nodes nodeId with
  | some server, some later => links nodeId ++ newRequests server later
  | _, _ => links nodeId

def newWork (before after : Cluster) : ClusterAction → List Work
  | .submit _ _ context inData =>
    (after.started.take (after.started.length - before.started.length)).map fun submission =>
      ⟨submission.execId, readLe32 inData, inData.drop 4, context.senderId⟩
  | _ => []

def droppedWork (before after : Cluster) : ClusterAction → List Work
  | .execute _ _ _ message =>
    if after.executed.length = before.executed.length then [message.work] else []
  | _ => []

/-- A frame that does not fit into the receive buffer stays under way, as one of
which a part is missing does. -/
def step (state : LinkedCluster) : LinkAction → Option LinkedCluster
  | .act action => do
    let later ← state.cluster.step action
    match action with
    | .deliver .. => none
    | _ => some {
        cluster := later
        links := extend state.cluster later state.links
        submitted := newWork state.cluster later action ++ state.submitted
        dropped := droppedWork state.cluster later action ++ state.dropped
        lost := state.lost }
  | .deliver sender receiver env context =>
    match rpcFront (state.underWay sender receiver) with
    | .frame frame size =>
      if size ≤ maxBufferSize then do
        let later ← state.cluster.receive receiver env context frame
        some { state with
          cluster := later
          links := extend state.cluster later
            (Function.update state.links sender (takeBytes receiver size (state.links sender))) }
      else none
    | _ => none
  | .discard sender receiver buffered =>
    match rpcFront (state.underWay sender receiver) with
    | .malformed =>
      if rpcHeaderSize ≤ buffered ∧ buffered ≤ maxBufferSize then
        some { state with
          links := Function.update state.links sender
            (takeBytes receiver buffered (state.links sender)) }
      else none
    | _ => none
  | .reset sender receiver =>
    let underWay := (state.links sender).filter fun request => request.peer = receiver
    some { state with
      links := Function.update state.links sender
        ((state.links sender).filter fun request => request.peer ≠ receiver)
      lost := underWay.filterMap PeerRequest.work ++ state.lost }

def run (state : LinkedCluster) (actions : List LinkAction) : Option LinkedCluster :=
  actions.foldlM step state

/-- The kernel took all of the oldest request under way, so that the first frame
of the stream ends where the request does. -/
def FrontWhole (state : LinkedCluster) : LinkAction → Prop
  | .deliver sender receiver _ _ | .discard sender receiver _ =>
    ∀ request ∈ (state.links sender).find? fun request => request.peer = receiver,
      request.sent = request.message.length ∧ request.message.length < 2 ^ 32
  | _ => True

/-- Nowhere in the run do bytes of a later request complete one that the kernel
took only in part. -/
def WholeFrames (state : LinkedCluster) : List LinkAction → Prop
  | [] => True
  | action :: rest =>
    state.FrontWhole action ∧ ∀ later ∈ state.step action, later.WholeFrames rest

instance (state : LinkedCluster) : (action : LinkAction) → Decidable (state.FrontWhole action)
  | .deliver .. | .discard .. => inferInstanceAs (Decidable (∀ request ∈ List.find? _ _, _))
  | .act _ | .reset .. => inferInstanceAs (Decidable True)

instance instDecidableWholeFrames (state : LinkedCluster) :
    (actions : List LinkAction) → Decidable (state.WholeFrames actions)
  | [] => inferInstanceAs (Decidable True)
  | action :: rest =>
    haveI : ∀ later, Decidable (LinkedCluster.WholeFrames later rest) := fun later =>
      instDecidableWholeFrames later rest
    inferInstanceAs (Decidable (state.FrontWhole action ∧ ∀ later ∈ state.step action, _))

def clusterActions (state : LinkedCluster) : LinkAction → List ClusterAction
  | .act action => [action]
  | .deliver sender receiver env context =>
    ((state.links sender).find? fun request => request.peer = receiver).toList.map fun request =>
      .deliver sender receiver env context request.message
  | .discard .. | .reset .. => []

end LinkedCluster

-- ----------------------------------------------------------------------------
-- Whole frames
-- ----------------------------------------------------------------------------

theorem takeBytes_zero (receiver : NodeId) (requests : List PeerRequest) :
    takeBytes receiver 0 requests = requests := by
  induction requests with
  | nil => rfl
  | cons request rest ih => simp [takeBytes, ih]

theorem takeBytes_first {requests : List PeerRequest}
    (hfind : requests.find? (fun request => request.peer = receiver) = some request)
    (hsent : request.sent ≠ 0) :
    takeBytes receiver request.sent requests = requests.erase request := by
  have hpeer : request.peer = receiver := by simpa using List.find?_some hfind
  induction requests with
  | nil => cases hfind
  | cons first rest ih =>
    by_cases hfirst : first.peer = receiver
    · rw [List.find?_cons_of_pos (by simpa using hfirst)] at hfind
      cases hfind
      simp [takeBytes, hsent, hpeer, takeBytes_zero]
    · rw [List.find?_cons_of_neg (by simpa using hfirst)] at hfind
      have hne : first ≠ request := fun heq => hfirst (heq ▸ hpeer)
      rw [takeBytes, if_pos (.inr hfirst), ih hfind, List.erase_cons_tail (by simpa using hne)]

theorem PeerRequest.bytes_of_whole {request : PeerRequest}
    (h : request.sent = request.message.length) : request.bytes = request.message := by
  rw [bytes, h, List.take_length]

theorem PeerRequest.Packs.front {request : PeerRequest} (h : request.Packs funcId)
    (hlt : request.message.length < 2 ^ 32) (more : List UInt8) :
    rpcFront (request.message ++ more) =
      .frame ⟨RpcHeader.read request.message, request.message.drop rpcHeaderSize⟩
        request.message.length := by
  obtain ⟨nodeId, requestId, type, status, payload, hmessage⟩ := h
  rw [hmessage] at hlt ⊢
  have hlength := rpcPackMessage_length nodeId requestId type status funcId payload
  rw [hlength] at hlt ⊢
  rw [rpcFront_pack hlt, RpcHeader.read_pack, rpcPackMessage_drop]

namespace LinkedCluster

variable {state : LinkedCluster} {sender receiver : NodeId}

theorem underWay_nil
    (hfind : (state.links sender).find? (fun request => request.peer = receiver) = none) :
    state.underWay sender receiver = [] := by
  rw [List.find?_eq_none] at hfind
  rw [underWay, List.filter_eq_nil_iff.mpr hfind]
  rfl

theorem underWay_first
    (hfind : (state.links sender).find? (fun request => request.peer = receiver) = some request) :
    ∃ more, state.underWay sender receiver = request.bytes ++ more := by
  rw [← List.head?_filter] at hfind
  obtain ⟨rest, hrest⟩ := List.head?_eq_some_iff.mp hfind
  exact ⟨rest.flatMap PeerRequest.bytes, by rw [underWay, hrest, List.flatMap_cons]⟩

theorem FrontWhole.front
    (h : ∀ request ∈ (state.links sender).find? fun request => request.peer = receiver,
      request.sent = request.message.length ∧ request.message.length < 2 ^ 32)
    (hpacks : ∀ request ∈ state.links sender, ∃ funcId, request.Packs funcId) :
    rpcFront (state.underWay sender receiver) = .incomplete ∨
      ∃ request, (state.links sender).find? (fun request => request.peer = receiver) =
          some request ∧ request.sent = request.message.length ∧
        rpcFront (state.underWay sender receiver) =
          .frame ⟨RpcHeader.read request.message, request.message.drop rpcHeaderSize⟩
            request.message.length := by
  cases hfind : (state.links sender).find? fun request => request.peer = receiver with
  | none =>
    rw [underWay_nil hfind]
    exact .inl rfl
  | some request =>
    obtain ⟨hsent, hlt⟩ := h request hfind
    obtain ⟨funcId, hrequest⟩ := hpacks request (List.mem_of_find?_eq_some hfind)
    obtain ⟨more, hunderWay⟩ := underWay_first hfind
    rw [hunderWay, PeerRequest.bytes_of_whole hsent]
    exact .inr ⟨request, rfl, hsent, hrequest.front hlt more⟩

/-- What is under way from a node has been sent by it. -/
def Carried (cluster : Cluster) (links : NodeId → List PeerRequest) : Prop :=
  ∀ sender, ∀ request ∈ links sender, request.sent ≠ 0 ∧
    ∃ server, cluster.nodes sender = some server ∧ request ∈ server.requests

theorem Carried.packs (h : Carried state.cluster state.links)
    (hlogged : Logged log state.cluster.nodes) (sender : NodeId) :
    ∀ request ∈ state.links sender, ∃ funcId, request.Packs funcId := by
  intro request hmem
  obtain ⟨-, server, hnode, hsent⟩ := h sender request hmem
  obtain ⟨funcId, -, hpacks⟩ := ((hlogged.drawn sender server hnode).requests request hsent).packs
  exact ⟨funcId, hpacks⟩

/-- A whole frame is delivered as the cluster without connections delivers the
request. -/
theorem deliver_whole (hcarried : Carried state.cluster state.links)
    (hlogged : Logged log state.cluster.nodes)
    (hwhole : state.FrontWhole (.deliver sender receiver env context))
    (h : state.step (.deliver sender receiver env context) = some later) :
    ∃ request next,
      (state.links sender).find? (fun request => request.peer = receiver) = some request ∧
      state.cluster.step (.deliver sender receiver env context request.message) = some next ∧
      later = { state with
        cluster := next
        links := extend state.cluster next
          (Function.update state.links sender ((state.links sender).erase request)) } := by
  rw [step] at h
  obtain hnone | ⟨request, hfind, hsent, hfront⟩ :=
    FrontWhole.front hwhole (hcarried.packs hlogged sender)
  · rw [hnone] at h
    cases h
  · have hmem := List.mem_of_find?_eq_some hfind
    have hpeer : request.peer = receiver := by simpa using List.find?_some hfind
    obtain ⟨hpos, source, hsource, hrequest⟩ := hcarried sender request hmem
    rw [RpcServer.mem_requests, hpeer, hsent] at hrequest
    simp only [hfront] at h
    split_ifs at h
    obtain ⟨next, hreceive, h⟩ := Option.bind_eq_some_iff.mp h
    obtain ⟨server, hserver, hnext⟩ := Option.bind_eq_some_iff.mp hreceive
    refine ⟨request, next, hfind, ?_, ?_⟩
    · rw [Cluster.step, hsource, hserver]
      simp only [Option.bind_eq_bind, Option.bind_some]
      rw [if_pos hrequest]
      exact hnext
    · rw [← hsent, takeBytes_first hfind hpos] at h
      exact (Option.some.inj h).symm

theorem discard_whole (hcarried : Carried state.cluster state.links)
    (hlogged : Logged log state.cluster.nodes)
    (hwhole : state.FrontWhole (.discard sender receiver buffered)) :
    state.step (.discard sender receiver buffered) = none := by
  rw [step]
  obtain hnone | ⟨_, _, _, hfront⟩ := FrontWhole.front hwhole (hcarried.packs hlogged sender)
  · rw [hnone]
  · rw [hfront]

/-- A step that takes whole requests is one of the cluster, or none. -/
theorem step_refines (hcarried : Carried state.cluster state.links)
    (hlogged : Logged log state.cluster.nodes) {action : LinkAction}
    (hwhole : state.FrontWhole action) (h : state.step action = some later) :
    state.cluster.run (state.clusterActions action) = some later.cluster := by
  cases action with
  | act action =>
    obtain ⟨next, hstep, h⟩ := Option.bind_eq_some_iff.mp h
    have hcluster : later.cluster = next := by
      cases action with
      | deliver => cases h
      | _ => cases h; rfl
    simp [clusterActions, Cluster.run, hstep, hcluster]
  | deliver sender receiver env context =>
    obtain ⟨request, next, hfind, hstep, rfl⟩ := deliver_whole hcarried hlogged hwhole h
    simp [clusterActions, Cluster.run, hfind, hstep]
  | discard sender receiver buffered =>
    rw [discard_whole hcarried hlogged hwhole] at h
    cases h
  | reset sender receiver =>
    cases h
    rfl

end LinkedCluster

end Roole
