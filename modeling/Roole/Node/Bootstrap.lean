import Roole.Gossip.Announcements
import Roole.Gossip.BootstrapResponse
import Roole.Gossip.SocketAddress
import Roole.Node.PeerAddresses

/-!
# Bootstrapping from a router

A node that starts sends a WORKER_JOIN to one of its seed routers and adds the
routers of the JOIN_RESPONSE to its peer pool. The response is filtered from the
view of the router, printed, encoded, decoded and parsed again.
-/

namespace Roole

open KeyedList

-- ----------------------------------------------------------------------------
-- The node
-- ----------------------------------------------------------------------------

structure NodeIdentity where
  nodeId : NodeId
  bindAddr : List UInt8
  gossipPort : UInt16
  dataPort : UInt16

/-- What waiting for the response comes to. -/
inductive Received
  | datagram (bytes : List UInt8)
  | timeout
  | failed

structure BootstrapEnv where
  now : UInt64
  random : Nat
  socketOk : Bool
  /-- Whether `inet_pton` takes the address. -/
  validIp : List UInt8 → Bool
  sendOk : Bool
  received : Received
  /-- The memory behind what was received, and behind the routers read from it. -/
  behind : List UInt8
  past : Nat → BootstrapRouter
  channel : NodeId → Option RpcChannel

structure JoiningNode where
  engine : GossipEngine
  pool : PeerPool
  sent : List GossipEffect

def JoiningNode.announce (now : UInt64) (node : JoiningNode) : JoiningNode :=
  { node with engine := gossipEngineAnnounceJoin now node.engine }

def NodeIdentity.joinMessage (now : UInt64) (identity : NodeIdentity) : GossipMessage where
  version := 1
  msgType := gossipMsgWorkerJoin
  flags := 0
  senderId := identity.nodeId
  sequenceNum := 1
  numUpdates := 1
  updates := [{
    nodeId := identity.nodeId
    nodeType := .worker
    ipAddress := safeStrncpy identity.bindAddr maxIpLen
    gossipPort := identity.gossipPort
    dataPort := identity.dataPort
    status := .alive
    incarnation := 0
    timestampMs := now }]

def connectRouter (channel : NodeId → Option RpcChannel) (pool : PeerPool)
    (router : BootstrapRouter) : PeerPool :=
  let (_, gossipPort) := configParseAddress router.gossipAddr
  let (ip, dataPort) := configParseAddress router.dataAddr
  connectPeer router.nodeId ip gossipPort dataPort (channel router.nodeId) pool

def connectRouters (env : BootstrapEnv) (response : BootstrapResponse) (pool : PeerPool) :
    PeerPool :=
  ((List.range response.numRouters.toNat).map (response.router env.past)).foldl
    (connectRouter env.channel) pool

def bootstrapFromResponse (env : BootstrapEnv) (node : JoiningNode) (recvBuffer : List UInt8) :
    ResultStatus × JoiningNode :=
  match gossipMessageDeserialize recvBuffer with
  | none => (.errInvalid, node.announce env.now)
  | some response =>
    if response.msgType ≠ gossipMsgJoinResponse then (.errInvalid, node.announce env.now)
    else
      let headerSize := 16 + response.numUpdates.toNat * 44
      if recvBuffer.length < headerSize then (.errInvalid, node.announce env.now)
      else
        match gossipDeserializeBootstrapResponse env.behind (recvBuffer.drop headerSize) with
        | none => (.errInvalid, node.announce env.now)
        | some routers => (.ok, { node with pool := connectRouters env routers node.pool })

/-- Without seed routers the node starts on its own. -/
def nodeBootstrapFromConfigEx (env : BootstrapEnv) (identity : NodeIdentity)
    (routers : List (List UInt8)) (node : JoiningNode) : ResultStatus × JoiningNode :=
  if routers.length = 0 then (.ok, node.announce env.now)
  else
    let (ip, port) := configParseAddress (routers.getD (env.random % routers.length) [])
    if !env.socketOk then (.errNetwork, node)
    else
      match gossipMessageSerialize (identity.joinMessage env.now) gossipMaxPayloadSize with
      | none => (.errInvalid, node)
      | some datagram =>
        if !env.validIp ip then (.errInvalid, node)
        else if !env.sendOk then (.errNetwork, node)
        else
          let node := { node with sent := node.sent ++ [.send ip port datagram] }
          match env.received with
          | .timeout => (.errTimeout, node.announce env.now)
          | .failed => (.errNetwork, node)
          | .datagram bytes => bootstrapFromResponse env node (bytes.take gossipMaxPayloadSize)

/-- The node gets its WORKER_JOIN sent to a seed router. -/
structure BootstrapEnv.Sends (env : BootstrapEnv) (routers : List (List UInt8)) : Prop where
  configured : routers.length ≠ 0
  socket : env.socketOk = true
  valid : env.validIp
    (configParseAddress (routers.getD (env.random % routers.length) [])).1 = true
  sent : env.sendOk = true

def BootstrapEnv.answered (env : BootstrapEnv) (datagram : List UInt8) : BootstrapEnv :=
  { env with received := .datagram datagram }

-- ----------------------------------------------------------------------------
-- The router
-- ----------------------------------------------------------------------------

def aliveRouters (view : ClusterView) : List ClusterMember :=
  view.members.filter fun member => member.nodeType == .router && member.status == .alive

def ClusterMember.bootstrapRouter (member : ClusterMember) : BootstrapRouter where
  nodeId := member.nodeId
  gossipAddr := socketAddress member.ipAddress member.gossipPort
  dataAddr := socketAddress member.ipAddress member.dataPort

theorem bootstrapRouters_eq (engine : GossipEngine) :
    bootstrapRouters engine =
      ((aliveRouters engine.view).take maxConfigRouters).map ClusterMember.bootstrapRouter := rfl

theorem responseMessage_sendable (engine : GossipEngine) :
    (engine.makeMessage gossipMsgJoinResponse []).Sendable := ⟨rfl, rfl, Nat.zero_le _⟩

/-- The response: a header, a count and the first ten routers. -/
theorem joinResponse_eq (engine : GossipEngine) : joinResponse engine =
    some (serializeHeader (engine.makeMessage gossipMsgJoinResponse []) ++
      .ofNat ((aliveRouters engine.view).take 10).length ::
        (((aliveRouters engine.view).take 10).map ClusterMember.bootstrapRouter).flatMap
          serializeRouter) := by
  have hsize : gossipHeaderSize + memberUpdateSize * 0 ≤ gossipMaxPayloadSize := by decide
  have hheader : gossipMessageSerialize (engine.makeMessage gossipMsgJoinResponse [])
      gossipMaxPayloadSize =
        some (serializeHeader (engine.makeMessage gossipMsgJoinResponse []) ++ []) :=
    gossipMessageSerialize_eq (responseMessage_sendable engine) hsize
  have hroom : bootstrapRoom (gossipMaxPayloadSize - gossipHeaderSize) = 10 := by decide
  have hcount : (bootstrapRouters engine).length ≤ maxConfigRouters := by
    rw [bootstrapRouters_eq, List.length_map]
    exact List.length_take_le _ _
  have hfirst : (bootstrapRouters engine).take 10 =
      ((aliveRouters engine.view).take 10).map ClusterMember.bootstrapRouter := by
    rw [bootstrapRouters_eq, ← List.map_take, List.take_take]
    rfl
  have hlength : min (bootstrapRouters engine).length 10 =
      ((aliveRouters engine.view).take 10).length := by
    rw [Nat.min_comm, ← List.length_take, hfirst, List.length_map]
  unfold joinResponse
  rw [hheader, List.append_nil]
  simp only [Option.bind_eq_bind, Option.bind_some, serializeHeader_length]
  rw [gossipSerializeBootstrapResponse_eq hcount (by decide), hroom, hfirst, hlength]
  rfl

theorem joinResponse_length (h : joinResponse engine = some datagram) :
    datagram.length ≤ gossipMaxPayloadSize := by
  have hfirst := List.length_take_le 10 (aliveRouters engine.view)
  rw [joinResponse_eq] at h
  cases h
  rw [List.length_append, serializeHeader_length, List.length_cons, serializeRouter_flatMap_length,
    List.length_map]
  simp only [gossipHeaderSize, bootstrapRouterSize, gossipMaxPayloadSize]
  omega

-- ----------------------------------------------------------------------------
-- The routers that are added
-- ----------------------------------------------------------------------------

section Connect

variable {pool : PeerPool} {member : ClusterMember}

theorem connectRouter_onWire (channel : NodeId → Option RpcChannel) (pool : PeerPool)
    (hip : DottedQuad member.ipAddress) :
    connectRouter channel pool member.bootstrapRouter.onWire =
      connectPeer member.nodeId (cString member.ipAddress) member.gossipPort member.dataPort
        (channel member.nodeId) pool := by
  have hwire : ∀ port, (cString (socketAddress member.ipAddress port)).take 63 =
      socketAddress member.ipAddress port := by
    intro port
    have hlength := socketAddress_length hip port
    rw [cString_eq_self (zero_not_mem_socketAddress hip port)]
    exact List.take_of_length_le (hlength.trans (by decide))
  simp only [connectRouter, BootstrapRouter.onWire, ClusterMember.bootstrapRouter, hwire,
    configParseAddress_socketAddress hip]

/-- Adds the routers that are read for these members. -/
def connectMembers (channel : NodeId → Option RpcChannel) (pool : PeerPool)
    (members : List ClusterMember) : PeerPool :=
  (members.map fun member => member.bootstrapRouter.onWire).foldl (connectRouter channel) pool

theorem connectMembers_peers (channel : NodeId → Option RpcChannel) {members : List ClusterMember}
    (hnodup : (members.map ClusterMember.nodeId).Nodup)
    (hquads : ∀ member ∈ members, DottedQuad member.ipAddress)
    (hnew : ∀ member ∈ members, lookup PeerInfo.nodeId pool.peers member.nodeId = none)
    (hroom : pool.peers.length + members.length ≤ pool.capacity) :
    ∃ added, (connectMembers channel pool members).peers = pool.peers ++ added ∧
      added.map (fun peer => (peer.nodeId, peer.address)) =
        members.map fun member => (member.nodeId, member.address) := by
  induction members generalizing pool with
  | nil => exact ⟨[], (List.append_nil pool.peers).symm, rfl⟩
  | cons member rest ih =>
    rw [List.map_cons, List.nodup_cons] at hnodup
    rw [List.length_cons] at hroom
    have hip := hquads member List.mem_cons_self
    obtain ⟨hcapacity, peer, hid, haddress, hpeers⟩ := @connectPeer_new member.nodeId
      (cString member.ipAddress) member.gossipPort member.dataPort (channel member.nodeId) pool
      (hnew member List.mem_cons_self) (by omega)
    have hnew' : ∀ other ∈ rest, lookup PeerInfo.nodeId (pool.peers ++ [peer]) other.nodeId =
        none := by
      intro other hother
      have hne : member.nodeId ≠ other.nodeId := fun heq =>
        hnodup.1 (heq ▸ List.mem_map_of_mem hother)
      rw [lookup_append, hnew other (List.mem_cons_of_mem member hother), lookup_cons, hid,
        if_neg hne]
      rfl
    rw [connectMembers, List.map_cons, List.foldl_cons, connectRouter_onWire channel pool hip]
    rw [← hpeers] at hnew'
    obtain ⟨added, hadded, hmap⟩ := ih hnodup.2
      (fun other hother => hquads other (List.mem_cons_of_mem member hother)) hnew'
      (by rw [hpeers, hcapacity, List.length_append, List.length_singleton]; omega)
    refine ⟨peer :: added, ?_, ?_⟩
    · rw [← connectMembers, hadded, hpeers, List.append_assoc]
      rfl
    · rw [List.map_cons, List.map_cons, hmap, hid, haddress,
        safeStrncpy_eq_cString hip.length, cString_cString]
      rfl

end Connect

-- ----------------------------------------------------------------------------
-- From the view to the pool
-- ----------------------------------------------------------------------------

theorem connectRouters_eq (env : BootstrapEnv) {members : List ClusterMember}
    (hcount : members.length ≤ maxConfigRouters) (f : ClusterMember → BootstrapRouter)
    (pool : PeerPool) :
    connectRouters env ⟨.ofNat members.length, members.map f⟩ pool =
      (members.map f).foldl (connectRouter env.channel) pool := by
  have htoNat : (UInt8.ofNat members.length).toNat = members.length := by
    rw [UInt8.toNat_ofNat']
    simp only [maxConfigRouters] at hcount
    omega
  have hread : (List.range members.length).map
      (BootstrapResponse.router env.past ⟨.ofNat members.length, members.map f⟩) =
        members.map f := by
    refine List.ext_getElem (by simp) fun i hi _ => ?_
    have hi' : i < members.length := by simpa using hi
    simp [BootstrapResponse.router, hi', hi'.trans_le hcount]
  rw [connectRouters, htoNat, hread]

theorem gossipMessageDeserialize_response (engine : GossipEngine) (list : List UInt8) :
    gossipMessageDeserialize (serializeHeader (engine.makeMessage gossipMsgJoinResponse []) ++
      list) = some (engine.makeMessage gossipMsgJoinResponse []) := by
  have hsendable := responseMessage_sendable engine
  have hsent := gossipMessageDeserialize_sent hsendable.version list
  rw [hsendable.sent_eq] at hsent
  exact hsent

theorem gossipDeserializeBootstrapResponse_members (behind : List UInt8)
    {members : List ClusterMember} (hcount : members.length ≤ maxConfigRouters) :
    gossipDeserializeBootstrapResponse behind (.ofNat members.length ::
      (members.map ClusterMember.bootstrapRouter).flatMap serializeRouter) =
        some ⟨.ofNat members.length, members.map fun member => member.bootstrapRouter.onWire⟩ := by
  have hmapped : (members.map ClusterMember.bootstrapRouter).length ≤ maxConfigRouters :=
    (List.length_map _).trans_le hcount
  have hread := gossipDeserializeBootstrapResponse_eq hmapped behind
  rw [List.length_map, List.map_map] at hread
  exact hread

theorem bootstrapFromResponse_eq (h : joinResponse engine = some datagram) (env : BootstrapEnv)
    (node : JoiningNode) : bootstrapFromResponse env node datagram =
      (.ok, { node with
        pool := connectMembers env.channel node.pool ((aliveRouters engine.view).take 10) }) := by
  have hfirst := List.length_take_le 10 (aliveRouters engine.view)
  rw [joinResponse_eq] at h
  generalize (aliveRouters engine.view).take 10 = first at h hfirst ⊢
  cases h
  have hcount : first.length ≤ maxConfigRouters := hfirst.trans (by decide)
  have hrouters := gossipDeserializeBootstrapResponse_members env.behind hcount
  generalize UInt8.ofNat first.length ::
    (first.map ClusterMember.bootstrapRouter).flatMap serializeRouter = list at hrouters ⊢
  have htype : (engine.makeMessage gossipMsgJoinResponse []).msgType = gossipMsgJoinResponse := rfl
  have hheader : 16 + (engine.makeMessage gossipMsgJoinResponse []).numUpdates.toNat * 44 =
      gossipHeaderSize := rfl
  have hlong : gossipHeaderSize ≤
      (serializeHeader (engine.makeMessage gossipMsgJoinResponse []) ++ list).length := by
    rw [List.length_append, serializeHeader_length]
    exact Nat.le_add_right _ _
  have hdrop : (serializeHeader (engine.makeMessage gossipMsgJoinResponse []) ++ list).drop
      gossipHeaderSize = list := List.drop_left' (serializeHeader_length _)
  unfold bootstrapFromResponse
  rw [gossipMessageDeserialize_response]
  dsimp only
  rw [if_neg (not_not_intro htype), hheader, if_neg (Nat.not_lt.mpr hlong), hdrop, hrouters]
  dsimp only
  rw [connectRouters_eq env hcount, connectMembers]

theorem joinMessage_sendable (now : UInt64) (identity : NodeIdentity) :
    (identity.joinMessage now).Sendable := ⟨rfl, rfl, Nat.le_of_ble_eq_true rfl⟩

theorem nodeBootstrapFromConfigEx_answered {env : BootstrapEnv} (h : env.Sends routers)
    (hsize : datagram.length ≤ gossipMaxPayloadSize) (identity : NodeIdentity)
    (node : JoiningNode) : ∃ sent,
      nodeBootstrapFromConfigEx (env.answered datagram) identity routers node =
        bootstrapFromResponse (env.answered datagram) { node with sent := sent } datagram := by
  have hfits : gossipHeaderSize + memberUpdateSize * 1 ≤ gossipMaxPayloadSize := by decide
  have hjoin := gossipMessageSerialize_eq (joinMessage_sendable env.now identity) hfits
  unfold nodeBootstrapFromConfigEx BootstrapEnv.answered
  rw [if_neg h.configured]
  simp only [h.socket, hjoin, h.valid, h.sent, List.take_of_length_le hsize]
  exact ⟨_, rfl⟩

section Response

variable {now : UInt64} {past : Nat → GossipMemberUpdate} {srcIp : List UInt8} {srcPort : UInt16}
  {engine : GossipEngine} {msg : GossipMessage} {view : ClusterView} {env : BootstrapEnv}
  {routers : List (List UInt8)} {node : JoiningNode}

theorem handleWorkerJoinMessage_response (hrouter : engine.myType = .router) :
    ∃ answering effects,
      answering.view = (handleWorkerJoinMessage now past srcIp srcPort engine msg).1.view ∧
      (handleWorkerJoinMessage now past srcIp srcPort engine msg).2 =
        effects ++ (joinResponse answering).toList.map (.send srcIp srcPort) := by
  unfold handleWorkerJoinMessage
  rw [if_neg (not_not_intro hrouter)]
  generalize (if msg.numUpdates > 0 then
    joinWorker now srcIp engine msg.senderId (msg.update past 0) else (engine, [])) = joined
  obtain ⟨answering, effects⟩ := joined
  exact ⟨answering, effects, rfl, rfl⟩

/-- A router answers a WORKER_JOIN with a datagram that makes the worker add the
first ten of the ALIVE routers of the view, all if there are fewer, in their
order and at the addresses that the view has them at. -/
theorem join_response_bootstraps (hrouter : engine.myType = .router)
    (hview : (handleWorkerJoinMessage now past srcIp srcPort engine msg).1.view = view)
    (hquads : ∀ member ∈ view.members, DottedQuad member.ipAddress)
    (hsends : env.Sends routers)
    (hroom : node.pool.peers.length + ((aliveRouters view).take 10).length ≤ node.pool.capacity)
    (hnew : ∀ member ∈ (aliveRouters view).take 10,
      lookup PeerInfo.nodeId node.pool.peers member.nodeId = none) (identity : NodeIdentity) :
    ∃ datagram, (handleWorkerJoinMessage now past srcIp srcPort engine msg).2.getLast? =
        some (.send srcIp srcPort datagram) ∧ datagram.length ≤ gossipMaxPayloadSize ∧
      ∃ added, (nodeBootstrapFromConfigEx (env.answered datagram) identity routers
          node).2.pool.peers = node.pool.peers ++ added ∧
        added.map (fun peer => (peer.nodeId, peer.address)) =
          ((aliveRouters view).take 10).map fun member => (member.nodeId, member.address) := by
  obtain ⟨answering, effects, hanswering, heffects⟩ :=
    @handleWorkerJoinMessage_response now past srcIp srcPort engine msg hrouter
  rw [hview] at hanswering
  subst hanswering
  have hresponse := joinResponse_eq answering
  generalize serializeHeader _ ++ _ = datagram at hresponse
  have hsize := joinResponse_length hresponse
  obtain ⟨sent, hbootstrap⟩ := nodeBootstrapFromConfigEx_answered hsends hsize identity node
  have hkept : ((aliveRouters answering.view).take 10).Sublist answering.view.members :=
    (List.take_sublist _ _).trans List.filter_sublist
  refine ⟨datagram, ?_, hsize, ?_⟩
  · rw [heffects, hresponse]
    exact List.getLast?_concat
  · rw [hbootstrap, bootstrapFromResponse_eq hresponse]
    exact connectMembers_peers env.channel (answering.view.nodup.sublist (hkept.map _))
      (fun member hmember => hquads member (hkept.subset hmember)) hnew hroom

end Response

def hostIp (digit : UInt8) : List UInt8 := [49, 48, 46, 48, 46, 48, 46, digit]

def routerIp : List UInt8 := hostIp 49
def workerIp : List UInt8 := hostIp 50

def seedRouter : GossipEngine :=
  membershipInit 0 1 .router routerIp 7000 8000 (.empty maxClusterNodes)

def routerJoins (nodeId : NodeId) (digit : UInt8) (gossipPort dataPort : UInt16) : GossipAction :=
  .receive 0 (fun _ => .zero) (hostIp digit) gossipPort (messageOf nodeId gossipMsgJoin
    [{ newsOf nodeId .alive 0 with
        nodeType := .router
        gossipPort := gossipPort
        dataPort := dataPort }])

/-- Three routers have joined it, and one of them is dead. -/
def crowdedRouter : GossipEngine :=
  seedRouter.run [routerJoins 2 51 7001 8001, routerJoins 4 52 7002 8002,
    routerJoins 5 53 7003 8003, arrival (messageOf 2 gossipMsgDead [newsOf 4 .dead 1])]

def startingNode : JoiningNode where
  engine := membershipInit 0 3 .worker workerIp 7003 8003 (.empty maxClusterNodes)
  pool := peerPoolInit maxPeers
  sent := []

def smoothEnv : BootstrapEnv where
  now := 0
  random := 0
  socketOk := true
  validIp := fun _ => true
  sendOk := true
  received := .timeout
  behind := []
  past := fun _ => .zero
  channel := fun _ => none

theorem dottedQuad_hostIp (h : Decimal.IsDigit digit) : DottedQuad (hostIp digit) := by
  have hlast : IsOctet [digit] :=
    ⟨Nat.one_pos, Nat.le_add_left 1 2, List.forall_mem_singleton.mpr h⟩
  have hdigit : digit ≠ 0 := fun hzero => absurd (hzero ▸ h) (by decide +kernel)
  refine ⟨[49, 48], [48], [48], [digit], by decide +kernel, by decide +kernel, by decide +kernel,
    hlast, ?_⟩
  simp [hostIp, cString, hdigit]

def answer : GossipEngine × List GossipEffect :=
  handleWorkerJoinMessage 0 (fun _ => .zero) workerIp 40000 crowdedRouter
    (messageOf 3 gossipMsgWorkerJoin [newsOf 3 .alive 0])

theorem answer_dottedQuads : ∀ member ∈ answer.1.view.members, DottedQuad member.ipAddress := by
  intro member hmember
  have hips : answer.1.view.members.map ClusterMember.ipAddress =
      [hostIp 49, hostIp 51, hostIp 52, hostIp 53, hostIp 50] := by
    decide +kernel
  have hip := List.mem_map_of_mem (f := ClusterMember.ipAddress) hmember
  rw [hips] at hip
  simp only [List.mem_cons, List.not_mem_nil, or_false] at hip
  rcases hip with hip | hip | hip | hip | hip <;>
    exact hip ▸ dottedQuad_hostIp (by decide +kernel)

theorem join_response_bootstraps_crowded :
    (aliveRouters answer.1.view).map ClusterMember.nodeId = [1, 2, 5] ∧
    ∃ datagram, answer.2.getLast? = some (.send workerIp 40000 datagram) ∧
      datagram.length ≤ gossipMaxPayloadSize ∧
      ∃ added, (nodeBootstrapFromConfigEx (smoothEnv.answered datagram) ⟨3, workerIp, 7003, 8003⟩
          [socketAddress routerIp 7000] startingNode).2.pool.peers =
            startingNode.pool.peers ++ added ∧
        added.map (fun peer => (peer.nodeId, peer.address)) =
          ((aliveRouters answer.1.view).take 10).map
            fun member => (member.nodeId, member.address) :=
  ⟨by decide +kernel, join_response_bootstraps (by decide +kernel) rfl answer_dottedQuads
    ⟨by decide, rfl, rfl, rfl⟩ (by decide +kernel)
    (by decide +kernel) _⟩

end Roole
