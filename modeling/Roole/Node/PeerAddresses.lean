import Roole.Gossip.Entries
import Roole.Gossip.TurnEffects
import Roole.Node.State

/-!
# The addresses of the workers

A router keeps the address of a worker twice: the view has it for the members of
the cluster, the peer pool for what is routed to the worker. A WORKER_JOIN is
entered in both, but a worker that comes back at another address replaces its
entry in the view and keeps the one in the pool.
-/

namespace Roole

open KeyedList

abbrev NodeAddress := List UInt8 × UInt16 × UInt16

def PeerInfo.address (peer : PeerInfo) : NodeAddress :=
  (cString peer.ip, peer.gossipPort, peer.dataPort)

def ClusterMember.address (member : ClusterMember) : NodeAddress :=
  (cString member.ipAddress, member.gossipPort, member.dataPort)

def poolAddress (pool : PeerPool) (nodeId : NodeId) : Option NodeAddress :=
  (lookup PeerInfo.nodeId pool.peers nodeId).map PeerInfo.address

def viewAddress (view : ClusterView) (nodeId : NodeId) : Option NodeAddress :=
  (clusterViewGet view nodeId).map ClusterMember.address

-- ----------------------------------------------------------------------------
-- The pool
-- ----------------------------------------------------------------------------

section Pool

variable {nodeId other : NodeId} {ip : List UInt8} {gossipPort dataPort : UInt16}
  {channel : Option RpcChannel} {pool : PeerPool}

@[simp] theorem address_setChannel (channel : Option RpcChannel) (peer : PeerInfo) :
    (peer.setChannel channel).address = peer.address := rfl

@[simp] theorem address_added (nodeId : NodeId) (ip : List UInt8) (gossipPort dataPort : UInt16) :
    (PeerInfo.added nodeId ip gossipPort dataPort).address =
      (safeStrncpy ip maxIpLen, gossipPort, dataPort) := by
  simp [PeerInfo.address, PeerInfo.added]

theorem poolAddress_setChannel (pool : PeerPool) (nodeId other : NodeId)
    (channel : Option RpcChannel) :
    poolAddress (pool.setChannel nodeId channel) other = poolAddress pool other := by
  have hkey : ∀ peer : PeerInfo, peer.nodeId = nodeId →
      (peer.setChannel channel).nodeId = nodeId := fun _ hid => hid
  unfold poolAddress PeerPool.setChannel
  by_cases hother : other = nodeId
  · subst hother
    rw [lookup_modify hkey, Option.map_map]
    rfl
  · rw [lookup_modify_of_ne hkey hother]

theorem poolAddress_connectPeer :
    poolAddress (connectPeer nodeId ip gossipPort dataPort channel pool) other =
      poolAddress (peerPoolAdd pool nodeId ip gossipPort dataPort).2 other := by
  unfold connectPeer
  dsimp only
  split_ifs
  · split
    · refine (poolAddress_setChannel _ nodeId other channel).trans ?_
      simp only [poolAddress, peerPoolGet_peers]
    · simp only [poolAddress, peerPoolGet_peers]
  · rfl

theorem poolAddress_connectPeer_self (hroom : pool.peers.length < pool.capacity) :
    poolAddress (connectPeer nodeId ip gossipPort dataPort channel pool) nodeId =
      (poolAddress pool nodeId).or (some (safeStrncpy ip maxIpLen, gossipPort, dataPort)) := by
  rw [poolAddress_connectPeer]
  unfold peerPoolAdd
  split
  · rename_i hget
    simp [poolAddress, hget]
  · rename_i hget
    simp only [hroom, dif_pos]
    simp [poolAddress, PeerPool.append, lookup_append, lookup_cons, hget, PeerInfo.added,
      PeerInfo.address]

theorem poolAddress_connectPeer_of_ne (hne : other ≠ nodeId) :
    poolAddress (connectPeer nodeId ip gossipPort dataPort channel pool) other =
      poolAddress pool other := by
  rw [poolAddress_connectPeer]
  unfold peerPoolAdd
  split
  · rfl
  · split_ifs
    · simp [poolAddress, PeerPool.append, lookup_append, lookup_cons, PeerInfo.added, hne.symm]
    · rfl

theorem connectPeer_new (hnew : lookup PeerInfo.nodeId pool.peers nodeId = none)
    (hroom : pool.peers.length < pool.capacity) :
    (connectPeer nodeId ip gossipPort dataPort channel pool).capacity = pool.capacity ∧
      ∃ peer, peer.nodeId = nodeId ∧
        peer.address = (safeStrncpy ip maxIpLen, gossipPort, dataPort) ∧
        (connectPeer nodeId ip gossipPort dataPort channel pool).peers = pool.peers ++ [peer] := by
  have hadd : peerPoolAdd pool nodeId ip gossipPort dataPort =
      (.ok, pool.append (.added nodeId ip gossipPort dataPort) hnew hroom) := by
    unfold peerPoolAdd
    split
    · simp_all
    · rw [dif_pos hroom]
  have hfound : lookup PeerInfo.nodeId (pool.append (.added nodeId ip gossipPort dataPort) hnew
      hroom).peers nodeId = some (.added nodeId ip gossipPort dataPort) := by
    simp [PeerPool.append, lookup_append, hnew, lookup_cons, PeerInfo.added]
  unfold connectPeer
  simp only [hadd, if_true, peerPoolGet, hfound]
  refine ⟨rfl, _, rfl, ?_, modify_of_first (lookup_eq_none.mp hnew) rfl _ []⟩
  exact (address_setChannel channel _).trans (address_added nodeId ip gossipPort dataPort)

end Pool

-- ----------------------------------------------------------------------------
-- The view
-- ----------------------------------------------------------------------------

theorem viewAddress_apply {view : ClusterView} {call : ViewCall}
    (hcall : ∀ member, call ≠ .add member) (now : UInt64) (nodeId : NodeId) :
    viewAddress (call.apply now view) nodeId = viewAddress view nodeId := by
  unfold viewAddress
  cases call with
  | keep => rfl
  | add member => exact absurd rfl (hcall member)
  | updateStatus other status incarnation =>
    by_cases hne : nodeId = other
    · subst hne
      cases hget : clusterViewGet view nodeId with
      | none => simp [clusterViewUpdateStatus, hget]
      | some existing =>
        rw [apply_updateStatus, clusterViewUpdateStatus_self now status incarnation hget]
        split_ifs <;> rfl
    · rw [apply_updateStatus, clusterViewUpdateStatus_of_ne hne]
  | refresh other incarnation =>
    by_cases hne : nodeId = other
    · subst hne
      refine (congrArg (Option.map ClusterMember.address) (clusterViewGet_replace
        (f := (·.refresh now incarnation)) fun _ hself => hself)).trans ?_
      rw [Option.map_map]
      rfl
    · exact congrArg (Option.map ClusterMember.address) (clusterViewGet_replace_of_ne
        (f := (·.refresh now incarnation)) (fun _ hself => hself) hne)

-- ----------------------------------------------------------------------------
-- The router
-- ----------------------------------------------------------------------------

structure Router where
  engine : GossipEngine
  pool : PeerPool
  /-- The workers that have joined so far. -/
  joined : List NodeId

inductive RouterAction
  | workerJoin (now : UInt64) (past : Nat → GossipMemberUpdate) (srcIp : List UInt8)
      (srcPort : UInt16) (msg : GossipMessage) (channel : Option RpcChannel)
  | turn (turn : TimedTurn)

def GossipEffect.onPool (channel : Option RpcChannel) (pool : PeerPool) : GossipEffect → PeerPool
  | .send .. => pool
  | .connect nodeId ip gossipPort dataPort => connectPeer nodeId ip gossipPort dataPort channel pool

def connectAll (channel : Option RpcChannel) (pool : PeerPool) (effects : List GossipEffect) :
    PeerPool := effects.foldl (GossipEffect.onPool channel) pool

namespace Router

def start (engine : GossipEngine) (pool : PeerPool) : Router := ⟨engine, pool, []⟩

def step (router : Router) : RouterAction → Router
  | .workerJoin now past srcIp srcPort msg channel =>
    let (engine, effects) := handleWorkerJoinMessage now past srcIp srcPort router.engine msg
    ⟨engine, connectAll channel router.pool effects, msg.senderId :: router.joined⟩
  | .turn turn => { router with engine := router.engine.turn turn }

def Accepts (engine : GossipEngine) (update : GossipMemberUpdate) : Prop :=
  ∀ existing, clusterViewGet engine.view update.nodeId = some existing →
    existing.status = .dead ∨
      existing.incarnation ≤ joinIncarnation engine update.nodeId update

/-- A WORKER_JOIN is about its sender, reaches a router with room in its view
and its pool and is accepted. No other turn adds a member. -/
def Allowed (router : Router) : RouterAction → Prop
  | .workerJoin _ past _ _ msg _ =>
    EntersWorker router.engine msg ∧ (msg.update past 0).nodeId = msg.senderId ∧
      router.engine.view.members.length < router.engine.view.capacity ∧
      router.pool.peers.length < router.pool.capacity ∧
      Accepts router.engine (msg.update past 0)
  | .turn turn => ∀ member, (router.engine.turnEffect turn).call ≠ .add member

/-- A worker that the pool has already joins from the address it has there. -/
def SameAsPool (router : Router) : RouterAction → Prop
  | .workerJoin _ past srcIp _ msg _ =>
    ∀ address, poolAddress router.pool msg.senderId = some address →
      address = (safeStrncpy srcIp maxIpLen, (msg.update past 0).gossipPort,
        (msg.update past 0).dataPort)
  | .turn _ => True

def SameInBoth (router : Router) (nodeId : NodeId) : Prop :=
  ∃ address, poolAddress router.pool nodeId = some address ∧
    viewAddress router.engine.view nodeId = some address

/-- The pool and the view have each worker that has joined at one address. -/
def AddressesAgree (router : Router) : Prop := ∀ nodeId ∈ router.joined, router.SameInBoth nodeId

end Router

-- ----------------------------------------------------------------------------
-- A step
-- ----------------------------------------------------------------------------

theorem connectAll_sends (channel : Option RpcChannel) (pool : PeerPool)
    {effects : List GossipEffect}
    (hsends : ∀ effect ∈ effects, ∃ ip port datagram, effect = .send ip port datagram) :
    connectAll channel pool effects = pool := by
  induction effects with
  | nil => rfl
  | cons effect rest ih =>
    obtain ⟨_, _, _, rfl⟩ := hsends effect List.mem_cons_self
    exact ih fun other hother => hsends other (List.mem_cons_of_mem _ hother)

section Join

variable {now : UInt64} {past : Nat → GossipMemberUpdate} {srcIp : List UInt8} {srcPort : UInt16}
  {engine : GossipEngine} {msg : GossipMessage}

theorem handleWorkerJoinMessage_effects (henters : EntersWorker engine msg) :
    ∃ sends, (handleWorkerJoinMessage now past srcIp srcPort engine msg).2 =
        .connect (msg.update past 0).nodeId srcIp (msg.update past 0).gossipPort
          (msg.update past 0).dataPort :: sends ∧
      ∀ effect ∈ sends, ∃ ip port datagram, effect = .send ip port datagram := by
  unfold handleWorkerJoinMessage
  rw [if_neg (not_not_intro henters.1), if_pos henters.2]
  refine ⟨_, rfl, fun effect heffect => ?_⟩
  rcases List.mem_append.mp heffect with hgossip | hresponse
  · obtain ⟨⟨peer, sent⟩, -, hsend⟩ := List.mem_filterMap.mp hgossip
    obtain ⟨datagram, -, rfl⟩ := Option.map_eq_some_iff.mp hsend
    exact ⟨_, _, _, rfl⟩
  · obtain ⟨datagram, -, rfl⟩ := List.mem_map.mp hresponse
    exact ⟨_, _, _, rfl⟩

theorem viewAddress_workerJoin (henters : EntersWorker engine msg)
    (hroom : engine.view.members.length < engine.view.capacity)
    (haccepts : Router.Accepts engine (msg.update past 0))
    (hsender : (msg.update past 0).nodeId = msg.senderId) :
    viewAddress (handleWorkerJoinMessage now past srcIp srcPort engine msg).1.view msg.senderId =
      some (safeStrncpy srcIp maxIpLen, (msg.update past 0).gossipPort,
        (msg.update past 0).dataPort) := by
  rw [handleWorkerJoinMessage_view henters, ← hsender]
  generalize msg.update past 0 = update at haccepts
  unfold viewAddress
  cases hget : clusterViewGet engine.view update.nodeId with
  | none =>
    have hjoined : clusterViewGet engine.view (update.joined .worker srcIp
      (joinIncarnation engine update.nodeId update) now).nodeId = none := hget
    refine (congrArg (Option.map ClusterMember.address) (clusterViewAdd_new hjoined hroom)).trans ?_
    simp [ClusterMember.address, GossipMemberUpdate.joined]
  | some existing =>
    have hjoined : clusterViewGet engine.view (update.joined .worker srcIp
      (joinIncarnation engine update.nodeId update) now).nodeId = some existing := hget
    refine (congrArg (Option.map ClusterMember.address) (clusterViewAdd_self now hjoined)).trans ?_
    rcases haccepts existing hget with hdead | hle
    · simp [ClusterMember.address, GossipMemberUpdate.joined, hdead]
    · simp only [GossipMemberUpdate.joined, ge_iff_le, hle, if_true]
      split_ifs <;> simp [ClusterMember.address]

theorem viewAddress_workerJoin_of_ne (henters : EntersWorker engine msg)
    (hne : nodeId ≠ (msg.update past 0).nodeId) :
    viewAddress (handleWorkerJoinMessage now past srcIp srcPort engine msg).1.view nodeId =
      viewAddress engine.view nodeId := by
  rw [handleWorkerJoinMessage_view henters]
  exact congrArg (Option.map ClusterMember.address) (clusterViewAdd_of_ne hne)

end Join

namespace Router

variable {router : Router}

theorem step_workerJoin_pool (henters : EntersWorker router.engine msg) :
    (router.step (.workerJoin now past srcIp srcPort msg channel)).pool =
      connectPeer (msg.update past 0).nodeId srcIp (msg.update past 0).gossipPort
        (msg.update past 0).dataPort channel router.pool := by
  obtain ⟨sends, heffects, hsends⟩ :=
    @handleWorkerJoinMessage_effects now past srcIp srcPort _ _ henters
  show connectAll channel router.pool (handleWorkerJoinMessage now past srcIp srcPort router.engine
    msg).2 = _
  rw [heffects]
  exact connectAll_sends channel _ hsends

theorem sameInBoth_workerJoin
    (hallowed : router.Allowed (.workerJoin now past srcIp srcPort msg channel)) :
    (router.step (.workerJoin now past srcIp srcPort msg channel)).SameInBoth msg.senderId ↔
      router.SameAsPool (.workerJoin now past srcIp srcPort msg channel) := by
  obtain ⟨henters, hsender, hview, hpool, haccepts⟩ := hallowed
  have hviewed := @viewAddress_workerJoin now past srcIp srcPort _ _ henters hview haccepts hsender
  unfold SameInBoth SameAsPool
  rw [step_workerJoin_pool henters, hsender, poolAddress_connectPeer_self hpool]
  simp only [step, hviewed]
  cases poolAddress router.pool msg.senderId with
  | none => simp
  | some address => simp [eq_comm]

theorem sameInBoth_workerJoin_of_ne
    (hallowed : router.Allowed (.workerJoin now past srcIp srcPort msg channel))
    (hne : nodeId ≠ msg.senderId) :
    (router.step (.workerJoin now past srcIp srcPort msg channel)).SameInBoth nodeId ↔
      router.SameInBoth nodeId := by
  obtain ⟨henters, hsender, -⟩ := hallowed
  have hother : nodeId ≠ (msg.update past 0).nodeId := hsender ▸ hne
  unfold SameInBoth
  rw [step_workerJoin_pool henters, poolAddress_connectPeer_of_ne hother]
  simp only [step, viewAddress_workerJoin_of_ne henters hother]

theorem sameInBoth_turn (hallowed : router.Allowed (.turn turn)) (nodeId : NodeId) :
    (router.step (.turn turn)).SameInBoth nodeId ↔ router.SameInBoth nodeId := by
  have hview := (turn_does router.engine turn).view
  unfold SameInBoth
  simp only [step, hview, viewAddress_apply hallowed]

theorem addressesAgree_step (hagree : router.AddressesAgree) (hallowed : router.Allowed action) :
    (router.step action).AddressesAgree ↔ router.SameAsPool action := by
  cases action with
  | turn turn =>
    refine iff_of_true (fun nodeId hjoined => ?_) trivial
    exact (sameInBoth_turn hallowed nodeId).mpr (hagree nodeId hjoined)
  | workerJoin now past srcIp srcPort msg channel =>
    rw [← sameInBoth_workerJoin hallowed]
    refine ⟨fun h => h _ List.mem_cons_self, fun hsender nodeId hjoined => ?_⟩
    by_cases hne : nodeId = msg.senderId
    · rw [hne]
      exact hsender
    · have hbefore := hagree nodeId ((List.mem_cons.mp hjoined).resolve_left hne)
      exact (sameInBoth_workerJoin_of_ne hallowed hne).mpr hbefore

/-- Over any run of a router that workers join, crash and join again, the pool
has each of them at the address that the view has exactly when none comes back
at another one. -/
theorem addresses_agree_iff (engine : GossipEngine) (pool : PeerPool)
    (hallowed : Runs.Meets step Allowed (start engine pool) actions) :
    (∀ i, (Runs.run step (start engine pool) (actions.take i)).AddressesAgree) ↔
      Runs.Meets step SameAsPool (start engine pool) actions :=
  Runs.invariant_iff_meets_of (fun _ _ => addressesAgree_step)
    (fun _ hjoined => nomatch hjoined) hallowed

end Router

def workerJoin (gossipPort dataPort : UInt16) : RouterAction :=
  .workerJoin 0 (fun _ => .zero) [49] 7003 (messageOf 3 gossipMsgWorkerJoin
    [{ newsOf 3 .alive 0 with gossipPort := gossipPort, dataPort := dataPort }]) none

def movedWorker : List RouterAction :=
  [workerJoin 7003 8003, .turn (0, .leave 3 0), workerJoin 7013 8013]

theorem workerJoin_allowed {router : Router} (gossipPort dataPort : UInt16)
    (hrouter : router.engine.myType = .router)
    (hview : router.engine.view.members.length < router.engine.view.capacity)
    (hpool : router.pool.peers.length < router.pool.capacity)
    (haccepts : ∀ existing ∈ clusterViewGet router.engine.view 3, existing.status = .dead) :
    router.Allowed (workerJoin gossipPort dataPort) := by
  have hfirst : (0 : UInt8) < .ofNat 1 := by decide
  exact ⟨⟨hrouter, hfirst⟩, rfl, hview, hpool, fun existing hget => .inl (haccepts existing hget)⟩

theorem movedWorker_allowed : Runs.Meets Router.step Router.Allowed
    (.start firstRouter (peerPoolInit maxPeers)) movedWorker := by
  refine ⟨?_, ?_, ?_, trivial⟩
  · exact workerJoin_allowed 7003 8003 (by decide +kernel) (by decide +kernel) (by decide +kernel)
      (by decide +kernel)
  · exact fun _ => nofun
  · exact workerJoin_allowed 7013 8013 (by decide +kernel) (by decide +kernel) (by decide +kernel)
      (by decide +kernel)

theorem addresses_agree_moved :
    (∀ i, (Runs.run Router.step (.start firstRouter (peerPoolInit maxPeers))
        (movedWorker.take i)).AddressesAgree) ↔
      Runs.Meets Router.step Router.SameAsPool (.start firstRouter (peerPoolInit maxPeers))
        movedWorker :=
  Router.addresses_agree_iff firstRouter (peerPoolInit maxPeers) movedWorker_allowed

/-- The pool has the worker at its old ports, the view at its new ones. -/
theorem moved_worker_disagrees :
    Runs.Meets Router.step Router.Allowed (.start firstRouter (peerPoolInit maxPeers))
        movedWorker ∧
      ¬ (Runs.run Router.step (.start firstRouter (peerPoolInit maxPeers))
        movedWorker).AddressesAgree := by
  refine ⟨movedWorker_allowed, fun hagree => ?_⟩
  obtain ⟨address, hpool, hview⟩ := hagree 3 (by decide +kernel)
  have hold : poolAddress (Runs.run Router.step (.start firstRouter (peerPoolInit maxPeers))
      movedWorker).pool 3 = some ([49], 7003, 8003) := by decide +kernel
  have hnew : viewAddress (Runs.run Router.step (.start firstRouter (peerPoolInit maxPeers))
      movedWorker).engine.view 3 = some ([49], 7013, 8013) := by decide +kernel
  rw [hold] at hpool
  rw [hnew, ← hpool] at hview
  exact absurd hview (by decide)

end Roole
