import Roole.System.Hearsay

/-!
# Runs of a cluster

What holds in every run of a cluster, however its datagrams are lost, delayed,
repeated and reordered and however the threads of its nodes interleave. Nothing
is said of a node that no detector, LEAVE or restart has brought up, and what one
node finds out about another does not reach those that know it.
-/

namespace Roole

open Network

variable {nodes : ι → GossipNode} {now : UInt64} {actions : List (ι × NodeAction)}
  {cluster : GossipCluster ι}

def clusterAt [DecidableEq ι] (nodes : ι → GossipNode) (now : UInt64)
    (actions : List (ι × NodeAction)) (k : Nat) : GossipCluster ι :=
  (gossipProtocol nodes).before (clusterStart nodes now) actions k

/-- A run of the cluster whose steps meet a condition of the node that takes
them. Messages that are handled were sent before. -/
def ClusterRun [DecidableEq ι] (nodes : ι → GossipNode)
    (cond : GossipEngine → NodeAction → Prop) (now : UInt64)
    (actions : List (ι × NodeAction)) : Prop :=
  Runs.Meets (gossipProtocol nodes).step
    ((gossipProtocol nodes).Allows fun _ => cond) (clusterStart nodes now) actions

theorem clusterAt_succ [DecidableEq ι] (nodes : ι → GossipNode) (now : UInt64)
    {actions : List (ι × NodeAction)} (hk : k < actions.length) :
    clusterAt nodes now actions (k + 1) =
      (gossipProtocol nodes).step (clusterAt nodes now actions k) actions[k] :=
  Protocol.before_succ (gossipProtocol nodes) (clusterStart nodes now) hk

-- ----------------------------------------------------------------------------
-- What is said
-- ----------------------------------------------------------------------------

/-- Some view, queue or message gives the node this status and incarnation. -/
inductive Said (cluster : GossipCluster ι) : NodeId → NodeStatus → UInt64 → Prop
  | entry (hget : clusterViewGet (cluster.party i).view nodeId = some entry) :
      Said cluster nodeId entry.status entry.incarnation
  | queued (hmem : update ∈ (cluster.party i).updateQueue.toList) :
      Said cluster update.nodeId update.status update.incarnation
  | sent (hsent : datagram ∈ cluster.sent)
      (hdecoded : gossipMessageDeserialize datagram = some msg) (hmem : update ∈ msg.updates) :
      Said cluster update.nodeId update.status update.incarnation

/-- Some view, queue or message describes the node so. A LEAVE is left out: it
gives its sender's id alone, and no handler reads more of it. -/
inductive Described (cluster : GossipCluster ι) : NodeId → NodeType → UInt16 → UInt16 → Prop
  | entry (hget : clusterViewGet (cluster.party i).view nodeId = some entry) :
      Described cluster nodeId entry.nodeType entry.gossipPort entry.dataPort
  | queued (hmem : update ∈ (cluster.party i).updateQueue.toList) :
      Described cluster update.nodeId update.nodeType update.gossipPort update.dataPort
  | sent (hsent : datagram ∈ cluster.sent)
      (hdecoded : gossipMessageDeserialize datagram = some msg)
      (hread : msg.msgType ≠ gossipMsgLeave) (hmem : update ∈ msg.updates) :
      Described cluster update.nodeId update.nodeType update.gossipPort update.dataPort

namespace Facts

variable {facts : Facts}

abbrev Hold (facts : Facts) (nodes : ι → GossipNode) (cluster : GossipCluster ι) : Prop :=
  Protocol.Keeps (fun i => facts.Node (nodes i)) facts.Datagram cluster

theorem Hold.said (h : facts.Hold nodes cluster) (hsaid : Said cluster nodeId status incarnation) :
    facts.stands nodeId status incarnation := by
  cases hsaid with
  | @entry i _ entry hget => exact (h.party i).holds.entry_stands hget
  | @queued i update hmem => exact ((h.party i).holds.queue update hmem).stands
  | @sent datagram msg update hsent hdecoded hmem =>
    exact (h.sent datagram hsent msg hdecoded).stands update hmem

theorem Hold.described (h : facts.Hold nodes cluster)
    (hdescribed : Described cluster nodeId nodeType gossipPort dataPort) :
    facts.describes nodeId nodeType gossipPort dataPort := by
  cases hdescribed with
  | @entry i _ entry hget =>
    exact clusterViewGet_nodeId hget ▸ ((h.party i).holds.entries nodeId entry hget).describes
  | @queued i update hmem => exact ((h.party i).holds.queue update hmem).describes
  | @sent datagram msg update hsent hdecoded hread hmem =>
    exact (h.sent datagram hsent msg hdecoded).describes hread update hmem

theorem hold_at [DecidableEq ι] (hclosed : facts.Closed nodes)
    {cond : GossipEngine → NodeAction → Prop}
    (htells : ∀ i engine action, facts.Node (nodes i) engine → cond engine action →
      (∀ datagram ∈ action.reads, facts.Datagram datagram) → facts.Tells engine action)
    (hrun : ClusterRun nodes cond now actions) (k : Nat) :
    facts.Hold nodes (clusterAt nodes now actions k) := by
  refine Protocol.invariant (facts_local hclosed htells) ⟨fun i => ?_, fun _ hmem => ?_⟩ hrun k
  · exact Node.start hclosed i now
  · cases hmem

end Facts

-- ----------------------------------------------------------------------------
-- Suspicions are not told
-- ----------------------------------------------------------------------------

def anyFacts : Facts := ⟨fun _ _ _ _ => True, fun _ _ _ => True, fun _ _ => True⟩

theorem anyFacts_closed (nodes : ι → GossipNode) : anyFacts.Closed nodes where
  self _ := trivial
  worker _ := trivial
  alive _ := trivial
  recovers _ _ _ _ := trivial
  rejoins _ _ _ _ _ _ := trivial
  leaves _ _ _ := trivial

theorem anyFacts_tells (engine : GossipEngine) (action : NodeAction) :
    anyFacts.Tells engine action where
  leave _ _ := ⟨trivial, trivial⟩
  turn := by
    rintro ⟨now, turn⟩ -
    cases turn with
    | join ip update => exact fun _ => trivial
    | workerJoin ip senderId update => exact ⟨trivial, fun _ => trivial⟩
    | checkAck i => exact fun _ _ => ⟨trivial, trivial⟩
    | checkSuspect i => exact fun _ _ => trivial
    | announceJoin => exact fun _ => trivial
    | _ => exact trivial

/-- No run has a node refute a suspicion: no SUSPECT and no DEAD message is ever
sent, and every node stays in the incarnation it was started in. -/
theorem no_refutation [DecidableEq ι] (hrun : ClusterRun nodes (fun _ _ => True) now actions)
    (k : Nat) : (∀ i, ((clusterAt nodes now actions k).party i).incarnation = 0) ∧
    ∀ datagram ∈ (clusterAt nodes now actions k).sent, ∀ msg,
      gossipMessageDeserialize datagram = some msg →
        msg.msgType ≠ gossipMsgSuspect ∧ msg.msgType ≠ gossipMsgDead := by
  have hold := Facts.hold_at (anyFacts_closed nodes)
    (fun _ engine action _ _ _ => anyFacts_tells engine action) hrun k
  exact ⟨fun i => (hold.party i).identity.incarnation,
    fun datagram hsent msg hdecoded => (hold.sent datagram hsent msg hdecoded).msgType⟩

def twoRouters (second : Bool) : GossipNode where
  nodeId := if second then 2 else 1
  bindAddr := []
  gossipPort := if second then 7001 else 7000
  dataPort := if second then 8001 else 8000
  nodeType := .router
  capacity := maxClusterNodes

def secondJoin : List UInt8 :=
  (gossipMessageSerialize (((twoRouters true).start 0).makeMessage gossipMsgJoin
    [((twoRouters true).start 0).selfUpdate 0]) gossipMaxPayloadSize).getD []

def joinThenPing : List (Bool × NodeAction) :=
  [(true, .addSeed 0 [] 7000), (false, .handle 0 (fun _ => .zero) [] 7001 secondJoin 0),
    (false, .ping 0 0 true)]

def joinThenSuspect : List (Bool × NodeAction) := joinThenPing ++ [(false, .checkAck 501 0)]

theorem clusterRun_of_delivers {actions : List (Bool × NodeAction)}
    {cond : GossipEngine → NodeAction → Prop}
    (hdelivers : Runs.Meets (gossipProtocol twoRouters).step (gossipProtocol twoRouters).Delivers
      (clusterStart twoRouters 0) actions)
    (h : Runs.Meets (gossipProtocol twoRouters).step
      (fun s action => cond (s.party action.1) action.2) (clusterStart twoRouters 0) actions) :
    ClusterRun twoRouters cond 0 actions := hdelivers.and h

theorem no_refutation_twoRouters :
    (∀ i, ((clusterAt twoRouters 0 joinThenSuspect 4).party i).incarnation = 0) ∧
    ∀ datagram ∈ (clusterAt twoRouters 0 joinThenSuspect 4).sent, ∀ msg,
      gossipMessageDeserialize datagram = some msg →
        msg.msgType ≠ gossipMsgSuspect ∧ msg.msgType ≠ gossipMsgDead :=
  no_refutation (clusterRun_of_delivers (by decide +kernel)
    (Runs.Meets.of_forall (fun _ _ => trivial) _ _)) 4

-- ----------------------------------------------------------------------------
-- Descriptions
-- ----------------------------------------------------------------------------

/-- The node as it describes itself; its WORKER_JOIN calls it a worker. -/
def GossipNode.IsDescribed (node : GossipNode) (nodeType : NodeType)
    (gossipPort dataPort : UInt16) : Prop :=
  (nodeType = node.nodeType ∨ nodeType = .worker) ∧ gossipPort = node.gossipPort ∧
    dataPort = node.dataPort

def IsBlank (nodeType : NodeType) (gossipPort dataPort : UInt16) : Prop :=
  nodeType = .unknown ∧ gossipPort = 0 ∧ dataPort = 0

def SuspectsWithin (among : NodeId → Prop) (engine : GossipEngine) (action : NodeAction) : Prop :=
  ∀ now i, action = .checkAck now i → ∀ member ∈ overdueMember now engine i, among member.nodeId

def describedFacts (nodes : ι → GossipNode) (among : NodeId → Prop) : Facts where
  describes nodeId nodeType gossipPort dataPort := ∃ i, (nodes i).nodeId = nodeId ∧
    ((nodes i).IsDescribed nodeType gossipPort dataPort ∨
      (among nodeId ∧ IsBlank nodeType gossipPort dataPort))
  stands _ _ _ := True
  leaves _ _ := True

theorem describedFacts_closed (nodes : ι → GossipNode) (among : NodeId → Prop) :
    (describedFacts nodes among).Closed nodes where
  self i := ⟨i, rfl, .inl ⟨.inl rfl, rfl, rfl⟩⟩
  worker i := ⟨i, rfl, .inl ⟨.inr rfl, rfl, rfl⟩⟩
  alive _ := trivial
  recovers _ _ _ _ := trivial
  rejoins _ _ _ _ _ _ := trivial
  leaves _ _ _ := trivial

theorem mem_overdue {member : ClusterMember} (h : member ∈ overdueMember now engine i) :
    clusterViewGet engine.view member.nodeId = some member ∧ member.status = .alive := by
  unfold overdueMember at h
  obtain ⟨ack, -, hack⟩ := Option.bind_eq_some_iff.mp h
  split_ifs at hack
  · obtain ⟨hget, halive⟩ := Option.filter_eq_some_iff.mp hack
    rw [clusterViewGet_nodeId hget]
    exact ⟨hget, by simpa using halive⟩

theorem describedFacts_tells {among : NodeId → Prop} {engine : GossipEngine} {action : NodeAction}
    (hnode : (describedFacts nodes among).Engine engine)
    (hsuspects : SuspectsWithin among engine action) :
    (describedFacts nodes among).Tells engine action where
  leave _ _ := ⟨trivial, trivial⟩
  turn := by
    rintro ⟨now, turn⟩ hturn
    cases turn with
    | join ip update => exact fun _ => trivial
    | workerJoin ip senderId update => exact ⟨trivial, fun _ => trivial⟩
    | checkAck i =>
      intro member hmember
      have hwithin := hsuspects now i (checkAck_of_turn hturn) member hmember
      obtain ⟨j, hj, -⟩ := (hnode.entries _ _ (mem_overdue hmember).1).describes
      exact ⟨⟨j, hj, .inr ⟨hwithin, rfl, rfl, rfl⟩⟩, trivial⟩
    | checkSuspect i => exact fun _ _ => trivial
    | announceJoin => exact fun _ => trivial
    | _ => exact trivial

/-- Whoever is known or told of is a node of the cluster, with its own ports and
as of its own type or a worker. Only a node that some other one has found
without an ACK in time may be known by its id alone. -/
theorem nodes_described [DecidableEq ι] {among : NodeId → Prop}
    (hrun : ClusterRun nodes (SuspectsWithin among) now actions) (k : Nat)
    (hdescribed : Described (clusterAt nodes now actions k) nodeId nodeType gossipPort dataPort) :
    ∃ i, (nodes i).nodeId = nodeId ∧ ((nodes i).IsDescribed nodeType gossipPort dataPort ∨
      (among nodeId ∧ IsBlank nodeType gossipPort dataPort)) :=
  Facts.Hold.described (Facts.hold_at (describedFacts_closed nodes among)
    (fun _ _ _ hnode hsuspects _ => describedFacts_tells hnode.holds hsuspects) hrun k) hdescribed

theorem nodes_described_twoRouters : ∃ i, (twoRouters i).nodeId = 2 ∧
    ((twoRouters i).IsDescribed .router 7001 8001 ∨ (False ∧ IsBlank .router 7001 8001)) := by
  have hrun : ClusterRun twoRouters (SuspectsWithin fun _ => False) 0 joinThenPing :=
    clusterRun_of_delivers (by decide +kernel)
      ⟨fun _ _ => nofun, fun _ _ => nofun, fun _ _ => nofun, trivial⟩
  have hknown : (clusterViewGet ((clusterAt twoRouters 0 joinThenPing 3).party false).view 2).map
      (fun entry => (entry.nodeType, entry.gossipPort, entry.dataPort)) =
        some (.router, 7001, 8001) := by decide +kernel
  obtain ⟨entry, hget, heq⟩ := Option.map_eq_some_iff.mp hknown
  simp only [Prod.mk.injEq] at heq
  obtain ⟨htype, hgossip, hdata⟩ := heq
  rw [← htype, ← hgossip, ← hdata]
  exact nodes_described hrun 3 (.entry hget)

-- ----------------------------------------------------------------------------
-- Statuses
-- ----------------------------------------------------------------------------

/-- The status other than ALIVE that the action itself gives to the node: its
ACK is overdue, its suspicion is, or it leaves. -/
inductive Brings (nodeId : NodeId) (engine : GossipEngine) : NodeAction → NodeStatus → Prop
  | suspect (h : member ∈ overdueMember time engine i) (hid : member.nodeId = nodeId) :
      Brings nodeId engine (.checkAck time i) .suspect
  | dead (h : member ∈ timedOut time engine i) (hid : member.nodeId = nodeId) :
      Brings nodeId engine (.checkSuspect time i) .dead
  | left (hid : engine.myId = nodeId) : Brings nodeId engine (.leave time) .dead

def statusFacts (nodeId : NodeId) (allowed : NodeStatus → Prop) : Facts where
  describes _ _ _ _ := True
  stands other status _ := other = nodeId → allowed status
  leaves other _ := other = nodeId → allowed .dead

theorem statusFacts_closed (nodes : ι → GossipNode) {allowed : NodeStatus → Prop}
    (halive : allowed .alive) (nodeId : NodeId) : (statusFacts nodeId allowed).Closed nodes where
  self _ := trivial
  worker _ := trivial
  alive _ _ := halive
  recovers _ _ _ _ _ := halive
  rejoins _ _ _ _ _ _ _ := halive
  leaves _ _ h := h

theorem statusFacts_tells {allowed : NodeStatus → Prop} {engine : GossipEngine}
    {action : NodeAction} (halive : allowed .alive)
    (hbrings : ∀ status, Brings nodeId engine action status → allowed status) :
    (statusFacts nodeId allowed).Tells engine action where
  leave now heq := by
    subst heq
    exact ⟨fun hid => hbrings .dead (.left hid), fun hid => hbrings .dead (.left hid)⟩
  turn := by
    rintro ⟨now, turn⟩ hturn
    cases turn with
    | join ip update => exact fun _ _ => halive
    | workerJoin ip senderId update => exact ⟨fun _ => halive, fun _ _ => halive⟩
    | checkAck i =>
      rw [checkAck_of_turn hturn] at hbrings
      exact fun member hmember => ⟨trivial, fun hid => hbrings .suspect (.suspect hmember hid)⟩
    | checkSuspect i =>
      rw [checkSuspect_of_turn hturn] at hbrings
      exact fun member hmember hid => hbrings .dead (.dead hmember hid)
    | announceJoin => exact fun _ _ => halive
    | _ => exact trivial

/-- A status other than ALIVE has a cause: whatever is said of a node anywhere
was brought up by an overdue ACK, an overdue suspicion or its own LEAVE. -/
theorem statuses_have_causes [DecidableEq ι] {allowed : NodeStatus → Prop}
    (halive : allowed .alive)
    (hrun : ClusterRun nodes (fun engine action =>
      ∀ status, Brings nodeId engine action status → allowed status) now actions) (k : Nat)
    (hsaid : Said (clusterAt nodes now actions k) nodeId status incarnation) : allowed status :=
  Facts.Hold.said (Facts.hold_at (statusFacts_closed nodes halive nodeId)
    (fun _ _ _ _ hbrings _ => statusFacts_tells halive hbrings) hrun k) hsaid rfl

theorem statuses_have_causes_twoRouters :
    ∃ entry, clusterViewGet ((clusterAt twoRouters 0 joinThenSuspect 4).party false).view 2 =
      some entry ∧ entry.status ≠ .dead := by
  let living (status : NodeStatus) : Prop := status ≠ .dead
  have halive : living .alive := nofun
  have hrun : ClusterRun twoRouters (fun engine action =>
      ∀ status, Brings 2 engine action status → living status) 0 joinThenSuspect := by
    refine clusterRun_of_delivers (by decide +kernel) ⟨?_, ?_, ?_, ?_, trivial⟩ <;> rintro _ ⟨⟩
    exact nofun
  have hknown : (clusterViewGet ((clusterAt twoRouters 0 joinThenSuspect 4).party false).view
      2).isSome = true := by decide +kernel
  obtain ⟨entry, hget⟩ := Option.isSome_iff_exists.mp hknown
  have hcaused : living entry.status := statuses_have_causes halive hrun 4 (.entry hget)
  exact ⟨entry, hget, hcaused⟩

end Roole
