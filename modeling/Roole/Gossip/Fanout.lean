import Roole.Gossip.Rounds
import Roole.Lib.Shuffle

/-!
# Whom a gossip round reaches

`gossip_to_random_peers` draws its targets while it sends: the array of peers is
shuffled from the front, and the entry that has just been drawn is sent the state.
-/

namespace Roole

variable {engine : GossipEngine}

def GossipEngine.isPeer (engine : GossipEngine) (member : ClusterMember) : Bool :=
  !(member.nodeId == engine.myId || member.status == .dead)

def GossipEngine.peerIds (engine : GossipEngine) : List NodeId :=
  (engine.view.members.filter engine.isPeer).map ClusterMember.nodeId

/-- The entries of the array that the loop has drawn, in turn. -/
def gossipTargets (now : UInt64) (rand : Nat → Nat) (engine : GossipEngine) : List NodeId :=
  let peers := peerList engine
  let fanout := min peers.length engine.config.fanout.toNat
  let (_, peers, _) := (List.range fanout).foldl (gossipToPeer now rand) (engine, peers, [])
  peers.take fanout

/-- The datagram goes to the address of the member with this id. -/
def SentToMember (view : ClusterView) (nodeId : NodeId) (effect : GossipEffect) : Prop :=
  ∃ peer datagram, clusterViewGet view nodeId = some peer ∧
    effect = .send (safeStrncpy peer.ipAddress maxIpLen) peer.gossipPort datagram

-- ----------------------------------------------------------------------------
-- The loop
-- ----------------------------------------------------------------------------

theorem swapPeers_pick (done : List NodeId) (x : NodeId) (xs : List NodeId) (hk : k ≤ xs.length) :
    swapPeers (done ++ x :: xs) done.length (done.length + k) =
      done ++ (Shuffle.pick x xs k).1 :: (Shuffle.pick x xs k).2 := by
  unfold swapPeers
  cases k with
  | zero => simp [Shuffle.pick, List.getD_eq_getElem?_getD]
  | succ k =>
    have hlt : k < xs.length := hk
    simp [Shuffle.pick, List.getD_eq_getElem?_getD, hlt, List.set_append_right]

theorem GossipMessage.sendTo_isSome (msg : GossipMessage) (ip : List UInt8) (port : UInt16) :
    ∃ datagram, msg.sendTo ip port = some (.send ip port datagram) := by
  unfold GossipMessage.sendTo gossipMessageSerialize
  rw [if_neg (by decide)]
  exact ⟨_, rfl⟩

theorem gossipToPeer_draws (now : UInt64) (rand : Nat → Nat) (done : List NodeId) (x : NodeId)
    (xs : List NodeId) (sent : List GossipEffect)
    (hknown : ∀ nodeId ∈ x :: xs, clusterViewGet engine.view nodeId ≠ none) :
    let picked := Shuffle.pick x xs (rand done.length % (xs.length + 1))
    ∃ effect sequenceNum, SentToMember engine.view picked.1 effect ∧
      gossipToPeer now rand (engine, done ++ x :: xs, sent) done.length =
        ({ engine with sequenceNum := sequenceNum }, done ++ [picked.1] ++ picked.2,
          sent ++ [effect]) := by
  intro picked
  have hk : rand done.length % (xs.length + 1) ≤ xs.length :=
    Nat.le_of_lt_succ (Nat.mod_lt _ (Nat.succ_pos _))
  have hlen : (done ++ x :: xs).length - done.length = xs.length + 1 := by
    simp
  have hmem : picked.1 ∈ x :: xs := (Shuffle.pick_perm hk).mem_iff.mp List.mem_cons_self
  obtain ⟨peer, hpeer⟩ := Option.ne_none_iff_exists'.mp (hknown _ hmem)
  obtain ⟨datagram, hsend⟩ := (engine.makeMessage gossipMsgAlive
    (gossipStateUpdates now engine)).sendTo_isSome (safeStrncpy peer.ipAddress maxIpLen)
      peer.gossipPort
  have hdrawn : (done ++ picked.1 :: picked.2).getD done.length 0 = picked.1 := by
    simp [List.getD_eq_getElem?_getD]
  refine ⟨_, engine.sequenceNum + 1, ⟨peer, datagram, hpeer, rfl⟩, ?_⟩
  unfold gossipToPeer
  dsimp only
  rw [hlen, swapPeers_pick done x xs hk]
  simp only [picked] at hdrawn hpeer
  rw [hdrawn, hpeer]
  dsimp only
  rw [hsend]
  simp [picked]

theorem gossipToPeer_loop (now : UInt64) (rand : Nat → Nat) (n : Nat) (engine : GossipEngine)
    (done rest : List NodeId) (sent : List GossipEffect) (hn : n ≤ rest.length)
    (hknown : ∀ nodeId ∈ rest, clusterViewGet engine.view nodeId ≠ none) :
    let drawn := Shuffle.draws ((List.range' done.length n).map rand) rest
    ∃ sequenceNum left effects,
      (List.range' done.length n).foldl (gossipToPeer now rand) (engine, done ++ rest, sent) =
        ({ engine with sequenceNum := sequenceNum }, done ++ drawn ++ left, sent ++ effects) ∧
      List.Forall₂ (SentToMember engine.view) drawn effects := by
  induction n generalizing engine done rest sent with
  | zero => exact ⟨engine.sequenceNum, rest, [], by simp [Shuffle.draws], .nil⟩
  | succ n ih =>
    cases rest with
    | nil => cases hn
    | cons x xs =>
      obtain ⟨effect, sequenceNum, hsent, hturn⟩ :=
        gossipToPeer_draws now rand done x xs sent hknown
      have hk : rand done.length % (xs.length + 1) ≤ xs.length :=
        Nat.le_of_lt_succ (Nat.mod_lt _ (Nat.succ_pos _))
      have hleft : n ≤ (Shuffle.pick x xs (rand done.length % (xs.length + 1))).2.length := by
        rw [Shuffle.pick_length]
        exact Nat.le_of_succ_le_succ hn
      have hnext := ih { engine with sequenceNum := sequenceNum }
        (done ++ [(Shuffle.pick x xs (rand done.length % (xs.length + 1))).1])
        (Shuffle.pick x xs (rand done.length % (xs.length + 1))).2 (sent ++ [effect]) hleft
        fun nodeId hmem => hknown nodeId
          ((Shuffle.pick_perm hk).mem_iff.mp (List.mem_cons_of_mem _ hmem))
      obtain ⟨sequenceNum', left, effects, hloop, hall⟩ := hnext
      rw [List.length_append, List.length_singleton] at hloop hall
      refine ⟨sequenceNum', left, effect :: effects, ?_, ?_⟩
      · rw [List.range'_succ, List.foldl_cons, hturn, hloop]
        simp [Shuffle.draws]
      · rw [List.range'_succ]
        exact .cons hsent hall

theorem peerList_known (engine : GossipEngine) :
    ∀ nodeId ∈ peerList engine, clusterViewGet engine.view nodeId ≠ none := by
  intro nodeId hmem
  obtain ⟨member, hmember, rfl⟩ := List.mem_map.mp (List.mem_of_mem_take hmem)
  rw [clusterViewGet_of_mem (List.mem_of_mem_filter hmember)]
  exact Option.some_ne_none member

theorem gossipToRandomPeers_draws (now : UInt64) (rand : Nat → Nat) (engine : GossipEngine) :
    let fanout := min (peerList engine).length engine.config.fanout.toNat
    gossipTargets now rand engine =
        Shuffle.draws ((List.range fanout).map rand) (peerList engine) ∧
      List.Forall₂ (SentToMember engine.view) (gossipTargets now rand engine)
        (gossipToRandomPeers now rand engine).2 := by
  intro fanout
  have hfanout : fanout ≤ (peerList engine).length := Nat.min_le_left _ _
  obtain ⟨sequenceNum, left, effects, hloop, hall⟩ :=
    gossipToPeer_loop now rand fanout engine [] (peerList engine) [] hfanout
      (peerList_known engine)
  rw [List.length_nil, ← List.range_eq_range', List.nil_append, List.nil_append,
    List.nil_append] at hloop
  rw [List.length_nil, ← List.range_eq_range'] at hall
  have hcount : (Shuffle.draws ((List.range fanout).map rand) (peerList engine)).length =
      fanout := by
    have hturns : ((List.range fanout).map rand).length ≤ (peerList engine).length := by
      simpa using hfanout
    simpa using (Shuffle.draws_perm hturns).1
  have htargets : gossipTargets now rand engine =
      Shuffle.draws ((List.range fanout).map rand) (peerList engine) := by
    unfold gossipTargets
    dsimp only
    rw [hloop]
    dsimp only
    rw [List.take_append_of_le_length (Nat.le_of_eq hcount.symm),
      List.take_of_length_le (Nat.le_of_eq hcount)]
  refine ⟨htargets, ?_⟩
  unfold gossipToRandomPeers
  dsimp only
  rw [hloop, htargets]
  exact hall

-- ----------------------------------------------------------------------------
-- The targets of a call
-- ----------------------------------------------------------------------------

def randMax : Nat := 32767

theorem peerList_eq (hmembers : engine.view.members.length ≤ maxClusterNodes) :
    peerList engine = engine.peerIds := by
  refine List.take_of_length_le ?_
  rw [List.length_map]
  exact (List.length_filter_le _ _).trans hmembers

theorem peerIds_nodup (engine : GossipEngine) : engine.peerIds.Nodup :=
  engine.view.nodup.sublist (List.filter_sublist.map _)

/-- A call sends to as many peers as the fanout asks for and the view has, all
of them different; and any selection of so many peers can be the one. -/
theorem gossipToRandomPeers_selects (now : UInt64) (engine : GossipEngine)
    (hmembers : engine.view.members.length ≤ maxClusterNodes) :
    let fanout := min engine.config.fanout.toNat engine.peerIds.length
    (∀ rand,
      List.Forall₂ (SentToMember engine.view) (gossipTargets now rand engine)
        (gossipToRandomPeers now rand engine).2 ∧
      (gossipTargets now rand engine).length = fanout ∧
      (gossipTargets now rand engine).Nodup ∧
      ∀ nodeId ∈ gossipTargets now rand engine, nodeId ∈ engine.peerIds) ∧
    ∀ selection : Finset NodeId, (∀ nodeId ∈ selection, nodeId ∈ engine.peerIds) →
      selection.card = fanout →
      ∃ rand : Nat → Nat, (∀ i, rand i ≤ randMax) ∧
        (gossipTargets now rand engine).toFinset = selection := by
  intro fanout
  have hlist := peerList_eq hmembers
  have hdraws := fun rand => gossipToRandomPeers_draws now rand engine
  rw [hlist, Nat.min_comm] at hdraws
  constructor
  · intro rand
    obtain ⟨htargets, hsent⟩ := hdraws rand
    have hturns : ((List.range fanout).map rand).length ≤ engine.peerIds.length := by
      rw [List.length_map, List.length_range]
      exact Nat.min_le_right _ _
    rw [htargets] at hsent ⊢
    refine ⟨hsent, ?_, Shuffle.draws_nodup hturns (peerIds_nodup engine),
      fun nodeId => Shuffle.mem_of_mem_draws hturns⟩
    rw [(Shuffle.draws_perm hturns).1, List.length_map, List.length_range]
  · intro selection hpeers hcard
    obtain ⟨rand, hbound, hdrawn⟩ := Shuffle.exists_draws_finset selection hpeers
    refine ⟨rand, fun i => ?_, ?_⟩
    · have hcount : engine.peerIds.length ≤ maxClusterNodes := hlist ▸ List.length_take_le _ _
      have hmax : maxClusterNodes ≤ randMax := by decide
      exact (hbound i).trans (hcount.trans hmax)
    · rw [hcard] at hdrawn
      rw [(hdraws rand).1]
      exact hdrawn

def exampleFanoutEngine : GossipEngine :=
  { firstRouter with
    config := { firstRouter.config with fanout := 1 }
    view := (clusterViewAdd 0 (clusterViewAdd 0 firstRouter.view
      (selfMember 0 2 .worker [] 7002 8002)).2 (selfMember 0 3 .worker [] 7003 8003)).2 }

theorem exampleFanoutEngine_selects :
    ∃ rand : Nat → Nat, (∀ i, rand i ≤ randMax) ∧
      (gossipTargets 0 rand exampleFanoutEngine).toFinset = {3} :=
  (gossipToRandomPeers_selects 0 exampleFanoutEngine (by decide)).2 {3}
    (fun _ hmem => Finset.mem_singleton.mp hmem ▸ by decide) (by decide)

end Roole
