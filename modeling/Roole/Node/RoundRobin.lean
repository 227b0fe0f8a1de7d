import Roole.Lib.RoundRobin
import Roole.Node.State

/-!
# Round-robin selection of a peer

`peer_pool_select_round_robin` looks at the peers from a global index on, one
place further with every peer it looks at, and returns the first one that is alive
and can execute.
-/

namespace Roole

def PeerInfo.selectable (peer : PeerInfo) : Bool :=
  decide (peer.status = .alive) && peer.capabilities.canExecute

/-- The loop with as many attempts left, from the global index on. -/
def selectRoundRobinFrom (peers : List PeerInfo) (index : UInt64) : Nat → NodeId × UInt64
  | 0 => (0, index)
  | left + 1 =>
    match peers[index.toNat % peers.length]? with
    | some peer =>
      if peer.selectable then (peer.nodeId, index + 1)
      else selectRoundRobinFrom peers (index + 1) left
    | none => (0, index)

/-- The selected peer, and the global index afterwards. -/
def peerPoolSelectRoundRobin (pool : PeerPool) (index : UInt64) : NodeId × UInt64 :=
  if pool.peers.length = 0 then (0, index)
  else selectRoundRobinFrom pool.peers index pool.peers.length

def roundRobinIndex (pool : PeerPool) (index : UInt64) (j : Nat) : UInt64 :=
  (fun index => (peerPoolSelectRoundRobin pool index).2)^[j] index

def selectedRoundRobin (pool : PeerPool) (index : UInt64) (k : Nat) : List NodeId :=
  (List.range k).map fun j => (peerPoolSelectRoundRobin pool (roundRobinIndex pool index j)).1

theorem roundRobinIndex_succ (pool : PeerPool) (index : UInt64) (j : Nat) :
    roundRobinIndex pool index (j + 1) =
      (peerPoolSelectRoundRobin pool (roundRobinIndex pool index j)).2 :=
  Function.iterate_succ_apply' _ j index

/-- The index moves on by the number of peers looked at, and as long as it does
not wrap the peers are looked at in turn. -/
theorem selectRoundRobinFrom_scan (peers : List PeerInfo) (index : UInt64) (left : Nat) :
    ∃ steps ≤ left,
      (selectRoundRobinFrom peers index left).2 = index + UInt64.ofNat steps ∧
      (index.toNat + steps < 2 ^ 64 →
        (RoundRobin.scan PeerInfo.selectable peers index.toNat left).2 = index.toNat + steps ∧
        (selectRoundRobinFrom peers index left).1 =
          ((RoundRobin.scan PeerInfo.selectable peers index.toNat left).1.map
            PeerInfo.nodeId).getD 0) := by
  induction left generalizing index with
  | zero => exact ⟨0, Nat.le_refl _, by simp [selectRoundRobinFrom], fun _ => ⟨rfl, rfl⟩⟩
  | succ left ih =>
    simp only [selectRoundRobinFrom, RoundRobin.scan]
    cases hget : peers[index.toNat % peers.length]? with
    | none => exact ⟨0, Nat.zero_le _, by simp, fun _ => ⟨rfl, rfl⟩⟩
    | some peer =>
      dsimp only
      split_ifs with hselectable
      · exact ⟨1, Nat.le_add_left _ _, rfl, fun _ => ⟨rfl, rfl⟩⟩
      · obtain ⟨steps, hsteps, hindex, hscan⟩ := ih (index + 1)
        refine ⟨steps + 1, Nat.succ_le_succ hsteps, ?_, fun hnowrap => ?_⟩
        · rw [hindex, Nat.add_comm steps, UInt64.ofNat_add, ← UInt64.add_assoc]
          rfl
        · have hnext : (index + 1).toNat = index.toNat + 1 := by
            rw [UInt64.toNat_add, UInt64.toNat_one]
            omega
          rw [hnext] at hscan
          rw [(hscan (by omega)).1, (hscan (by omega)).2]
          exact ⟨by omega, rfl⟩

theorem peerPoolSelectRoundRobin_turn (pool : PeerPool) (hcount : pool.peers.length < 2 ^ 64)
    (hnowrap : index ≤ (peerPoolSelectRoundRobin pool index).2) :
    (peerPoolSelectRoundRobin pool index).2.toNat =
        (RoundRobin.turn PeerInfo.selectable pool.peers index.toNat).2 ∧
      (peerPoolSelectRoundRobin pool index).1 =
        ((RoundRobin.turn PeerInfo.selectable pool.peers index.toNat).1.map
          PeerInfo.nodeId).getD 0 := by
  unfold peerPoolSelectRoundRobin RoundRobin.turn at *
  split_ifs at hnowrap ⊢ with hempty
  · rw [hempty]
    exact ⟨rfl, rfl⟩
  · obtain ⟨steps, hsteps, hindex, hscan⟩ :=
      selectRoundRobinFrom_scan pool.peers index pool.peers.length
    rw [hindex, UInt64.le_iff_toNat_le, UInt64.toNat_add, UInt64.toNat_ofNat'] at hnowrap
    have hlt := index.toNat_lt
    have hroom : index.toNat + steps < 2 ^ 64 := by omega
    obtain ⟨hplace, hid⟩ := hscan hroom
    rw [hindex, UInt64.toNat_add, UInt64.toNat_ofNat', hplace]
    exact ⟨by omega, hid⟩

theorem peerPoolSelectRoundRobin_none (pool : PeerPool)
    (hnone : ∀ peer ∈ pool.peers, peer.selectable = false) (index : UInt64) :
    (peerPoolSelectRoundRobin pool index).1 = 0 := by
  have hloop : ∀ left index, (selectRoundRobinFrom pool.peers index left).1 = 0 := by
    intro left
    induction left with
    | zero => exact fun _ => rfl
    | succ left ih =>
      intro index
      rw [selectRoundRobinFrom]
      split
      · next peer hget =>
        rw [hnone peer (List.mem_of_getElem? hget)]
        exact ih (index + 1)
      · rfl
  unfold peerPoolSelectRoundRobin
  split_ifs
  · rfl
  · exact hloop _ index

/-- Any `k` calls in a row over an unchanged pool return each of its `k` peers
that can be selected once, if the index does not wrap in them; where there are
none, every call returns 0. The count of a pool is a `size_t`. -/
theorem peerPoolSelectRoundRobin_fair (pool : PeerPool) (hcount : pool.peers.length < 2 ^ 64) :
    let eligible := pool.peers.filter PeerInfo.selectable
    (∀ index, (∀ j < eligible.length,
        roundRobinIndex pool index j ≤ roundRobinIndex pool index (j + 1)) →
      (selectedRoundRobin pool index eligible.length).Perm (eligible.map PeerInfo.nodeId)) ∧
    (eligible = [] → ∀ index, (peerPoolSelectRoundRobin pool index).1 = 0) := by
  intro eligible
  constructor
  · intro index hnowrap
    let queue := RoundRobin.waiting PeerInfo.selectable pool.peers index.toNat
    have hqueue : queue.Perm eligible := RoundRobin.waiting_perm _ _ _
    have hlen : queue.length = eligible.length := hqueue.length_eq
    have hturn : ∀ j < queue.length, _ := fun j hj =>
      peerPoolSelectRoundRobin_turn pool hcount
        (roundRobinIndex_succ pool index j ▸ hnowrap j (hlen ▸ hj))
    have hnext : ∀ j < queue.length, (roundRobinIndex pool index (j + 1)).toNat =
        (RoundRobin.turn PeerInfo.selectable pool.peers (roundRobinIndex pool index j).toNat).2 :=
      fun j hj => by rw [roundRobinIndex_succ, (hturn j hj).1]
    have hselected : selectedRoundRobin pool index eligible.length =
        queue.map PeerInfo.nodeId := by
      refine List.ext_getElem (by simp [selectedRoundRobin, hlen]) fun j hj hj' => ?_
      rw [List.length_map] at hj'
      have htaken := RoundRobin.turn_after
        (fun j => (roundRobinIndex pool index j).toNat) rfl hnext hj'
      simp only [selectedRoundRobin, List.getElem_map, List.getElem_range]
      rw [(hturn j hj').2, htaken]
      rfl
    rw [hselected]
    exact hqueue.map _
  · intro hnone index
    refine peerPoolSelectRoundRobin_none pool (fun peer hpeer => ?_) index
    simpa using List.filter_eq_nil_iff.mp hnone peer hpeer

def exampleRoundRobinPool : PeerPool where
  peers := [.added 1 [] 1 2,
    { PeerInfo.added 2 [] 1 2 with capabilities := ⟨true, false, false⟩ }, .added 3 [] 1 2]
  capacity := 8
  lockDepth := 0
  nodup := by decide
  length_le := by decide

theorem exampleRoundRobinPool_fair :
    (selectedRoundRobin exampleRoundRobinPool 4 2).Perm [1, 3] :=
  (peerPoolSelectRoundRobin_fair exampleRoundRobinPool (by decide)).1 4 (by decide)

end Roole
