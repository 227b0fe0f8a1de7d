import Roole.Gossip.Entries
import Roole.Gossip.TurnEffects
import Roole.Lib.Matching

/-!
# Pending acknowledgements

An ACK is matched to a PING by its sender alone: it frees the first slot of that
node, whichever PING took it. As long as that slot is the one of the oldest PING,
a node that answers all of them in time is not suspected.
-/

namespace Roole

open Matching

def pingTarget (engine : GossipEngine) : TimedTurn → Option NodeId
  | (now, .ping random sent) =>
    let target := selectRandomPeer random engine
    if target ≠ 0 ∧ (sendPingToNode now sent engine target).1 = 0 then some target else none
  | _ => none

def Pings (engine : GossipEngine) (turns : List TimedTurn) (nodeId : NodeId) (i : Nat) : Prop :=
  ∃ hi : i < turns.length, pingTarget (engine.before turns i) turns[i] = some nodeId

/-- Each PING to the node has an ACK of its own, handled at most the ACK timeout
later; those that the run does not reach the ACK of are not overdue in it. -/
structure AnsweredInTime (engine : GossipEngine) (turns : List TimedTurn) (nodeId : NodeId)
    (answer : Nat → Nat) : Prop where
  later : ∀ i, Pings engine turns nodeId i → i < answer i
  ack : ∀ i, Pings engine turns nodeId i → ∀ h : answer i < turns.length,
    turns[answer i].2 = .ackSender nodeId ∧
      (timeAt turns (answer i)).toNat ≤
        (timeAt turns i).toNat + engine.config.ackTimeoutMs.toNat
  unanswered : ∀ i, Pings engine turns nodeId i → turns.length ≤ answer i → ∀ k < turns.length,
    (timeAt turns k).toNat ≤ (timeAt turns i).toNat + engine.config.ackTimeoutMs.toNat
  own : ∀ i j, Pings engine turns nodeId i → Pings engine turns nodeId j →
    answer i = answer j → i = j

def firstPending (engine : GossipEngine) (nodeId : NodeId) : Option Nat :=
  engine.pendingAcks.findIdx? fun ack => ack.active && ack.targetNode == nodeId

/-- The slot that an ACK of the node frees is the one of its oldest PING. -/
def FreesOldest (nodeId : NodeId) (engine : GossipEngine) : TimedTurn → Prop
  | (_, .ackSender senderId) => senderId = nodeId →
      ∀ i first, firstPending engine nodeId = some i → engine.pendingAcks[i]? = some first →
        ∀ ack ∈ engine.pendingAcks, ack.active = true → ack.targetNode = nodeId →
          first.pingSentMs ≤ ack.pingSentMs
  | _ => True

-- ----------------------------------------------------------------------------
-- The slots that wait for a node
-- ----------------------------------------------------------------------------

/-- The slot waits for the node since `limit` at the latest. -/
def PendingAck.waits (nodeId : NodeId) (limit : UInt64) (ack : PendingAck) : Bool :=
  ack.active && ack.targetNode == nodeId && decide (ack.pingSentMs ≤ limit)

def waiting (nodeId : NodeId) (limit : UInt64) (acks : List PendingAck) : Nat :=
  acks.countP (PendingAck.waits nodeId limit)

section Slots

variable {nodeId : NodeId} {limit : UInt64} {acks : List PendingAck} {i : Nat} {ack : PendingAck}
  {now : UInt64} {engine : GossipEngine}

theorem waits_iff : ack.waits nodeId limit = true ↔
    (ack.active = true ∧ ack.targetNode = nodeId) ∧ ack.pingSentMs ≤ limit := by
  simp [PendingAck.waits]

theorem waiting_free (hget : acks[i]? = some ack) :
    waiting nodeId limit (acks.set i { ack with active := false }) =
      waiting nodeId limit acks - if ack.waits nodeId limit then 1 else 0 := by
  obtain ⟨hi, rfl⟩ := List.getElem?_eq_some_iff.mp hget
  unfold waiting
  rw [List.countP_set hi]
  simp [PendingAck.waits]

theorem waiting_free_le (hget : acks[i]? = some ack) :
    waiting nodeId limit (acks.set i { ack with active := false }) ≤ waiting nodeId limit acks := by
  rw [waiting_free hget]
  exact Nat.sub_le _ _

theorem waiting_addPendingAck (targetNode : NodeId) :
    waiting nodeId limit (addPendingAck now engine targetNode).pendingAcks ≤
      waiting nodeId limit engine.pendingAcks +
        if targetNode = nodeId ∧ now ≤ limit then 1 else 0 := by
  unfold addPendingAck
  cases hfree : engine.pendingAcks.findIdx? fun ack => !ack.active with
  | none => exact Nat.le_add_right _ _
  | some i =>
    obtain ⟨hi, -, -⟩ := List.findIdx?_eq_some_iff_getElem.mp hfree
    dsimp only
    unfold waiting
    rw [List.countP_set hi]
    have hnew : (PendingAck.mk targetNode now true).waits nodeId limit = true ↔
        targetNode = nodeId ∧ now ≤ limit := by simp [waits_iff]
    simp only [hnew]
    exact Nat.add_le_add_right (Nat.sub_le _ _) _

theorem removePendingAck_acks (engine : GossipEngine) (senderId : NodeId) :
    (firstPending engine senderId = none ∧
      (removePendingAck engine senderId).pendingAcks = engine.pendingAcks) ∨
    ∃ i first, firstPending engine senderId = some i ∧ engine.pendingAcks[i]? = some first ∧
      (first.active = true ∧ first.targetNode = senderId) ∧
      (removePendingAck engine senderId).pendingAcks =
        engine.pendingAcks.set i { first with active := false } := by
  unfold removePendingAck firstPending
  cases hfirst : engine.pendingAcks.findIdx? fun ack =>
    ack.active && ack.targetNode == senderId with
  | none => exact .inl ⟨rfl, rfl⟩
  | some i =>
    obtain ⟨hi, hfound, -⟩ := List.findIdx?_eq_some_iff_getElem.mp hfirst
    refine .inr ⟨i, engine.pendingAcks[i], rfl, List.getElem?_eq_getElem hi, by simpa using hfound,
      ?_⟩
    exact List.modify_eq_set_get _ hi

theorem waiting_removePendingAck_le (engine : GossipEngine) (senderId : NodeId) :
    waiting nodeId limit (removePendingAck engine senderId).pendingAcks ≤
      waiting nodeId limit engine.pendingAcks := by
  rcases removePendingAck_acks engine senderId with ⟨-, hkept⟩ | ⟨i, first, -, hget, -, hfreed⟩
  · rw [hkept]
  · rw [hfreed]
    exact waiting_free_le hget

theorem waiting_removePendingAck (h : FreesOldest nodeId engine (now, .ackSender nodeId)) :
    waiting nodeId limit (removePendingAck engine nodeId).pendingAcks ≤
      waiting nodeId limit engine.pendingAcks - 1 := by
  rcases removePendingAck_acks engine nodeId with
    ⟨hnone, hkept⟩ | ⟨i, first, hfirst, hget, hpending, hfreed⟩
  · have hzero : waiting nodeId limit engine.pendingAcks = 0 := by
      refine List.countP_eq_zero.mpr fun ack hmem hwaits => ?_
      have hinactive := List.findIdx?_eq_none_iff.mp hnone ack hmem
      obtain ⟨⟨hactive, htarget⟩, -⟩ := waits_iff.mp hwaits
      simp [hactive, htarget] at hinactive
    rw [hkept, hzero]
  · rw [hfreed, waiting_free hget]
    by_cases hwaits : first.waits nodeId limit = true
    · rw [if_pos hwaits]
    · -- the oldest PING is younger than the limit, so all are
      have hzero : waiting nodeId limit engine.pendingAcks = 0 := by
        refine List.countP_eq_zero.mpr fun ack hmem hack => hwaits (waits_iff.mpr ⟨hpending, ?_⟩)
        obtain ⟨⟨hactive, htarget⟩, hle⟩ := waits_iff.mp hack
        exact UInt64.le_trans (h rfl i first hfirst hget ack hmem hactive htarget) hle
      rw [hzero, Nat.zero_sub]

theorem checkPendingAck_acks (now : UInt64) (engine : GossipEngine) (i : Nat) :
    (checkPendingAck now engine i).pendingAcks = engine.pendingAcks ∨
    ∃ ack, engine.pendingAcks[i]? = some ack ∧ (checkPendingAck now engine i).pendingAcks =
      engine.pendingAcks.set i { ack with active := false } := by
  unfold checkPendingAck
  cases hget : engine.pendingAcks[i]? with
  | none => exact .inl rfl
  | some ack =>
    dsimp only
    split_ifs
    · exact .inr ⟨ack, rfl, congrArg (·.set i { ack with active := false })
        (GossipEngine.pendingAcks_of_base (GossipEngine.updateQueuePush_base _ _))⟩
    · exact .inr ⟨ack, rfl, rfl⟩
    · exact .inl rfl

theorem addPendingAck_acks_congr {other : GossipEngine}
    (h : other.pendingAcks = engine.pendingAcks) (targetNode : NodeId) :
    (addPendingAck now other targetNode).pendingAcks =
      (addPendingAck now engine targetNode).pendingAcks := by
  unfold addPendingAck
  rw [h]
  cases engine.pendingAcks.findIdx? fun ack => !ack.active with
  | none => exact h
  | some i => rfl

theorem sendPingToNode_cases (now : UInt64) (sent : Bool) (engine : GossipEngine)
    (targetNode : NodeId) : ∃ other : GossipEngine, other.pendingAcks = engine.pendingAcks ∧
      (sendPingToNode now sent engine targetNode = (-1, other, none) ∨
        ∃ datagram, sendPingToNode now sent engine targetNode =
          (0, addPendingAck now other targetNode, some datagram)) := by
  unfold sendPingToNode
  cases clusterViewGet engine.view targetNode with
  | none => exact ⟨engine, rfl, .inl rfl⟩
  | some _ =>
    refine ⟨{ engine with
      sequenceNum := engine.sequenceNum + 1
      updateQueue := (engine.updateQueue.popBatch engine.config.maxPiggyback.toNat).2 }, rfl, ?_⟩
    dsimp only
    split
    · exact .inl rfl
    · rename_i datagram _
      cases sent with
      | true => exact .inr ⟨datagram, rfl⟩
      | false => exact .inl rfl

theorem sendPingToNode_acks (now : UInt64) (sent : Bool) (engine : GossipEngine)
    (targetNode : NodeId) : (sendPingToNode now sent engine targetNode).2.1.pendingAcks =
      if (sendPingToNode now sent engine targetNode).1 = 0 then
        (addPendingAck now engine targetNode).pendingAcks
      else engine.pendingAcks := by
  obtain ⟨other, hacks, hfailed | ⟨datagram, hsent⟩⟩ :=
    sendPingToNode_cases now sent engine targetNode
  · rw [hfailed]
    exact hacks
  · rw [hsent]
    exact addPendingAck_acks_congr hacks targetNode

end Slots

-- ----------------------------------------------------------------------------
-- Turns
-- ----------------------------------------------------------------------------

section Turns

variable {engine : GossipEngine} {nodeId : NodeId} {limit now : UInt64}

theorem pingRandomPeer_acks (now : UInt64) (random : Nat) (sent : Bool) (engine : GossipEngine) :
    (pingRandomPeer now random sent engine).pendingAcks =
      match pingTarget engine (now, .ping random sent) with
      | some target => (addPendingAck now engine target).pendingAcks
      | none => engine.pendingAcks := by
  unfold pingRandomPeer pingTarget
  dsimp only
  by_cases htarget : selectRandomPeer random engine ≠ 0
  · rw [if_pos htarget, sendPingToNode_acks]
    by_cases hsent : (sendPingToNode now sent engine (selectRandomPeer random engine)).1 = 0
    · rw [if_pos hsent, if_pos ⟨htarget, hsent⟩]
    · rw [if_neg hsent, if_neg fun h => hsent h.2]
  · rw [if_neg htarget, if_neg fun h => htarget h.1]

theorem turn_acks {turn : GossipTurn} (hping : ∀ random sent, turn ≠ .ping random sent)
    (hack : ∀ senderId, turn ≠ .ackSender senderId) (hcheck : ∀ i, turn ≠ .checkAck i) :
    (engine.turn (now, turn)).pendingAcks = engine.pendingAcks := by
  cases turn with
  | pingUpdate update =>
    exact GossipEngine.pendingAcks_of_base (handlePingUpdate_base now engine update)
  | ackSender senderId => exact absurd rfl (hack senderId)
  | ackUpdate update =>
    exact GossipEngine.pendingAcks_of_base (handleAckUpdate_base now engine update)
  | suspectUpdate update =>
    obtain ⟨_, hbase⟩ := handleSuspectUpdate_base now engine update
    exact (GossipEngine.pendingAcks_of_base hbase :)
  | aliveUpdate update =>
    exact GossipEngine.pendingAcks_of_base (handleAliveUpdate_base now engine update)
  | deadUpdate update =>
    exact GossipEngine.pendingAcks_of_base (handleDeadUpdate_base now engine update)
  | join srcIp update =>
    have hbase : (handleJoinUpdate now srcIp engine update).base = engine.base := by
      simp [handleJoinUpdate]
    exact GossipEngine.pendingAcks_of_base hbase
  | workerJoin srcIp senderId update =>
    obtain ⟨_, hbase⟩ := joinWorker_base now srcIp engine senderId update
    exact (GossipEngine.pendingAcks_of_base hbase :)
  | ping random sent => exact absurd rfl (hping random sent)
  | checkAck i => exact absurd rfl (hcheck i)
  | checkSuspect i => exact GossipEngine.pendingAcks_of_base (checkSuspect_base now engine i)
  | gossip rand =>
    obtain ⟨_, hsame⟩ := (gossipToRandomPeers_sends now rand engine).1
    exact (congrArg GossipEngine.pendingAcks hsame :)
  | announceJoin =>
    exact GossipEngine.pendingAcks_of_base (gossipEngineAnnounceJoin_base now engine)
  | _ => rfl

theorem ackSender_acks (now : UInt64) (engine : GossipEngine) (senderId : NodeId) :
    (engine.turn (now, .ackSender senderId)).pendingAcks =
      (removePendingAck engine senderId).pendingAcks := by
  show (recoverSender now (removePendingAck engine senderId) senderId).pendingAcks = _
  unfold recoverSender
  split
  · split_ifs <;> rfl
  · rfl

theorem mem_free {acks : List PendingAck} {i : Nat} {ack slot : PendingAck}
    (hmem : ack ∈ acks.set i { slot with active := false }) (hactive : ack.active = true) :
    ack ∈ acks := by
  rcases List.mem_or_eq_of_mem_set hmem with hmem | rfl
  · exact hmem
  · cases hactive

/-- Only a PING to the node makes one more slot wait for it. -/
theorem waiting_turn_le (nodeId : NodeId) (limit : UInt64) (engine : GossipEngine)
    (turn : TimedTurn) :
    waiting nodeId limit (engine.turn turn).pendingAcks ≤
      waiting nodeId limit engine.pendingAcks +
        if pingTarget engine turn = some nodeId ∧ turn.1 ≤ limit then 1 else 0 := by
  obtain ⟨now, turn⟩ := turn
  cases turn with
  | ping random sent =>
    rw [GossipEngine.turn, pingRandomPeer_acks]
    cases htarget : pingTarget engine (now, .ping random sent) with
    | none => exact Nat.le_add_right _ _
    | some target =>
      simp only [Option.some.injEq]
      exact waiting_addPendingAck target
  | ackSender senderId =>
    rw [ackSender_acks]
    exact (waiting_removePendingAck_le engine senderId).trans (Nat.le_add_right _ _)
  | checkAck i =>
    rw [GossipEngine.turn]
    rcases checkPendingAck_acks now engine i with hkept | ⟨slot, hget, hfreed⟩
    · rw [hkept]
      exact Nat.le_add_right _ _
    · rw [hfreed]
      exact (waiting_free_le hget).trans (Nat.le_add_right _ _)
  | _ =>
    rw [turn_acks (by simp) (by simp) (by simp)]
    exact Nat.le_add_right _ _

theorem waiting_ackSender {turn : TimedTurn} (hack : turn.2 = .ackSender nodeId)
    (holdest : FreesOldest nodeId engine turn) :
    waiting nodeId limit (engine.turn turn).pendingAcks ≤
      waiting nodeId limit engine.pendingAcks - 1 := by
  obtain ⟨now, turn⟩ := turn
  subst hack
  rw [ackSender_acks]
  exact waiting_removePendingAck holdest

/-- A slot that is taken in a turn holds the time of the turn. -/
theorem mem_turn_acks {turn : TimedTurn} {ack : PendingAck}
    (hmem : ack ∈ (engine.turn turn).pendingAcks) (hactive : ack.active = true) :
    ack ∈ engine.pendingAcks ∨ ack.pingSentMs = turn.1 := by
  obtain ⟨now, turn⟩ := turn
  cases turn with
  | ping random sent =>
    rw [GossipEngine.turn, pingRandomPeer_acks] at hmem
    split at hmem
    · unfold addPendingAck at hmem
      split at hmem
      · rcases List.mem_or_eq_of_mem_set hmem with hmem | rfl
        · exact .inl hmem
        · exact .inr rfl
      · exact .inl hmem
    · exact .inl hmem
  | ackSender senderId =>
    rw [ackSender_acks] at hmem
    rcases removePendingAck_acks engine senderId with ⟨-, hkept⟩ | ⟨i, first, -, -, -, hfreed⟩
    · exact .inl (hkept ▸ hmem)
    · rw [hfreed] at hmem
      exact .inl (mem_free hmem hactive)
  | checkAck i =>
    rcases checkPendingAck_acks now engine i with hkept | ⟨slot, -, hfreed⟩
    · exact .inl (hkept ▸ hmem)
    · rw [GossipEngine.turn, hfreed] at hmem
      exact .inl (mem_free hmem hactive)
  | _ =>
    rw [turn_acks (by simp) (by simp) (by simp)] at hmem
    exact .inl hmem

end Turns

-- ----------------------------------------------------------------------------
-- Runs
-- ----------------------------------------------------------------------------

section Runs

variable {engine : GossipEngine} {turns : List TimedTurn} {nodeId : NodeId} {answer : Nat → Nat}
  {k : Nat}

/-- The slots that wait for the node at position `k` of the run. -/
structure SlotsAt (engine : GossipEngine) (turns : List TimedTurn) (nodeId : NodeId)
    (answer : Nat → Nat) (k : Nat) : Prop where
  sent : ∀ ack ∈ (engine.before turns k).pendingAcks, ack.active = true →
    ack.targetNode = nodeId → ∃ i < k, ack.pingSentMs = timeAt turns i
  waiting : ∀ limit, waiting nodeId limit (engine.before turns k).pendingAcks ≤
    (outstanding (Pings engine turns nodeId) answer (timeAt turns · ≤ limit) k).card

theorem AnsweredInTime.none_answered (h : AnsweredInTime engine turns nodeId answer)
    (hk : k < turns.length) (hack : turns[k].2 ≠ .ackSender nodeId) (i : Nat)
    (hi : Pings engine turns nodeId i) : answer i ≠ k := by
  rintro rfl
  exact hack (h.ack i hi hk).1

theorem slots_start (hidle : ∀ ack ∈ engine.pendingAcks, ack.active = true →
    ack.targetNode ≠ nodeId) : SlotsAt engine turns nodeId answer 0 where
  sent := fun ack hmem hactive htarget => absurd htarget (hidle ack hmem hactive)
  waiting := fun limit => by
    refine Nat.le_of_eq (List.countP_eq_zero.mpr fun ack hmem hwaits => ?_)
    obtain ⟨⟨hactive, htarget⟩, -⟩ := waits_iff.mp hwaits
    exact hidle ack hmem hactive htarget

/-- The slots stay within the unanswered PINGs in every turn. -/
theorem waiting_succ (hanswered : AnsweredInTime engine turns nodeId answer)
    (hk : k < turns.length) (holdest : FreesOldest nodeId (engine.before turns k) turns[k])
    (h : SlotsAt engine turns nodeId answer k) (limit : UInt64) :
    waiting nodeId limit ((engine.before turns k).turn turns[k]).pendingAcks ≤
      (outstanding (Pings engine turns nodeId) answer (timeAt turns · ≤ limit) (k + 1)).card := by
  have hbefore := h.waiting limit
  by_cases hack : turns[k].2 = .ackSender nodeId
  · -- one slot is freed, and one PING answered at most
    have hfreed : waiting nodeId limit ((engine.before turns k).turn turns[k]).pendingAcks ≤
        waiting nodeId limit (engine.before turns k).pendingAcks - 1 :=
      waiting_ackSender hack holdest
    have hsettled := card_outstanding_answered (P := (timeAt turns · ≤ limit)) (k := k)
      hanswered.own
    omega
  · have hnone := hanswered.none_answered hk hack
    have hturn := waiting_turn_le nodeId limit (engine.before turns k) turns[k]
    split_ifs at hturn with hasks
    · obtain ⟨htarget, hle⟩ := hasks
      have hasked : Pings engine turns nodeId k := ⟨hk, htarget⟩
      have hcounted := card_outstanding_asked (P := (timeAt turns · ≤ limit)) hnone hasked
        (timeAt_eq hk ▸ hle) (hanswered.later k hasked)
      omega
    · exact hturn.trans (hbefore.trans (card_outstanding_le hnone))

theorem slots_succ (hanswered : AnsweredInTime engine turns nodeId answer)
    (hk : k < turns.length) (holdest : FreesOldest nodeId (engine.before turns k) turns[k])
    (h : SlotsAt engine turns nodeId answer k) : SlotsAt engine turns nodeId answer (k + 1) := by
  constructor
  · intro ack hmem hactive htarget
    rw [GossipEngine.before_succ engine hk] at hmem
    rcases mem_turn_acks hmem hactive with hold | hnew
    · obtain ⟨i, hi, hsent⟩ := h.sent ack hold hactive htarget
      exact ⟨i, Nat.lt_succ_of_lt hi, hsent⟩
    · exact ⟨k, Nat.lt_succ_self k, hnew.trans (timeAt_eq hk).symm⟩
  · intro limit
    rw [GossipEngine.before_succ engine hk]
    exact waiting_succ hanswered hk holdest h limit

theorem slots_at (hanswered : AnsweredInTime engine turns nodeId answer)
    (hidle : ∀ ack ∈ engine.pendingAcks, ack.active = true → ack.targetNode ≠ nodeId)
    (hmeets : Runs.Meets GossipEngine.turn (FreesOldest nodeId) engine turns)
    (hk : k ≤ turns.length) : SlotsAt engine turns nodeId answer k := by
  induction k with
  | zero => exact slots_start hidle
  | succ k ih => exact slots_succ hanswered hk (hmeets.get hk) (ih (Nat.le_of_succ_le hk))

theorem AnsweredInTime.in_time (hanswered : AnsweredInTime engine turns nodeId answer)
    (hclock : MonotoneClock turns) (hk : k < turns.length) (hi : Pings engine turns nodeId i)
    (hopen : k ≤ answer i) : (timeAt turns k).toNat ≤
      (timeAt turns i).toNat + engine.config.ackTimeoutMs.toNat := by
  by_cases hend : answer i < turns.length
  · exact (UInt64.le_iff_toNat_le.mp (timeAt_le hclock hopen hend)).trans
      (hanswered.ack i hi hend).2
  · exact hanswered.unanswered i hi (Nat.not_lt.mp hend) k hk

theorem not_overdue {ack : PendingAck} (hclock : MonotoneClock turns)
    (hanswered : AnsweredInTime engine turns nodeId answer)
    (hslots : SlotsAt engine turns nodeId answer k) (hk : k < turns.length)
    (hmem : ack ∈ (engine.before turns k).pendingAcks) (hactive : ack.active = true)
    (htarget : ack.targetNode = nodeId) :
    ¬ timeAt turns k - ack.pingSentMs > engine.config.ackTimeoutMs.toUInt64 := by
  obtain ⟨i, hi, hsent⟩ := hslots.sent ack hmem hactive htarget
  have hle : ack.pingSentMs ≤ timeAt turns k := hsent ▸ timeAt_le hclock hi.le hk
  have hwaits : 0 < waiting nodeId ack.pingSentMs (engine.before turns k).pendingAcks :=
    List.countP_pos_iff.mpr ⟨ack, hmem, waits_iff.mpr ⟨⟨hactive, htarget⟩, UInt64.le_refl _⟩⟩
  obtain ⟨j, hj⟩ := Finset.card_pos.mp (hwaits.trans_le (hslots.waiting ack.pingSentMs))
  obtain ⟨-, hping, hearlier, hopen⟩ := mem_outstanding.mp hj
  have hintime := hanswered.in_time hclock hk hping hopen
  have hearlier := UInt64.le_iff_toNat_le.mp hearlier
  have htimeout : engine.config.ackTimeoutMs.toUInt64.toNat = engine.config.ackTimeoutMs.toNat := by
    simp
  rw [gt_iff_lt, UInt64.lt_iff_toNat_lt, UInt64.toNat_sub_of_le _ _ hle, htimeout]
  omega

/-- On a monotone clock a node that answers each PING in time is not marked by
`check_ack_timeouts`, as long as its ACKs free the slots of its oldest PINGs. -/
theorem no_false_suspicion (hclock : MonotoneClock turns)
    (hidle : ∀ ack ∈ engine.pendingAcks, ack.active = true → ack.targetNode ≠ nodeId)
    (hanswered : AnsweredInTime engine turns nodeId answer)
    (hmeets : Runs.Meets GossipEngine.turn (FreesOldest nodeId) engine turns)
    (hk : k < turns.length) (hcheck : ∃ i, turns[k].2 = .checkAck i) :
    clusterViewGet (engine.before turns (k + 1)).view nodeId =
      clusterViewGet (engine.before turns k).view nodeId := by
  have hslots := slots_at hanswered hidle hmeets hk.le
  obtain ⟨i, hi⟩ := hcheck
  have hturn : turns[k] = (timeAt turns k, .checkAck i) := Prod.ext (timeAt_eq hk).symm hi
  rw [GossipEngine.before_succ engine hk, hturn, GossipEngine.turn]
  unfold checkPendingAck
  cases hget : (engine.before turns k).pendingAcks[i]? with
  | none => rfl
  | some ack =>
    dsimp only
    split_ifs with hover halive
    · have hne : nodeId ≠ ack.targetNode := by
        rintro rfl
        refine not_overdue hclock hanswered hslots hk (List.mem_of_getElem? hget) hover.1 rfl ?_
        exact before_config engine turns k ▸ hover.2
      simp only [GossipEngine.updateQueuePush_view, GossipEngine.updateStatus_view]
      exact clusterViewUpdateStatus_of_ne hne
    · rfl
    · rfl

end Runs

-- ----------------------------------------------------------------------------
-- Two runs of a router
-- ----------------------------------------------------------------------------

def pingingRouter : GossipEngine :=
  firstRouter.run [arrival (messageOf 2 gossipMsgPing [newsOf 2 .alive 0, newsOf 3 .alive 0])]

theorem pingingRouter_idle (nodeId : NodeId) (ack : PendingAck)
    (hmem : ack ∈ pingingRouter.pendingAcks) (hactive : ack.active = true) :
    ack.targetNode ≠ nodeId := by
  have hidle : ∀ ack ∈ pingingRouter.pendingAcks, ack.active = false := by decide +kernel
  rw [hidle ack hmem] at hactive
  cases hactive

theorem no_false_suspicion_once :
    let turns : List TimedTurn := [(0, .ping 0 true), (100, .ackSender 2), (600, .checkAck 0)]
    clusterViewGet (pingingRouter.before turns 3).view 2 =
      clusterViewGet (pingingRouter.before turns 2).view 2 := by
  intro turns
  have hfirst : ∀ i, Pings pingingRouter turns 2 i → i = 0 := by
    have hping : ∀ i : Fin 3,
        pingTarget (pingingRouter.before turns i) turns[i] = some 2 → i = 0 := by
      decide +kernel
    rintro i ⟨hi, htarget⟩
    exact congrArg Fin.val (hping ⟨i, hi⟩ htarget)
  have hanswered : AnsweredInTime pingingRouter turns 2 fun _ => 1 := by
    refine ⟨fun i hi => ?_, fun i hi h => ?_, fun i hi hend => ?_, fun i j hi hj _ => ?_⟩
    · rw [hfirst i hi]
      exact Nat.zero_lt_one
    · rw [hfirst i hi]
      exact ⟨rfl, by decide⟩
    · exact absurd hend (by decide)
    · rw [hfirst i hi, hfirst j hj]
  have hsame : ∀ ack ∈ (pingingRouter.before turns 1).pendingAcks, ack.pingSentMs = 0 := by
    decide +kernel
  refine no_false_suspicion (k := 2) (by decide) (pingingRouter_idle 2) hanswered
    ⟨trivial, fun _ i first _ hget ack hmem _ _ => ?_, trivial, trivial⟩ (by decide) ⟨0, rfl⟩
  rw [hsame first (List.mem_of_getElem? hget)]
  exact UInt64.le_iff_toNat_le.mpr (Nat.zero_le _)

def overlappingPings : List TimedTurn :=
  [(0, .ping 0 true), (0, .ping 1 true), (100, .ackSender 2), (400, .ping 1 true),
    (450, .ackSender 3), (600, .checkAck 1), (800, .ackSender 3)]

theorem overlappingPings_to {i : Nat} (h : Pings pingingRouter overlappingPings 3 i) :
    i = 1 ∨ i = 3 := by
  have hping : ∀ i : Fin overlappingPings.length,
      pingTarget (pingingRouter.before overlappingPings i) overlappingPings[i] = some 3 →
        i.val = 1 ∨ i.val = 3 := by decide +kernel
  obtain ⟨hi, htarget⟩ := h
  exact hping ⟨i, hi⟩ htarget

/-- Node 3 answers both PINGs within 450 ms and is SUSPECT all the same. -/
theorem false_suspicion :
    MonotoneClock overlappingPings ∧
    (∀ ack ∈ pingingRouter.pendingAcks, ack.active = true → ack.targetNode ≠ 3) ∧
    AnsweredInTime pingingRouter overlappingPings 3 (fun i => if i = 1 then 4 else 6) ∧
    overlappingPings[5].2 = .checkAck 1 ∧
    statusOf (pingingRouter.before overlappingPings 5) 3 = some .alive ∧
    statusOf (pingingRouter.before overlappingPings 6) 3 = some .suspect := by
  refine ⟨by decide, by decide +kernel, ?_, rfl, by decide +kernel, by decide +kernel⟩
  constructor
  · intro i hi
    rcases overlappingPings_to hi with rfl | rfl <;> decide
  · intro i hi h
    rcases overlappingPings_to hi with rfl | rfl
    · exact ⟨rfl, by decide⟩
    · exact ⟨rfl, by decide⟩
  · intro i hi hend
    rcases overlappingPings_to hi with rfl | rfl <;> exact absurd hend (by decide)
  · intro i j hi hj heq
    rcases overlappingPings_to hi with rfl | rfl <;>
      rcases overlappingPings_to hj with rfl | rfl <;> first | rfl | exact absurd heq (by decide)

end Roole
