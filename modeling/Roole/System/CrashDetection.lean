import Roole.Gossip.ViewStore
import Roole.System.OwnDetector

/-!
# A node that has fallen silent

The failure detector finds what it is there for. From a PING on that a node does not
answer, one look at every slot makes the node SUSPECT and a later one at every member
makes it DEAD, whatever the rest of the cluster says in the meantime.
-/

namespace Roole

open Network

variable {nodes : ι → GossipNode} {nodeId : NodeId} {engine : GossipEngine} {action : NodeAction}

-- ----------------------------------------------------------------------------
-- Slots
-- ----------------------------------------------------------------------------

def WaitsIn (engine : GossipEngine) (j : Nat) (nodeId : NodeId) (since : UInt64) : Prop :=
  engine.pendingAcks[j]? = some ⟨nodeId, since, true⟩

theorem WaitsIn.addPendingAck (h : WaitsIn engine j nodeId since) (now : UInt64)
    (targetNode : NodeId) : WaitsIn (addPendingAck now engine targetNode) j nodeId since := by
  unfold Roole.addPendingAck
  cases hfree : engine.pendingAcks.findIdx? fun ack => !ack.active with
  | none => exact h
  | some i =>
    obtain ⟨hi, hfound, -⟩ := List.findIdx?_eq_some_iff_getElem.mp hfree
    have hne : i ≠ j := by
      rintro rfl
      have hactive := Option.some.inj ((List.getElem?_eq_getElem hi).symm.trans h)
      simp [hactive] at hfound
    exact (List.getElem?_set_ne hne).trans h

theorem waitsIn_of_free (hfree : ∃ ack ∈ engine.pendingAcks, ack.active = false) (now : UInt64)
    (targetNode : NodeId) :
    ∃ j < engine.pendingAcks.length,
      WaitsIn (addPendingAck now engine targetNode) j targetNode now := by
  obtain ⟨ack, hmem, hinactive⟩ := hfree
  cases hfirst : engine.pendingAcks.findIdx? fun ack => !ack.active with
  | none =>
    have hactive := List.findIdx?_eq_none_iff.mp hfirst ack hmem
    simp [hinactive] at hactive
  | some j =>
    obtain ⟨hj, -, -⟩ := List.findIdx?_eq_some_iff_getElem.mp hfirst
    refine ⟨j, hj, ?_⟩
    unfold WaitsIn addPendingAck
    rw [hfirst]
    exact List.getElem?_set_self hj

/-- A slot waits until its node answers or its time is over. -/
theorem WaitsIn.turn (h : WaitsIn engine j nodeId since) {turn : TimedTurn}
    (hack : turn.2 ≠ .ackSender nodeId) :
    WaitsIn (engine.turn turn) j nodeId since ∨
      turn.2 = .checkAck j ∧ turn.1 - since > engine.config.ackTimeoutMs.toUInt64 := by
  obtain ⟨now, turn⟩ := turn
  cases turn with
  | ping random sent =>
    refine .inl ?_
    unfold WaitsIn
    rw [GossipEngine.turn, pingRandomPeer_acks]
    split
    · exact h.addPendingAck now _
    · exact h
  | ackSender senderId =>
    refine .inl ?_
    unfold WaitsIn
    rw [ackSender_acks]
    rcases removePendingAck_acks engine senderId with
      ⟨-, hkept⟩ | ⟨i, first, -, hget, ⟨-, htarget⟩, hfreed⟩
    · rwa [hkept]
    · have hne : i ≠ j := by
        rintro rfl
        have hfirst : first = ⟨nodeId, since, true⟩ := Option.some.inj (hget.symm.trans h)
        rw [hfirst] at htarget
        exact hack (congrArg GossipTurn.ackSender htarget.symm)
      rw [hfreed]
      exact (List.getElem?_set_ne hne).trans h
  | checkAck i =>
    by_cases hover : i = j ∧ now - since > engine.config.ackTimeoutMs.toUInt64
    · exact .inr ⟨congrArg _ hover.1, hover.2⟩
    · refine .inl ?_
      show (checkPendingAck now engine i).pendingAcks[j]? = _
      rcases checkPendingAck_acks now engine i with hkept | ⟨ack, hget, hfreed⟩
      · rwa [hkept]
      · by_cases hsame : i = j
        · subst hsame
          have hearly : ¬ now - since > engine.config.ackTimeoutMs.toUInt64 :=
            fun hlate => hover ⟨rfl, hlate⟩
          have hkept : checkPendingAck now engine i = engine := by
            unfold checkPendingAck
            rw [h]
            exact if_neg fun hboth => hearly hboth.2
          rwa [hkept]
        · rw [hfreed]
          exact (List.getElem?_set_ne hsame).trans h
  | _ =>
    refine .inl ?_
    unfold WaitsIn
    rwa [turn_acks (by simp) (by simp) (by simp)]

-- ----------------------------------------------------------------------------
-- Entries
-- ----------------------------------------------------------------------------

theorem turn_entry (hget : clusterViewGet engine.view nodeId = some entry)
    (htarget : (engine.turnEffect turn).call.target ≠ some nodeId) :
    clusterViewGet (engine.turn turn).view nodeId = some entry := by
  rw [(turn_does engine turn).view, clusterViewGet_apply]
  split
  · rename_i written hwritten
    rw [if_neg, hget]
    rintro rfl
    exact htarget (written_target hwritten)
  · exact hget

theorem turn_updateStatus
    (hget : clusterViewGet engine.view nodeId = some entry)
    (hcall : (engine.turnEffect turn).call = .updateStatus nodeId status entry.incarnation) :
    clusterViewGet (engine.turn turn).view nodeId =
      some (entry.setStatus turn.1 status entry.incarnation) := by
  rw [(turn_does engine turn).view, hcall, apply_updateStatus,
    clusterViewUpdateStatus_self turn.1 status entry.incarnation hget,
    if_pos (UInt64.le_refl _)]

theorem overdue_entry (h : overdueMember now engine i = some entry) :
    clusterViewGet (engine.turn (now, .checkAck i)).view entry.nodeId =
      some (entry.setStatus now .suspect entry.incarnation) := by
  obtain ⟨ack, hslot, h⟩ := Option.bind_eq_some_iff.mp h
  split_ifs at h with hover
  obtain ⟨hget, halive⟩ := Option.filter_eq_some_iff.mp h
  have hid := clusterViewGet_nodeId hget
  rw [← hid] at hget
  refine turn_updateStatus hget ?_
  show (TurnEffect.ofCheckAck now engine i).call = _
  unfold TurnEffect.ofCheckAck
  rw [hslot]
  dsimp only
  rw [if_pos hover, ← hid, hget]
  exact congrArg TurnEffect.call (if_pos (beq_iff_eq.mp halive))

theorem WaitsIn.overdue (h : WaitsIn engine j nodeId since)
    (hget : clusterViewGet engine.view nodeId = some entry) (halive : entry.status = .alive)
    (hlate : time - since > engine.config.ackTimeoutMs.toUInt64) :
    overdueMember time engine j = some entry := by
  unfold overdueMember
  rw [h, Option.bind_some, if_pos ⟨rfl, hlate⟩, hget, Option.filter_some, if_pos]
  rw [halive]
  rfl

theorem timedOut_entry (h : timedOut now engine i = some entry) :
    clusterViewGet (engine.turn (now, .checkSuspect i)).view entry.nodeId =
      some (entry.setStatus now .dead entry.incarnation) := by
  obtain ⟨hget, -⟩ := mem_timedOut h
  obtain ⟨hplace, hover⟩ := Option.filter_eq_some_iff.mp h
  refine turn_updateStatus hget ?_
  show (TurnEffect.ofCheckSuspect now engine i).call = _
  unfold TurnEffect.ofCheckSuspect
  rw [hplace]
  rw [Bool.and_eq_true, beq_iff_eq, decide_eq_true_eq] at hover
  exact congrArg TurnEffect.call (if_pos hover)

-- ----------------------------------------------------------------------------
-- Places
-- ----------------------------------------------------------------------------

def InPlace (engine : GossipEngine) (m : Nat) (nodeId : NodeId) : Prop :=
  (engine.view.members.map ClusterMember.nodeId)[m]? = some nodeId

theorem inPlace_of_get (hget : clusterViewGet engine.view nodeId = some entry) :
    ∃ m < engine.view.members.length, InPlace engine m nodeId := by
  obtain ⟨m, hm, hplace⟩ := List.mem_iff_getElem.mp
    ((known_iff_mem engine.view nodeId).mp ⟨entry, hget⟩)
  rw [List.length_map] at hm
  exact ⟨m, hm, hplace ▸ List.getElem?_eq_getElem _⟩

theorem apply_ids (now : UInt64) (view : ClusterView) (call : ViewCall) :
    view.members.map ClusterMember.nodeId <+:
      (call.apply now view).members.map ClusterMember.nodeId := by
  cases call with
  | keep => exact List.prefix_refl _
  | add member =>
    rw [apply_add]
    unfold clusterViewAdd
    split
    · split_ifs
      · rw [ids_replace]
      · rw [ids_replace]
      · exact List.prefix_refl _
    · split_ifs with hroom
      · exact List.map_append ▸ List.prefix_append _ _
      · exact List.prefix_refl _
  | updateStatus other status incarnation => rw [apply_updateStatus, ids_updateStatus]
  | refresh other incarnation =>
    have hids : ((ViewCall.refresh other incarnation).apply now view).members.map
        ClusterMember.nodeId = view.members.map ClusterMember.nodeId :=
      ids_replace view (f := (·.refresh now incarnation)) fun _ hself => hself
    rw [hids]

theorem InPlace.turn (h : InPlace engine m nodeId) (turn : TimedTurn) :
    InPlace (engine.turn turn) m nodeId := by
  obtain ⟨hm, -⟩ := List.getElem?_eq_some_iff.mp h
  obtain ⟨appended, heq⟩ := apply_ids turn.1 engine.view (engine.turnEffect turn).call
  unfold InPlace
  rw [(turn_does engine turn).view, ← heq, List.getElem?_append_left hm]
  exact h

theorem InPlace.members (h : InPlace engine m nodeId)
    (hget : clusterViewGet engine.view nodeId = some entry) :
    engine.view.members[m]? = some entry := by
  unfold InPlace at h
  rw [List.getElem?_map] at h
  obtain ⟨member, hmember, rfl⟩ := Option.map_eq_some_iff.mp h
  rw [hmember, ← clusterViewGet_of_mem (List.mem_of_getElem? hmember), hget]

-- ----------------------------------------------------------------------------
-- Steps
-- ----------------------------------------------------------------------------

/-- The step is not one in which party `i` hears of the node itself, or starts again. -/
structure Unheard (i : ι) (nodeId : NodeId) (step : ι × NodeAction) : Prop where
  heard : step.1 = i → ¬ Heard nodeId step.2
  running : step.1 = i → ∀ now, step.2 ≠ .restart now

theorem heard_of_ackSender (hturn : (now, .ackSender nodeId) ∈ action.turn engine) :
    Heard nodeId action := by
  rcases turn_cases hturn with ⟨datagram, hread, msg, hdecoded, -, _, _, _, hdispatched⟩ | hown
  · cases hdispatched
    exact ⟨datagram, hread, msg, hdecoded, rfl⟩
  · cases hown

/-- What becomes of the entry of a node that is not heard. -/
inductive Fades (engine : GossipEngine) (entry : ClusterMember) :
    NodeAction → ClusterMember → Prop
  | overdue (h : overdueMember now engine m = some entry) (halive : entry.status = .alive) :
      Fades engine entry (.checkAck now m) (entry.setStatus now .suspect entry.incarnation)
  | givenUp (h : timedOut now engine m = some entry) (hsuspect : entry.status = .suspect) :
      Fades engine entry (.checkSuspect now m) (entry.setStatus now .dead entry.incarnation)

section Steps

variable [DecidableEq ι] {cluster : GossipCluster ι} {i : ι} {step : ι × NodeAction}

theorem party_step (nodes : ι → GossipNode) (cluster : GossipCluster ι)
    (hrunning : step.1 = i → ∀ now, step.2 ≠ .restart now) :
    ((gossipProtocol nodes).step cluster step).party i = cluster.party i ∨
      step.1 = i ∧ ∃ turn ∈ step.2.turn (cluster.party i),
        ((gossipProtocol nodes).step cluster step).party i = (cluster.party i).turn turn := by
  obtain ⟨j, action⟩ := step
  by_cases hne : i = j
  · subst hne
    have hact := act_turn (nodes i) (cluster.party i) (hrunning rfl)
    rw [Protocol.step_self]
    cases hturn : action.turn (cluster.party i) with
    | none =>
      rw [hturn] at hact
      exact .inl hact
    | some turn =>
      rw [hturn] at hact
      exact .inr ⟨rfl, turn, rfl, hact⟩
  · exact .inl (Protocol.step_of_ne _ _ hne)

variable (hold : (incarnationFacts nodeId).Hold nodes cluster)
  (hdelivers : (gossipProtocol nodes).Delivers cluster step) (hother : (nodes i).nodeId ≠ nodeId)
  (hunheard : Unheard i nodeId step)
include hold hdelivers hother hunheard

/-- As long as a node is not heard, its entry stays or fades. -/
theorem entry_step (hget : clusterViewGet (cluster.party i).view nodeId = some entry) :
    ∃ entry', clusterViewGet (((gossipProtocol nodes).step cluster step).party i).view nodeId =
      some entry' ∧
        (entry' = entry ∨ step.1 = i ∧ Fades (cluster.party i) entry step.2 entry') := by
  rcases party_step nodes cluster hunheard.running with
    hkept | ⟨hparty, turn, hturn, hafter⟩
  · exact ⟨entry, hkept ▸ hget, .inl rfl⟩
  · rw [hafter]
    by_cases htarget : ((cluster.party i).turnEffect turn).call.target = some nodeId
    · have hread : ∀ datagram ∈ step.2.reads, (incarnationFacts nodeId).Datagram datagram :=
        fun datagram hread => hold.sent datagram (hdelivers datagram hread)
      have hid := clusterViewGet_nodeId hget
      obtain ⟨j, action⟩ := step
      cases concerns_of_target (hold.party i) hother hread hturn hget htarget with
      | overdue h halive =>
        refine ⟨_, ?_, .inr ⟨hparty, .overdue h halive⟩⟩
        rw [← hid]
        exact overdue_entry h
      | givenUp h hsuspect =>
        refine ⟨_, ?_, .inr ⟨hparty, .givenUp h hsuspect⟩⟩
        rw [← hid]
        exact timedOut_entry h
      | heard hheard => exact absurd hheard (hunheard.heard hparty)
    · exact ⟨entry, turn_entry hget htarget, .inl rfl⟩

end Steps

-- ----------------------------------------------------------------------------
-- Runs
-- ----------------------------------------------------------------------------

abbrev engineAt [DecidableEq ι] (nodes : ι → GossipNode) (now : UInt64)
    (actions : List (ι × NodeAction)) (i : ι) (k : Nat) : GossipEngine :=
  (clusterAt nodes now actions k).party i

/-- Party `i` PINGs the node at `since`, in step `p`, and does not hear of it up to
step `r`. Up to step `q` it has looked for overdue ACKs in all its slots, and from
there on for overdue suspicions at all that it knew. -/
structure Watches [DecidableEq ι] (nodes : ι → GossipNode) (now : UInt64)
    (actions : List (ι × NodeAction)) (i : ι) (nodeId : NodeId) (since : UInt64)
    (p q r : Nat) : Prop where
  pings : ∃ random sent, actions[p]? = some (i, .ping since random sent) ∧
    pingTarget (engineAt nodes now actions i p) (since, .ping random sent) = some nodeId
  slot : ∃ ack ∈ (engineAt nodes now actions i p).pendingAcks, ack.active = false
  alive : ∃ entry, clusterViewGet (engineAt nodes now actions i p).view nodeId = some entry ∧
    entry.status = .alive
  unheard : ∀ k step, p ≤ k → k < r → actions[k]? = some step → Unheard i nodeId step
  within : r ≤ actions.length
  acks : ∀ j < (engineAt nodes now actions i p).pendingAcks.length, ∃ k time,
    p < k ∧ k < q ∧ actions[k]? = some (i, .checkAck time j) ∧
      time - since > gossipDefaultConfig.ackTimeoutMs.toUInt64
  suspicions : ∀ m < (engineAt nodes now actions i p).view.members.length, ∃ k time,
    q ≤ k ∧ k < r ∧ actions[k]? = some (i, .checkSuspect time m) ∧
      ∀ k' time' j, p < k' → k' < q → actions[k']? = some (i, .checkAck time' j) →
        time - time' > gossipDefaultConfig.deadTimeoutMs.toUInt64

/-- Slot `j` waits for the ACK to the PING, and the node is still ALIVE. -/
def Awaited (engine : GossipEngine) (j : Nat) (nodeId : NodeId) (since : UInt64) : Prop :=
  WaitsIn engine j nodeId since ∧
    ∃ entry, clusterViewGet engine.view nodeId = some entry ∧ entry.status = .alive

def SuspectSince (actions : List (ι × NodeAction)) (i : ι) (p q : Nat) (engine : GossipEngine)
    (nodeId : NodeId) : Prop :=
  ∃ entry, clusterViewGet engine.view nodeId = some entry ∧ entry.status = .suspect ∧
    ∃ k j, p < k ∧ k < q ∧ actions[k]? = some (i, .checkAck entry.lastSeenMs j)

def HeldDead (engine : GossipEngine) (nodeId : NodeId) : Prop :=
  ∃ entry, clusterViewGet engine.view nodeId = some entry ∧ entry.status = .dead

section Runs

variable [DecidableEq ι] {actions : List (ι × NodeAction)} {i : ι}
  (hrun : ClusterRun nodes (Stays nodeId) now actions) (hother : (nodes i).nodeId ≠ nodeId)
  (hwatches : Watches nodes now actions i nodeId since p q r)

include hrun in
theorem config_at (i : ι) (k : Nat) :
    (engineAt nodes now actions i k).config = gossipDefaultConfig :=
  ((incarnations_hold hrun k).party i).config

theorem engine_act (now : UInt64) (hstep : actions[k]? = some (i, action))
    (hrunning : ∀ time, action ≠ .restart time) :
    engineAt nodes now actions i (k + 1) =
      ((action.turn (engineAt nodes now actions i k)).map
        (engineAt nodes now actions i k).turn).getD (engineAt nodes now actions i k) := by
  obtain ⟨hlt, hget⟩ := List.getElem?_eq_some_iff.mp hstep
  rw [engineAt, clusterAt_succ nodes now hlt, hget, Protocol.step_self]
  exact act_turn (nodes i) _ hrunning

include hwatches

theorem engine_step (hk : p ≤ k) (hkr : k < r) :
    engineAt nodes now actions i (k + 1) = engineAt nodes now actions i k ∨
      ∃ action, actions[k]? = some (i, action) ∧
        ∃ turn ∈ action.turn (engineAt nodes now actions i k),
          engineAt nodes now actions i (k + 1) = (engineAt nodes now actions i k).turn turn := by
  have hlt := Nat.lt_of_lt_of_le hkr hwatches.within
  have hget : actions[k]? = some actions[k] := List.getElem?_eq_getElem hlt
  unfold engineAt
  rw [clusterAt_succ nodes now hlt]
  rcases party_step nodes (clusterAt nodes now actions k)
      (hwatches.unheard k actions[k] hk hkr hget).running with hkept | ⟨hparty, turn, hturn, hafter⟩
  · exact .inl hkept
  · exact .inr ⟨actions[k].2, hget.trans (congrArg some (Prod.ext hparty rfl)), turn, hturn, hafter⟩

include hrun hother

theorem entry_at (hk : p ≤ k) (hkr : k < r)
    (hget : clusterViewGet (engineAt nodes now actions i k).view nodeId = some entry) :
    ∃ entry', clusterViewGet (engineAt nodes now actions i (k + 1)).view nodeId = some entry' ∧
      (entry' = entry ∨ ∃ action, actions[k]? = some (i, action) ∧
        Fades (engineAt nodes now actions i k) entry action entry') := by
  have hlt := Nat.lt_of_lt_of_le hkr hwatches.within
  have hstep : actions[k]? = some actions[k] := List.getElem?_eq_getElem hlt
  have hdelivers := (Protocol.allows_at hrun hlt).1
  unfold engineAt
  rw [clusterAt_succ nodes now hlt]
  obtain ⟨entry', hget', hfades⟩ := entry_step (incarnations_hold hrun k) hdelivers
    hother (hwatches.unheard k actions[k] hk hkr hstep) hget
  refine ⟨entry', hget', hfades.imp_right ?_⟩
  rintro ⟨hparty, hfades⟩
  exact ⟨actions[k].2, hstep.trans (congrArg some (Prod.ext hparty rfl)), hfades⟩

theorem awaited_step (hpk : p < k) (hkq : k < q) (hkr : k < r)
    (h : Awaited (engineAt nodes now actions i k) j nodeId since) :
    Awaited (engineAt nodes now actions i (k + 1)) j nodeId since ∨
      SuspectSince actions i p q (engineAt nodes now actions i (k + 1)) nodeId := by
  obtain ⟨hwaits, entry, hget, halive⟩ := h
  obtain ⟨entry', hget', heq | ⟨action, hstep, hfades⟩⟩ :=
    entry_at hrun hother hwatches hpk.le hkr hget
  · subst heq
    rcases engine_step hwatches hpk.le hkr with hkept | ⟨action, hstep, turn, hturn, hafter⟩
    · exact .inl ⟨hkept ▸ hwaits, entry', hget', halive⟩
    · obtain ⟨time, turn⟩ := turn
      have hack : turn ≠ .ackSender nodeId := by
        rintro rfl
        exact (hwatches.unheard k _ hpk.le hkr hstep).heard rfl (heard_of_ackSender hturn)
      have hturned := WaitsIn.turn hwaits (show (time, turn).2 ≠ _ from hack)
      rcases hturned with hstays | ⟨hcheck, hlate⟩
      · exact .inl ⟨hafter ▸ hstays, entry', hget', halive⟩
      · -- the look at the slot would have made the node SUSPECT
        obtain rfl : turn = .checkAck j := hcheck
        have hover := overdue_entry (hwaits.overdue hget halive hlate)
        rw [clusterViewGet_nodeId hget, ← hafter, hget'] at hover
        have hstatus := congrArg ClusterMember.status (Option.some.inj hover)
        rw [halive] at hstatus
        cases hstatus
  · cases hfades with
    | @overdue time m =>
      refine .inr ⟨_, hget', rfl, k, m, hpk, hkq, hstep.trans ?_⟩
      simp [ClusterMember.setStatus, halive]
    | givenUp _ hsuspect =>
      rw [halive] at hsuspect
      cases hsuspect

theorem suspect_step (hpk : p ≤ k) (hkr : k < r)
    (h : SuspectSince actions i p q (engineAt nodes now actions i k) nodeId) :
    SuspectSince actions i p q (engineAt nodes now actions i (k + 1)) nodeId ∨
      HeldDead (engineAt nodes now actions i (k + 1)) nodeId := by
  obtain ⟨entry, hget, hsuspect, hfound⟩ := h
  obtain ⟨entry', hget', heq | ⟨action, -, hfades⟩⟩ := entry_at hrun hother hwatches hpk hkr hget
  · subst heq
    exact .inl ⟨entry', hget', hsuspect, hfound⟩
  · cases hfades with
    | overdue _ halive =>
      rw [hsuspect] at halive
      cases halive
    | givenUp => exact .inr ⟨_, hget', rfl⟩

theorem dead_step (hpk : p ≤ k) (hkr : k < r)
    (h : HeldDead (engineAt nodes now actions i k) nodeId) :
    HeldDead (engineAt nodes now actions i (k + 1)) nodeId := by
  obtain ⟨entry, hget, hdead⟩ := h
  obtain ⟨entry', hget', heq | ⟨action, -, hfades⟩⟩ := entry_at hrun hother hwatches hpk hkr hget
  · subst heq
    exact ⟨entry', hget', hdead⟩
  · cases hfades with
    | overdue _ hother | givenUp _ hother =>
      rw [hdead] at hother
      cases hother

omit hrun hother in
theorem awaited_start :
    ∃ j < (engineAt nodes now actions i p).pendingAcks.length,
      Awaited (engineAt nodes now actions i (p + 1)) j nodeId since := by
  obtain ⟨random, sent, hstep, htarget⟩ := hwatches.pings
  obtain ⟨entry, hget, halive⟩ := hwatches.alive
  obtain ⟨j, hj, hwaits⟩ := waitsIn_of_free hwatches.slot since nodeId
  have hafter : engineAt nodes now actions i (p + 1) =
      (engineAt nodes now actions i p).turn (since, .ping random sent) :=
    engine_act now hstep fun _ => nofun
  rw [hafter]
  refine ⟨j, hj, ?_, entry, turn_entry hget nofun, halive⟩
  unfold WaitsIn
  rw [GossipEngine.turn, pingRandomPeer_acks, htarget]
  exact hwaits

/-- The slot of the PING is looked at in time. -/
theorem suspect_or_dead (hqr : q ≤ r)
    (hawaited : Awaited (engineAt nodes now actions i (p + 1)) j nodeId since)
    (hj : j < (engineAt nodes now actions i p).pendingAcks.length) :
    SuspectSince actions i p q (engineAt nodes now actions i q) nodeId ∨
      HeldDead (engineAt nodes now actions i q) nodeId := by
  let found (k : Nat) : Prop :=
    SuspectSince actions i p q (engineAt nodes now actions i k) nodeId ∨
      HeldDead (engineAt nodes now actions i k) nodeId
  refine Runs.gives_way (P := fun k => Awaited (engineAt nodes now actions i k) j nodeId since)
    (Q := found) (.inl hawaited) ?_ ?_ ?_
  · intro k hpk hkq h
    exact (awaited_step hrun hother hwatches hpk hkq (by omega) h).imp_right .inl
  · intro k hpk hkq h
    rcases h with hsuspect | hdead
    · exact suspect_step hrun hother hwatches (by omega) (by omega) hsuspect
    · exact .inr (dead_step hrun hother hwatches (by omega) (by omega) hdead)
  · obtain ⟨k, time, hpk, hkq, hstep, hlate⟩ := hwatches.acks j hj
    refine ⟨k, hpk, hkq, fun ⟨hwaits, entry, hget, halive⟩ => .inl ?_⟩
    have hafter : engineAt nodes now actions i (k + 1) =
        (engineAt nodes now actions i k).turn (time, .checkAck j) :=
      engine_act now hstep fun _ => nofun
    rw [← config_at hrun i k] at hlate
    have hsuspected := overdue_entry (hwaits.overdue hget halive hlate)
    rw [← hafter, clusterViewGet_nodeId hget] at hsuspected
    refine ⟨_, hsuspected, rfl, k, j, hpk, hkq, hstep.trans ?_⟩
    simp [ClusterMember.setStatus, halive]

omit hrun hother in
theorem inPlace_at (h : InPlace (engineAt nodes now actions i p) m nodeId) (hpk : p ≤ k)
    (hkr : k ≤ r) : InPlace (engineAt nodes now actions i k) m nodeId := by
  refine Runs.kept_until (P := fun k => InPlace (engineAt nodes now actions i k) m nodeId) h
    (fun k hpk hkr h => ?_) k hpk hkr
  rcases engine_step hwatches hpk hkr with hkept | ⟨_, -, turn, -, hafter⟩
  · rwa [hkept]
  · rw [hafter]
    exact h.turn turn

/-- A node that has fallen silent is found out: whoever has sent it a PING in time holds it
DEAD after one look at all slots and a later one at all members, and whatever the rest of
the cluster says. -/
theorem crash_detected :
    ∃ entry, clusterViewGet (engineAt nodes now actions i r).view nodeId = some entry ∧
      entry.status = .dead := by
  obtain ⟨entry, hget, -⟩ := hwatches.alive
  obtain ⟨j, hj, hawaited⟩ := awaited_start hwatches
  obtain ⟨m, hm, hplace⟩ := inPlace_of_get hget
  obtain ⟨_, _, hpk, hkq, -⟩ := hwatches.acks j hj
  have hpq : p ≤ q := (hpk.trans hkq).le
  obtain ⟨k, time, hqk, hkr, hstep, hlate⟩ := hwatches.suspicions m hm
  have hfound := suspect_or_dead hrun hother hwatches (hqk.trans hkr.le) hawaited hj
  refine Runs.gives_way
    (P := fun k => SuspectSince actions i p q (engineAt nodes now actions i k) nodeId)
    (Q := fun k => HeldDead (engineAt nodes now actions i k) nodeId) hfound
    (fun k hqk => suspect_step hrun hother hwatches (hpq.trans hqk))
    (fun k hqk => dead_step hrun hother hwatches (hpq.trans hqk))
    ⟨k, hqk, hkr, fun ⟨entry, hget, hsuspect, k', j', hpk', hkq', hstep'⟩ => ?_⟩
  have hafter : engineAt nodes now actions i (k + 1) =
      (engineAt nodes now actions i k).turn (time, .checkSuspect m) :=
    engine_act now hstep fun _ => nofun
  have hover : timedOut time (engineAt nodes now actions i k) m = some entry := by
    have hlong := hlate k' entry.lastSeenMs j' hpk' hkq' hstep'
    rw [← config_at hrun i k] at hlong
    unfold timedOut
    rw [(inPlace_at hwatches hplace (hpq.trans hqk) hkr.le).members hget, Option.filter_some,
      if_pos]
    rw [hsuspect, decide_eq_true hlong]
    rfl
  have hdead := timedOut_entry hover
  rw [← hafter, clusterViewGet_nodeId hget] at hdead
  exact ⟨_, hdead, rfl⟩

end Runs

def timers : List (Bool × NodeAction) :=
  (List.range maxPendingAcks).map (fun j => (false, .checkAck 501 j)) ++
    (List.range 2).map fun m => (false, .checkSuspect 5502 m)

def joinThenSilence : List (Bool × NodeAction) := joinThenPing ++ timers

theorem mem_timers (hmem : step ∈ timers) :
    (∃ j, step = (false, .checkAck 501 j)) ∨ ∃ m, step = (false, .checkSuspect 5502 m) := by
  rcases List.mem_append.mp hmem with hack | hsuspect
  · obtain ⟨j, -, rfl⟩ := List.mem_map.mp hack
    exact .inl ⟨j, rfl⟩
  · obtain ⟨m, -, rfl⟩ := List.mem_map.mp hsuspect
    exact .inr ⟨m, rfl⟩

theorem timers_stay (hmem : step ∈ timers) (engine : GossipEngine) : Stays 2 engine step.2 := by
  rcases mem_timers hmem with ⟨j, rfl⟩ | ⟨m, rfl⟩
  · exact ⟨fun _ => nofun, fun turn hturn => Option.some.inj hturn ▸ id⟩
  · exact ⟨fun _ => nofun, fun turn hturn => Option.some.inj hturn ▸ id⟩

theorem timers_meet (s : GossipCluster Bool) : Runs.Meets (gossipProtocol twoRouters).step
    (fun s step => Stays 2 (s.party step.1) step.2) s timers := by
  have hall : Runs.Meets (gossipProtocol twoRouters).step (fun _ _ => True) s timers :=
    .of_forall (fun _ _ => trivial) s timers
  exact (hall.and_mem fun _ => timers_stay).mono fun s step h => h.2 (s.party step.1)

theorem joinThenSilence_stays : ClusterRun twoRouters (Stays 2) 0 joinThenSilence :=
  clusterRun_of_delivers (by decide +kernel) ⟨stays_of_fresh (by decide +kernel) fun _ => nofun,
    stays_of_fresh (by decide +kernel) fun _ => nofun,
    stays_of_fresh (by decide +kernel) fun _ => nofun, timers_meet _⟩

theorem unheard_of_reads (hreads : action.reads = []) (hrunning : ∀ now, action ≠ .restart now) :
    Unheard i nodeId (j, action) where
  heard _ := by
    rintro ⟨datagram, hread, -⟩
    rw [hreads] at hread
    cases hread
  running _ := hrunning

theorem joinThenSilence_watches : Watches twoRouters 0 joinThenSilence false 2 0 2 67 69 where
  pings := ⟨0, true, rfl, by decide +kernel⟩
  slot := by decide +kernel
  alive := by
    have hknown : (clusterViewGet (engineAt twoRouters 0 joinThenSilence false 2).view 2).map
        ClusterMember.status = some .alive := by decide +kernel
    exact Option.map_eq_some_iff.mp hknown
  unheard := by
    intro k step hk _ hstep
    obtain ⟨k, rfl⟩ := Nat.exists_eq_add_of_le' hk
    have hmem : step ∈ (false, .ping 0 0 true) :: timers := List.mem_of_getElem? hstep
    rcases List.mem_cons.mp hmem with rfl | hmem
    · exact unheard_of_reads rfl fun _ => nofun
    · rcases mem_timers hmem with ⟨j, rfl⟩ | ⟨m, rfl⟩
      · exact unheard_of_reads rfl fun _ => nofun
      · exact unheard_of_reads rfl fun _ => nofun
  within := by decide
  acks := by
    have hslots : (engineAt twoRouters 0 joinThenSilence false 2).pendingAcks.length =
        maxPendingAcks := by decide +kernel
    intro j hj
    rw [hslots] at hj
    refine ⟨j + 3, 501, by omega, Nat.add_lt_add_right hj 3, ?_, by decide⟩
    show timers[j]? = _
    rw [timers, List.getElem?_append_left (by simpa using hj), List.getElem?_map,
      List.getElem?_range hj]
    rfl
  suspicions := by
    have hmembers : (engineAt twoRouters 0 joinThenSilence false 2).view.members.length = 2 := by
      decide +kernel
    intro m hm
    rw [hmembers] at hm
    refine ⟨m + 67, 5502, by omega, by omega, ?_, fun k time j hk _ hstep => ?_⟩
    · show (timers.drop maxPendingAcks)[m]? = _
      rw [timers, List.drop_left' (by simp), List.getElem?_map, List.getElem?_range hm]
      rfl
    · obtain ⟨k, rfl⟩ := Nat.exists_eq_add_of_le' hk
      have hmem : (false, .checkAck time j) ∈ timers := List.mem_of_getElem? hstep
      rcases mem_timers hmem with ⟨_, heq⟩ | ⟨_, heq⟩
      · cases heq
        decide
      · cases heq

theorem crash_detected_twoRouters :
    ∃ entry, clusterViewGet (engineAt twoRouters 0 joinThenSilence false 69).view 2 = some entry ∧
      entry.status = .dead :=
  crash_detected joinThenSilence_stays (by decide) joinThenSilence_watches

end Roole
