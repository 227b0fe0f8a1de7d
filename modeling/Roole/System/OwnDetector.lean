import Roole.Gossip.Statuses
import Roole.System.Rumours

/-!
# Everyone for itself

As long as a node neither leaves nor comes back, and no WORKER_JOIN of it meets a
suspicion, all that is said of it is of incarnation 0. News about a node that is
known needs a higher one, so that every node finds out for itself whether the
others are alive.
-/

namespace Roole

open Network

variable {nodes : ι → GossipNode} {nodeId : NodeId} {engine : GossipEngine} {action : NodeAction}

-- ----------------------------------------------------------------------------
-- Incarnations
-- ----------------------------------------------------------------------------

/-- The node is entered as ALIVE where it was held DEAD; a WORKER_JOIN also counts
where it was held SUSPECT. -/
def Rejoins (nodeId : NodeId) (engine : GossipEngine) : TimedTurn → Prop
  | (_, .join _ update) => update.nodeId = nodeId ∧ HoldsDead engine nodeId
  | (_, .workerJoin _ senderId _) => senderId = nodeId ∧ (rejoinState engine senderId).1 = true
  | (_, .announceJoin) => engine.myId = nodeId ∧ HoldsDead engine nodeId
  | _ => False

/-- The node neither leaves nor comes back in the action, and no WORKER_JOIN of it
is handled where it is SUSPECT. -/
structure Stays (nodeId : NodeId) (engine : GossipEngine) (action : NodeAction) : Prop where
  leave : ∀ now, action = .leave now → engine.myId ≠ nodeId
  rejoin : ∀ turn ∈ action.turn engine, ¬ Rejoins nodeId engine turn

def incarnationFacts (nodeId : NodeId) : Facts where
  describes _ _ _ _ := True
  stands other status incarnation := status.Named ∧ (other = nodeId → incarnation = 0)
  leaves other _ := other ≠ nodeId

theorem incarnationFacts_closed (nodes : ι → GossipNode) (nodeId : NodeId) :
    (incarnationFacts nodeId).Closed nodes where
  self _ := trivial
  worker _ := trivial
  alive _ := ⟨trivial, fun _ => rfl⟩
  recovers _ _ _ h := ⟨trivial, h.2⟩
  rejoins _ _ _ halive _ hlt := by
    refine ⟨trivial, fun hid => ?_⟩
    rw [halive.2 hid] at hlt
    exact absurd hlt (by simp)
  leaves _ _ hne := ⟨trivial, fun hid => absurd hid hne⟩

theorem holdsDead_rejoin (h : HoldsDead engine nodeId) :
    (rejoinState engine nodeId).1 = true := by
  obtain ⟨entry, hget, hdead⟩ := h
  simp [rejoinState, hget, hdead]

theorem mem_timedOut {member : ClusterMember} (h : member ∈ timedOut now engine i) :
    clusterViewGet engine.view member.nodeId = some member ∧ member.status = .suspect := by
  obtain ⟨hplace, hover⟩ := Option.filter_eq_some_iff.mp h
  rw [Bool.and_eq_true, beq_iff_eq] at hover
  exact ⟨clusterViewGet_of_mem (List.mem_of_getElem? hplace), hover.1⟩

theorem incarnationFacts_tells (hnode : (incarnationFacts nodeId).Node (nodes i) engine)
    (hstays : Stays nodeId engine action)
    (hreads : ∀ datagram ∈ action.reads, (incarnationFacts nodeId).Datagram datagram) :
    (incarnationFacts nodeId).Tells engine action where
  leave now heq := by
    have hne := hstays.leave now heq
    exact ⟨hne, trivial, fun hid => absurd hid hne⟩
  turn := by
    rintro ⟨now, turn⟩ hturn
    have hrejoin := hstays.rejoin _ hturn
    cases turn with
    | join ip update =>
      exact fun hdead => ⟨trivial, fun hid => absurd ⟨hid, hid ▸ hdead⟩ hrejoin⟩
    | workerJoin ip senderId update =>
      obtain ⟨htold, rfl⟩ := Facts.workerJoin_told hreads hturn
      have hfresh : update.nodeId = nodeId → (rejoinState engine update.nodeId).1 = false :=
        fun hid => Bool.eq_false_iff.mpr fun h => hrejoin ⟨hid, h⟩
      refine ⟨⟨trivial, fun hid => ?_⟩, fun hdead => ⟨trivial, fun hid => ?_⟩⟩
      · have hupdate := htold.stands.2 hid
        simp [announcedIncarnation, hfresh hid, hupdate]
      · exact absurd (holdsDead_rejoin hdead) (Bool.eq_false_iff.mp (hfresh hid))
    | checkAck i =>
      intro member hmember
      have hstands := (hnode.holds.entries _ _ (mem_overdue hmember).1).stands
      exact ⟨trivial, trivial, hstands.2⟩
    | checkSuspect i =>
      intro member hmember
      have hstands := (hnode.holds.entries _ _ (mem_timedOut hmember).1).stands
      exact ⟨trivial, hstands.2⟩
    | announceJoin =>
      exact fun hdead => ⟨trivial, fun hid => absurd ⟨hid, hid ▸ hdead⟩ hrejoin⟩
    | _ => exact trivial

theorem incarnations_hold [DecidableEq ι] (hrun : ClusterRun nodes (Stays nodeId) now actions)
    (k : Nat) : (incarnationFacts nodeId).Hold nodes (clusterAt nodes now actions k) :=
  Facts.hold_at (incarnationFacts_closed nodes nodeId) (fun _ _ _ => incarnationFacts_tells) hrun k

/-- As long as a node neither leaves nor comes back, all that is said of it
anywhere is of incarnation 0. -/
theorem incarnations_stay_zero [DecidableEq ι]
    (hrun : ClusterRun nodes (Stays nodeId) now actions) (k : Nat)
    (hsaid : Said (clusterAt nodes now actions k) nodeId status incarnation) : incarnation = 0 :=
  (Facts.Hold.said (incarnations_hold hrun k) hsaid).2 rfl

theorem stays_of_fresh (hfresh : (rejoinState engine nodeId).1 = false)
    (hleave : ∀ now, action ≠ .leave now) : Stays nodeId engine action where
  leave now heq := absurd heq (hleave now)
  rejoin := by
    have hdead : ¬ HoldsDead engine nodeId := fun h =>
      Bool.eq_false_iff.mp hfresh (holdsDead_rejoin h)
    rintro ⟨now, turn⟩ - hrejoins
    cases turn with
    | join ip update => exact hdead hrejoins.2
    | workerJoin ip senderId update =>
      exact Bool.eq_false_iff.mp hfresh (hrejoins.1 ▸ hrejoins.2)
    | announceJoin => exact hdead hrejoins.2
    | _ => exact hrejoins

theorem joinThenSuspect_stays : ClusterRun twoRouters (Stays 2) 0 joinThenSuspect :=
  clusterRun_of_delivers (by decide +kernel) ⟨stays_of_fresh (by decide +kernel) fun _ => nofun,
    stays_of_fresh (by decide +kernel) fun _ => nofun,
    stays_of_fresh (by decide +kernel) fun _ => nofun,
    stays_of_fresh (by decide +kernel) fun _ => nofun, trivial⟩

theorem incarnations_stay_zero_twoRouters :
    ∃ entry, clusterViewGet ((clusterAt twoRouters 0 joinThenSuspect 4).party false).view 2 =
      some entry ∧ entry.incarnation = 0 := by
  have hknown : (clusterViewGet ((clusterAt twoRouters 0 joinThenSuspect 4).party false).view
      2).isSome = true := by decide +kernel
  obtain ⟨entry, hget⟩ := Option.isSome_iff_exists.mp hknown
  exact ⟨entry, hget, incarnations_stay_zero joinThenSuspect_stays 4 (.entry hget)⟩

-- ----------------------------------------------------------------------------
-- Statuses
-- ----------------------------------------------------------------------------

def ViewCall.target : ViewCall → Option NodeId
  | .keep => none
  | .add member => some member.nodeId
  | .updateStatus nodeId _ _ | .refresh nodeId _ => some nodeId

theorem written_target {view : ClusterView} {call : ViewCall} {entry : ClusterMember}
    (h : call.written now view = some entry) : call.target = some entry.nodeId := by
  cases call with
  | keep => cases h
  | add member =>
    unfold ViewCall.written at h
    dsimp only at h
    split at h <;> split_ifs at h <;> cases h <;> rfl
  | updateStatus other status incarnation =>
    unfold ViewCall.written at h
    dsimp only at h
    split at h
    · cases h
    · rename_i existing hget
      split_ifs at h
      cases h
      exact congrArg some (clusterViewGet_nodeId hget).symm
  | refresh other incarnation =>
    obtain ⟨existing, hget, rfl⟩ := Option.map_eq_some_iff.mp h
    exact congrArg some (clusterViewGet_nodeId hget).symm

section Stale

variable {entry : ClusterMember} {update : GossipMemberUpdate}

theorem stale_targets (now : UInt64) (hget : clusterViewGet engine.view nodeId = some entry)
    (hstale : update.nodeId = nodeId → ¬ update.incarnation > entry.incarnation) :
    (TurnEffect.ofPingUpdate now engine update).call.target ≠ some nodeId ∧
      (TurnEffect.ofAckUpdate now engine update).call.target ≠ some nodeId ∧
      (TurnEffect.ofAliveUpdate engine update).call.target ≠ some nodeId := by
  unfold TurnEffect.ofPingUpdate TurnEffect.ofAckUpdate TurnEffect.ofAliveUpdate
  by_cases hid : update.nodeId = nodeId
  · have hkept := hstale hid
    rw [hid, hget]
    simp [hkept, TurnEffect.nothing, ViewCall.target]
  · cases clusterViewGet engine.view update.nodeId with
    | none => simp [ViewCall.target, GossipMemberUpdate.toMember, hid, TurnEffect.nothing]
    | some existing =>
      dsimp only
      refine ⟨?_, ?_, ?_⟩ <;> split_ifs <;>
        simp [ViewCall.target, GossipMemberUpdate.toMember, hid, TurnEffect.nothing]

theorem target_ofAckSender {senderId : NodeId}
    (hget : clusterViewGet engine.view nodeId = some entry)
    (htarget : (TurnEffect.ofAckSender engine senderId).call.target = some nodeId) :
    senderId = nodeId ∧ entry.status = .suspect := by
  unfold TurnEffect.ofAckSender at htarget
  split at htarget
  · rename_i member hmember
    split_ifs at htarget with hsuspect
    · cases htarget
      cases hmember.symm.trans hget
      exact ⟨rfl, hsuspect⟩
    · cases htarget
  · cases htarget

theorem target_ofCheckAck (hget : clusterViewGet engine.view nodeId = some entry)
    (htarget : (TurnEffect.ofCheckAck now engine i).call.target = some nodeId) :
    overdueMember now engine i = some entry ∧ entry.status = .alive := by
  unfold TurnEffect.ofCheckAck at htarget
  unfold overdueMember
  cases hslot : engine.pendingAcks[i]? with
  | none => simp [hslot, TurnEffect.nothing, ViewCall.target] at htarget
  | some ack =>
    rw [hslot] at htarget
    dsimp only at htarget
    split_ifs at htarget with hover hstatus
    · cases htarget
      rw [hget] at hstatus
      have halive : entry.status = .alive := hstatus
      simp [hover, hget, halive]
    · cases htarget
    · cases htarget

theorem target_ofCheckSuspect (hget : clusterViewGet engine.view nodeId = some entry)
    (htarget : (TurnEffect.ofCheckSuspect now engine i).call.target = some nodeId) :
    timedOut now engine i = some entry ∧ entry.status = .suspect := by
  unfold TurnEffect.ofCheckSuspect at htarget
  unfold timedOut
  cases hplace : engine.view.members[i]? with
  | none => simp [hplace, TurnEffect.nothing, ViewCall.target] at htarget
  | some member =>
    rw [hplace] at htarget
    dsimp only at htarget
    split_ifs at htarget with hover
    · cases htarget
      cases (clusterViewGet_of_mem (List.mem_of_getElem? hplace)).symm.trans hget
      simp [hover.1, hover.2]
    · cases htarget

end Stale

def Heard (nodeId : NodeId) (action : NodeAction) : Prop :=
  ∃ datagram ∈ action.reads, ∃ msg, gossipMessageDeserialize datagram = some msg ∧
    msg.senderId = nodeId

inductive SpeaksUp (nodeId : NodeId) (entry : ClusterMember) : GossipTurn → Prop
  | answers (hsuspect : entry.status = .suspect) : SpeaksUp nodeId entry (.ackSender nodeId)
  | joins (hid : update.nodeId = nodeId) : SpeaksUp nodeId entry (.join ip update)
  | workerJoins : SpeaksUp nodeId entry (.workerJoin ip nodeId update)

/-- The turns that are about a node which neither leaves nor comes back: the two
timeouts, and those that it takes part in itself. -/
inductive Concerns (nodeId : NodeId) (engine : GossipEngine) (entry : ClusterMember) :
    NodeAction → TimedTurn → Prop
  | overdue (h : overdueMember now engine i = some entry) (halive : entry.status = .alive) :
      Concerns nodeId engine entry (.checkAck now i) (now, .checkAck i)
  | givenUp (h : timedOut now engine i = some entry) (hsuspect : entry.status = .suspect) :
      Concerns nodeId engine entry (.checkSuspect now i) (now, .checkSuspect i)
  | heard (hheard : Heard nodeId reading) (h : SpeaksUp nodeId entry turn.2) :
      Concerns nodeId engine entry reading turn

theorem concerns_of_target (hnode : (incarnationFacts nodeId).Node (nodes i) engine)
    (hother : (nodes i).nodeId ≠ nodeId)
    (hreads : ∀ datagram ∈ action.reads, (incarnationFacts nodeId).Datagram datagram)
    (hturn : turn ∈ action.turn engine) {entry : ClusterMember}
    (hget : clusterViewGet engine.view nodeId = some entry)
    (htarget : (engine.turnEffect turn).call.target = some nodeId) :
    Concerns nodeId engine entry action turn := by
  have hstands := hnode.holds.entry_stands hget
  have hself : engine.myId ≠ nodeId := hnode.identity.myId.trans_ne hother
  rcases turn_cases hturn with
    ⟨datagram, hread, msg, hdecoded, -, time, past, ip, hdispatched⟩ | hown
  · have hmsg := hreads datagram hread msg hdecoded
    have hheard : msg.senderId = nodeId → Heard nodeId action := fun hid =>
      ⟨datagram, hread, msg, hdecoded, hid⟩
    have hstale : ∀ update ∈ msg.readUpdates past, msg.msgType ≠ gossipMsgLeave →
        update.nodeId = nodeId → ¬ update.incarnation > entry.incarnation := by
      intro update hmem htype hid
      rw [(hmsg.of_read htype hmem).stands.2 hid, hstands.2 rfl]
      simp
    cases hdispatched with
    | pingUpdate htype hmem =>
      have hkept := stale_targets time hget (hstale _ hmem (by rw [htype]; decide))
      exact absurd htarget hkept.1
    | ackSender htype =>
      obtain ⟨hsender, hsuspect⟩ := target_ofAckSender hget htarget
      rw [hsender]
      exact .heard (hheard hsender) (.answers hsuspect)
    | ackUpdate htype hmem =>
      have hkept := stale_targets time hget (hstale _ hmem (by rw [htype]; decide))
      exact absurd htarget hkept.2.1
    | suspectUpdate htype hmem => exact absurd htype hmsg.msgType.1
    | aliveUpdate htype hmem =>
      have hkept := stale_targets time hget (hstale _ hmem (by rw [htype]; decide))
      exact absurd htarget hkept.2.2
    | deadUpdate htype hmem => exact absurd htype hmsg.msgType.2
    | @join update htype hmem hid =>
      have hupdate : update.nodeId = nodeId := Option.some.inj htarget
      exact .heard (hheard (hid.symm.trans hupdate)) (.joins hupdate)
    | workerJoin htype hcount =>
      have hupdate : (msg.update past 0).nodeId = nodeId := Option.some.inj htarget
      have hsender := (hmsg.of_workerJoin htype hcount past).2.1.symm.trans hupdate
      rw [hsender]
      exact .heard (hheard hsender) .workerJoins
    | leave htype =>
      cases htarget
      exact absurd rfl (hmsg.leave htype)
    | numbered => cases htarget
  · cases hown with
    | updateSelf => cases htarget; exact absurd rfl hself
    | checkAck =>
      obtain ⟨hsuspected, halive⟩ := target_ofCheckAck hget htarget
      exact .overdue hsuspected halive
    | checkSuspect =>
      obtain ⟨htimedOut, hsuspect⟩ := target_ofCheckSuspect hget htarget
      exact .givenUp htimedOut hsuspect
    | announceJoin => cases htarget; exact absurd rfl hself
    | _ => cases htarget

end Roole
