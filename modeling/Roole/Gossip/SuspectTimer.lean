import Roole.Gossip.TurnEffects

/-!
# The suspicion timer

The time since an entry became SUSPECT is measured from its `lastSeenMs`. An
ALIVE entry that becomes SUSPECT and an entry that is inserted as SUSPECT restart
it; an entry that was DEAD, or had a status without a name, does not.
-/

namespace Roole

def BecomesSuspect (nodeId : NodeId) (before after : GossipEngine) : Prop :=
  statusOf before nodeId ≠ some .suspect ∧ statusOf after nodeId = some .suspect

def FindsLiving (engine : GossipEngine) (update : GossipMemberUpdate) : Prop :=
  update.status = .suspect → ∀ existing,
    clusterViewGet engine.view update.nodeId = some existing →
      existing.incarnation < update.incarnation →
        existing.status = .alive ∨ existing.status = .suspect

/-- No PING or ACK turns an entry that is neither ALIVE nor SUSPECT into SUSPECT. -/
def RestartsTimer (engine : GossipEngine) : TimedTurn → Prop
  | (_, .pingUpdate update) | (_, .ackUpdate update) => FindsLiving engine update
  | _ => True

-- ----------------------------------------------------------------------------
-- Calls that restart the timer
-- ----------------------------------------------------------------------------

/-- A call that writes SUSPECT does so to a new entry or to a living one. -/
def ViewCall.Restarts (view : ClusterView) : ViewCall → Prop
  | .add member => member.status = .suspect → clusterViewGet view member.nodeId = none
  | .updateStatus nodeId status incarnation => status = .suspect → ∀ existing,
      clusterViewGet view nodeId = some existing → existing.incarnation ≤ incarnation →
        existing.status = .alive ∨ existing.status = .suspect
  | _ => True

section Calls

variable {now : UInt64} {view : ClusterView} {call : ViewCall} {entry : ClusterMember}
  {engine : GossipEngine} {nodeId : NodeId}

/-- The entry was SUSPECT and keeps its timer, or the timer starts now. -/
def TimerKept (now : UInt64) (view : ClusterView) (entry : ClusterMember) : Prop :=
  (∃ existing, clusterViewGet view entry.nodeId = some existing ∧ existing.status = .suspect ∧
    entry.lastSeenMs = existing.lastSeenMs) ∨
  ((∀ existing, clusterViewGet view entry.nodeId = some existing → existing.status ≠ .suspect) ∧
    entry.lastSeenMs = now)

theorem timerKept_written (hrestarts : call.Restarts view)
    (hwritten : call.written now view = some entry) (hsuspect : entry.status = .suspect) :
    TimerKept now view entry := by
  have hstatus := written_status hwritten
  rw [hsuspect] at hstatus
  cases call with
  | keep => cases hstatus
  | refresh nodeId incarnation => cases hstatus
  | add member =>
    have hmember : member.status = .suspect := Option.some.inj hstatus
    have hnone := hrestarts hmember
    simp only [ViewCall.written, hnone] at hwritten
    split_ifs at hwritten
    cases hwritten
    refine .inr ⟨fun existing hget => ?_, rfl⟩
    rw [hnone] at hget
    cases hget
  | updateStatus nodeId status incarnation =>
    have hnew : status = .suspect := Option.some.inj hstatus
    subst hnew
    cases hget : clusterViewGet view nodeId with
    | none => simp [ViewCall.written, hget] at hwritten
    | some existing =>
      simp only [ViewCall.written, hget] at hwritten
      split_ifs at hwritten with hle
      cases hwritten
      have hid := clusterViewGet_nodeId hget
      rcases hrestarts rfl existing hget hle with halive | hsuspected
      · refine .inr ⟨fun other hother => ?_, by simp [ClusterMember.setStatus, halive]⟩
        rw [setStatus_nodeId, hid, hget] at hother
        cases hother
        rw [halive]
        simp
      · refine .inl ⟨existing, by rw [setStatus_nodeId, hid, hget], hsuspected, ?_⟩
        simp [ClusterMember.setStatus, hsuspected]

theorem restarts_of_status (h : call.status ≠ some .suspect) : call.Restarts view := by
  cases call with
  | add member => exact fun hsuspect => absurd (congrArg some hsuspect) h
  | updateStatus nodeId status incarnation =>
    exact fun hsuspect => absurd (congrArg some hsuspect) h
  | _ => trivial

theorem restarts_updateStatus {status : NodeStatus} {incarnation : UInt64}
    (hget : clusterViewGet view nodeId = some existing)
    (hliving : status = .suspect → existing.incarnation ≤ incarnation →
      existing.status = .alive ∨ existing.status = .suspect) :
    (ViewCall.updateStatus nodeId status incarnation).Restarts view := by
  intro hsuspect other hother hle
  cases hget.symm.trans hother
  exact hliving hsuspect hle

theorem restarts_pingUpdate (h : FindsLiving engine update) :
    (TurnEffect.ofPingUpdate now engine update).call.Restarts engine.view := by
  unfold TurnEffect.ofPingUpdate
  cases hget : clusterViewGet engine.view update.nodeId with
  | none => exact fun _ => hget
  | some existing =>
    dsimp only
    split_ifs with hrejoin hnewer
    · exact fun hsuspect => nomatch hsuspect
    · exact restarts_updateStatus hget fun hsuspect _ => h hsuspect existing hget hnewer
    · trivial

theorem restarts_ackUpdate (h : FindsLiving engine update) :
    (TurnEffect.ofAckUpdate now engine update).call.Restarts engine.view := by
  unfold TurnEffect.ofAckUpdate
  cases hget : clusterViewGet engine.view update.nodeId with
  | none => exact fun _ => hget
  | some existing =>
    dsimp only
    split_ifs with hnewer
    · exact restarts_updateStatus hget fun hsuspect _ => h hsuspect existing hget hnewer
    · trivial

theorem restarts_suspectUpdate (engine : GossipEngine) (update : GossipMemberUpdate) :
    (TurnEffect.ofSuspectUpdate now engine update).call.Restarts engine.view := by
  unfold TurnEffect.ofSuspectUpdate
  split_ifs
  · trivial
  · cases hget : clusterViewGet engine.view update.nodeId with
    | none => trivial
    | some existing =>
      dsimp only
      split_ifs with haccept
      · exact restarts_updateStatus hget fun _ _ => .inl haccept.2
      · trivial
  · trivial

theorem restarts_checkAck (engine : GossipEngine) (i : Nat) :
    (TurnEffect.ofCheckAck now engine i).call.Restarts engine.view := by
  unfold TurnEffect.ofCheckAck
  cases engine.pendingAcks[i]? with
  | none => trivial
  | some ack =>
    dsimp only
    split_ifs with hover halive
    · intro _ existing hget _
      rw [hget] at halive
      exact .inl halive
    · trivial
    · trivial

theorem turn_restarts {turn : TimedTurn} (h : RestartsTimer engine turn) :
    (engine.turnEffect turn).call.Restarts engine.view := by
  obtain ⟨now, turn⟩ := turn
  cases turn with
  | pingUpdate update => exact restarts_pingUpdate h
  | ackUpdate update => exact restarts_ackUpdate h
  | suspectUpdate update => exact restarts_suspectUpdate engine update
  | checkAck i => exact restarts_checkAck engine i
  | ackSender senderId =>
    exact restarts_of_status fun hstatus => nomatch TurnEffect.status_ofAckSender hstatus
  | aliveUpdate update =>
    exact restarts_of_status fun hstatus => nomatch TurnEffect.status_ofAliveUpdate hstatus
  | deadUpdate update =>
    exact restarts_of_status fun hstatus => nomatch TurnEffect.status_ofDeadUpdate hstatus
  | checkSuspect i =>
    exact restarts_of_status fun hstatus => nomatch TurnEffect.status_ofCheckSuspect hstatus
  | _ => exact restarts_of_status fun hstatus => nomatch hstatus

end Calls

-- ----------------------------------------------------------------------------
-- Turns
-- ----------------------------------------------------------------------------

section Turns

variable {engine : GossipEngine} {turn : TimedTurn} {nodeId : NodeId} {entry : ClusterMember}

/-- A SUSPECT entry after a turn is the one before, or the turn has started its timer. -/
theorem turn_suspect (h : RestartsTimer engine turn)
    (hget : clusterViewGet (engine.turn turn).view nodeId = some entry)
    (hsuspect : entry.status = .suspect) :
    (∃ existing, clusterViewGet engine.view nodeId = some existing ∧
      existing.status = .suspect ∧ entry.lastSeenMs = existing.lastSeenMs) ∨
    (statusOf engine nodeId ≠ some .suspect ∧ entry.lastSeenMs = turn.1) := by
  rw [(turn_does engine turn).view] at hget
  cases hwritten : (engine.turnEffect turn).call.written turn.1 engine.view with
  | none =>
    rw [clusterViewGet_apply_none hwritten] at hget
    exact .inl ⟨entry, hget, hsuspect, rfl⟩
  | some written =>
    rw [clusterViewGet_apply_some hwritten] at hget
    split_ifs at hget with hid
    · cases hget
      subst hid
      rcases timerKept_written (turn_restarts h) hwritten hsuspect with hkept | ⟨hother, hnow⟩
      · exact .inl hkept
      · refine .inr ⟨fun hstatus => ?_, hnow⟩
        obtain ⟨existing, hexisting, hwas⟩ := Option.map_eq_some_iff.mp hstatus
        exact hother existing hexisting hwas
    · exact .inl ⟨entry, hget, hsuspect, rfl⟩

theorem checkSuspect_over {now : UInt64} {i : Nat} (hnot : statusOf engine nodeId ≠ some .dead)
    (hdead : statusOf (checkSuspect now engine i) nodeId = some .dead) :
    ∃ entry, clusterViewGet engine.view nodeId = some entry ∧
      now - entry.lastSeenMs > engine.config.deadTimeoutMs.toUInt64 := by
  unfold checkSuspect at hdead
  cases hmember : engine.view.members[i]? with
  | none =>
    rw [hmember] at hdead
    exact absurd hdead hnot
  | some member =>
    have hself := clusterViewGet_of_mem (List.mem_of_getElem? hmember)
    rw [hmember] at hdead
    dsimp only at hdead
    split_ifs at hdead with hover
    · by_cases hne : nodeId = member.nodeId
      · subst hne
        exact ⟨member, hself, hover.2⟩
      · unfold statusOf at hdead hnot
        rw [GossipEngine.notify_view, GossipEngine.updateQueuePush_view,
          GossipEngine.updateStatus_view, clusterViewUpdateStatus_of_ne hne] at hdead
        exact absurd hdead hnot
    · exact absurd hdead hnot

end Turns

-- ----------------------------------------------------------------------------
-- Runs
-- ----------------------------------------------------------------------------

section Runs

variable {engine : GossipEngine} {turns : List TimedTurn} {nodeId : NodeId} {i j : Nat}

theorem lastSeen_of_suspect (hmeets : Runs.Meets GossipEngine.turn RestartsTimer engine turns)
    (hi : i < turns.length)
    (hsuspected : BecomesSuspect nodeId (engine.before turns i) (engine.before turns (i + 1)))
    (hij : i + 1 ≤ j) (hj : j ≤ turns.length)
    (hlast : ∀ k, i < k → k < j →
      ¬ BecomesSuspect nodeId (engine.before turns k) (engine.before turns (k + 1)))
    (hget : clusterViewGet (engine.before turns j).view nodeId = some entry)
    (hsuspect : entry.status = .suspect) : entry.lastSeenMs = turns[i].1 := by
  induction j, hij using Nat.le_induction generalizing entry with
  | base =>
    rw [GossipEngine.before_succ engine hi] at hget
    rcases turn_suspect (hmeets.get hi) hget hsuspect with ⟨existing, hold, hwas, -⟩ | ⟨-, hnow⟩
    · exact absurd ((statusOf_eq hold).trans (congrArg some hwas)) hsuspected.1
    · exact hnow
  | succ j hij ih =>
    have hafter := (statusOf_eq hget).trans (congrArg some hsuspect)
    rw [GossipEngine.before_succ engine hj] at hget
    rcases turn_suspect (hmeets.get hj) hget hsuspect with ⟨existing, hold, hwas, hkept⟩ | ⟨hnew, -⟩
    · rw [hkept]
      exact ih (Nat.le_of_succ_le hj) (fun k hk hkj => hlast k hk (Nat.lt_succ_of_lt hkj)) hold hwas
    · exact absurd ⟨hnew, hafter⟩ (hlast j hij (Nat.lt_succ_self j))

/-- In a run on a monotone clock in which no entry that is neither ALIVE nor
SUSPECT is turned into SUSPECT, an entry that a timeout makes DEAD has been
SUSPECT for longer than the dead timeout. -/
theorem suspect_timer (hclock : MonotoneClock turns)
    (hmeets : Runs.Meets GossipEngine.turn RestartsTimer engine turns)
    (hij : i < j) (hj : j < turns.length)
    (hsuspected : BecomesSuspect nodeId (engine.before turns i) (engine.before turns (i + 1)))
    (hlast : ∀ k, i < k → k < j →
      ¬ BecomesSuspect nodeId (engine.before turns k) (engine.before turns (k + 1)))
    (hcheck : ∃ slot, (turns[j]).2 = .checkSuspect slot)
    (hbefore : statusOf (engine.before turns j) nodeId = some .suspect)
    (hafter : statusOf (engine.before turns (j + 1)) nodeId = some .dead) :
    (turns[i]).1.toNat + engine.config.deadTimeoutMs.toNat < (turns[j]).1.toNat := by
  obtain ⟨slot, hslot⟩ := hcheck
  have hturn : turns[j] = (turns[j].1, .checkSuspect slot) := Prod.ext rfl hslot
  rw [GossipEngine.before_succ engine hj, hturn] at hafter
  have hnot : statusOf (engine.before turns j) nodeId ≠ some .dead := by simp [hbefore]
  obtain ⟨entry, hget, hover⟩ := checkSuspect_over hnot hafter
  have hsuspect : entry.status = .suspect := Option.some.inj ((statusOf_eq hget).symm.trans hbefore)
  rw [lastSeen_of_suspect hmeets (hij.trans hj) hsuspected hij hj.le hlast hget hsuspect,
    before_config] at hover
  have hle := timeAt_le hclock hij.le hj
  rw [timeAt_eq (hij.trans hj), timeAt_eq hj] at hle
  have hlt := UInt64.lt_iff_toNat_lt.mp hover
  rw [UInt64.toNat_sub_of_le _ _ hle] at hlt
  have htimeout : engine.config.deadTimeoutMs.toUInt64.toNat =
      engine.config.deadTimeoutMs.toNat := by simp
  omega

end Runs

theorem suspect_timer_silent :
    (10 : UInt64).toNat + firstRouter.config.deadTimeoutMs.toNat < (6000 : UInt64).toNat := by
  let turns : List TimedTurn := [(10, .pingUpdate (newsOf 2 .suspect 0)), (6000, .checkSuspect 1)]
  have hunknown : clusterViewGet firstRouter.view 2 = none := by decide +kernel
  have hmeets : Runs.Meets GossipEngine.turn RestartsTimer firstRouter turns :=
    ⟨fun _ _ hget => (nomatch hunknown.symm.trans hget), trivial, trivial⟩
  have hclock : MonotoneClock turns := by decide
  have hsuspected : BecomesSuspect 2 (firstRouter.before turns 0) (firstRouter.before turns 1) :=
    ⟨by decide +kernel, by decide +kernel⟩
  exact suspect_timer hclock hmeets (i := 0) (j := 1) (by decide) (by decide) hsuspected
    (fun k hk hkj => absurd hk (Nat.not_lt.mpr (Nat.le_of_lt_succ hkj))) ⟨1, rfl⟩
    (by decide +kernel) (by decide +kernel)

def deadFor10s : GossipEngine :=
  firstRouter.run [arrival (messageOf 3 gossipMsgPing [newsOf 2 .alive 1]),
    arrival (messageOf 3 gossipMsgDead [newsOf 2 .dead 1])]

/-- The next check finds its timer run out. -/
theorem suspected_for_one_ms :
    let suspected := deadFor10s.step
      (.receive 10000 (fun _ => .zero) [] 7000 (messageOf 3 gossipMsgAck [newsOf 2 .suspect 2]))
    BecomesSuspect 2 deadFor10s suspected ∧
      statusOf (suspected.step (.checkSuspectTimeouts 10001)) 2 = some .dead ∧
      ¬ 10000 + deadFor10s.config.deadTimeoutMs.toNat < 10001 := by
  refine ⟨⟨?_, ?_⟩, ?_, ?_⟩ <;> decide +kernel

end Roole
