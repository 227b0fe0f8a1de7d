import Roole.Gossip.TurnEffects

/-!
# The statuses of the members

The protocol thread and the cluster metrics count the members by status and
expect the counts to add up. They do as long as no PING or ACK has brought a
status without a name: the handlers of both copy the byte that was sent.
-/

namespace Roole

def NodeStatus.Named : NodeStatus → Prop
  | .alive | .suspect | .dead => True
  | .other .. => False

instance : DecidablePred NodeStatus.Named
  | .alive | .suspect | .dead => .isTrue trivial
  | .other .. => .isFalse id

def StatusesNamed (view : ClusterView) : Prop := ∀ member ∈ view.members, member.status.Named

structure StatusCounts where
  alive : Nat
  suspect : Nat
  dead : Nat

def StatusCounts.count (counts : StatusCounts) (member : ClusterMember) : StatusCounts :=
  match member.status with
  | .alive => { counts with alive := counts.alive + 1 }
  | .suspect => { counts with suspect := counts.suspect + 1 }
  | .dead => { counts with dead := counts.dead + 1 }
  | .other .. => counts

def StatusCounts.sum (counts : StatusCounts) : Nat := counts.alive + counts.suspect + counts.dead

def statusCounts (members : List ClusterMember) : StatusCounts :=
  members.foldl StatusCounts.count ⟨0, 0, 0⟩

/-- The sanity check of the protocol thread. -/
def CountsAddUp (view : ClusterView) : Prop :=
  (statusCounts view.members).sum = view.members.length

instance (view : ClusterView) : Decidable (StatusesNamed view) :=
  inferInstanceAs (Decidable (∀ member ∈ view.members, member.status.Named))

-- ----------------------------------------------------------------------------
-- The counts
-- ----------------------------------------------------------------------------

theorem count_sum (counts : StatusCounts) (member : ClusterMember) :
    (counts.count member).sum = counts.sum + if member.status.Named then 1 else 0 := by
  unfold StatusCounts.count StatusCounts.sum
  cases member.status <;> simp [NodeStatus.Named] <;> omega

theorem foldl_count_sum (members : List ClusterMember) (counts : StatusCounts) :
    (members.foldl StatusCounts.count counts).sum =
      counts.sum + members.countP fun member => decide member.status.Named := by
  induction members generalizing counts with
  | nil => rfl
  | cons member rest ih =>
    rw [List.foldl_cons, ih, count_sum, List.countP_cons]
    simp only [decide_eq_true_eq]
    omega

theorem countsAddUp_iff (view : ClusterView) : CountsAddUp view ↔ StatusesNamed view := by
  unfold CountsAddUp statusCounts
  rw [foldl_count_sum]
  simp [StatusCounts.sum, List.countP_eq_length, StatusesNamed]

theorem statusesNamed_iff_get (view : ClusterView) : StatusesNamed view ↔
    ∀ nodeId entry, clusterViewGet view nodeId = some entry → entry.status.Named :=
  ⟨fun h _ _ hget => h _ (KeyedList.lookup_mem hget),
    fun h _ hmem => h _ _ (clusterViewGet_of_mem hmem)⟩

-- ----------------------------------------------------------------------------
-- Turns
-- ----------------------------------------------------------------------------

def TakesUpdate (engine : GossipEngine) (update : GossipMemberUpdate) : Prop :=
  match clusterViewGet engine.view update.nodeId with
  | none => engine.view.members.length < engine.view.capacity
  | some existing => existing.incarnation < update.incarnation

/-- The turn does not take over a status without a name. -/
def TakesNamed (engine : GossipEngine) : TimedTurn → Prop
  | (_, .pingUpdate update) | (_, .ackUpdate update) =>
    TakesUpdate engine update → update.status.Named
  | _ => True

section Turns

variable {now : UInt64} {engine : GossipEngine} {update : GossipMemberUpdate}

theorem statusesNamed_apply {view : ClusterView} {call : ViewCall} (h : StatusesNamed view) :
    StatusesNamed (call.apply now view) ↔
      ∀ entry, call.written now view = some entry → entry.status.Named := by
  rw [statusesNamed_iff_get] at h ⊢
  exact forall_entries_apply h

theorem statusesNamed_of_status {view : ClusterView} {call : ViewCall} (h : StatusesNamed view)
    (hstatus : ∀ status, call.status = some status → status.Named) :
    StatusesNamed (call.apply now view) :=
  (statusesNamed_apply h).mpr fun _ hwritten => hstatus _ (written_status hwritten)

theorem pingUpdate_named (now : UInt64) (update : GossipMemberUpdate)
    (h : StatusesNamed engine.view) :
    StatusesNamed ((TurnEffect.ofPingUpdate now engine update).call.apply now engine.view) ↔
      (TakesUpdate engine update → update.status.Named) := by
  unfold TakesUpdate TurnEffect.ofPingUpdate
  cases hget : clusterViewGet engine.view update.nodeId with
  | none =>
    rw [statusesNamed_apply h]
    simp [ViewCall.written, GossipMemberUpdate.toMember, hget]
  | some existing =>
    dsimp only
    split_ifs with hrejoin hnewer
    · refine iff_of_true (statusesNamed_of_status h ?_) fun _ => hrejoin.1.2 ▸ trivial
      rintro _ ⟨⟩
      exact trivial
    · rw [statusesNamed_apply h]
      simp [ViewCall.written, hget, UInt64.le_of_lt hnewer, ClusterMember.setStatus, hnewer]
    · exact iff_of_true h fun hnew => absurd hnew hnewer

theorem ackUpdate_named (now : UInt64) (update : GossipMemberUpdate)
    (h : StatusesNamed engine.view) :
    StatusesNamed ((TurnEffect.ofAckUpdate now engine update).call.apply now engine.view) ↔
      (TakesUpdate engine update → update.status.Named) := by
  unfold TakesUpdate TurnEffect.ofAckUpdate
  cases hget : clusterViewGet engine.view update.nodeId with
  | none =>
    rw [statusesNamed_apply h]
    simp [ViewCall.written, GossipMemberUpdate.toMember, hget]
  | some existing =>
    dsimp only
    split_ifs with hnewer
    · rw [statusesNamed_apply h]
      simp [ViewCall.written, hget, UInt64.le_of_lt hnewer, ClusterMember.setStatus, hnewer]
    · exact iff_of_true h fun hnew => absurd hnew hnewer

theorem turnEffect_status {turn : TimedTurn} (hping : ∀ update, turn.2 ≠ .pingUpdate update)
    (hack : ∀ update, turn.2 ≠ .ackUpdate update) (status : NodeStatus)
    (hstatus : (engine.turnEffect turn).call.status = some status) : status.Named := by
  obtain ⟨now, turn⟩ := turn
  cases turn with
  | pingUpdate update => exact absurd rfl (hping update)
  | ackUpdate update => exact absurd rfl (hack update)
  | ackSender senderId => exact TurnEffect.status_ofAckSender hstatus ▸ trivial
  | suspectUpdate update => exact TurnEffect.status_ofSuspectUpdate hstatus ▸ trivial
  | aliveUpdate update => exact TurnEffect.status_ofAliveUpdate hstatus ▸ trivial
  | deadUpdate update => exact TurnEffect.status_ofDeadUpdate hstatus ▸ trivial
  | checkAck i => exact TurnEffect.status_ofCheckAck hstatus ▸ trivial
  | checkSuspect i => exact TurnEffect.status_ofCheckSuspect hstatus ▸ trivial
  | _ => cases hstatus <;> exact trivial

theorem turn_named (h : StatusesNamed engine.view) (turn : TimedTurn) :
    StatusesNamed (engine.turn turn).view ↔ TakesNamed engine turn := by
  rw [(turn_does engine turn).view]
  obtain ⟨now, turn⟩ := turn
  cases turn with
  | pingUpdate update => exact pingUpdate_named now update h
  | ackUpdate update => exact ackUpdate_named now update h
  | _ =>
    refine iff_of_true (statusesNamed_of_status h fun status hstatus => ?_) trivial
    exact turnEffect_status (by simp) (by simp) status hstatus

end Turns

-- ----------------------------------------------------------------------------
-- Runs
-- ----------------------------------------------------------------------------

/-- From a view with named statuses on, every state of a run has them and its
counts add up exactly when no turn takes over a status without a name. -/
theorem counts_add_up_iff (h : StatusesNamed engine.view) (turns : List TimedTurn) :
    (∀ i, StatusesNamed (engine.before turns i).view ∧ CountsAddUp (engine.before turns i).view) ↔
        Runs.Meets GossipEngine.turn TakesNamed engine turns := by
  rw [← Runs.invariant_iff_meets (P := fun engine => StatusesNamed engine.view)
    (fun _ turn hnamed => turn_named hnamed turn) h turns]
  exact forall_congr' fun i => and_iff_left_of_imp (countsAddUp_iff _).mpr

theorem counts_add_up_firstRouter :
    (∀ i, StatusesNamed (firstRouter.before [(0, .pingUpdate (newsOf 3 .dead 0))] i).view ∧
      CountsAddUp (firstRouter.before [(0, .pingUpdate (newsOf 3 .dead 0))] i).view) ↔
        Runs.Meets GossipEngine.turn TakesNamed firstRouter
          [(0, .pingUpdate (newsOf 3 .dead 0))] :=
  counts_add_up_iff (by decide +kernel) _

def unnamedPing : GossipMessage :=
  messageOf 2 gossipMsgPing [newsOf 3 (.ofByte 7) 0]

theorem unnamed_status_enters :
    StatusesNamed firstRouter.view ∧
    ∃ datagram msg, gossipMessageSerialize unnamedPing gossipMaxPayloadSize = some datagram ∧
      gossipMessageDeserialize datagram = some msg ∧
      ¬ StatusesNamed (receiveDatagram 0 (fun _ => .zero) [] 7001 firstRouter datagram).1.view ∧
      ¬ CountsAddUp (receiveDatagram 0 (fun _ => .zero) [] 7001 firstRouter datagram).1.view := by
  refine ⟨by decide +kernel, _, _, rfl, rfl, ?_, ?_⟩
  · decide +kernel
  · rw [countsAddUp_iff]
    decide +kernel

end Roole
