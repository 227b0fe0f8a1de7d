import Mathlib.Data.Finset.Card
import Mathlib.Data.List.Induction
import Roole.Gossip.Entries
import Roole.Gossip.Rounds

/-!
# Refuting suspicions

A node that is told of a suspicion against itself should answer with a greater
incarnation. Only the handler of SUSPECT messages does, by one for each
accusation, and the queue has to take the answer.
-/

namespace Roole

/-- An update that calls the node itself SUSPECT. -/
def accuses (engine : GossipEngine) (update : GossipMemberUpdate) : Bool :=
  update.nodeId = engine.myId ∧ update.status = .suspect

def suspects (engine : GossipEngine) (update : GossipMemberUpdate) : Bool :=
  decide (update.nodeId ≠ engine.myId ∧ update.status = .suspect) &&
    (clusterViewGet engine.view update.nodeId).any fun existing =>
      decide (existing.status = .alive ∧ existing.incarnation ≤ update.incarnation)

/-- The queue holds an ALIVE update of the node for the incarnation. -/
def Announces (engine : GossipEngine) (nodeId : NodeId) (incarnation : UInt64) : Prop :=
  ∃ update ∈ engine.updateQueue.toList, update.nodeId = nodeId ∧ update.status = .alive ∧
    update.incarnation = incarnation

/-- Every accusation that is not out of date has been answered. -/
def Refutes (before after : GossipEngine) (updates : List GossipMemberUpdate) : Prop :=
  ∀ update ∈ updates, accuses before update → before.incarnation ≤ update.incarnation →
    update.incarnation < after.incarnation ∧ Announces after before.myId after.incarnation

theorem suspects_iff_entry : suspects engine update ↔
    (update.nodeId ≠ engine.myId ∧ update.status = .suspect) ∧
      ∃ existing, clusterViewGet engine.view update.nodeId = some existing ∧
        existing.status = .alive ∧ existing.incarnation ≤ update.incarnation := by
  simp [suspects, Option.any_eq_true, and_assoc]

namespace GossipEngine

def refute (now : UInt64) (engine : GossipEngine) : GossipEngine :=
  let refuting := { engine with incarnation := engine.incarnation + 1 }
  refuting.pushAll (List.replicate 3 (refuting.selfUpdate now))

def suspect (now : UInt64) (engine : GossipEngine) (update : GossipMemberUpdate) : GossipEngine :=
  (engine.updateStatus now update.nodeId .suspect update.incarnation).updateQueuePush update

end GossipEngine

theorem handleSuspectUpdate_eq (now : UInt64) (engine : GossipEngine) (update : GossipMemberUpdate) :
    handleSuspectUpdate now engine update =
      if accuses engine update then engine.refute now
      else if suspects engine update then engine.suspect now update else engine := by
  unfold handleSuspectUpdate accuses suspects
  by_cases hself : update.nodeId = engine.myId ∧ update.status = .suspect
  · simp only [hself, and_self, decide_true, if_true]
    rfl
  · simp only [hself, if_false, decide_false, Bool.false_eq_true]
    by_cases hother : update.nodeId ≠ engine.myId ∧ update.status = .suspect
    · simp only [hother, ne_eq, not_false_eq_true, and_self, if_true, decide_true, Bool.true_and]
      cases clusterViewGet engine.view update.nodeId with
      | none => simp
      | some existing =>
        simp only [Option.any_some, decide_eq_true_eq, and_comm]
        rfl
    · simp [hother]

theorem mem_pushAll (engine : GossipEngine) (updates : List GossipMemberUpdate) :
    update ∈ (engine.pushAll updates).updateQueue.toList ↔ update ∈ engine.updateQueue.toList ∨
      update ∈ updates.take (maxUpdateQueue - engine.updateQueue.count) := by
  rw [GossipEngine.pushAll_take, List.take_append,
    List.take_of_length_le engine.updateQueue.toList_length_le, List.mem_append,
    RingBuffer.toList_length]

theorem pushAll_count (engine : GossipEngine) (updates : List GossipMemberUpdate) :
    (engine.pushAll updates).updateQueue.count =
      min maxUpdateQueue (engine.updateQueue.count + updates.length) := by
  rw [← RingBuffer.toList_length, GossipEngine.pushAll_take, List.length_take, List.length_append,
    RingBuffer.toList_length]

section Answers

variable (now : UInt64) (engine : GossipEngine)

theorem refute_base : (engine.refute now).base =
    { engine with incarnation := engine.incarnation + 1 }.base :=
  GossipEngine.pushAll_base _ _

theorem refute_view : (engine.refute now).view = engine.view := GossipEngine.pushAll_view _ _

theorem refute_count : (engine.refute now).updateQueue.count =
    min maxUpdateQueue (engine.updateQueue.count + 3) := pushAll_count _ _

theorem announces_refute (incarnation : UInt64) :
    Announces (engine.refute now) engine.myId incarnation ↔
      Announces engine engine.myId incarnation ∨
        (engine.updateQueue.count < maxUpdateQueue ∧ incarnation = engine.incarnation + 1) := by
  unfold Announces GossipEngine.refute
  simp only [mem_pushAll, List.take_replicate, List.mem_replicate]
  constructor
  · rintro ⟨update, hmem | ⟨hroom, rfl⟩, hself, halive, hincarnation⟩
    · exact .inl ⟨update, hmem, hself, halive, hincarnation⟩
    · exact .inr ⟨by omega, hincarnation.symm⟩
  · rintro (⟨update, hmem, hfields⟩ | ⟨hroom, rfl⟩)
    · exact ⟨update, .inl hmem, hfields⟩
    · exact ⟨_, .inr ⟨by omega, rfl⟩, rfl, rfl, rfl⟩

variable {engine}

theorem suspect_count (update : GossipMemberUpdate) :
    (engine.suspect now update).updateQueue.count =
      min maxUpdateQueue (engine.updateQueue.count + 1) :=
  pushAll_count (engine.updateStatus now update.nodeId .suspect update.incarnation) [update]

theorem announces_suspect {update : GossipMemberUpdate} (hne : update.nodeId ≠ engine.myId)
    (incarnation : UInt64) : Announces (engine.suspect now update) engine.myId incarnation ↔
      Announces engine engine.myId incarnation := by
  have hmem : ∀ queued, queued ∈ (engine.suspect now update).updateQueue.toList ↔
      queued ∈ engine.updateQueue.toList ∨
        queued ∈ [update].take (maxUpdateQueue - engine.updateQueue.count) := fun _ =>
    mem_pushAll (engine.updateStatus now update.nodeId .suspect update.incarnation) [update]
  constructor
  · rintro ⟨queued, hqueued, hself, hfields⟩
    rcases (hmem queued).mp hqueued with hold | hnew
    · exact ⟨queued, hold, hself, hfields⟩
    · cases List.mem_singleton.mp (List.mem_of_mem_take hnew)
      exact absurd hself hne
  · rintro ⟨queued, hold, hfields⟩
    exact ⟨queued, (hmem queued).mpr (.inl hold), hfields⟩

end Answers

-- ----------------------------------------------------------------------------
-- The updates of a SUSPECT message
-- ----------------------------------------------------------------------------

def suspected (engine : GossipEngine) (updates : List GossipMemberUpdate) : Finset NodeId :=
  ((updates.filter (suspects engine)).map GossipMemberUpdate.nodeId).toFinset

@[simp] theorem suspected_nil (engine : GossipEngine) : suspected engine [] = ∅ := rfl

theorem suspected_concat (engine : GossipEngine) (updates : List GossipMemberUpdate)
    (update : GossipMemberUpdate) : suspected engine (updates ++ [update]) =
      if suspects engine update then insert update.nodeId (suspected engine updates)
      else suspected engine updates := by
  unfold suspected
  split_ifs with h <;> simp [h, Finset.union_comm]

structure Told (engine : GossipEngine) (updates : List GossipMemberUpdate) (later : GossipEngine) :
    Prop where
  myId : later.myId = engine.myId
  incarnation : later.incarnation =
    engine.incarnation + .ofNat (updates.countP (accuses engine))
  held : ∀ nodeId, nodeId ∉ suspected engine updates →
    clusterViewGet later.view nodeId = clusterViewGet engine.view nodeId
  suspect : ∀ nodeId ∈ suspected engine updates,
    ∃ entry, clusterViewGet later.view nodeId = some entry ∧ entry.status = .suspect
  queued : later.updateQueue.count = min maxUpdateQueue
    (engine.updateQueue.count + 3 * updates.countP (accuses engine) +
      (suspected engine updates).card)
  announces : ∀ incarnation, (∀ i, i ≤ updates.countP (accuses engine) → 0 < i →
      incarnation ≠ engine.incarnation + .ofNat i) →
    (Announces later engine.myId incarnation ↔ Announces engine engine.myId incarnation)

namespace Told

theorem nil (engine : GossipEngine) : Told engine [] engine where
  myId := rfl
  incarnation := by simp
  held := fun _ _ => rfl
  suspect := by simp
  queued := by simp [engine.updateQueue.count_le]
  announces := fun _ _ => Iff.rfl

theorem accuses_eq (h : Told engine updates later) (update : GossipMemberUpdate) :
    accuses later update = accuses engine update := by
  unfold accuses
  rw [h.myId]

theorem suspects_iff (h : Told engine updates later) (update : GossipMemberUpdate) :
    suspects later update ↔ suspects engine update ∧ update.nodeId ∉ suspected engine updates := by
  by_cases hmem : update.nodeId ∈ suspected engine updates
  · obtain ⟨entry, hget, hstatus⟩ := h.suspect _ hmem
    simp [suspects, hget, hstatus, hmem]
  · unfold suspects
    rw [h.myId, h.held _ hmem]
    simp [hmem]

variable (now : UInt64) {engine later : GossipEngine} {updates : List GossipMemberUpdate}
  {update : GossipMemberUpdate}

theorem refute (h : Told engine updates later) (haccuses : accuses engine update) :
    Told engine (updates ++ [update]) (later.refute now) := by
  have hcount : (updates ++ [update]).countP (accuses engine) =
      updates.countP (accuses engine) + 1 := by simp [haccuses]
  have hother : suspects engine update = false := by
    simp only [accuses, decide_eq_true_eq] at haccuses
    simp [suspects, haccuses.1]
  have hsuspected : suspected engine (updates ++ [update]) = suspected engine updates := by
    rw [suspected_concat, hother]
    rfl
  have hincarnation : later.incarnation + 1 =
      engine.incarnation + .ofNat (updates.countP (accuses engine) + 1) := by
    rw [h.incarnation, UInt64.ofNat_add, UInt64.add_assoc]
    rfl
  refine ⟨?_, ?_, ?_, ?_, ?_, ?_⟩
  · exact (GossipEngine.myId_of_base (refute_base now later)).trans h.myId
  · rw [hcount, ← hincarnation]
    exact GossipEngine.incarnation_of_base (refute_base now later)
  · rw [hsuspected, refute_view]
    exact h.held
  · rw [hsuspected, refute_view]
    exact h.suspect
  · rw [hsuspected, hcount, refute_count, h.queued]
    omega
  · rw [hcount]
    intro incarnation hnew
    rw [← h.myId, announces_refute, h.myId,
      h.announces incarnation fun i hi => hnew i (Nat.le_succ_of_le hi), or_iff_left]
    rintro ⟨-, rfl⟩
    exact hnew _ (Nat.le_refl _) (Nat.succ_pos _) hincarnation

theorem suspect_other (h : Told engine updates later) (haccuses : accuses engine update = false)
    (hsuspects : suspects later update) :
    Told engine (updates ++ [update]) (later.suspect now update) := by
  have hcount : (updates ++ [update]).countP (accuses engine) =
      updates.countP (accuses engine) := by simp [haccuses]
  obtain ⟨hother, hnew⟩ := (h.suspects_iff update).mp hsuspects
  have hsuspected : suspected engine (updates ++ [update]) =
      insert update.nodeId (suspected engine updates) := by
    rw [suspected_concat, if_pos hother]
  have hbase : (later.suspect now update).base = later.base :=
    GossipEngine.updateQueuePush_base _ _
  have hview : (later.suspect now update).view = (clusterViewUpdateStatus now later.view
      update.nodeId .suspect update.incarnation).2 := GossipEngine.updateQueuePush_view _ _
  refine ⟨?_, ?_, ?_, ?_, ?_, ?_⟩
  · exact (GossipEngine.myId_of_base hbase).trans h.myId
  · rw [hcount, ← h.incarnation]
    exact GossipEngine.incarnation_of_base hbase
  · intro nodeId hnot
    rw [hsuspected, Finset.mem_insert, not_or] at hnot
    rw [hview, clusterViewUpdateStatus_of_ne hnot.1, h.held nodeId hnot.2]
  · intro nodeId hmem
    rw [hview]
    by_cases hid : nodeId = update.nodeId
    · subst hid
      obtain ⟨-, existing, hget, -, hle⟩ := suspects_iff_entry.mp hsuspects
      exact ⟨_, clusterViewUpdateStatus_self now .suspect _ hget, by rw [if_pos hle]; rfl⟩
    · rw [hsuspected, Finset.mem_insert, or_iff_right hid] at hmem
      rw [clusterViewUpdateStatus_of_ne hid]
      exact h.suspect nodeId hmem
  · rw [hsuspected, hcount, suspect_count, h.queued, Finset.card_insert_of_notMem hnew]
    omega
  · rw [hcount]
    intro incarnation hfresh
    have hne : update.nodeId ≠ later.myId := (suspects_iff_entry.mp hsuspects).1.1
    rw [← h.myId, announces_suspect now hne, h.myId]
    exact h.announces incarnation hfresh

theorem skip (h : Told engine updates later) (haccuses : accuses engine update = false)
    (hsuspects : suspects later update = false) : Told engine (updates ++ [update]) later := by
  have hcount : (updates ++ [update]).countP (accuses engine) =
      updates.countP (accuses engine) := by simp [haccuses]
  have hsuspected : suspected engine (updates ++ [update]) = suspected engine updates := by
    rw [suspected_concat]
    split_ifs with hother
    · refine Finset.insert_eq_of_mem (by_contra fun hnew => ?_)
      rw [(h.suspects_iff update).mpr ⟨hother, hnew⟩] at hsuspects
      cases hsuspects
    · rfl
  refine ⟨h.myId, ?_, ?_, ?_, ?_, ?_⟩
  · rw [hcount, h.incarnation]
  · rw [hsuspected]
    exact h.held
  · rw [hsuspected]
    exact h.suspect
  · rw [hsuspected, hcount, h.queued]
  · rw [hcount]
    exact h.announces

theorem foldl (now : UInt64) (engine : GossipEngine) (updates : List GossipMemberUpdate) :
    Told engine updates (updates.foldl (handleSuspectUpdate now) engine) := by
  induction updates using List.reverseRecOn with
  | nil => exact nil engine
  | append_singleton updates update ih =>
    rw [List.foldl_append, List.foldl_cons, List.foldl_nil, handleSuspectUpdate_eq, ih.accuses_eq]
    split_ifs with haccuses hsuspects
    · exact ih.refute now haccuses
    · exact ih.suspect_other now (Bool.eq_false_iff.mpr haccuses) hsuspects
    · exact ih.skip (Bool.eq_false_iff.mpr haccuses) (Bool.eq_false_iff.mpr hsuspects)

end Told

-- ----------------------------------------------------------------------------
-- The last accusation
-- ----------------------------------------------------------------------------

def beforeLast (engine : GossipEngine) : List GossipMemberUpdate → List GossipMemberUpdate
  | [] => []
  | update :: rest => if rest.any (accuses engine) then update :: beforeLast engine rest else []

theorem beforeLast_append (h : updates.any (accuses engine)) : ∃ last after,
    updates = beforeLast engine updates ++ last :: after ∧ accuses engine last ∧
      after.countP (accuses engine) = 0 := by
  induction updates with
  | nil => cases h
  | cons update rest ih =>
    unfold beforeLast
    split_ifs with hrest
    · obtain ⟨last, after, hsplit, hlast, hafter⟩ := ih hrest
      exact ⟨last, after, congrArg (update :: ·) hsplit, hlast, hafter⟩
    · rw [List.any_cons, Bool.or_eq_true, or_iff_left hrest] at h
      refine ⟨update, rest, rfl, h, List.countP_eq_zero.mpr fun other hmem haccuses => ?_⟩
      exact hrest (List.any_eq_true.mpr ⟨other, hmem, haccuses⟩)

/-- The queue still has room when the last accusation is answered: each answer
before it takes three places and each suspicion that is passed on takes one. -/
def RoomToRefute (engine : GossipEngine) (updates : List GossipMemberUpdate) : Prop :=
  engine.updateQueue.count + 3 * (beforeLast engine updates).countP (accuses engine) +
    (suspected engine (beforeLast engine updates)).card < maxUpdateQueue

theorem ofNat_inj_of_lt (hi : i < 2 ^ 64) (hj : j < 2 ^ 64)
    (h : UInt64.ofNat i = UInt64.ofNat j) : i = j := by
  have hnat := congrArg UInt64.toNat h
  rwa [UInt64.toNat_ofNat_of_lt' hi, UInt64.toNat_ofNat_of_lt' hj] at hnat

theorem Told.announces_refute (h : Told engine before told) (hcount : before.length + 1 < 2 ^ 64) :
    Announces (told.refute now) engine.myId
        (engine.incarnation + .ofNat (before.countP (accuses engine) + 1)) ↔
      Announces engine engine.myId
        (engine.incarnation + .ofNat (before.countP (accuses engine) + 1)) ∨
      engine.updateQueue.count + 3 * before.countP (accuses engine) +
        (suspected engine before).card < maxUpdateQueue := by
  have hle : before.countP (accuses engine) ≤ before.length := List.countP_le_length
  have hincarnation : engine.incarnation + .ofNat (before.countP (accuses engine) + 1) =
      told.incarnation + 1 := by
    rw [h.incarnation, UInt64.ofNat_add, UInt64.add_assoc]
    rfl
  have hearlier := h.announces
    (engine.incarnation + .ofNat (before.countP (accuses engine) + 1)) fun i hi _ heq => by
      have hinj := ofNat_inj_of_lt (by omega) (by omega) ((UInt64.add_right_inj _).mp heq)
      omega
  rw [← h.myId, Roole.announces_refute, h.myId, hearlier, and_iff_left hincarnation, h.queued]
  refine or_congr_right ?_
  omega

theorem announces_foldl (now : UInt64) {engine told : GossipEngine}
    {after : List GossipMemberUpdate} (hid : told.myId = engine.myId)
    (hnone : after.countP (accuses engine) = 0) (incarnation : UInt64) :
    Announces (after.foldl (handleSuspectUpdate now) told) engine.myId incarnation ↔
      Announces told engine.myId incarnation := by
  have hsame : accuses told = accuses engine := funext fun update => by rw [accuses, accuses, hid]
  rw [← hid]
  refine (Told.foldl now told after).announces incarnation fun i hi hpos => ?_
  rw [hsame, hnone] at hi
  exact absurd hi (Nat.not_le.mpr hpos)

/-- The last answer is in the queue if it was there before or finds room. -/
theorem announces_last (now : UInt64) (hany : updates.any (accuses engine))
    (hcount : updates.length < 2 ^ 64) :
    Announces (updates.foldl (handleSuspectUpdate now) engine) engine.myId
        (engine.incarnation + .ofNat (updates.countP (accuses engine))) ↔
      Announces engine engine.myId
        (engine.incarnation + .ofNat (updates.countP (accuses engine))) ∨
      RoomToRefute engine updates := by
  obtain ⟨last, after, hsplit, hlast, hafter⟩ := beforeLast_append hany
  unfold RoomToRefute
  generalize beforeLast engine updates = before at hsplit
  subst hsplit
  have hbefore := Told.foldl now engine before
  have hn : (before ++ last :: after).countP (accuses engine) =
      before.countP (accuses engine) + 1 := by
    rw [List.countP_append, List.countP_cons_of_pos hlast, hafter]
  have hanswer : handleSuspectUpdate now (before.foldl (handleSuspectUpdate now) engine) last =
      (before.foldl (handleSuspectUpdate now) engine).refute now := by
    rw [handleSuspectUpdate_eq, hbefore.accuses_eq, if_pos hlast]
  have hid : ((before.foldl (handleSuspectUpdate now) engine).refute now).myId = engine.myId :=
    (GossipEngine.myId_of_base (refute_base now _)).trans hbefore.myId
  rw [List.length_append, List.length_cons] at hcount
  rw [hn, List.foldl_append, List.foldl_cons, hanswer, announces_foldl now hid hafter]
  exact hbefore.announces_refute (by omega)

/-- The accusations of the message are all answered: the incarnation passes
them, and the last answer is in the queue or finds room there. -/
def AnswersAll (engine : GossipEngine) (updates : List GossipMemberUpdate) : Prop :=
  (∀ update ∈ updates, accuses engine update → engine.incarnation ≤ update.incarnation →
    update.incarnation < engine.incarnation + .ofNat (updates.countP (accuses engine))) ∧
  (Announces engine engine.myId
      (engine.incarnation + .ofNat (updates.countP (accuses engine))) ∨
    RoomToRefute engine updates)

theorem readUpdates_length_lt (past : Nat → GossipMemberUpdate) (msg : GossipMessage) :
    (msg.readUpdates past).length < 2 ^ 64 := by
  rw [GossipMessage.readUpdates, List.length_map, List.length_range]
  exact Nat.lt_trans msg.numUpdates.toNat_lt (by decide)

theorem foldl_incarnation {handle : GossipEngine → GossipMemberUpdate → GossipEngine}
    (hbase : ∀ engine update, (handle engine update).base = engine.base)
    (updates : List GossipMemberUpdate) (engine : GossipEngine) :
    (updates.foldl handle engine).incarnation = engine.incarnation := by
  induction updates generalizing engine with
  | nil => rfl
  | cons update rest ih =>
    exact (ih (handle engine update)).trans (GossipEngine.incarnation_of_base (hbase engine update))

theorem recoverSender_incarnation (now : UInt64) (engine : GossipEngine) (senderId : NodeId) :
    (recoverSender now (removePendingAck engine senderId) senderId).incarnation =
      engine.incarnation := by
  have hfreed : (removePendingAck engine senderId).incarnation = engine.incarnation := by
    unfold removePendingAck
    split <;> rfl
  rw [← hfreed]
  unfold recoverSender
  split
  · split_ifs <;> rfl
  · rfl

theorem dispatchMessage_incarnation (h : msg.msgType ≠ gossipMsgSuspect) :
    (dispatchMessage now past srcIp srcPort engine msg).1.incarnation = engine.incarnation := by
  apply dispatchMessage_cases (motive := fun after => after.incarnation = engine.incarnation) <;>
    intros
  case ping => exact foldl_incarnation (handlePingUpdate_base now) _ engine
  case ack =>
    exact (foldl_incarnation (handleAckUpdate_base now) _ _).trans
      (recoverSender_incarnation now engine _)
  case suspect htype => exact absurd htype h
  case alive => exact foldl_incarnation (handleAliveUpdate_base now) _ engine
  case dead => exact foldl_incarnation (handleDeadUpdate_base now) _ engine
  case join => exact GossipEngine.incarnation_of_base (handleJoinMessage_base now past srcIp engine msg)
  case workerJoin =>
    obtain ⟨_, hbase⟩ := handleWorkerJoinMessage_base now past srcIp srcPort engine msg
    exact (GossipEngine.incarnation_of_base hbase :)
  case leave => rfl
  case ignored => rfl

/-- Every accusation that is not out of date is answered, and the answer is
queued, exactly when there is none or they came in a SUSPECT message and are all
answered. -/
theorem refutes_iff (now : UInt64) (past : Nat → GossipMemberUpdate) (srcIp : List UInt8)
    (srcPort : UInt16) (engine : GossipEngine) (msg : GossipMessage) :
    Refutes engine (dispatchMessage now past srcIp srcPort engine msg).1 (msg.readUpdates past) ↔
      (∀ update ∈ msg.readUpdates past, accuses engine update →
        update.incarnation < engine.incarnation) ∨
      (msg.msgType = gossipMsgSuspect ∧ AnswersAll engine (msg.readUpdates past)) := by
  by_cases hcurrent : ∀ update ∈ msg.readUpdates past, accuses engine update →
      update.incarnation < engine.incarnation
  · refine iff_of_true (fun update hmem haccuses hle => ?_) (.inl hcurrent)
    exact absurd (hcurrent update hmem haccuses) (UInt64.not_lt.mpr hle)
  rw [or_iff_right hcurrent]
  obtain ⟨update, hupdate⟩ := not_forall.mp hcurrent
  obtain ⟨hmem, haccuses, hle⟩ : update ∈ msg.readUpdates past ∧ accuses engine update ∧
      engine.incarnation ≤ update.incarnation := by simpa using hupdate
  by_cases htype : msg.msgType = gossipMsgSuspect
  · rw [and_iff_right htype, dispatchMessage_suspect htype]
    have hlast := announces_last now (List.any_eq_true.mpr ⟨update, hmem, haccuses⟩)
      (readUpdates_length_lt past msg)
    have hincarnation := (Told.foldl now engine (msg.readUpdates past)).incarnation
    unfold AnswersAll
    rw [← hlast, ← hincarnation]
    constructor
    · intro h
      exact ⟨fun other hother hacc hold => (h other hother hacc hold).1,
        (h update hmem haccuses hle).2⟩
    · rintro ⟨hpassed, hqueued⟩ other hother hacc hold
      exact ⟨hpassed other hother hacc hold, hqueued⟩
  · refine iff_of_false (fun h => ?_) fun h => htype h.1
    have hpassed := (h update hmem haccuses hle).1
    rw [dispatchMessage_incarnation htype] at hpassed
    exact absurd hpassed (UInt64.not_lt.mpr hle)

def lateSuspicion : GossipMessage := messageOf 2 gossipMsgSuspect [newsOf 1 .suspect 5]

/-- Node 1 answers with its own next incarnation, which is behind. -/
theorem suspicion_unrefuted : firstRouter.updateQueue.count < maxUpdateQueue ∧
    ¬ Refutes firstRouter
      (dispatchMessage 0 (fun _ => .zero) [] 7000 firstRouter lateSuspicion).1
      (lateSuspicion.readUpdates fun _ => .zero) := by
  refine ⟨by decide +kernel, fun h => ?_⟩
  have hincarnation : (dispatchMessage 0 (fun _ => .zero) [] 7000 firstRouter
      lateSuspicion).1.incarnation = 1 := by decide +kernel
  have hread : newsOf 1 .suspect 5 ∈ lateSuspicion.readUpdates fun _ => .zero := by decide
  have hpassed := (h _ hread (by decide) (by decide)).1
  rw [hincarnation] at hpassed
  exact absurd hpassed (by decide)

end Roole
