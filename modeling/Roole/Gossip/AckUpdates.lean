import Roole.Gossip.Entries
import Roole.Gossip.Rounds

/-!
# The updates of an ACK

The loop of `handle_ack_message` is meant to be that of the PING handler. It
does not pass a discovery on, raises no events but JOIN, and has no case for a
node that rejoins.
-/

namespace Roole

open KeyedList

def ClusterMember.unseen (member : ClusterMember) : ClusterMember := { member with lastSeenMs := 0 }

@[simp] theorem unseen_nodeId (member : ClusterMember) : member.unseen.nodeId = member.nodeId := rfl

structure SameView (a b : ClusterView) : Prop where
  members : a.members.map ClusterMember.unseen = b.members.map ClusterMember.unseen
  capacity : a.capacity = b.capacity

/-- The same view but for the times, the same updates to pass on, and the same
events. -/
structure SameOutcome (a b : GossipEngine) : Prop where
  view : SameView a.view b.view
  queue : a.updateQueue.toList = b.updateQueue.toList
  events : a.events = b.events

/-- A step that the two handlers take alike: a discovery finds the queue full,
and a newer update neither brings back a node that is DEAD nor calls the callback
for a new status. -/
def TreatedAlike (engine : GossipEngine) (update : GossipMemberUpdate) : Prop :=
  match clusterViewGet engine.view update.nodeId with
  | none => engine.updateQueue.toList.length = maxUpdateQueue
  | some existing => update.incarnation > existing.incarnation →
      ¬(existing.status = .dead ∧ update.status = .alive) ∧
        (engine.hasCallback = true → update.status ≠ existing.status →
          statusEvent update.status = none)

-- ----------------------------------------------------------------------------
-- The view
-- ----------------------------------------------------------------------------

section View

variable {a b : ClusterView}

theorem SameView.get (h : SameView a b) (nodeId : NodeId) :
    (clusterViewGet a nodeId).map ClusterMember.unseen =
      (clusterViewGet b nodeId).map ClusterMember.unseen := by
  have hlookup (view : ClusterView) :
      lookup ClusterMember.nodeId (view.members.map ClusterMember.unseen) nodeId =
        (lookup ClusterMember.nodeId view.members nodeId).map ClusterMember.unseen :=
    lookup_map unseen_nodeId view.members nodeId
  unfold clusterViewGet
  rw [← hlookup, ← hlookup, h.members]

theorem SameView.get_none (h : SameView a b) (hget : clusterViewGet a nodeId = none) :
    clusterViewGet b nodeId = none := by
  have hsame := h.get nodeId
  rw [hget] at hsame
  exact Option.map_eq_none_iff.mp hsame.symm

theorem SameView.get_some (h : SameView a b) (hget : clusterViewGet a nodeId = some existing) :
    ∃ other, clusterViewGet b nodeId = some other ∧ other.unseen = existing.unseen := by
  have hsame := h.get nodeId
  rw [hget] at hsame
  exact Option.map_eq_some_iff.mp hsame.symm

theorem clusterViewAdd_members_new (now : UInt64)
    (hnew : clusterViewGet a member.nodeId = none) :
    (clusterViewAdd now a member).2.members =
      if a.members.length < a.capacity then a.members ++ [{ member with lastSeenMs := now }]
      else a.members := by
  unfold clusterViewAdd
  split
  · simp_all
  · split_ifs <;> rfl

theorem SameView.add (h : SameView a b) (now : UInt64)
    (hnew : clusterViewGet a member.nodeId = none) :
    SameView (clusterViewAdd now a member).2 (clusterViewAdd now b member).2 := by
  have hlength : a.members.length = b.members.length := by
    simpa using congrArg List.length h.members
  refine ⟨?_, by rw [clusterViewAdd_capacity, clusterViewAdd_capacity, h.capacity]⟩
  rw [clusterViewAdd_members_new now hnew, clusterViewAdd_members_new now (h.get_none hnew),
    hlength, h.capacity]
  split_ifs
  · rw [List.map_append, List.map_append, h.members]
  · exact h.members

theorem clusterViewUpdateStatus_members (now : UInt64) (status : NodeStatus)
    (hget : clusterViewGet a nodeId = some existing) (hnew : incarnation > existing.incarnation) :
    (clusterViewUpdateStatus now a nodeId status incarnation).2.members =
      modify ClusterMember.nodeId nodeId (·.setStatus now status incarnation) a.members := by
  simp only [clusterViewUpdateStatus, hget, if_pos (UInt64.le_of_lt hnew)]
  rfl

theorem SameView.updateStatus (h : SameView a b) (now : UInt64) (status : NodeStatus)
    (hget : clusterViewGet a nodeId = some existing) (hnew : incarnation > existing.incarnation) :
    SameView (clusterViewUpdateStatus now a nodeId status incarnation).2
      (clusterViewUpdateStatus now b nodeId status incarnation).2 := by
  obtain ⟨other, hother, hsame⟩ := h.get_some hget
  have hincarnation : other.incarnation = existing.incarnation :=
    (congrArg ClusterMember.incarnation hsame :)
  let set (entry : ClusterMember) : ClusterMember :=
    { entry with status := status, incarnation := incarnation }
  have hset : ∀ member : ClusterMember,
      (member.setStatus now status incarnation).unseen = set member.unseen := fun _ => rfl
  refine ⟨?_, by rw [clusterViewUpdateStatus_capacity, clusterViewUpdateStatus_capacity,
    h.capacity]⟩
  rw [clusterViewUpdateStatus_members now status hget hnew,
    clusterViewUpdateStatus_members now status hother (hincarnation ▸ hnew),
    modify_map unseen_nodeId hset, modify_map unseen_nodeId hset, h.members]

end View

-- ----------------------------------------------------------------------------
-- One update
-- ----------------------------------------------------------------------------

section Steps

variable {a b : GossipEngine}

theorem SameOutcome.notify (h : SameOutcome a b) (hcallback : a.hasCallback = b.hasCallback)
    (event : MemberEvent) : SameOutcome (a.notify event) (b.notify event) := by
  unfold GossipEngine.notify
  rw [hcallback]
  split_ifs
  · exact ⟨h.view, h.queue, by rw [h.events]⟩
  · exact h

theorem sameOutcome_notify_iff (h : SameOutcome a b) (event : MemberEvent) :
    SameOutcome (a.notify event) b ↔ ¬ a.hasCallback = true := by
  unfold GossipEngine.notify
  split_ifs with hcallback
  · refine iff_of_false (fun hsame => ?_) (not_not.mpr hcallback)
    have hlength := congrArg List.length hsame.events
    simp [h.events] at hlength
  · exact iff_of_true h hcallback

theorem sameOutcome_push_iff (h : SameOutcome a b) (update : GossipMemberUpdate) :
    SameOutcome (a.updateQueuePush update) b ↔
      a.updateQueue.toList.length = maxUpdateQueue := by
  have hbase := a.updateQueuePush_base update
  have hpushed := a.updateQueuePush_take update
  have hle := a.updateQueue.toList_length_le
  constructor
  · intro hsame
    have hqueue := congrArg List.length (hsame.queue.trans h.queue.symm)
    rw [hpushed, List.length_take, List.length_append, List.length_singleton] at hqueue
    omega
  · intro hfull
    unfold GossipEngine.updateQueuePush
    rw [RingBuffer.push_eq_none.mpr hfull]
    exact h

theorem handleUpdates_unknown_iff (h : SameOutcome a b) (hcallback : a.hasCallback = b.hasCallback)
    (now : UInt64) (hget : clusterViewGet a.view update.nodeId = none) :
    SameOutcome (handlePingUpdate now a update) (handleAckUpdate now b update) ↔
      a.updateQueue.toList.length = maxUpdateQueue := by
  have hadded : SameOutcome (a.addMember now (update.toMember now update.status))
      (b.addMember now (update.toMember now update.status)) :=
    ⟨h.view.add now hget, h.queue, h.events⟩
  simp only [handlePingUpdate, handleAckUpdate, hget, h.view.get_none hget]
  rw [sameOutcome_push_iff (hadded.notify hcallback _)]
  simp only [GossipEngine.notify_updateQueue]
  rfl

theorem handleUpdates_rejoin (now : UInt64)
    (hget : clusterViewGet a.view update.nodeId = some existing)
    (hother : clusterViewGet b.view update.nodeId = some other)
    (hnew : update.incarnation > existing.incarnation)
    (hnew' : update.incarnation > other.incarnation)
    (hrejoin : existing.status = .dead ∧ update.status = .alive) :
    ¬ SameOutcome (handlePingUpdate now a update) (handleAckUpdate now b update) := by
  intro hsame
  have hentry := hsame.view.get update.nodeId
  rw [handlePingUpdate_self hget, handleAckUpdate_self hother, if_pos hnew, if_pos hrejoin,
    if_pos hnew', Option.map_some, Option.map_some, Option.some.injEq] at hentry
  have hincarnation : update.incarnation + 1 = update.incarnation :=
    (congrArg ClusterMember.incarnation hentry :)
  simp at hincarnation

theorem handleUpdates_newer_iff (h : SameOutcome a b) (now : UInt64)
    (hget : clusterViewGet a.view update.nodeId = some existing)
    (hother : clusterViewGet b.view update.nodeId = some other)
    (hnew : update.incarnation > existing.incarnation)
    (hnew' : update.incarnation > other.incarnation)
    (hrejoin : ¬(existing.status = .dead ∧ update.status = .alive)) :
    SameOutcome (handlePingUpdate now a update) (handleAckUpdate now b update) ↔
      (a.hasCallback = true → update.status ≠ existing.status →
        statusEvent update.status = none) := by
  have hupdated : SameOutcome
      (a.updateStatus now update.nodeId update.status update.incarnation)
      (b.updateStatus now update.nodeId update.status update.incarnation) :=
    ⟨h.view.updateStatus now update.status hget hnew, h.queue, h.events⟩
  simp only [handlePingUpdate, handleAckUpdate, hget, hother, hrejoin, false_and, if_false, hnew,
    hnew', if_true]
  split_ifs with hchanged
  · cases hevent : statusEvent update.status with
    | none => simp [hupdated]
    | some eventType =>
      rw [sameOutcome_notify_iff hupdated]
      simp [hchanged, GossipEngine.updateStatus]
  · simp [hupdated, hchanged]

theorem handleUpdates_same_iff (h : SameOutcome a b) (hcallback : a.hasCallback = b.hasCallback)
    (now : UInt64) (update : GossipMemberUpdate) :
    SameOutcome (handlePingUpdate now a update) (handleAckUpdate now b update) ↔
      TreatedAlike a update := by
  unfold TreatedAlike
  cases hget : clusterViewGet a.view update.nodeId with
  | none => exact handleUpdates_unknown_iff h hcallback now hget
  | some existing =>
    obtain ⟨other, hother, hsame⟩ := h.view.get_some hget
    have hincarnation : other.incarnation = existing.incarnation :=
      (congrArg ClusterMember.incarnation hsame :)
    by_cases hnew : update.incarnation > existing.incarnation
    · have hnew' : update.incarnation > other.incarnation := hincarnation ▸ hnew
      simp only [hnew, forall_const]
      by_cases hrejoin : existing.status = .dead ∧ update.status = .alive
      · exact iff_of_false (handleUpdates_rejoin now hget hother hnew hnew' hrejoin)
          fun halike => halike.1 hrejoin
      · rw [handleUpdates_newer_iff h now hget hother hnew hnew' hrejoin]
        exact (and_iff_right hrejoin).symm
    · have hold : ¬ update.incarnation > other.incarnation := hincarnation ▸ hnew
      refine iff_of_true ?_ fun hnewer => absurd hnewer hnew
      simpa only [handlePingUpdate, handleAckUpdate, hget, hother, hnew, hold, and_false, if_false]
        using h

end Steps

-- ----------------------------------------------------------------------------
-- What only the PING handler does
-- ----------------------------------------------------------------------------

/-- How much was passed on and told to the callback, discoveries apart. -/
def GossipEngine.noted (engine : GossipEngine) : Nat :=
  engine.updateQueue.toList.length +
    engine.events.countP fun event => decide (event.eventType ≠ .join)

theorem SameOutcome.noted_eq {a b : GossipEngine} (h : SameOutcome a b) : a.noted = b.noted := by
  rw [GossipEngine.noted, GossipEngine.noted, h.queue, h.events]

section Noted

variable {engine : GossipEngine}

theorem noted_notify (engine : GossipEngine) (event : MemberEvent) :
    (engine.notify event).noted =
      engine.noted + if engine.hasCallback = true ∧ event.eventType ≠ .join then 1 else 0 := by
  unfold GossipEngine.notify GossipEngine.noted
  by_cases hcallback : engine.hasCallback = true
  · simp [hcallback, List.countP_append, List.countP_singleton, Nat.add_assoc]
  · simp [hcallback]

theorem noted_join (engine : GossipEngine) (update : GossipMemberUpdate) :
    (engine.notify (update.event .join)).noted = engine.noted := by
  rw [noted_notify, if_neg fun h => h.2 rfl, Nat.add_zero]

theorem noted_news (changed : GossipEngine) (hnoted : changed.noted = engine.noted)
    (hcallback : changed.hasCallback = engine.hasCallback) (hevent : event.eventType ≠ .join) :
    engine.noted ≤ (changed.notify event).noted ∧
      (engine.hasCallback = true → (changed.notify event).noted ≠ engine.noted) := by
  rw [noted_notify, hnoted, hcallback]
  refine ⟨Nat.le_add_right _ _, fun hset => ?_⟩
  rw [if_pos ⟨hset, hevent⟩]
  exact Nat.succ_ne_self _

theorem noted_push (engine : GossipEngine) (update : GossipMemberUpdate) :
    (engine.updateQueuePush update).noted =
      engine.noted + if engine.updateQueue.toList.length = maxUpdateQueue then 0 else 1 := by
  have hpushed := engine.updateQueuePush_take update
  have hevents : (engine.updateQueuePush update).events = engine.events := by
    unfold GossipEngine.updateQueuePush
    split <;> rfl
  have hle := engine.updateQueue.toList_length_le
  rw [GossipEngine.noted, GossipEngine.noted, hpushed, hevents, List.length_take,
    List.length_append, List.length_singleton]
  split_ifs <;> omega

theorem statusEvent_ne_join (h : statusEvent status = some eventType) : eventType ≠ .join := by
  rintro rfl
  cases status <;> cases h

theorem handleAckUpdate_noted (now : UInt64) (engine : GossipEngine)
    (update : GossipMemberUpdate) : (handleAckUpdate now engine update).noted = engine.noted := by
  unfold handleAckUpdate
  split
  · rw [noted_join]
    rfl
  · split_ifs <;> rfl

/-- A PING notes no less, and no more only where an ACK does the same. -/
theorem handlePingUpdate_noted (now : UInt64) (engine : GossipEngine)
    (update : GossipMemberUpdate) :
    engine.noted ≤ (handlePingUpdate now engine update).noted ∧
      (engine.hasCallback = true →
        (handlePingUpdate now engine update).noted = engine.noted →
          TreatedAlike engine update) := by
  unfold handlePingUpdate TreatedAlike
  cases hget : clusterViewGet engine.view update.nodeId with
  | none =>
    have hadded : ((engine.addMember now (update.toMember now update.status)).notify
        (update.event .join)).noted = engine.noted := noted_join _ update
    dsimp only
    rw [noted_push, hadded, GossipEngine.notify_updateQueue]
    refine ⟨Nat.le_add_right _ _, fun _ hsame => ?_⟩
    split_ifs at hsame with hfull
    · exact hfull
    · exact absurd hsame (Nat.succ_ne_self _)
  | some existing =>
    dsimp only
    split_ifs with hrejoin hnew hchanged
    · have hevent : (update.event .update).eventType ≠ .join := by
        simp [GossipMemberUpdate.event]
      obtain ⟨hle, hne⟩ := noted_news (engine.addMember now (update.toMember now .alive)) rfl rfl
        hevent
      exact ⟨hle, fun hcallback hsame => absurd hsame (hne hcallback)⟩
    · have hfirst : ¬(existing.status = .dead ∧ update.status = .alive) :=
        fun h => hrejoin ⟨h, hnew⟩
      cases hevent : statusEvent update.status with
      | none => exact ⟨Nat.le_refl _, fun _ _ _ => ⟨hfirst, fun _ _ => rfl⟩⟩
      | some eventType =>
        have hevent' : (update.event eventType).eventType ≠ .join := statusEvent_ne_join hevent
        obtain ⟨hle, hne⟩ := noted_news
          (engine.updateStatus now update.nodeId update.status update.incarnation) rfl rfl hevent'
        exact ⟨hle, fun hcallback hsame => absurd hsame (hne hcallback)⟩
    · exact ⟨Nat.le_refl _, fun _ _ _ =>
        ⟨fun h => hrejoin ⟨h, hnew⟩, fun _ h => absurd h hchanged⟩⟩
    · exact ⟨Nat.le_refl _, fun _ _ h => absurd h hnew⟩

end Noted

-- ----------------------------------------------------------------------------
-- The message
-- ----------------------------------------------------------------------------

theorem foldl_hasCallback {handle : GossipEngine → GossipMemberUpdate → GossipEngine}
    (hbase : ∀ engine update, (handle engine update).base = engine.base)
    (updates : List GossipMemberUpdate) (engine : GossipEngine) :
    (updates.foldl handle engine).hasCallback = engine.hasCallback := by
  induction updates generalizing engine with
  | nil => rfl
  | cons update rest ih =>
    rw [List.foldl_cons, ih]
    exact (congrArg GossipEngine.hasCallback (hbase engine update) :)

theorem handleAll_same_iff {a b : GossipEngine} (h : SameOutcome a b)
    (hcallback : a.hasCallback = b.hasCallback) (now : UInt64)
    (updates : List GossipMemberUpdate) :
    (∀ i, SameOutcome ((updates.take i).foldl (handlePingUpdate now) a)
        ((updates.take i).foldl (handleAckUpdate now) b)) ↔
      Runs.Meets (handlePingUpdate now) TreatedAlike a updates := by
  have hstep : ∀ (a b : GossipEngine) (update : GossipMemberUpdate),
      SameOutcome a b ∧ a.hasCallback = b.hasCallback →
        ((SameOutcome (handlePingUpdate now a update) (handleAckUpdate now b update) ∧
          (handlePingUpdate now a update).hasCallback =
            (handleAckUpdate now b update).hasCallback) ↔ TreatedAlike a update) := by
    rintro a b update ⟨hsame, hcallback⟩
    rw [← handleUpdates_same_iff hsame hcallback now update]
    refine and_iff_left ?_
    have hping := foldl_hasCallback (handlePingUpdate_base now) [update] a
    have hack := foldl_hasCallback (handleAckUpdate_base now) [update] b
    exact hping.trans (hcallback.trans hack.symm)
  rw [← Runs.side_by_side_iff hstep ⟨h, hcallback⟩]
  refine forall_congr' fun i => (and_iff_left ?_).symm
  exact (foldl_hasCallback (handlePingUpdate_base now) _ a).trans
    (hcallback.trans (foldl_hasCallback (handleAckUpdate_base now) _ b).symm)

theorem meets_of_same {a b : GossipEngine} (h : SameOutcome a b) (hcallback : a.hasCallback = true)
    (now : UInt64) {updates : List GossipMemberUpdate}
    (hsame : SameOutcome (updates.foldl (handlePingUpdate now) a)
      (updates.foldl (handleAckUpdate now) b)) :
    Runs.Meets (handlePingUpdate now) TreatedAlike a updates := by
  have hack : (updates.foldl (handleAckUpdate now) b).noted = b.noted :=
    List.foldlRecOn (motive := fun later => later.noted = b.noted) updates _ rfl
      fun later hlater update _ => (handleAckUpdate_noted now later update).trans hlater
  refine Runs.meets_of_unraised GossipEngine.noted (P := fun engine => engine.hasCallback = true)
    (fun engine update hset => ?_)
    (fun engine update => (handlePingUpdate_noted now engine update).1)
    (fun engine update => (handlePingUpdate_noted now engine update).2) hcallback ?_
  · exact (foldl_hasCallback (handlePingUpdate_base now) [update] engine).trans hset
  · exact hsame.noted_eq.trans (hack.trans h.noted_eq.symm)

def GossipMessage.first (count : UInt8) (msg : GossipMessage) : GossipMessage :=
  { msg with numUpdates := count }

theorem readUpdates_first (past : Nat → GossipMemberUpdate) {msg : GossipMessage}
    (hcount : count ≤ msg.numUpdates) :
    (msg.first count).readUpdates past = (msg.readUpdates past).take count.toNat := by
  have hmin : min count.toNat msg.numUpdates.toNat = count.toNat :=
    Nat.min_eq_left (UInt8.le_iff_toNat_le.mp hcount)
  unfold GossipMessage.readUpdates
  rw [← List.map_take, List.take_range, hmin]
  rfl

theorem sameOutcome_removePendingAck (engine : GossipEngine) (senderId : NodeId) :
    SameOutcome engine (removePendingAck engine senderId) ∧
      engine.hasCallback = (removePendingAck engine senderId).hasCallback := by
  unfold removePendingAck
  split <;> exact ⟨⟨⟨rfl, rfl⟩, rfl, rfl⟩, rfl⟩

theorem recoverSender_of_not_suspect (now : UInt64)
    (hsender : ∀ member, clusterViewGet engine.view senderId = some member →
      member.status ≠ .suspect) : recoverSender now engine senderId = engine := by
  unfold recoverSender
  cases hget : clusterViewGet engine.view senderId with
  | none => rfl
  | some member => exact if_neg (hsender member hget)

section Messages

variable {engine : GossipEngine} {msg : GossipMessage}

theorem handleMessages_same_iff (now : UInt64) (past : Nat → GossipMemberUpdate)
    (hsender : ∀ member, clusterViewGet engine.view msg.senderId = some member →
      member.status ≠ .suspect) :
    SameOutcome (handlePingMessage now past engine msg).1 (handleAckMessage now past engine msg) ↔
      SameOutcome ((msg.readUpdates past).foldl (handlePingUpdate now) engine)
        ((msg.readUpdates past).foldl (handleAckUpdate now)
          (removePendingAck engine msg.senderId)) := by
  have hrecovered : recoverSender now (removePendingAck engine msg.senderId) msg.senderId =
      removePendingAck engine msg.senderId :=
    recoverSender_of_not_suspect now (by simpa using hsender)
  rw [← hrecovered]
  exact ⟨fun h => ⟨h.view, h.queue, h.events⟩, fun h => ⟨h.view, h.queue, h.events⟩⟩

theorem firstUpdates_same_iff (now : UInt64) (past : Nat → GossipMemberUpdate)
    (hsender : ∀ member, clusterViewGet engine.view msg.senderId = some member →
      member.status ≠ .suspect) :
    (∀ count ≤ msg.numUpdates,
      SameOutcome (handlePingMessage now past engine (msg.first count)).1
        (handleAckMessage now past engine (msg.first count))) ↔
      Runs.Meets (handlePingUpdate now) TreatedAlike engine (msg.readUpdates past) := by
  obtain ⟨hsame, hcallback⟩ := sameOutcome_removePendingAck engine msg.senderId
  have hhandled : ∀ count ≤ msg.numUpdates,
      (SameOutcome (handlePingMessage now past engine (msg.first count)).1
        (handleAckMessage now past engine (msg.first count)) ↔
      SameOutcome (((msg.readUpdates past).take count.toNat).foldl (handlePingUpdate now) engine)
        (((msg.readUpdates past).take count.toNat).foldl (handleAckUpdate now)
          (removePendingAck engine msg.senderId))) := by
    intro count hcount
    rw [← readUpdates_first past hcount]
    exact handleMessages_same_iff now past hsender
  rw [← handleAll_same_iff hsame hcallback now, forall₂_congr hhandled]
  have hlength : (msg.readUpdates past).length = msg.numUpdates.toNat := by
    simp [GossipMessage.readUpdates]
  constructor
  · intro h i
    by_cases hi : i < msg.numUpdates.toNat
    · have hlt : i < 256 := hi.trans (UInt8.toNat_lt _)
      have hcount : (UInt8.ofNat i).toNat = i := UInt8.toNat_ofNat_of_lt' hlt
      have hle : UInt8.ofNat i ≤ msg.numUpdates := by
        rw [UInt8.le_iff_toNat_le, hcount]
        exact Nat.le_of_lt hi
      simpa only [hcount] using h _ hle
    · have hall := h msg.numUpdates (UInt8.le_refl _)
      rw [← hlength, List.take_length] at hall
      rwa [List.take_of_length_le (hlength ▸ Nat.not_lt.mp hi)]
  · exact fun h count _ => h count.toNat

end Messages

/-- However many of its updates have been handled, an ACK has done what a PING
does, exactly if every update is one that the two handlers take alike. With a
callback it is enough to compare what the whole messages have done. -/
theorem ackUpdates_sameOutcome_iff (now : UInt64) (past : Nat → GossipMemberUpdate)
    (engine : GossipEngine) (msg : GossipMessage)
    (hsender : ∀ member, clusterViewGet engine.view msg.senderId = some member →
      member.status ≠ .suspect) :
    ((∀ count ≤ msg.numUpdates,
      SameOutcome (handlePingMessage now past engine (msg.first count)).1
        (handleAckMessage now past engine (msg.first count))) ↔
      Runs.Meets (handlePingUpdate now) TreatedAlike engine (msg.readUpdates past)) ∧
    (engine.hasCallback = true →
      (SameOutcome (handlePingMessage now past engine msg).1
          (handleAckMessage now past engine msg) ↔
        Runs.Meets (handlePingUpdate now) TreatedAlike engine (msg.readUpdates past))) := by
  refine ⟨firstUpdates_same_iff now past hsender, fun hcallback => ⟨fun hsame => ?_, ?_⟩⟩
  · have hstart := (sameOutcome_removePendingAck engine msg.senderId).1
    exact meets_of_same hstart hcallback now ((handleMessages_same_iff now past hsender).mp hsame)
  · intro hmeets
    exact (firstUpdates_same_iff now past hsender).mpr hmeets msg.numUpdates (UInt8.le_refl _)

def listeningEngine : GossipEngine :=
  let view : ClusterView := {
    members := [⟨1, .router, [], 0, 0, .alive, 0, 0⟩, ⟨2, .worker, [], 0, 0, .dead, 0, 0⟩]
    capacity := maxClusterNodes
    nodup := by decide
    length_le := by decide }
  { gossipEngineInit 1 .router [] 0 0 gossipDefaultConfig view with hasCallback := true }

def newsMessage : GossipMessage where
  version := 1
  msgType := gossipMsgAck
  flags := 0
  senderId := 3
  sequenceNum := 0
  numUpdates := 2
  updates := [⟨3, .worker, [], 0, 0, .alive, 0, 0⟩, ⟨2, .worker, [], 0, 0, .alive, 1, 0⟩]

def nothingPast : Nat → GossipMemberUpdate := fun _ => .zero

theorem ackUpdates_sameOutcome_iff_news :
    ((∀ count ≤ newsMessage.numUpdates,
      SameOutcome (handlePingMessage 0 nothingPast listeningEngine (newsMessage.first count)).1
        (handleAckMessage 0 nothingPast listeningEngine (newsMessage.first count))) ↔
      Runs.Meets (handlePingUpdate 0) TreatedAlike listeningEngine
        (newsMessage.readUpdates nothingPast)) ∧
    (SameOutcome (handlePingMessage 0 nothingPast listeningEngine newsMessage).1
        (handleAckMessage 0 nothingPast listeningEngine newsMessage) ↔
      Runs.Meets (handlePingUpdate 0) TreatedAlike listeningEngine
        (newsMessage.readUpdates nothingPast)) := by
  refine (ackUpdates_sameOutcome_iff 0 nothingPast listeningEngine newsMessage ?_).imp_right
    fun hwhole => hwhole rfl
  have hunknown : clusterViewGet listeningEngine.view newsMessage.senderId = none := by decide
  intro member hmember
  rw [hunknown] at hmember
  cases hmember

/-- Neither the view nor the queue nor the events are the same. -/
theorem ackUpdates_differ :
    let ping := (handlePingMessage 0 nothingPast listeningEngine newsMessage).1
    let ack := handleAckMessage 0 nothingPast listeningEngine newsMessage
    clusterViewGet listeningEngine.view newsMessage.senderId = none ∧
      (∀ update ∈ newsMessage.updates, update.nodeId ≠ listeningEngine.myId) ∧
      ¬ SameView ping.view ack.view ∧ ping.updateQueue.toList ≠ ack.updateQueue.toList ∧
      ping.events ≠ ack.events := by
  intro ping ack
  have hmembers : ping.view.members.map ClusterMember.unseen ≠
      ack.view.members.map ClusterMember.unseen := by decide +kernel
  refine ⟨by decide, by decide, fun hsame => hmembers hsame.members, ?_, ?_⟩
  · decide +kernel
  · decide +kernel

end Roole
