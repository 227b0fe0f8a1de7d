import Roole.Gossip.TurnEffects

/-!
# Membership events

A JOIN should be raised when a node enters the view and a LEAVE when its entry
becomes DEAD. The handlers raise them next to their calls on the view, without
looking at what the call did, or not at all; the turns that get it right are
told apart by the state they start from.
-/

namespace Roole

def GossipEngine.raised (before after : GossipEngine) : List MemberEvent :=
  after.events.drop before.events.length

def Raised (eventType : MemberEventType) (nodeId : NodeId) (before after : GossipEngine) : Prop :=
  ∃ event ∈ before.raised after, event.nodeId = nodeId ∧ event.eventType = eventType

def Inserted (nodeId : NodeId) (before after : GossipEngine) : Prop :=
  clusterViewGet before.view nodeId = none ∧
    ∃ entry, clusterViewGet after.view nodeId = some entry

def Died (nodeId : NodeId) (before after : GossipEngine) : Prop :=
  ∃ old entry, clusterViewGet before.view nodeId = some old ∧ old.status ≠ .dead ∧
    clusterViewGet after.view nodeId = some entry ∧ entry.status = .dead

/-- The step has raised LEAVE and JOIN exactly for the nodes that died and
that were inserted in it. -/
structure Faithful (before after : GossipEngine) : Prop where
  leave : ∀ nodeId, Raised .leave nodeId before after ↔ Died nodeId before after
  join : ∀ nodeId, Raised .join nodeId before after ↔ Inserted nodeId before after

/-- An ACK raises JOIN for an unknown node and nothing for a known one. -/
def AckAnnounces (engine : GossipEngine) (update : GossipMemberUpdate) : Prop :=
  match clusterViewGet engine.view update.nodeId with
  | none => engine.view.members.length < engine.view.capacity
  | some existing => existing.incarnation < update.incarnation → update.status = .dead →
      existing.status = .dead

/-- The turns that raise what they should. -/
def AnnouncesRightly (engine : GossipEngine) : TimedTurn → Prop
  | (_, .pingUpdate update) => clusterViewGet engine.view update.nodeId = none →
      engine.view.members.length < engine.view.capacity
  | (_, .ackUpdate update) => AckAnnounces engine update
  | (_, .deadUpdate update) =>
    ∀ existing, clusterViewGet engine.view update.nodeId = some existing →
      existing.status ≠ .dead ∧ existing.incarnation ≤ update.incarnation
  | (_, .join _ update) => clusterViewGet engine.view update.nodeId = none ∧
      engine.view.members.length < engine.view.capacity
  | (_, .workerJoin _ senderId update) => (rejoinState engine senderId).1 = false ↔
      clusterViewGet engine.view update.nodeId = none ∧
        engine.view.members.length < engine.view.capacity
  | (_, .leave senderId sequenceNum) => ∀ existing,
      clusterViewGet engine.view senderId = some existing → existing.incarnation ≤ sequenceNum →
        existing.status = .dead
  | (_, .announceJoin) => clusterViewGet engine.view engine.myId = none →
      engine.view.capacity ≤ engine.view.members.length
  | _ => True

-- ----------------------------------------------------------------------------
-- What a call changes and what an effect announces
-- ----------------------------------------------------------------------------

def ViewCall.transition (now : UInt64) (view : ClusterView) (call : ViewCall) :
    Option (NodeId × MemberEventType) :=
  match call.written now view with
  | none => none
  | some entry =>
    match clusterViewGet view entry.nodeId with
    | none => some (entry.nodeId, .join)
    | some old =>
      if old.status ≠ .dead ∧ entry.status = .dead then some (entry.nodeId, .leave) else none

def TurnEffect.announced (effect : TurnEffect) : Option (NodeId × MemberEventType) :=
  match effect.event with
  | none => none
  | some event =>
    if event.eventType = .join ∨ event.eventType = .leave then some (event.nodeId, event.eventType)
    else none

section Effects

variable {now : UInt64} {before after : GossipEngine} {effect : TurnEffect} {nodeId : NodeId}
  {eventType : MemberEventType}

theorem raised_iff (h : Does now effect before after) (hcallback : before.hasCallback = true)
    (htype : eventType = .join ∨ eventType = .leave) :
    Raised eventType nodeId before after ↔ effect.announced = some (nodeId, eventType) := by
  unfold Raised GossipEngine.raised TurnEffect.announced
  rw [h.events, List.drop_left, hcallback]
  cases effect.event with
  | none => simp
  | some event =>
    simp only [if_true, Option.toList_some, List.mem_singleton, exists_eq_left]
    split_ifs with hannounced
    · simp
    · refine iff_of_false ?_ (by simp)
      rintro ⟨-, rfl⟩
      exact hannounced htype

theorem transition_nodeId {call : ViewCall} {view : ClusterView} {entry : ClusterMember}
    (hwritten : call.written now view = some entry)
    (h : call.transition now view = some (nodeId, eventType)) : nodeId = entry.nodeId := by
  unfold ViewCall.transition at h
  simp only [hwritten] at h
  cases hget : clusterViewGet view entry.nodeId with
  | none =>
    simp only [hget] at h
    cases h
    rfl
  | some old =>
    simp only [hget] at h
    split_ifs at h
    cases h
    rfl

theorem transition_iff {R : Option ClusterMember → Option ClusterMember → Prop}
    (h : Does now effect before after) (hkept : ∀ found, ¬ R found found)
    (hchanged : ∀ entry, effect.call.written now before.view = some entry →
      (R (clusterViewGet before.view entry.nodeId) (some entry) ↔
        effect.call.transition now before.view = some (entry.nodeId, eventType))) :
    R (clusterViewGet before.view nodeId) (clusterViewGet after.view nodeId) ↔
      effect.call.transition now before.view = some (nodeId, eventType) := by
  rw [h.view]
  cases hwritten : effect.call.written now before.view with
  | none =>
    rw [clusterViewGet_apply_none hwritten]
    exact iff_of_false (hkept _) (by simp [ViewCall.transition, hwritten])
  | some entry =>
    rw [clusterViewGet_apply_some hwritten]
    by_cases hid : nodeId = entry.nodeId
    · subst hid
      rw [if_pos rfl]
      exact hchanged entry hwritten
    · rw [if_neg hid]
      exact iff_of_false (hkept _) fun htransition => hid (transition_nodeId hwritten htransition)

theorem inserted_iff (h : Does now effect before after) :
    Inserted nodeId before after ↔
      effect.call.transition now before.view = some (nodeId, .join) := by
  refine transition_iff (R := fun old new => old = none ∧ ∃ entry, new = some entry) h ?_ ?_
  · rintro _ ⟨rfl, entry, hentry⟩
    cases hentry
  · intro entry hwritten
    simp only [ViewCall.transition, hwritten]
    cases clusterViewGet before.view entry.nodeId <;> simp

theorem died_iff (h : Does now effect before after) :
    Died nodeId before after ↔
      effect.call.transition now before.view = some (nodeId, .leave) := by
  refine transition_iff (R := fun old new => ∃ existing entry, old = some existing ∧
    existing.status ≠ .dead ∧ new = some entry ∧ entry.status = .dead) h ?_ ?_
  · rintro _ ⟨existing, entry, rfl, hnot, hsame, hdead⟩
    cases hsame
    exact hnot hdead
  · intro entry hwritten
    simp only [ViewCall.transition, hwritten]
    cases clusterViewGet before.view entry.nodeId <;> simp

theorem transition_type {call : ViewCall} {view : ClusterView}
    (h : call.transition now view = some (nodeId, eventType)) :
    eventType = .join ∨ eventType = .leave := by
  unfold ViewCall.transition at h
  split at h
  · cases h
  · split at h
    · cases h
      exact .inl rfl
    · split_ifs at h
      cases h
      exact .inr rfl

theorem announced_type (h : effect.announced = some (nodeId, eventType)) :
    eventType = .join ∨ eventType = .leave := by
  unfold TurnEffect.announced at h
  split at h
  · cases h
  · split_ifs at h with htype
    cases h
    exact htype

theorem faithful_iff (h : Does now effect before after) (hcallback : before.hasCallback = true) :
    Faithful before after ↔ effect.announced = effect.call.transition now before.view := by
  constructor
  · intro hfaithful
    refine Option.ext fun ⟨nodeId, eventType⟩ => ?_
    have hboth : eventType = .join ∨ eventType = .leave →
        (effect.announced = some (nodeId, eventType) ↔
          effect.call.transition now before.view = some (nodeId, eventType)) := by
      rintro (rfl | rfl)
      · rw [← raised_iff h hcallback (.inl rfl), ← inserted_iff h]
        exact hfaithful.join nodeId
      · rw [← raised_iff h hcallback (.inr rfl), ← died_iff h]
        exact hfaithful.leave nodeId
    exact ⟨fun hannounced => (hboth (announced_type hannounced)).mp hannounced,
      fun htransition => (hboth (transition_type htransition)).mpr htransition⟩
  · intro heq
    constructor
    · intro nodeId
      rw [raised_iff h hcallback (.inr rfl), died_iff h, heq]
    · intro nodeId
      rw [raised_iff h hcallback (.inl rfl), inserted_iff h, heq]

end Effects

-- ----------------------------------------------------------------------------
-- The turns
-- ----------------------------------------------------------------------------

def TurnEffect.Right (now : UInt64) (view : ClusterView) (effect : TurnEffect) : Prop :=
  effect.announced = effect.call.transition now view

section Turns

variable {now : UInt64} {engine : GossipEngine} {update : GossipMemberUpdate}
  {existing : ClusterMember} {view : ClusterView} {nodeId : NodeId} {incarnation : UInt64}

theorem right_nothing : TurnEffect.nothing.Right now view := rfl

theorem transition_updateStatus (now : UInt64) (status : NodeStatus)
    (hget : clusterViewGet view nodeId = some existing) :
    (ViewCall.updateStatus nodeId status incarnation).transition now view =
      if existing.incarnation ≤ incarnation ∧ existing.status ≠ .dead ∧ status = .dead then
        some (nodeId, .leave) else none := by
  have hid := clusterViewGet_nodeId hget
  by_cases hle : existing.incarnation ≤ incarnation
  · simp [ViewCall.transition, ViewCall.written, hget, hle, hid, ClusterMember.setStatus]
  · simp [ViewCall.transition, ViewCall.written, hget, hle]

theorem transition_updateStatus_none
    (hget : clusterViewGet view nodeId = none) :
    (ViewCall.updateStatus nodeId status incarnation).transition now view = none := by
  simp [ViewCall.transition, ViewCall.written, hget]

theorem transition_add {member : ClusterMember}
    (halive : member.status = .alive ∨ clusterViewGet view member.nodeId = none) :
    (ViewCall.add member).transition now view =
      if clusterViewGet view member.nodeId = none ∧ view.members.length < view.capacity then
        some (member.nodeId, .join) else none := by
  cases hget : clusterViewGet view member.nodeId with
  | none =>
    by_cases hroom : view.members.length < view.capacity
    · simp [ViewCall.transition, ViewCall.written, hget, hroom]
    · simp [ViewCall.transition, ViewCall.written, hget, hroom]
  | some existing =>
    have hstatus : member.status = .alive := by
      rcases halive with halive | hnone
      · exact halive
      · cases hnone.symm.trans hget
    simp only [ViewCall.transition, ViewCall.written, hget]
    split_ifs <;> simp_all

theorem statusChangeEvent_announced (call : ViewCall) (update : GossipMemberUpdate)
    (existing : ClusterMember) (queued : Option (Nat × GossipMemberUpdate)) :
    TurnEffect.announced ⟨call, statusChangeEvent update existing, queued⟩ =
      if existing.status ≠ .dead ∧ update.status = .dead then some (update.nodeId, .leave)
      else none := by
  unfold TurnEffect.announced statusChangeEvent
  by_cases hchanged : update.status = existing.status
  · simp +contextual [hchanged]
  · cases hstatus : update.status with
    | dead =>
      rw [hstatus] at hchanged
      simp [statusEvent, GossipMemberUpdate.event, Ne.symm hchanged, hchanged]
    | _ =>
      rw [hstatus] at hchanged
      simp [statusEvent, GossipMemberUpdate.event, hchanged]

theorem right_pingUpdate (now : UInt64) (engine : GossipEngine) (update : GossipMemberUpdate) :
    (TurnEffect.ofPingUpdate now engine update).Right now engine.view ↔
      (clusterViewGet engine.view update.nodeId = none →
        engine.view.members.length < engine.view.capacity) := by
  unfold TurnEffect.Right TurnEffect.ofPingUpdate
  cases hget : clusterViewGet engine.view update.nodeId with
  | none =>
    dsimp only
    rw [transition_add (.inr hget)]
    simp [TurnEffect.announced, GossipMemberUpdate.event, GossipMemberUpdate.toMember, hget]
  | some existing =>
    dsimp only
    refine iff_of_true ?_ (by simp)
    split_ifs with hrejoin hnewer
    · rw [transition_add (.inl rfl)]
      simp [TurnEffect.announced, GossipMemberUpdate.event, GossipMemberUpdate.toMember, hget]
    · rw [statusChangeEvent_announced, transition_updateStatus now _ hget]
      simp [UInt64.le_of_lt hnewer]
    · rfl

theorem right_ackUpdate (now : UInt64) (engine : GossipEngine) (update : GossipMemberUpdate) :
    (TurnEffect.ofAckUpdate now engine update).Right now engine.view ↔
      AckAnnounces engine update := by
  unfold TurnEffect.Right TurnEffect.ofAckUpdate AckAnnounces
  cases hget : clusterViewGet engine.view update.nodeId with
  | none =>
    dsimp only
    rw [transition_add (.inr hget)]
    simp [TurnEffect.announced, GossipMemberUpdate.event, GossipMemberUpdate.toMember, hget]
  | some existing =>
    dsimp only
    split_ifs with hnewer
    · rw [transition_updateStatus now _ hget]
      simp only [TurnEffect.announced, UInt64.le_of_lt hnewer, hnewer, true_and, forall_const,
        eq_ite_iff, reduceCtorEq, and_false, and_true, false_or, not_and]
      tauto
    · exact iff_of_true rfl fun hnew => absurd hnew hnewer

theorem right_updateStatus {queued : Option (Nat × GossipMemberUpdate)} (hstatus : status ≠ .dead) :
    TurnEffect.Right now view ⟨.updateStatus nodeId status incarnation, none, queued⟩ := by
  unfold TurnEffect.Right
  cases hget : clusterViewGet view nodeId with
  | none =>
    rw [transition_updateStatus_none hget]
    rfl
  | some existing =>
    rw [transition_updateStatus now status hget, if_neg fun h => hstatus h.2.2]
    rfl

theorem right_ackSender (engine : GossipEngine) (senderId : NodeId) :
    (TurnEffect.ofAckSender engine senderId).Right now engine.view := by
  unfold TurnEffect.ofAckSender
  split
  · split_ifs
    · exact right_updateStatus (by simp)
    · rfl
  · rfl

theorem right_suspectUpdate (engine : GossipEngine) (update : GossipMemberUpdate) :
    (TurnEffect.ofSuspectUpdate now engine update).Right now engine.view := by
  unfold TurnEffect.ofSuspectUpdate
  split_ifs
  · rfl
  · split
    · split_ifs
      · exact right_updateStatus (by simp)
      · rfl
    · rfl
  · rfl

theorem right_aliveUpdate (engine : GossipEngine) (update : GossipMemberUpdate) :
    (TurnEffect.ofAliveUpdate engine update).Right now engine.view := by
  unfold TurnEffect.ofAliveUpdate
  split
  · split_ifs
    · exact right_updateStatus (by simp)
    · rfl
  · rfl

theorem right_checkAck (engine : GossipEngine) (i : Nat) :
    (TurnEffect.ofCheckAck now engine i).Right now engine.view := by
  unfold TurnEffect.ofCheckAck
  split
  · rfl
  · dsimp only
    split_ifs
    · exact right_updateStatus (by simp)
    · rfl
    · rfl

theorem right_checkSuspect (engine : GossipEngine) (i : Nat) :
    (TurnEffect.ofCheckSuspect now engine i).Right now engine.view := by
  unfold TurnEffect.ofCheckSuspect
  split
  · rfl
  · rename_i member hmember
    split_ifs with hover
    · unfold TurnEffect.Right
      rw [transition_updateStatus now _ (clusterViewGet_of_mem (List.mem_of_getElem? hmember))]
      simp [TurnEffect.announced, hover.1]
    · rfl

theorem right_deadUpdate (engine : GossipEngine) (update : GossipMemberUpdate) :
    (TurnEffect.ofDeadUpdate engine update).Right now engine.view ↔
      ∀ existing, clusterViewGet engine.view update.nodeId = some existing →
        existing.status ≠ .dead ∧ existing.incarnation ≤ update.incarnation := by
  unfold TurnEffect.Right TurnEffect.ofDeadUpdate
  cases hget : clusterViewGet engine.view update.nodeId with
  | none => exact iff_of_true rfl (by simp)
  | some existing =>
    dsimp only
    rw [transition_updateStatus now _ hget]
    simp [TurnEffect.announced, and_comm]

theorem some_eq_ite_iff {condition : Prop} [Decidable condition] (a : α) :
    some a = (if condition then some a else none) ↔ condition := by
  split_ifs with h <;> simp [h]

theorem none_eq_ite_iff {condition : Prop} [Decidable condition] (a : α) :
    none = (if condition then some a else none) ↔ ¬ condition := by
  split_ifs with h <;> simp [h]

theorem right_join (srcIp : List UInt8) (update : GossipMemberUpdate) :
    (TurnEffect.ofJoin srcIp update).Right now view ↔
      clusterViewGet view update.nodeId = none ∧ view.members.length < view.capacity := by
  unfold TurnEffect.Right TurnEffect.ofJoin
  dsimp only
  rw [transition_add (.inl rfl)]
  exact some_eq_ite_iff _

theorem right_workerJoin (now : UInt64) (srcIp : List UInt8) (engine : GossipEngine)
    (senderId : NodeId) (update : GossipMemberUpdate) :
    (TurnEffect.ofWorkerJoin now srcIp engine senderId update).Right now engine.view ↔
      ((rejoinState engine senderId).1 = false ↔ clusterViewGet engine.view update.nodeId = none ∧
        engine.view.members.length < engine.view.capacity) := by
  unfold TurnEffect.Right TurnEffect.ofWorkerJoin
  dsimp only
  rw [transition_add (.inl rfl)]
  cases (rejoinState engine senderId).1 with
  | true => exact (none_eq_ite_iff _).trans (by simp [GossipMemberUpdate.joined])
  | false => exact (some_eq_ite_iff _).trans (by simp [GossipMemberUpdate.joined])

theorem right_leave (now : UInt64) (view : ClusterView) (senderId : NodeId)
    (sequenceNum : UInt64) :
    TurnEffect.Right now view ⟨.updateStatus senderId .dead sequenceNum, none, none⟩ ↔
      ∀ existing, clusterViewGet view senderId = some existing →
        existing.incarnation ≤ sequenceNum → existing.status = .dead := by
  unfold TurnEffect.Right
  dsimp only
  cases hget : clusterViewGet view senderId with
  | none =>
    rw [transition_updateStatus_none hget]
    exact iff_of_true rfl (by simp)
  | some existing =>
    rw [transition_updateStatus now _ hget]
    simp [TurnEffect.announced]

theorem right_updateSelf (now : UInt64) (view : ClusterView) (myId : NodeId)
    (incarnation : UInt64) :
    TurnEffect.Right now view ⟨.refresh myId incarnation, none, none⟩ := by
  unfold TurnEffect.Right ViewCall.transition
  cases hget : clusterViewGet view myId with
  | none => simp [ViewCall.written, hget, TurnEffect.announced]
  | some self =>
    simp [ViewCall.written, hget, TurnEffect.announced, ClusterMember.refresh,
      clusterViewGet_nodeId hget]

theorem right_announceJoin (now : UInt64) (engine : GossipEngine)
    (queued : Option (Nat × GossipMemberUpdate)) :
    TurnEffect.Right now engine.view ⟨.add (engine.selfEntry now), none, queued⟩ ↔
      (clusterViewGet engine.view engine.myId = none →
        engine.view.capacity ≤ engine.view.members.length) := by
  unfold TurnEffect.Right
  rw [transition_add (.inl rfl)]
  exact (none_eq_ite_iff _).trans (by simp [GossipEngine.selfEntry])

theorem turn_faithful_iff (hcallback : engine.hasCallback = true) (turn : TimedTurn) :
    Faithful engine (engine.turn turn) ↔ AnnouncesRightly engine turn := by
  rw [faithful_iff (turn_does engine turn) hcallback]
  obtain ⟨now, turn⟩ := turn
  cases turn with
  | pingUpdate update => exact right_pingUpdate now engine update
  | ackSender senderId => exact iff_of_true (right_ackSender engine senderId) trivial
  | ackUpdate update => exact right_ackUpdate now engine update
  | suspectUpdate update => exact iff_of_true (right_suspectUpdate engine update) trivial
  | aliveUpdate update => exact iff_of_true (right_aliveUpdate engine update) trivial
  | deadUpdate update => exact right_deadUpdate engine update
  | join srcIp update => exact right_join srcIp update
  | workerJoin srcIp senderId update => exact right_workerJoin now srcIp engine senderId update
  | leave senderId sequenceNum => exact right_leave now engine.view senderId sequenceNum
  | updateSelf => exact iff_of_true (right_updateSelf now _ _ _) trivial
  | checkAck i => exact iff_of_true (right_checkAck engine i) trivial
  | checkSuspect i => exact iff_of_true (right_checkSuspect engine i) trivial
  | announceJoin => exact right_announceJoin now engine _
  | numbered => exact iff_of_true right_nothing trivial
  | ping random sent => exact iff_of_true right_nothing trivial
  | gossip rand => exact iff_of_true right_nothing trivial
  | setCallback => exact iff_of_true right_nothing trivial

end Turns

-- ----------------------------------------------------------------------------
-- Runs
-- ----------------------------------------------------------------------------

/-- In a run of an engine that has a callback, every turn raises JOIN and LEAVE
for what it does exactly when every turn is one that does. -/
theorem events_faithful_iff {engine : GossipEngine} (hcallback : engine.hasCallback = true)
    (turns : List TimedTurn) :
    (∀ i < turns.length, Faithful (engine.before turns i) (engine.before turns (i + 1))) ↔
        Runs.Meets GossipEngine.turn AnnouncesRightly engine turns :=
  Runs.steps_iff_meets (P := fun engine => engine.hasCallback = true) (Q := Faithful)
    (fun engine turn => (turn_does engine turn).callback)
    (fun _ turn hcallback => turn_faithful_iff hcallback turn) hcallback turns

def notifiedRouter : GossipEngine :=
  firstRouter.run [.setCallback, arrival (messageOf 3 gossipMsgPing [newsOf 2 .alive 5])]

def changingNews : List TimedTurn :=
  [(0, .pingUpdate (newsOf 4 .alive 1)), (0, .deadUpdate (newsOf 4 .dead 1)),
    (0, .pingUpdate (newsOf 2 .alive 5))]

theorem events_faithful_notified :
    (Raised .join 4 (notifiedRouter.before changingNews 0) (notifiedRouter.before changingNews 1) ∧
      Raised .leave 4 (notifiedRouter.before changingNews 1)
        (notifiedRouter.before changingNews 2)) ∧
    ((∀ i < 3, Faithful (notifiedRouter.before changingNews i)
        (notifiedRouter.before changingNews (i + 1))) ↔
      Runs.Meets GossipEngine.turn AnnouncesRightly notifiedRouter changingNews) := by
  refine ⟨⟨?_, ?_⟩, events_faithful_iff (by decide +kernel) changingNews⟩
  · exact ⟨⟨4, .unknown, [], 0, .join⟩, by decide +kernel, rfl, rfl⟩
  · exact ⟨⟨4, .unknown, [], 0, .leave⟩, by decide +kernel, rfl, rfl⟩

/-- An outdated DEAD raises a LEAVE for a node that stays ALIVE, and the LEAVE of
the node itself makes it DEAD without one. -/
theorem leave_not_faithful :
    ¬ Faithful notifiedRouter
      (notifiedRouter.step (arrival (messageOf 3 gossipMsgDead [newsOf 2 .dead 1]))) ∧
    ¬ Faithful notifiedRouter
      (notifiedRouter.step (arrival { messageOf 2 gossipMsgLeave [] with sequenceNum := 5 })) := by
  constructor
  · intro h
    have hraised : Raised .leave 2 notifiedRouter
        (notifiedRouter.step (arrival (messageOf 3 gossipMsgDead [newsOf 2 .dead 1]))) :=
      ⟨⟨2, .unknown, [], 0, .leave⟩, by decide +kernel, rfl, rfl⟩
    have hkept : (clusterViewGet (notifiedRouter.step
        (arrival (messageOf 3 gossipMsgDead [newsOf 2 .dead 1]))).view 2).map
          ClusterMember.status = some .alive := by decide +kernel
    obtain ⟨_, entry, -, -, hentry, hdead⟩ := (h.leave 2).mp hraised
    rw [hentry, Option.map_some, hdead] at hkept
    cases hkept
  · intro h
    have hdied : Died 2 notifiedRouter
        (notifiedRouter.step (arrival { messageOf 2 gossipMsgLeave [] with sequenceNum := 5 })) :=
      ⟨(newsOf 2 .alive 5).toMember 0 .alive, (newsOf 2 .dead 5).toMember 0 .dead,
        by decide +kernel, by decide, by decide +kernel, rfl⟩
    obtain ⟨event, hraised, -, -⟩ := (h.leave 2).mpr hdied
    have hsilent : notifiedRouter.raised (notifiedRouter.step
        (arrival { messageOf 2 gossipMsgLeave [] with sequenceNum := 5 })) = [] := by
      decide +kernel
    rw [hsilent] at hraised
    cases hraised

end Roole
