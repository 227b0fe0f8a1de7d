import Roole.Gossip.Turns
import Roole.Gossip.ViewCalls

/-!
# What a turn does

One account of the turns for everything that is said about runs: the call on
the view, the event raised and the updates queued, each read off the engine
that the turn starts from.
-/

namespace Roole

def statusChangeEvent (update : GossipMemberUpdate) (existing : ClusterMember) :
    Option MemberEvent :=
  if update.status ≠ existing.status then (statusEvent update.status).map update.event else none

-- ----------------------------------------------------------------------------
-- Effects
-- ----------------------------------------------------------------------------

structure TurnEffect where
  call : ViewCall
  event : Option MemberEvent
  /-- How many times which update is queued. -/
  queued : Option (Nat × GossipMemberUpdate)

namespace TurnEffect

def updates (effect : TurnEffect) : List GossipMemberUpdate :=
  match effect.queued with
  | some (copies, update) => List.replicate copies update
  | none => []

def nothing : TurnEffect := ⟨.keep, none, none⟩

def ofPingUpdate (now : UInt64) (engine : GossipEngine) (update : GossipMemberUpdate) :
    TurnEffect :=
  match clusterViewGet engine.view update.nodeId with
  | none =>
    ⟨.add (update.toMember now update.status), some (update.event .join),
      some (1, { update with timestampMs := now })⟩
  | some existing =>
    if (existing.status = .dead ∧ update.status = .alive) ∧
        update.incarnation > existing.incarnation then
      ⟨.add (update.toMember now .alive), some (update.event .update), none⟩
    else if update.incarnation > existing.incarnation then
      ⟨.updateStatus update.nodeId update.status update.incarnation,
        statusChangeEvent update existing, none⟩
    else nothing

def ofAckSender (engine : GossipEngine) (senderId : NodeId) : TurnEffect :=
  match clusterViewGet engine.view senderId with
  | some member =>
    if member.status = .suspect then ⟨.updateStatus senderId .alive member.incarnation, none, none⟩
    else nothing
  | none => nothing

def ofAckUpdate (now : UInt64) (engine : GossipEngine) (update : GossipMemberUpdate) : TurnEffect :=
  match clusterViewGet engine.view update.nodeId with
  | none => ⟨.add (update.toMember now update.status), some (update.event .join), none⟩
  | some existing =>
    if update.incarnation > existing.incarnation then
      ⟨.updateStatus update.nodeId update.status update.incarnation, none, none⟩
    else nothing

def ofSuspectUpdate (now : UInt64) (engine : GossipEngine) (update : GossipMemberUpdate) :
    TurnEffect :=
  if update.nodeId = engine.myId ∧ update.status = .suspect then
    ⟨.keep, none,
      some (3, { engine with incarnation := engine.incarnation + 1 }.selfUpdate now)⟩
  else if update.nodeId ≠ engine.myId ∧ update.status = .suspect then
    match clusterViewGet engine.view update.nodeId with
    | some existing =>
      if update.incarnation ≥ existing.incarnation ∧ existing.status = .alive then
        ⟨.updateStatus update.nodeId .suspect update.incarnation, none, some (1, update)⟩
      else nothing
    | none => nothing
  else nothing

def ofAliveUpdate (engine : GossipEngine) (update : GossipMemberUpdate) : TurnEffect :=
  match clusterViewGet engine.view update.nodeId with
  | some existing =>
    if update.incarnation > existing.incarnation then
      ⟨.updateStatus update.nodeId .alive update.incarnation, none, some (1, update)⟩
    else nothing
  | none => nothing

def ofDeadUpdate (engine : GossipEngine) (update : GossipMemberUpdate) : TurnEffect :=
  match clusterViewGet engine.view update.nodeId with
  | some existing =>
    ⟨.updateStatus update.nodeId .dead update.incarnation,
      some ⟨update.nodeId, existing.nodeType, safeStrncpy existing.ipAddress maxIpLen,
        existing.dataPort, .leave⟩, none⟩
  | none => nothing

def ofJoin (srcIp : List UInt8) (update : GossipMemberUpdate) : TurnEffect :=
  ⟨.add (update.joined update.nodeType srcIp update.incarnation 0), some (update.event .join),
    some (1, update)⟩

def ofWorkerJoin (now : UInt64) (srcIp : List UInt8) (engine : GossipEngine) (senderId : NodeId)
    (update : GossipMemberUpdate) : TurnEffect :=
  let (isRejoin, _) := rejoinState engine senderId
  let incarnation := announcedIncarnation engine senderId update
  ⟨.add (update.joined .worker srcIp incarnation now),
    some ⟨update.nodeId, .worker, srcIp, update.dataPort, if isRejoin then .update else .join⟩,
    some (if isRejoin then 10 else 5, joinAnnouncement now srcIp incarnation update)⟩

def ofCheckAck (now : UInt64) (engine : GossipEngine) (i : Nat) : TurnEffect :=
  match engine.pendingAcks[i]? with
  | none => nothing
  | some ack =>
    if ack.active = true ∧ now - ack.pingSentMs > engine.config.ackTimeoutMs.toUInt64 then
      let (oldStatus, incarnation) := match clusterViewGet engine.view ack.targetNode with
        | some member => (member.status, member.incarnation)
        | none => (.alive, 0)
      if oldStatus = .alive then
        ⟨.updateStatus ack.targetNode .suspect incarnation, none,
          some (1, suspectUpdate now ack.targetNode incarnation)⟩
      else nothing
    else nothing

def ofCheckSuspect (now : UInt64) (engine : GossipEngine) (i : Nat) : TurnEffect :=
  match engine.view.members[i]? with
  | none => nothing
  | some member =>
    if member.status = .suspect ∧
        now - member.lastSeenMs > engine.config.deadTimeoutMs.toUInt64 then
      ⟨.updateStatus member.nodeId .dead member.incarnation,
        some ⟨member.nodeId, member.nodeType, safeStrncpy member.ipAddress maxIpLen,
          member.dataPort, .leave⟩, some (1, deadUpdate now member)⟩
    else nothing

end TurnEffect

def GossipEngine.turnEffect (engine : GossipEngine) : TimedTurn → TurnEffect
  | (now, .pingUpdate update) => .ofPingUpdate now engine update
  | (_, .ackSender senderId) => .ofAckSender engine senderId
  | (now, .ackUpdate update) => .ofAckUpdate now engine update
  | (now, .suspectUpdate update) => .ofSuspectUpdate now engine update
  | (_, .aliveUpdate update) => .ofAliveUpdate engine update
  | (_, .deadUpdate update) => .ofDeadUpdate engine update
  | (_, .join srcIp update) => .ofJoin srcIp update
  | (now, .workerJoin srcIp senderId update) => .ofWorkerJoin now srcIp engine senderId update
  | (_, .leave senderId sequenceNum) => ⟨.updateStatus senderId .dead sequenceNum, none, none⟩
  | (_, .updateSelf) => ⟨.refresh engine.myId engine.incarnation, none, none⟩
  | (now, .checkAck i) => .ofCheckAck now engine i
  | (now, .checkSuspect i) => .ofCheckSuspect now engine i
  | (now, .announceJoin) =>
    ⟨.add (engine.selfEntry now), none, some (5, engine.selfUpdate now)⟩
  | (_, .numbered) | (_, .ping ..) | (_, .gossip _) | (_, .setCallback) => .nothing

-- ----------------------------------------------------------------------------
-- The effects are those of the turns
-- ----------------------------------------------------------------------------

/-- The engine has changed its view and raised and queued what the effect says. -/
structure Does (now : UInt64) (effect : TurnEffect) (before after : GossipEngine) : Prop where
  view : after.view = effect.call.apply now before.view
  events : after.events =
    before.events ++ if before.hasCallback then effect.event.toList else []
  queue : after.updateQueue.toList.drop before.updateQueue.toList.length =
    effect.updates.take (maxUpdateQueue - before.updateQueue.toList.length)
  callback : before.hasCallback = true → after.hasCallback = true
  config : after.config = before.config

namespace Does

variable {now : UInt64} {before after : GossipEngine} {effect : TurnEffect}

theorem queue_of_take (h : after.updateQueue.toList = (before.updateQueue.toList ++ updates).take
      maxUpdateQueue) :
    after.updateQueue.toList.drop before.updateQueue.toList.length =
      updates.take (maxUpdateQueue - before.updateQueue.toList.length) := by
  rw [h, List.drop_take, List.drop_left]

theorem nothing (hview : after.view = before.view) (hevents : after.events = before.events)
    (hqueue : after.updateQueue.toList <:+ before.updateQueue.toList)
    (hcallback : before.hasCallback = true → after.hasCallback = true)
    (hconfig : after.config = before.config) : Does now .nothing before after where
  callback := hcallback
  config := hconfig
  view := hview
  events := by simp [hevents, TurnEffect.nothing]
  queue := by
    rw [List.drop_of_length_le hqueue.length_le]
    simp [TurnEffect.updates, TurnEffect.nothing]

theorem refl (engine : GossipEngine) : Does now .nothing engine engine :=
  nothing rfl rfl (List.suffix_refl _) id rfl

end Does

namespace GossipEngine

@[simp] theorem updateQueuePush_events (engine : GossipEngine) (update : GossipMemberUpdate) :
    (engine.updateQueuePush update).events = engine.events := by
  unfold updateQueuePush
  split <;> rfl

@[simp] theorem updateQueuePush_hasCallback (engine : GossipEngine) (update : GossipMemberUpdate) :
    (engine.updateQueuePush update).hasCallback = engine.hasCallback := by
  unfold updateQueuePush
  split <;> rfl

@[simp] theorem pushAll_events (engine : GossipEngine) (updates : List GossipMemberUpdate) :
    (engine.pushAll updates).events = engine.events := by
  induction updates generalizing engine with
  | nil => rfl
  | cons update rest ih => exact (ih _).trans (updateQueuePush_events engine update)

@[simp] theorem pushAll_hasCallback (engine : GossipEngine) (updates : List GossipMemberUpdate) :
    (engine.pushAll updates).hasCallback = engine.hasCallback := by
  induction updates generalizing engine with
  | nil => rfl
  | cons update rest ih => exact (ih _).trans (updateQueuePush_hasCallback engine update)

@[simp] theorem notify_hasCallback (engine : GossipEngine) (event : MemberEvent) :
    (engine.notify event).hasCallback = engine.hasCallback := by
  unfold notify
  split <;> rfl

theorem config_of_base {before after : GossipEngine} (h : after.base = before.base) :
    after.config = before.config := (congrArg config h :)

theorem notify_events (engine : GossipEngine) (event : MemberEvent) :
    (engine.notify event).events = engine.events ++ if engine.hasCallback then [event] else [] := by
  unfold notify
  split <;> simp

def does (now : UInt64) (engine : GossipEngine) (effect : TurnEffect) : GossipEngine :=
  let changed := { engine with view := effect.call.apply now engine.view }
  let raised := match effect.event with
    | some event => changed.notify event
    | none => changed
  raised.pushAll effect.updates

theorem does_does (now : UInt64) (engine : GossipEngine) (effect : TurnEffect) :
    Does now effect engine (engine.does now effect) := by
  obtain ⟨call, event, queued⟩ := effect
  let changed := { engine with view := call.apply now engine.view }
  let updates := TurnEffect.updates ⟨call, event, queued⟩
  cases event with
  | none =>
    have hbase : (engine.does now ⟨call, none, queued⟩).base = engine.base :=
      pushAll_base changed updates
    refine ⟨by simp [does], by simp [does], Does.queue_of_take ?_, by simp [does],
      config_of_base hbase⟩
    exact pushAll_take changed updates
  | some event =>
    have hbase : (engine.does now ⟨call, some event, queued⟩).base = engine.base :=
      (pushAll_base (changed.notify event) updates).trans (notify_base changed event)
    refine ⟨by simp [does], by simp [does, notify_events], Does.queue_of_take ?_, by simp [does],
      config_of_base hbase⟩
    exact (pushAll_take (changed.notify event) updates).trans (by rw [notify_updateQueue])

end GossipEngine

section Turns

variable {now : UInt64} {engine : GossipEngine}

theorem notify_updateQueuePush (engine : GossipEngine) (update : GossipMemberUpdate)
    (event : MemberEvent) :
    (engine.updateQueuePush update).notify event =
      (engine.notify event).updateQueuePush update := by
  unfold GossipEngine.notify GossipEngine.updateQueuePush
  cases hpush : engine.updateQueue.push update <;> split_ifs <;> simp [hpush]

theorem handlePingUpdate_eq (now : UInt64) (engine : GossipEngine) (update : GossipMemberUpdate) :
    handlePingUpdate now engine update = engine.does now (.ofPingUpdate now engine update) := by
  unfold handlePingUpdate TurnEffect.ofPingUpdate
  cases clusterViewGet engine.view update.nodeId with
  | none => rfl
  | some existing =>
    dsimp only
    split_ifs with hrejoin hnew hchanged
    · rfl
    · unfold statusChangeEvent
      rw [if_pos hchanged]
      cases update.status <;> rfl
    · unfold statusChangeEvent
      rw [if_neg hchanged]
      rfl
    · rfl

theorem recoverSender_eq (now : UInt64) (engine : GossipEngine) (senderId : NodeId) :
    recoverSender now engine senderId = engine.does now (.ofAckSender engine senderId) := by
  unfold recoverSender TurnEffect.ofAckSender
  cases clusterViewGet engine.view senderId with
  | none => rfl
  | some member =>
    dsimp only
    split_ifs <;> rfl

theorem handleAckUpdate_eq (now : UInt64) (engine : GossipEngine) (update : GossipMemberUpdate) :
    handleAckUpdate now engine update = engine.does now (.ofAckUpdate now engine update) := by
  unfold handleAckUpdate TurnEffect.ofAckUpdate
  cases clusterViewGet engine.view update.nodeId with
  | none => rfl
  | some existing =>
    dsimp only
    split_ifs <;> rfl

theorem handleAliveUpdate_eq (now : UInt64) (engine : GossipEngine) (update : GossipMemberUpdate) :
    handleAliveUpdate now engine update = engine.does now (.ofAliveUpdate engine update) := by
  unfold handleAliveUpdate TurnEffect.ofAliveUpdate
  cases clusterViewGet engine.view update.nodeId with
  | none => rfl
  | some existing =>
    dsimp only
    split_ifs <;> rfl

theorem handleDeadUpdate_eq (now : UInt64) (engine : GossipEngine) (update : GossipMemberUpdate) :
    handleDeadUpdate now engine update = engine.does now (.ofDeadUpdate engine update) := by
  unfold handleDeadUpdate TurnEffect.ofDeadUpdate
  cases clusterViewGet engine.view update.nodeId <;> rfl

theorem checkSuspect_eq (now : UInt64) (engine : GossipEngine) (i : Nat) :
    checkSuspect now engine i = engine.does now (.ofCheckSuspect now engine i) := by
  unfold checkSuspect TurnEffect.ofCheckSuspect
  cases engine.view.members[i]? with
  | none => rfl
  | some member =>
    dsimp only
    split_ifs
    · rw [notify_updateQueuePush]
      rfl
    · rfl

structure SameVisible (before after : GossipEngine) : Prop where
  view : after.view = before.view
  hasCallback : after.hasCallback = before.hasCallback
  events : after.events = before.events
  updateQueue : after.updateQueue = before.updateQueue
  config : after.config = before.config

theorem removePendingAck_visible (engine : GossipEngine) (targetNode : NodeId) :
    SameVisible engine (removePendingAck engine targetNode) := by
  unfold removePendingAck
  split <;> exact ⟨rfl, rfl, rfl, rfl, rfl⟩

namespace Does

variable {before middle after : GossipEngine} {effect : TurnEffect}

theorem of_eq (h : after = before.does now effect) : Does now effect before after :=
  h ▸ before.does_does now effect

theorem after_visible (hvisible : SameVisible before middle) (h : Does now effect middle after) :
    Does now effect before after := by
  obtain ⟨hview, hevents, hqueue, hcallback, hconfig⟩ := h
  rw [hvisible.view] at hview
  rw [hvisible.events, hvisible.hasCallback] at hevents
  rw [hvisible.updateQueue] at hqueue
  rw [hvisible.hasCallback] at hcallback
  exact ⟨hview, hevents, hqueue, hcallback, hconfig.trans hvisible.config⟩

theorem before_visible (h : Does now effect before middle) (hvisible : SameVisible middle after) :
    Does now effect before after :=
  ⟨hvisible.view.trans h.view, hvisible.events.trans h.events, hvisible.updateQueue ▸ h.queue,
    hvisible.hasCallback ▸ h.callback, hvisible.config.trans h.config⟩

end Does

theorem handleSuspectUpdate_does (now : UInt64) (engine : GossipEngine)
    (update : GossipMemberUpdate) : Does now (.ofSuspectUpdate now engine update) engine
      (handleSuspectUpdate now engine update) := by
  unfold handleSuspectUpdate TurnEffect.ofSuspectUpdate
  split_ifs with hself hother
  · have hvisible : SameVisible engine { engine with incarnation := engine.incarnation + 1 } :=
      ⟨rfl, rfl, rfl, rfl, rfl⟩
    exact Does.after_visible hvisible (Does.of_eq rfl)
  · cases clusterViewGet engine.view update.nodeId with
    | none => exact Does.refl engine
    | some existing =>
      dsimp only
      split_ifs
      · exact Does.of_eq rfl
      · exact Does.refl engine
  · exact Does.refl engine

theorem checkPendingAck_does (now : UInt64) (engine : GossipEngine) (i : Nat) :
    Does now (.ofCheckAck now engine i) engine (checkPendingAck now engine i) := by
  unfold checkPendingAck TurnEffect.ofCheckAck
  cases engine.pendingAcks[i]? with
  | none => exact Does.refl engine
  | some ack =>
    by_cases hover : ack.active = true ∧
        now - ack.pingSentMs > engine.config.ackTimeoutMs.toUInt64
    · dsimp only
      rw [if_pos hover, if_pos hover]
      cases clusterViewGet engine.view ack.targetNode with
      | none => exact (Does.of_eq rfl).before_visible ⟨rfl, rfl, rfl, rfl, rfl⟩
      | some member =>
        dsimp only
        split_ifs
        · exact (Does.of_eq rfl).before_visible ⟨rfl, rfl, rfl, rfl, rfl⟩
        · exact (Does.refl engine).before_visible ⟨rfl, rfl, rfl, rfl, rfl⟩
    · dsimp only
      rw [if_neg hover, if_neg hover]
      exact Does.refl engine

theorem addPendingAck_visible (now : UInt64) (engine : GossipEngine) (targetNode : NodeId) :
    SameVisible engine (addPendingAck now engine targetNode) := by
  unfold addPendingAck
  split <;> exact ⟨rfl, rfl, rfl, rfl, rfl⟩

theorem sendPingToNode_does (now : UInt64) (sent : Bool) (engine : GossipEngine)
    (targetNode : NodeId) :
    Does now .nothing engine (sendPingToNode now sent engine targetNode).2.1 := by
  let popped := { engine with
    sequenceNum := engine.sequenceNum + 1
    updateQueue := (engine.updateQueue.popBatch engine.config.maxPiggyback.toNat).2 }
  have hpopped : Does now .nothing engine popped := by
    refine Does.nothing rfl rfl ?_ id rfl
    rw [(RingBuffer.popBatch_eq _ _).2]
    exact List.drop_suffix _ _
  unfold sendPingToNode
  cases clusterViewGet engine.view targetNode with
  | none => exact Does.refl engine
  | some _ =>
    dsimp only
    split
    · exact hpopped
    · split_ifs
      · exact hpopped.before_visible (addPendingAck_visible now popped targetNode)
      · exact hpopped

theorem pingRandomPeer_does (now : UInt64) (random : Nat) (sent : Bool) (engine : GossipEngine) :
    Does now .nothing engine (pingRandomPeer now random sent engine) := by
  unfold pingRandomPeer
  dsimp only
  split_ifs
  · exact sendPingToNode_does now sent engine _
  · exact Does.refl engine

theorem turn_does (engine : GossipEngine) (turn : TimedTurn) :
    Does turn.1 (engine.turnEffect turn) engine (engine.turn turn) := by
  obtain ⟨now, turn⟩ := turn
  cases turn with
  | pingUpdate update => exact Does.of_eq (handlePingUpdate_eq now engine update)
  | ackSender senderId =>
    have hvisible := removePendingAck_visible engine senderId
    refine Does.after_visible hvisible (Does.of_eq ?_)
    rw [GossipEngine.turn, recoverSender_eq]
    unfold GossipEngine.turnEffect TurnEffect.ofAckSender
    rw [hvisible.view]
  | ackUpdate update => exact Does.of_eq (handleAckUpdate_eq now engine update)
  | suspectUpdate update => exact handleSuspectUpdate_does now engine update
  | aliveUpdate update => exact Does.of_eq (handleAliveUpdate_eq now engine update)
  | deadUpdate update => exact Does.of_eq (handleDeadUpdate_eq now engine update)
  | join srcIp update => exact Does.of_eq rfl
  | workerJoin srcIp senderId update =>
    exact Does.before_visible (Does.of_eq rfl) ⟨rfl, rfl, rfl, rfl, rfl⟩
  | leave senderId sequenceNum => exact Does.of_eq rfl
  | numbered => exact Does.nothing rfl rfl (List.suffix_refl _) id rfl
  | updateSelf => exact Does.of_eq rfl
  | ping random sent => exact pingRandomPeer_does now random sent engine
  | checkAck i => exact checkPendingAck_does now engine i
  | checkSuspect i => exact Does.of_eq (checkSuspect_eq now engine i)
  | gossip rand =>
    obtain ⟨_, hsame⟩ := (gossipToRandomPeers_sends now rand engine).1
    rw [GossipEngine.turn, hsame]
    exact Does.nothing rfl rfl (List.suffix_refl _) id rfl
  | announceJoin => exact Does.of_eq rfl
  | setCallback => exact Does.nothing rfl rfl (List.suffix_refl _) (fun _ => rfl) rfl

theorem turn_config (engine : GossipEngine) (turn : TimedTurn) :
    (engine.turn turn).config = engine.config := (turn_does engine turn).config

theorem before_config (engine : GossipEngine) (turns : List TimedTurn) (i : Nat) :
    (engine.before turns i).config = engine.config :=
  List.foldlRecOn (motive := fun after => after.config = engine.config) (turns.take i)
    GossipEngine.turn rfl fun before hconfig turn _ => (turn_config before turn).trans hconfig

end Turns

def statusOf (engine : GossipEngine) (nodeId : NodeId) : Option NodeStatus :=
  (clusterViewGet engine.view nodeId).map ClusterMember.status

theorem statusOf_eq {engine : GossipEngine} {nodeId : NodeId} {entry : ClusterMember}
    (hget : clusterViewGet engine.view nodeId = some entry) :
    statusOf engine nodeId = some entry.status := congrArg (Option.map ClusterMember.status) hget

-- ----------------------------------------------------------------------------
-- The status that a turn writes
-- ----------------------------------------------------------------------------

namespace TurnEffect

variable {now : UInt64} {engine : GossipEngine} {status : NodeStatus}

theorem status_ofAckSender (h : (ofAckSender engine senderId).call.status = some status) :
    status = .alive := by
  unfold ofAckSender at h
  cases hget : clusterViewGet engine.view senderId with
  | none =>
    rw [hget] at h
    cases h
  | some member =>
    rw [hget] at h
    dsimp only at h
    split_ifs at h <;> cases h
    rfl

theorem status_ofSuspectUpdate (h : (ofSuspectUpdate now engine update).call.status = some status) :
    status = .suspect := by
  unfold ofSuspectUpdate at h
  split_ifs at h
  · cases h
  · cases hget : clusterViewGet engine.view update.nodeId with
    | none =>
      rw [hget] at h
      cases h
    | some existing =>
      rw [hget] at h
      dsimp only at h
      split_ifs at h <;> cases h
      rfl
  · cases h

theorem status_ofAliveUpdate (h : (ofAliveUpdate engine update).call.status = some status) :
    status = .alive := by
  unfold ofAliveUpdate at h
  cases hget : clusterViewGet engine.view update.nodeId with
  | none =>
    rw [hget] at h
    cases h
  | some existing =>
    rw [hget] at h
    dsimp only at h
    split_ifs at h <;> cases h
    rfl

theorem status_ofDeadUpdate (h : (ofDeadUpdate engine update).call.status = some status) :
    status = .dead := by
  unfold ofDeadUpdate at h
  cases hget : clusterViewGet engine.view update.nodeId with
  | none =>
    rw [hget] at h
    cases h
  | some existing =>
    rw [hget] at h
    cases h
    rfl

theorem status_ofCheckAck (h : (ofCheckAck now engine i).call.status = some status) :
    status = .suspect := by
  unfold ofCheckAck at h
  cases hack : engine.pendingAcks[i]? with
  | none =>
    rw [hack] at h
    cases h
  | some ack =>
    rw [hack] at h
    dsimp only at h
    split_ifs at h <;> cases h
    rfl

theorem status_ofCheckSuspect (h : (ofCheckSuspect now engine i).call.status = some status) :
    status = .dead := by
  unfold ofCheckSuspect at h
  cases hmember : engine.view.members[i]? with
  | none =>
    rw [hmember] at h
    cases h
  | some member =>
    rw [hmember] at h
    dsimp only at h
    split_ifs at h <;> cases h
    rfl

end TurnEffect

end Roole
