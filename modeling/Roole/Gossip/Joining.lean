import Roole.Gossip.AntiEntropy

/-!
# Workers that join

What a router enters for a worker that joins, and what the other members make
of the announcement. The router's choice of the incarnation, the rules of the
view for additions and the handler of ALIVE messages are three different rules
for the same event.
-/

namespace Roole

theorem lt_add_one_iff (k : UInt64) : k < k + 1 ↔ k.toNat ≠ maxIncarnation := by
  rw [UInt64.lt_iff_toNat_lt, toNat_add_one]
  split_ifs with h
  · simp [h]
  · simp [h]

theorem le_add_one_iff (k : UInt64) : k ≤ k + 1 ↔ k.toNat ≠ maxIncarnation := by
  rw [UInt64.le_iff_toNat_le, toNat_add_one]
  split_ifs with h
  · simp [h, maxIncarnation]
  · simp [h]

/-- The address that the worker announces: where its message came from and the
ports it names. -/
def SameAddress (srcIp : List UInt8) (update : GossipMemberUpdate) (entry : ClusterMember) : Prop :=
  cString entry.ipAddress = safeStrncpy srcIp maxIpLen ∧
    entry.gossipPort = update.gossipPort ∧ entry.dataPort = update.dataPort

/-- The entry of a worker that has joined. -/
def JoinedAs (srcIp : List UInt8) (update : GossipMemberUpdate) (entry : ClusterMember) : Prop :=
  entry.status = .alive ∧ SameAddress srcIp update entry

theorem joinedAs_joined (nodeType : NodeType) (srcIp : List UInt8)
    (update : GossipMemberUpdate) (incarnation lastSeenMs : UInt64) :
    JoinedAs srcIp update (update.joined nodeType srcIp incarnation lastSeenMs) :=
  ⟨rfl, cString_safeStrncpy srcIp maxIpLen, rfl, rfl⟩

-- ----------------------------------------------------------------------------
-- The router
-- ----------------------------------------------------------------------------

/-- The view takes the worker in the state it has it in. -/
def TakesJoin (srcIp : List UInt8) (update : GossipMemberUpdate) (entry : ClusterMember) : Prop :=
  match entry.status with
  | .dead => True
  | .suspect => entry.incarnation.toNat ≠ maxIncarnation
  | .alive => entry.incarnation ≤ update.incarnation ∨ SameAddress srcIp update entry
  | .other .. => entry.incarnation ≤ update.incarnation

def offered (existing : ClusterMember) (update : GossipMemberUpdate) : UInt64 :=
  if existing.status = .dead ∨ existing.status = .suspect then existing.incarnation + 1
  else update.incarnation

section Router

variable {now : UInt64} {past : Nat → GossipMemberUpdate} {srcIp : List UInt8} {srcPort : UInt16}
  {engine : GossipEngine} {msg : GossipMessage} {existing : ClusterMember}

theorem joinIncarnation_of_get (update : GossipMemberUpdate)
    (hget : clusterViewGet engine.view senderId = some existing) :
    joinIncarnation engine senderId update = offered existing update := by
  rw [joinIncarnation, hget]
  rfl

theorem handleWorkerJoinMessage_self (henters : EntersWorker engine msg)
    (hsender : (msg.update past 0).nodeId = msg.senderId)
    (hget : clusterViewGet engine.view msg.senderId = some existing) :
    clusterViewGet (handleWorkerJoinMessage now past srcIp srcPort engine msg).1.view
        msg.senderId =
      some (
        if existing.status = .dead then
          (msg.update past 0).joined .worker srcIp (offered existing (msg.update past 0) + 1) now
        else if existing.incarnation ≤ offered existing (msg.update past 0) then
          (msg.update past 0).joined .worker srcIp (offered existing (msg.update past 0)) now
        else existing) := by
  rw [handleWorkerJoinMessage_view henters, joinIncarnation_of_get _ hget]
  rw [← hsender] at hget ⊢
  have hjoined : clusterViewGet engine.view ((msg.update past 0).joined .worker srcIp
    (offered existing (msg.update past 0)) now).nodeId = some existing := hget
  refine (clusterViewAdd_self now hjoined).trans (congrArg some ?_)
  simp only [GossipMemberUpdate.joined, true_and, ge_iff_le]

theorem handleWorkerJoinMessage_new (henters : EntersWorker engine msg)
    (hsender : (msg.update past 0).nodeId = msg.senderId)
    (hget : clusterViewGet engine.view msg.senderId = none)
    (hroom : engine.view.members.length < engine.view.capacity) :
    clusterViewGet (handleWorkerJoinMessage now past srcIp srcPort engine msg).1.view
        msg.senderId =
      some ((msg.update past 0).joined .worker srcIp (msg.update past 0).incarnation now) := by
  have hincarnation : joinIncarnation engine msg.senderId (msg.update past 0) =
      (msg.update past 0).incarnation := by rw [joinIncarnation, hget]
  rw [handleWorkerJoinMessage_view henters, hincarnation]
  rw [← hsender] at hget ⊢
  have hjoined : clusterViewGet engine.view ((msg.update past 0).joined .worker srcIp
    (msg.update past 0).incarnation now).nodeId = none := hget
  exact clusterViewAdd_new hjoined hroom

theorem handleWorkerJoinMessage_full (henters : EntersWorker engine msg)
    (hsender : (msg.update past 0).nodeId = msg.senderId)
    (hget : clusterViewGet engine.view msg.senderId = none)
    (hfull : engine.view.capacity ≤ engine.view.members.length) :
    (handleWorkerJoinMessage now past srcIp srcPort engine msg).1.view = engine.view := by
  rw [handleWorkerJoinMessage_view henters]
  exact clusterViewAdd_full now (hsender ▸ hget) hfull

theorem joinedAs_iff (update : GossipMemberUpdate) (existing : ClusterMember) :
    JoinedAs srcIp update (
      if existing.status = .dead then update.joined .worker srcIp (offered existing update + 1) now
      else if existing.incarnation ≤ offered existing update then
        update.joined .worker srcIp (offered existing update) now
      else existing) ↔ TakesJoin srcIp update existing := by
  have hjoined := joinedAs_joined .worker srcIp update
  unfold TakesJoin offered
  cases hstatus : existing.status with
  | dead => simp [hjoined]
  | suspect =>
    simp only [reduceCtorEq, false_or, if_true, if_false, le_add_one_iff]
    split_ifs with hle
    · simp [hjoined, hle]
    · simp [hle, JoinedAs, hstatus]
  | alive =>
    simp only [reduceCtorEq, or_self, if_false]
    split_ifs with hle
    · simp [hjoined, hle]
    · simp [hle, JoinedAs, hstatus]
  | other raw hraw =>
    simp only [reduceCtorEq, or_self, if_false]
    split_ifs with hle
    · simp [hjoined, hle]
    · simp [hle, JoinedAs, hstatus]

/-- After a WORKER_JOIN a router whose view is not full holds the worker as
ALIVE under its new address exactly when it did not know the worker or its
entry takes the join. -/
theorem worker_join_enters_iff (hrouter : engine.myType = .router) (hfirst : 0 < msg.numUpdates)
    (hsender : (msg.update past 0).nodeId = msg.senderId)
    (hroom : engine.view.members.length < engine.view.capacity) :
    (∃ entry, clusterViewGet
        (handleWorkerJoinMessage now past srcIp srcPort engine msg).1.view msg.senderId =
          some entry ∧ JoinedAs srcIp (msg.update past 0) entry) ↔
      ∀ existing, clusterViewGet engine.view msg.senderId = some existing →
        TakesJoin srcIp (msg.update past 0) existing := by
  cases hget : clusterViewGet engine.view msg.senderId with
  | none =>
    rw [handleWorkerJoinMessage_new ⟨hrouter, hfirst⟩ hsender hget hroom]
    exact iff_of_true ⟨_, rfl, joinedAs_joined ..⟩ fun _ h => nomatch h
  | some existing =>
    rw [handleWorkerJoinMessage_self ⟨hrouter, hfirst⟩ hsender hget]
    simpa using joinedAs_iff (msg.update past 0) existing

end Router

def restarted : GossipMessage :=
  messageOf 3 gossipMsgWorkerJoin [{ newsOf 3 .alive 0 with gossipPort := 7003, dataPort := 8003 }]

def routerTold (others : List GossipMemberUpdate) : GossipEngine :=
  firstRouter.run [arrival (messageOf 2 gossipMsgPing (newsOf 2 .alive 0 :: others))]

theorem worker_join_enters_iff_third :
    (∃ entry, clusterViewGet (handleWorkerJoinMessage 0 (fun _ => .zero) [] 7003
        (routerTold [newsOf 3 .suspect 1]) restarted).1.view 3 = some entry ∧
          JoinedAs [] (restarted.update (fun _ => .zero) 0) entry) ↔
      ∀ existing, clusterViewGet (routerTold [newsOf 3 .suspect 1]).view 3 = some existing →
        TakesJoin [] (restarted.update (fun _ => .zero) 0) existing :=
  worker_join_enters_iff (by decide +kernel) (by decide) (by decide) (by decide +kernel)

/-- A worker that is still held as ALIVE under a later incarnation stays at its
old address. -/
theorem restarted_worker_ignored :
    (routerTold [newsOf 3 .alive 1]).myType = .router ∧
      (routerTold [newsOf 3 .alive 1]).view.members.length <
        (routerTold [newsOf 3 .alive 1]).view.capacity ∧
      (restarted.update (fun _ => .zero) 0).nodeId = restarted.senderId ∧
      ¬ ∃ entry, clusterViewGet (handleWorkerJoinMessage 0 (fun _ => .zero) [] 7003
        (routerTold [newsOf 3 .alive 1]) restarted).1.view 3 = some entry ∧
          JoinedAs [] (restarted.update (fun _ => .zero) 0) entry := by
  refine ⟨by decide +kernel, by decide +kernel, by decide, ?_⟩
  rintro ⟨entry, hget, -, -, hport, -⟩
  have hold : (clusterViewGet (handleWorkerJoinMessage 0 (fun _ => .zero) [] 7003
      (routerTold [newsOf 3 .alive 1]) restarted).1.view 3).map ClusterMember.gossipPort = some 0 := by
    decide +kernel
  rw [hget, Option.map_some, hport] at hold
  exact absurd hold (by decide)

-- ----------------------------------------------------------------------------
-- The other members
-- ----------------------------------------------------------------------------

def ClusterMember.shared (member : ClusterMember) :
    NodeStatus × UInt64 × List UInt8 × UInt16 × UInt16 :=
  (member.status, member.incarnation, cString member.ipAddress, member.gossipPort, member.dataPort)

def sharedEntry (engine : GossipEngine) (nodeId : NodeId) :
    Option (NodeStatus × UInt64 × List UInt8 × UInt16 × UInt16) :=
  (clusterViewGet engine.view nodeId).map ClusterMember.shared

/-- A worker sends a WORKER_JOIN to the router, which has the other member as a
peer that is not DEAD; both have the same entry of the worker, or none. -/
structure JoinSeenByBoth (router member : GossipEngine) (peer : ClusterMember)
    (past : Nat → GossipMemberUpdate) (msg : GossipMessage) : Prop where
  isRouter : router.myType = .router
  first : 0 < msg.numUpdates
  sender : (msg.update past 0).nodeId = msg.senderId
  other : member.myId ≠ router.myId
  apart : member.myId ≠ msg.senderId
  known : clusterViewGet router.view member.myId = some peer
  notDead : peer.status ≠ .dead
  same : sharedEntry member msg.senderId = sharedEntry router msg.senderId

/-- The states of the worker's entry in which the announcement makes the
member agree with the router. -/
def AnnouncementAgrees (srcIp : List UInt8) (update : GossipMemberUpdate)
    (existing : ClusterMember) : Prop :=
  match existing.status with
  | .dead => False
  | .suspect => existing.incarnation.toNat = maxIncarnation ∨ SameAddress srcIp update existing
  | .alive => update.incarnation < existing.incarnation ∨ SameAddress srcIp update existing
  | .other .. => update.incarnation < existing.incarnation ∨
    (SameAddress srcIp update existing ∧ update.incarnation ≠ existing.incarnation)

theorem messageAt_single_sendable (engine : GossipEngine) (sequenceNum : UInt64)
    (msgType : UInt8) (update : GossipMemberUpdate) :
    (engine.messageAt sequenceNum msgType [update]).Sendable :=
  messageAt_sendable engine sequenceNum msgType (Nat.succ_le_succ (Nat.zero_le 9))

theorem mem_immediateGossip {engine : GossipEngine} {announcement : GossipMemberUpdate}
    (hmem : peer ∈ engine.view.members) (hother : peer.nodeId ≠ engine.myId)
    (hapart : peer.nodeId ≠ announcement.nodeId) (hdead : peer.status ≠ .dead) :
    ∃ sequenceNum, (peer, engine.messageAt sequenceNum gossipMsgAlive [announcement]) ∈
      immediateGossip engine announcement := by
  have hkept : peer ∈ engine.view.members.filter fun peer => peer.nodeId != engine.myId &&
      peer.nodeId != announcement.nodeId && peer.status != .dead :=
    List.mem_filter.mpr ⟨hmem, by simp [hother, hapart, hdead]⟩
  obtain ⟨i, hi, hpeer⟩ := List.mem_iff_getElem.mp hkept
  refine ⟨engine.sequenceNum + .ofNat i, List.mem_map.mpr ⟨(peer, i), ?_, rfl⟩⟩
  exact List.mem_zipIdx_iff_getElem?.mpr (List.getElem?_eq_some_iff.mpr ⟨hi, hpeer⟩)

theorem immediateGossip_decoded {engine : GossipEngine} {announcement : GossipMemberUpdate}
    (hmem : peer ∈ engine.view.members) (hother : peer.nodeId ≠ engine.myId)
    (hapart : peer.nodeId ≠ announcement.nodeId) (hdead : peer.status ≠ .dead) :
    ∃ sequenceNum datagram, .send peer.ipAddress peer.gossipPort datagram ∈
        (immediateGossip engine announcement).filterMap (fun (peer, msg) =>
          msg.sendTo peer.ipAddress peer.gossipPort) ∧
      gossipMessageDeserialize datagram =
        some (engine.messageAt sequenceNum gossipMsgAlive [announcement]).onWire := by
  obtain ⟨sequenceNum, hgossip⟩ := mem_immediateGossip hmem hother hapart hdead
  have hsendable := messageAt_single_sendable engine sequenceNum gossipMsgAlive announcement
  obtain ⟨datagram, hsend, hdecoded⟩ :=
    GossipMessage.sendTo_decoded hsendable peer.ipAddress peer.gossipPort
  exact ⟨sequenceNum, datagram, List.mem_filterMap.mpr ⟨_, hgossip, hsend⟩, hdecoded⟩

theorem announced_to_peer (h : JoinSeenByBoth router member peer past msg) :
    ∃ sequenceNum datagram, .send peer.ipAddress peer.gossipPort datagram ∈
        (handleWorkerJoinMessage now past srcIp srcPort router msg).2 ∧
      gossipMessageDeserialize datagram = some
        (router.messageAt sequenceNum gossipMsgAlive [joinAnnouncement now srcIp
          (joinIncarnation router msg.senderId (msg.update past 0)) (msg.update past 0)]).onWire := by
  unfold handleWorkerJoinMessage
  rw [if_neg (not_not_intro h.isRouter), if_pos h.first, ← announcedIncarnation_eq]
  unfold joinWorker
  dsimp only
  generalize hentered : GossipEngine.pushAll _ _ = entered
  have hid : entered.myId = router.myId := by
    rw [← hentered]
    exact (GossipEngine.myId_of_base (GossipEngine.pushAll_base _ _)).trans
      (GossipEngine.myId_of_base (GossipEngine.notify_base _ _))
  have hknown : clusterViewGet entered.view member.myId = some peer := by
    rw [← hentered, GossipEngine.pushAll_view, GossipEngine.notify_view]
    exact (clusterViewAdd_of_ne (h.sender ▸ h.apart)).trans h.known
  have hpeer : peer.nodeId = member.myId := clusterViewGet_nodeId hknown
  obtain ⟨sequenceNum, datagram, hsent, hdecoded⟩ := @immediateGossip_decoded peer entered
    (joinAnnouncement now srcIp (announcedIncarnation router msg.senderId (msg.update past 0))
      (msg.update past 0)) (KeyedList.lookup_mem hknown) (by rw [hpeer, hid]; exact h.other)
    (by rw [hpeer]; exact h.sender ▸ h.apart) h.notDead
  refine ⟨sequenceNum, datagram, List.mem_append_left _ (List.mem_cons_of_mem _ hsent), ?_⟩
  rw [hdecoded, GossipEngine.messageAt, GossipEngine.makeMessage, hid]
  rfl

theorem receiveDatagram_alive {router member : GossipEngine} {update : GossipMemberUpdate}
    (hother : member.myId ≠ router.myId)
    (hdecoded : gossipMessageDeserialize datagram =
      some (router.messageAt sequenceNum gossipMsgAlive [update]).onWire) :
    (receiveDatagram now past srcIp srcPort member datagram).1 =
      handleAliveUpdate now member update.onWire := by
  have hlong : ¬ datagram.length < gossipHeaderSize := fun hshort => by
    simp [gossipMessageDeserialize, hshort] at hdecoded
  have hsendable := messageAt_single_sendable router sequenceNum gossipMsgAlive update
  have hsender : (router.messageAt sequenceNum gossipMsgAlive [update]).onWire.senderId ≠
      member.myId := Ne.symm hother
  rw [receiveDatagram, if_neg hlong, hdecoded]
  dsimp only
  rw [receiveMessage, if_neg hsender, dispatchMessage_alive rfl, handleAliveMessage,
    hsendable.complete_onWire.readUpdates]
  rfl

theorem announced_eq_joined_iff (status : NodeStatus) (held joined : List UInt8 × UInt16 × UInt16)
    (k k' : UInt64) :
    (if k < k' then (NodeStatus.alive, k', held) else (status, k, held)) =
      (if k ≤ k' then (NodeStatus.alive, k', joined) else (status, k, held)) ↔
      k' < k ∨ (held = joined ∧ (k' = k → status = .alive)) := by
  by_cases hlt : k' < k
  · simp [hlt, UInt64.not_lt.mpr (UInt64.le_of_lt hlt), UInt64.not_le.mpr hlt]
  · by_cases heq : k' = k
    · simp [heq, and_comm]
    · have hgt := UInt64.lt_of_le_of_ne (UInt64.not_lt.mp hlt) (Ne.symm heq)
      simp [hlt, heq, hgt, UInt64.le_of_lt hgt]

/-- The entry that the router stores and the one that the member makes of the
announcement agree exactly in these states. -/
theorem announcementAgrees_iff {update : GossipMemberUpdate} {existing held : ClusterMember}
    (hsame : held.shared = existing.shared) :
    (if offered existing update > held.incarnation then
        held.setStatus seenAt .alive (offered existing update) else held).shared =
      (if existing.status = .dead then update.joined .worker srcIp (offered existing update + 1) now
      else if existing.incarnation ≤ offered existing update then
        update.joined .worker srcIp (offered existing update) now
      else existing).shared ↔ AnnouncementAgrees srcIp update existing := by
  obtain ⟨hstatus, hincarnation, hip, hgossip, hdata⟩ : held.status = existing.status ∧
      held.incarnation = existing.incarnation ∧
      cString held.ipAddress = cString existing.ipAddress ∧
      held.gossipPort = existing.gossipPort ∧ held.dataPort = existing.dataPort := by
    simpa [ClusterMember.shared] using hsame
  have hset (k : UInt64) : (held.setStatus seenAt .alive k).shared =
      (.alive, k, cString existing.ipAddress, existing.gossipPort, existing.dataPort) := by
    simp [ClusterMember.shared, ClusterMember.setStatus, hip, hgossip, hdata]
  have hjoined (k : UInt64) : (update.joined .worker srcIp k now).shared =
      (.alive, k, safeStrncpy srcIp maxIpLen, update.gossipPort, update.dataPort) := by
    simp [ClusterMember.shared, GossipMemberUpdate.joined]
  have hkept : existing.shared = (existing.status, existing.incarnation,
    cString existing.ipAddress, existing.gossipPort, existing.dataPort) := rfl
  have hne : existing.incarnation + 1 ≠ existing.incarnation + 1 + 1 := by simp
  rw [hincarnation, apply_ite ClusterMember.shared, apply_ite ClusterMember.shared,
    apply_ite ClusterMember.shared, hset, hjoined, hjoined, hsame, hkept]
  unfold AnnouncementAgrees offered SameAddress
  cases hcase : existing.status with
  | dead =>
    simp only [true_or, if_true, iff_false]
    split_ifs
    · simp [hne]
    · simp
  | suspect =>
    simp only [reduceCtorEq, false_or, if_true, if_false, le_add_one_iff, gt_iff_lt, lt_add_one_iff]
    by_cases hmax : existing.incarnation.toNat = maxIncarnation
    · simp [hmax]
    · simp [hmax]
  | alive =>
    simp only [reduceCtorEq, or_self, if_false, gt_iff_lt, announced_eq_joined_iff]
    simp
  | other raw hraw =>
    simp only [reduceCtorEq, or_self, if_false, gt_iff_lt, announced_eq_joined_iff]
    simp

/-- The router's state in which both agree after the join: a worker nobody
knows does not fit into its view, or the entry is one the announcement suits. -/
def JoinAgrees (srcIp : List UInt8) (router : GossipEngine) (update : GossipMemberUpdate) : Prop :=
  match clusterViewGet router.view update.nodeId with
  | none => router.view.capacity ≤ router.view.members.length
  | some existing => AnnouncementAgrees srcIp update existing

/-- Both entries of the worker after the router has handled its message and the
member the announcement. -/
theorem sharedEntry_eq_iff {router member : GossipEngine}
    (h : JoinSeenByBoth router member peer past msg) :
    sharedEntry (handleAliveUpdate seenAt member (joinAnnouncement now srcIp
        (joinIncarnation router msg.senderId (msg.update past 0)) (msg.update past 0)).onWire)
          msg.senderId =
      sharedEntry (handleWorkerJoinMessage now past srcIp srcPort router msg).1 msg.senderId ↔
      JoinAgrees srcIp router (msg.update past 0) := by
  have henters : EntersWorker router msg := ⟨h.isRouter, h.first⟩
  have hsame := h.same
  unfold JoinAgrees
  rw [h.sender]
  unfold sharedEntry at hsame ⊢
  generalize hannounced : GossipMemberUpdate.onWire _ = announced
  have hid : announced.nodeId = msg.senderId := by rw [← hannounced]; exact h.sender
  cases hget : clusterViewGet router.view msg.senderId with
  | none =>
    rw [hget, Option.map_none, Option.map_eq_none_iff, ← hid] at hsame
    have hignored : handleAliveUpdate seenAt member announced = member := by
      simp [handleAliveUpdate, hsame]
    rw [hignored, ← hid, hsame, hid, Option.map_none]
    by_cases hroom : router.view.members.length < router.view.capacity
    · rw [handleWorkerJoinMessage_new henters h.sender hget hroom]
      exact iff_of_false (by simp) (Nat.not_le.mpr hroom)
    · have hfull := Nat.not_lt.mp hroom
      rw [handleWorkerJoinMessage_full henters h.sender hget hfull, hget]
      exact iff_of_true rfl hfull
  | some existing =>
    rw [hget, Option.map_some] at hsame
    obtain ⟨held, hheld, hshared⟩ := Option.map_eq_some_iff.mp hsame
    have hincarnation : announced.incarnation = offered existing (msg.update past 0) := by
      rw [← hannounced, ← joinIncarnation_of_get _ hget]
      rfl
    rw [← hid] at hheld
    rw [handleWorkerJoinMessage_self henters h.sender hget, ← hid, handleAliveUpdate_self hheld,
      hincarnation, Option.map_some, Option.map_some, Option.some_inj]
    exact announcementAgrees_iff hshared

/-- The other member is sent the announcement, and once it has handled it the
two agree on the worker exactly in these states. -/
theorem join_propagates_iff (h : JoinSeenByBoth router member peer past msg) :
    ∃ datagram, .send peer.ipAddress peer.gossipPort datagram ∈
        (handleWorkerJoinMessage now past srcIp srcPort router msg).2 ∧
      (sharedEntry (receiveDatagram seenAt past' ip port member datagram).1 msg.senderId =
          sharedEntry (handleWorkerJoinMessage now past srcIp srcPort router msg).1 msg.senderId ↔
        JoinAgrees srcIp router (msg.update past 0)) := by
  obtain ⟨sequenceNum, datagram, hsent, hdecoded⟩ := announced_to_peer h
  refine ⟨datagram, hsent, ?_⟩
  rw [receiveDatagram_alive h.other hdecoded]
  exact sharedEntry_eq_iff h

def secondMember : ClusterMember where
  nodeId := 2
  nodeType := .unknown
  ipAddress := []
  gossipPort := 0
  dataPort := 0
  status := .alive
  lastSeenMs := 0
  incarnation := 0

def memberTold (others : List GossipMemberUpdate) : GossipEngine :=
  secondRouter.run [arrival (messageOf 1 gossipMsgPing (newsOf 1 .alive 0 :: others))]

theorem joinSeenByBoth_suspect : JoinSeenByBoth (routerTold [newsOf 3 .suspect 1])
    (memberTold [newsOf 3 .suspect 1]) secondMember (fun _ => .zero) restarted where
  isRouter := by decide +kernel
  first := by decide
  sender := by decide
  other := by decide +kernel
  apart := by decide +kernel
  known := by decide +kernel
  notDead := by decide
  same := by decide +kernel

theorem join_propagates_iff_suspect :
    ∃ datagram, .send [] 0 datagram ∈ (handleWorkerJoinMessage 0 (fun _ => .zero) [] 7003
        (routerTold [newsOf 3 .suspect 1]) restarted).2 ∧
      (sharedEntry (receiveDatagram 0 (fun _ => .zero) [] 7000 (memberTold [newsOf 3 .suspect 1])
          datagram).1 3 =
        sharedEntry (handleWorkerJoinMessage 0 (fun _ => .zero) [] 7003
          (routerTold [newsOf 3 .suspect 1]) restarted).1 3 ↔
        JoinAgrees [] (routerTold [newsOf 3 .suspect 1]) (restarted.update (fun _ => .zero) 0)) :=
  join_propagates_iff joinSeenByBoth_suspect

theorem joinSeenByBoth_new : JoinSeenByBoth (routerTold []) (memberTold []) secondMember
    (fun _ => .zero) restarted where
  isRouter := by decide +kernel
  first := by decide
  sender := by decide
  other := by decide +kernel
  apart := by decide +kernel
  known := by decide +kernel
  notDead := by decide
  same := by decide +kernel

/-- A worker that is new to both is entered by the router only. -/
theorem new_worker_not_propagated :
    JoinSeenByBoth (routerTold []) (memberTold []) secondMember (fun _ => .zero) restarted ∧
      (memberTold []).view.members.length < (memberTold []).view.capacity ∧
      ∃ datagram, .send [] 0 datagram ∈ (handleWorkerJoinMessage 0 (fun _ => .zero) [] 7003
          (routerTold []) restarted).2 ∧
        sharedEntry (receiveDatagram 0 (fun _ => .zero) [] 7000 (memberTold []) datagram).1 3 ≠
          sharedEntry (handleWorkerJoinMessage 0 (fun _ => .zero) [] 7003 (routerTold [])
            restarted).1 3 := by
  refine ⟨joinSeenByBoth_new, by decide +kernel, ?_⟩
  obtain ⟨sequenceNum, datagram, hsent, hdecoded⟩ :=
    @announced_to_peer _ _ _ _ _ 0 [] 7003 joinSeenByBoth_new
  refine ⟨datagram, hsent, ?_⟩
  rw [receiveDatagram_alive joinSeenByBoth_new.other hdecoded]
  decide +kernel

end Roole
