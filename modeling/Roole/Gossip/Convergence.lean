import Mathlib.Data.Finset.Card
import Roole.Gossip.Engine
import Roole.Gossip.Standing

/-!
# Convergence of views under PINGs

The PING handler treats each member by itself, so the view after a delivery
follows from the reports about each member in turn. Orders of delivery then
agree exactly when the reports about every member commute.
-/

namespace Roole

open Standing

def maxIncarnation : Nat := 2 ^ 64 - 1

def GossipMemberUpdate.standing (update : GossipMemberUpdate) : Standing :=
  ⟨update.status, update.incarnation.toNat⟩

def ClusterMember.standing (member : ClusterMember) : Standing :=
  ⟨member.status, member.incarnation.toNat⟩

def GossipEngine.standing (engine : GossipEngine) (nodeId : NodeId) : Option Standing :=
  (clusterViewGet engine.view nodeId).map ClusterMember.standing

theorem toNat_add_one (k : UInt64) :
    (k + 1).toNat = if k.toNat = maxIncarnation then 0 else k.toNat + 1 := by
  have hlt := k.toNat_lt
  rw [UInt64.toNat_add, UInt64.toNat_one, maxIncarnation]
  split <;> omega

theorem incarnation_le (update : GossipMemberUpdate) :
    update.standing.incarnation ≤ maxIncarnation :=
  Nat.le_pred_of_lt update.incarnation.toNat_lt

theorem handlePingUpdate_standing (now : UInt64)
    (hroom : clusterViewGet engine.view update.nodeId = none →
      engine.view.members.length < engine.view.capacity) :
    (handlePingUpdate now engine update).standing update.nodeId =
      some (accept maxIncarnation (engine.standing update.nodeId) update.standing) := by
  unfold GossipEngine.standing
  rw [handlePingUpdate_view]
  cases hget : clusterViewGet engine.view update.nodeId with
  | none =>
    have hadd : clusterViewGet (clusterViewAdd now engine.view
        (update.toMember now update.status)).2 update.nodeId =
          some (update.toMember now update.status) := clusterViewAdd_new hget (hroom hget)
    rw [hadd]
    rfl
  | some existing =>
    have hfresh : update.incarnation > existing.incarnation ↔
        existing.standing.incarnation < update.standing.incarnation := UInt64.lt_iff_toNat_lt
    have haccept : accept maxIncarnation (some existing.standing) update.standing =
        if (existing.status = .dead ∧ update.status = .alive) ∧
            update.incarnation > existing.incarnation then rejoin maxIncarnation update.standing
        else if update.incarnation > existing.incarnation then update.standing
        else existing.standing := by
      simp only [accept, ← hfresh]
      rfl
    rw [Option.map_some, haccept]
    dsimp only
    split_ifs with hrejoin hnew
    · have hadd : clusterViewGet (clusterViewAdd now engine.view (update.toMember now .alive)).2
          update.nodeId = some { update.toMember now .alive with
            incarnation := update.incarnation + 1 } := clusterViewAdd_rejoin hget rfl hrejoin.1.1
      rw [hadd]
      simp only [Option.map_some, ClusterMember.standing, toNat_add_one]
      rfl
    · rw [clusterViewUpdateStatus_self now update.status update.incarnation hget,
        if_pos (UInt64.le_of_lt hnew)]
      rfl
    · rw [hget]
      rfl

theorem handlePingUpdate_standing_of_ne (now : UInt64) (hne : nodeId ≠ update.nodeId) :
    (handlePingUpdate now engine update).standing nodeId = engine.standing nodeId := by
  rw [GossipEngine.standing, handlePingUpdate_of_ne hne]
  rfl

theorem standing_eq_none : GossipEngine.standing engine nodeId = none ↔
    clusterViewGet engine.view nodeId = none := Option.map_eq_none_iff

-- -----------------------------------------------------------------------------
-- Room for the members

/-- The view has a free entry for every node that the updates introduce. -/
def RoomFor (view : ClusterView) (updates : List GossipMemberUpdate) : Prop :=
  view.members.length + ((updates.map GossipMemberUpdate.nodeId).toFinset.filter fun nodeId =>
    clusterViewGet view nodeId = none).card ≤ view.capacity

theorem RoomFor.lt (h : RoomFor view (update :: rest))
    (hget : clusterViewGet view update.nodeId = none) : view.members.length < view.capacity := by
  have hpos : 0 < (((update :: rest).map GossipMemberUpdate.nodeId).toFinset.filter fun nodeId =>
      clusterViewGet view nodeId = none).card :=
    Finset.card_pos.mpr ⟨update.nodeId, by simp [hget]⟩
  unfold RoomFor at h
  omega

theorem RoomFor.perm (h : RoomFor view updates) (hperm : order.Perm updates) :
    RoomFor view order := by
  have hset : (order.map GossipMemberUpdate.nodeId).toFinset =
      (updates.map GossipMemberUpdate.nodeId).toFinset :=
    List.toFinset_eq_of_perm _ _ (hperm.map _)
  rw [RoomFor, hset]
  exact h

theorem handlePingUpdate_capacity (now : UInt64) (engine : GossipEngine)
    (update : GossipMemberUpdate) :
    (handlePingUpdate now engine update).view.capacity = engine.view.capacity := by
  rw [handlePingUpdate_view]
  split
  · simp
  · split_ifs <;> simp

theorem handlePingUpdate_length (now : UInt64)
    (hroom : clusterViewGet engine.view update.nodeId = none →
      engine.view.members.length < engine.view.capacity) :
    (handlePingUpdate now engine update).view.members.length = engine.view.members.length +
      if clusterViewGet engine.view update.nodeId = none then 1 else 0 := by
  rw [handlePingUpdate_view]
  cases hget : clusterViewGet engine.view update.nodeId with
  | none => exact clusterViewAdd_length_new hget (hroom hget)
  | some existing =>
    rw [if_neg (by simp)]
    dsimp only
    split_ifs
    · exact clusterViewAdd_length hget
    · exact clusterViewUpdateStatus_length _ _ _ _ _
    · rfl

theorem RoomFor.next (now : UInt64) (h : RoomFor engine.view (update :: rest)) :
    RoomFor (handlePingUpdate now engine update).view rest := by
  have hlt := h.lt
  have hlength := handlePingUpdate_length now hlt
  have hget : ∀ nodeId, clusterViewGet (handlePingUpdate now engine update).view nodeId = none ↔
      clusterViewGet engine.view nodeId = none ∧ nodeId ≠ update.nodeId := by
    intro nodeId
    rw [← standing_eq_none, ← standing_eq_none]
    by_cases hne : nodeId = update.nodeId
    · subst hne
      simp [handlePingUpdate_standing now hlt]
    · simp [handlePingUpdate_standing_of_ne now hne, hne]
  have hset : ((rest.map GossipMemberUpdate.nodeId).toFinset.filter fun nodeId =>
      clusterViewGet (handlePingUpdate now engine update).view nodeId = none) ⊆
      (((update :: rest).map GossipMemberUpdate.nodeId).toFinset.filter fun nodeId =>
        clusterViewGet engine.view nodeId = none).erase update.nodeId := by
    intro nodeId
    simp only [Finset.mem_filter, Finset.mem_erase, hget, List.mem_toFinset, List.map_cons,
      List.mem_cons]
    exact fun ⟨hmem, hnone, hne⟩ => ⟨hne, .inr hmem, hnone⟩
  have hcard := Finset.card_le_card hset
  unfold RoomFor at *
  rw [hlength, handlePingUpdate_capacity]
  split_ifs with hnew
  · rw [Finset.card_erase_of_mem (by simp [hnew])] at hcard
    have := hlt hnew
    omega
  · have := hcard.trans Finset.card_erase_le
    omega

-- -----------------------------------------------------------------------------
-- Deliveries

abbrev Delivery := List (UInt64 × GossipMessage)

def deliver (past : Nat → GossipMemberUpdate) (engine : GossipEngine) (delivery : Delivery) :
    GossipEngine :=
  delivery.foldl (fun engine arrival => (handlePingMessage arrival.1 past engine arrival.2).1) engine

/-- The count covers exactly the slots written, and they fit. -/
def GossipMessage.Complete (msg : GossipMessage) : Prop :=
  msg.numUpdates.toNat = msg.updates.length ∧ msg.updates.length ≤ gossipMaxPiggybackUpdates

/-- Complete messages, in as many PINGs and in whatever order, that carry
these updates. -/
structure Carries (updates : List GossipMemberUpdate) (delivery : Delivery) : Prop where
  complete : ∀ arrival ∈ delivery, arrival.2.Complete
  perm : (delivery.flatMap fun arrival => arrival.2.updates).Perm updates

def reportsAbout (nodeId : NodeId) (updates : List GossipMemberUpdate) : List Standing :=
  (updates.filter fun update => update.nodeId = nodeId).map GossipMemberUpdate.standing

theorem reportsAbout_append : reportsAbout nodeId (first ++ second) =
    reportsAbout nodeId first ++ reportsAbout nodeId second := by
  simp [reportsAbout]

theorem GossipMessage.Complete.readUpdates {msg : GossipMessage} (h : msg.Complete)
    (past : Nat → GossipMemberUpdate) : msg.readUpdates past = msg.updates := by
  obtain ⟨hcount, hle⟩ := h
  rw [GossipMessage.readUpdates, hcount]
  refine List.ext_getElem (by simp) fun i hi hi' => ?_
  have hslot : i < gossipMaxPiggybackUpdates := by omega
  simp [GossipMessage.update, hslot, hi']

theorem foldl_handlePingUpdate_standing (now : UInt64)
    (hroom : RoomFor engine.view (updates ++ later)) (nodeId : NodeId) :
    (updates.foldl (handlePingUpdate now) engine).standing nodeId =
        acceptAll maxIncarnation (engine.standing nodeId) (reportsAbout nodeId updates) ∧
      RoomFor (updates.foldl (handlePingUpdate now) engine).view later := by
  induction updates generalizing engine with
  | nil => exact ⟨rfl, hroom⟩
  | cons update rest ih =>
    rw [List.cons_append] at hroom
    obtain ⟨hstanding, hlater⟩ := ih (hroom.next now)
    refine ⟨?_, hlater⟩
    rw [List.foldl_cons, hstanding]
    by_cases hself : update.nodeId = nodeId
    · subst hself
      simp [reportsAbout, handlePingUpdate_standing now hroom.lt]
    · rw [handlePingUpdate_standing_of_ne now (Ne.symm hself)]
      simp [reportsAbout, hself]

theorem deliver_standing (past : Nat → GossipMemberUpdate)
    (hcomplete : ∀ arrival ∈ delivery, arrival.2.Complete)
    (hroom : RoomFor engine.view (delivery.flatMap fun arrival => arrival.2.updates))
    (nodeId : NodeId) :
    (deliver past engine delivery).standing nodeId =
      acceptAll maxIncarnation (engine.standing nodeId)
        (reportsAbout nodeId (delivery.flatMap fun arrival => arrival.2.updates)) := by
  induction delivery generalizing engine with
  | nil => rfl
  | cons arrival rest ih =>
    obtain ⟨hmsg, hrest⟩ := List.forall_mem_cons.mp hcomplete
    rw [List.flatMap_cons] at hroom ⊢
    obtain ⟨hstanding, hlater⟩ := foldl_handlePingUpdate_standing arrival.1 hroom nodeId
    have hhandled : (handlePingMessage arrival.1 past engine arrival.2).1.view =
        (arrival.2.updates.foldl (handlePingUpdate arrival.1) engine).view := by
      simp [handlePingMessage, hmsg.readUpdates past]
    have hstanding' : (handlePingMessage arrival.1 past engine arrival.2).1.standing nodeId =
        (arrival.2.updates.foldl (handlePingUpdate arrival.1) engine).standing nodeId := by
      rw [GossipEngine.standing, hhandled]
      rfl
    rw [← hhandled] at hlater
    rw [reportsAbout_append, acceptAll_append, ← hstanding, ← hstanding']
    exact ih hrest hlater

/-- Any two deliveries of the updates leave the same status and incarnation
for every member. -/
def Converges (past : Nat → GossipMemberUpdate) (engine : GossipEngine)
    (updates : List GossipMemberUpdate) : Prop :=
  ∀ first second, Carries updates first → Carries updates second → ∀ nodeId,
    (deliver past engine first).standing nodeId = (deliver past engine second).standing nodeId

def oneByOne (updates : List GossipMemberUpdate) : Delivery :=
  updates.map fun update => (0,
    { version := 1
      msgType := gossipMsgPing
      flags := 0
      senderId := 0
      sequenceNum := 0
      numUpdates := 1
      updates := [update] })

theorem oneByOne_carries (hperm : order.Perm updates) : Carries updates (oneByOne order) where
  complete := by simp [oneByOne, GossipMessage.Complete, gossipMaxPiggybackUpdates]
  perm := by simpa [oneByOne, List.flatMap_map] using hperm

theorem exists_order_of_reports (hperm : reports.Perm (reportsAbout nodeId updates)) :
    ∃ order, order.Perm updates ∧ reportsAbout nodeId order = reports := by
  let about (update : GossipMemberUpdate) : Bool := update.nodeId = nodeId
  have hmap : List.Forall₂ (fun report update => report = GossipMemberUpdate.standing update)
      (reportsAbout nodeId updates) (updates.filter about) := by
    rw [reportsAbout, List.forall₂_map_left_iff]
    exact List.forall₂_same.mpr fun _ _ => rfl
  obtain ⟨chosen, hchosen, hchosenPerm⟩ := List.perm_comp_forall₂ hperm hmap
  refine ⟨chosen ++ updates.filter (fun update => !about update), ?_, ?_⟩
  · exact (hchosenPerm.append_right _).trans (List.filter_append_perm about updates)
  · have hall : chosen.filter about = chosen := List.filter_eq_self.mpr fun update hmem =>
      (List.mem_filter.mp (hchosenPerm.mem_iff.mp hmem)).2
    have hnone : (updates.filter fun update => !about update).filter about = [] := by
      simp [List.filter_filter]
    have hmapped : chosen.map GossipMemberUpdate.standing = reports := by
      have heq := List.forall₂_map_right_iff (R := Eq).mpr hchosen
      rw [List.forall₂_eq_eq_eq] at heq
      exact heq.symm
    simp only [reportsAbout]
    rw [List.filter_append, hall, hnone, List.append_nil, hmapped]

/-- With room for all members the deliveries agree exactly when, for every
node, the reports about it commute. -/
theorem converges_iff_settles (hroom : RoomFor engine.view updates) :
    Converges past engine updates ↔ ∀ nodeId,
      Settles maxIncarnation (engine.standing nodeId) (reportsAbout nodeId updates) := by
  have hlimit (nodeId : NodeId) : ∀ report ∈ reportsAbout nodeId updates,
      report.incarnation ≤ maxIncarnation := by
    intro report hmem
    obtain ⟨update, _, rfl⟩ := List.mem_map.mp hmem
    exact incarnation_le update
  have hend {delivery : Delivery} (h : Carries updates delivery) (nodeId : NodeId) :=
    deliver_standing past h.complete (hroom.perm h.perm) nodeId
  constructor
  · intro h nodeId
    refine (confluent_iff_settles (hlimit nodeId)).mp fun first second hfirst hsecond => ?_
    obtain ⟨order, horder, rfl⟩ := exists_order_of_reports hfirst
    obtain ⟨order', horder', rfl⟩ := exists_order_of_reports hsecond
    have hagree := h _ _ (oneByOne_carries horder) (oneByOne_carries horder') nodeId
    rw [hend (oneByOne_carries horder), hend (oneByOne_carries horder')] at hagree
    simpa [oneByOne, List.flatMap_map] using hagree
  · intro h first second hfirst hsecond nodeId
    rw [hend hfirst, hend hsecond]
    refine (confluent_iff_settles (hlimit nodeId)).mpr (h nodeId) _ _ ?_ ?_
    · exact (hfirst.perm.filter _).map _
    · exact (hsecond.perm.filter _).map _

def reportOfThree (status : NodeStatus) (incarnation : UInt64) : GossipMemberUpdate :=
  { GossipMemberUpdate.zero with nodeId := 3, status := status, incarnation := incarnation }

def emptyCluster : GossipEngine where
  myId := 1
  myType := .worker
  myIp := []
  gossipPort := 0
  dataPort := 0
  incarnation := 0
  sequenceNum := 0
  config := gossipDefaultConfig
  view := .empty maxClusterNodes
  hasCallback := false
  events := []
  pendingAcks := []
  updateQueue := .empty .zero

theorem converges_iff_settles_two :
    Converges (fun _ => .zero) emptyCluster [reportOfThree .dead 1, reportOfThree .alive 2] ↔
      ∀ nodeId, Settles maxIncarnation (emptyCluster.standing nodeId)
        (reportsAbout nodeId [reportOfThree .dead 1, reportOfThree .alive 2]) :=
  converges_iff_settles (by unfold RoomFor; decide +kernel)

/-- A DEAD report and a later ALIVE one: in this order the rejoin adds one to
the incarnation, in the other one it does not happen. -/
theorem not_converges_rejoin :
    RoomFor emptyCluster.view [reportOfThree .dead 1, reportOfThree .alive 2] ∧
      ¬ Converges (fun _ => .zero) emptyCluster
        [reportOfThree .dead 1, reportOfThree .alive 2] := by
  refine ⟨by unfold RoomFor; decide +kernel, fun h => ?_⟩
  have hagree := h (oneByOne [reportOfThree .dead 1, reportOfThree .alive 2])
    (oneByOne [reportOfThree .alive 2, reportOfThree .dead 1])
    (oneByOne_carries (.refl _)) (oneByOne_carries (.swap _ _ _)) 3
  revert hagree
  decide +kernel

end Roole
