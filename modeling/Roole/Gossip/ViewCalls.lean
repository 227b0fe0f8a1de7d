import Roole.Gossip.Rounds

/-!
# Calls on the view

The changes that an engine makes to the shared view, as values. Each writes at
most one entry, and all other ids lead to what they led to before.
-/

namespace Roole

/-- A change of the view, as its functions make it. -/
inductive ViewCall
  | keep
  | add (member : ClusterMember)
  | updateStatus (nodeId : NodeId) (status : NodeStatus) (incarnation : UInt64)
  | refresh (nodeId : NodeId) (incarnation : UInt64)

def ViewCall.apply (now : UInt64) (view : ClusterView) : ViewCall → ClusterView
  | .keep => view
  | .add member => (clusterViewAdd now view member).2
  | .updateStatus nodeId status incarnation =>
    (clusterViewUpdateStatus now view nodeId status incarnation).2
  | .refresh nodeId incarnation =>
    view.replace nodeId (·.refresh now incarnation) fun _ hself => hself

@[simp] theorem apply_keep (now : UInt64) (view : ClusterView) :
    ViewCall.keep.apply now view = view := rfl

@[simp] theorem apply_add (now : UInt64) (view : ClusterView) (member : ClusterMember) :
    (ViewCall.add member).apply now view = (clusterViewAdd now view member).2 := rfl

@[simp] theorem apply_updateStatus (now : UInt64) (view : ClusterView) (nodeId : NodeId)
    (status : NodeStatus) (incarnation : UInt64) :
    (ViewCall.updateStatus nodeId status incarnation).apply now view =
      (clusterViewUpdateStatus now view nodeId status incarnation).2 := rfl

def ViewCall.written (now : UInt64) (view : ClusterView) : ViewCall → Option ClusterMember
  | .keep => none
  | .add member =>
    match clusterViewGet view member.nodeId with
    | none =>
      if view.members.length < view.capacity then some { member with lastSeenMs := now } else none
    | some existing =>
      if member.status = .alive ∧ existing.status = .dead then
        some { member with lastSeenMs := now, incarnation := member.incarnation + 1 }
      else if member.incarnation ≥ existing.incarnation then some { member with lastSeenMs := now }
      else none
  | .updateStatus nodeId status incarnation =>
    match clusterViewGet view nodeId with
    | none => none
    | some existing =>
      if incarnation ≥ existing.incarnation then some (existing.setStatus now status incarnation)
      else none
  | .refresh nodeId incarnation => (clusterViewGet view nodeId).map (·.refresh now incarnation)

def ViewCall.status : ViewCall → Option NodeStatus
  | .keep => none
  | .add member => some member.status
  | .updateStatus _ status _ => some status
  | .refresh .. => some .alive

section Entries

variable {now : UInt64} {view : ClusterView} {call : ViewCall} {entry : ClusterMember}
  {nodeId : NodeId}

theorem clusterViewGet_apply_add (now : UInt64) (view : ClusterView) (member : ClusterMember)
    (nodeId : NodeId) : clusterViewGet ((ViewCall.add member).apply now view) nodeId =
      match (ViewCall.add member).written now view with
      | some entry => if nodeId = entry.nodeId then some entry else clusterViewGet view nodeId
      | none => clusterViewGet view nodeId := by
  rw [apply_add]
  by_cases hne : nodeId = member.nodeId
  · subst hne
    cases hget : clusterViewGet view member.nodeId with
    | none =>
      by_cases hroom : view.members.length < view.capacity
      · simp [ViewCall.written, hget, hroom, clusterViewAdd_new hget hroom]
      · simp [ViewCall.written, hget, hroom, clusterViewAdd_full now hget (Nat.not_lt.mp hroom)]
    | some existing =>
      rw [clusterViewAdd_self now hget]
      simp only [ViewCall.written, hget]
      split_ifs <;> simp
  · rw [clusterViewAdd_of_ne hne]
    cases hget : clusterViewGet view member.nodeId with
    | none =>
      simp only [ViewCall.written, hget]
      split_ifs <;> simp [hne]
    | some existing =>
      simp only [ViewCall.written, hget]
      split_ifs <;> simp [hne]

theorem clusterViewGet_apply_updateStatus (now : UInt64) (view : ClusterView) (other : NodeId)
    (status : NodeStatus) (incarnation : UInt64) (nodeId : NodeId) :
    clusterViewGet ((ViewCall.updateStatus other status incarnation).apply now view) nodeId =
      match (ViewCall.updateStatus other status incarnation).written now view with
      | some entry => if nodeId = entry.nodeId then some entry else clusterViewGet view nodeId
      | none => clusterViewGet view nodeId := by
  rw [apply_updateStatus]
  cases hget : clusterViewGet view other with
  | none => simp [ViewCall.written, clusterViewUpdateStatus, hget]
  | some existing =>
    simp only [ViewCall.written, hget]
    have hid := clusterViewGet_nodeId hget
    by_cases hne : nodeId = other
    · subst hne
      rw [clusterViewUpdateStatus_self now status incarnation hget]
      split_ifs <;> simp [hid, hget]
    · rw [clusterViewUpdateStatus_of_ne hne]
      split_ifs <;> simp [hid, hne]

theorem clusterViewGet_apply_refresh (now : UInt64) (view : ClusterView) (self : NodeId)
    (incarnation : UInt64) (nodeId : NodeId) :
    clusterViewGet ((ViewCall.refresh self incarnation).apply now view) nodeId =
      match (ViewCall.refresh self incarnation).written now view with
      | some entry => if nodeId = entry.nodeId then some entry else clusterViewGet view nodeId
      | none => clusterViewGet view nodeId := by
  by_cases hne : nodeId = self
  · subst hne
    have hrefreshed : clusterViewGet ((ViewCall.refresh nodeId incarnation).apply now view) nodeId =
        (clusterViewGet view nodeId).map (·.refresh now incarnation) :=
      clusterViewGet_replace (f := (·.refresh now incarnation)) fun _ hself => hself
    rw [hrefreshed]
    cases hget : clusterViewGet view nodeId with
    | none => simp [ViewCall.written, hget]
    | some existing =>
      simp [ViewCall.written, hget, ClusterMember.refresh, clusterViewGet_nodeId hget]
  · have hkept : clusterViewGet ((ViewCall.refresh self incarnation).apply now view) nodeId =
        clusterViewGet view nodeId :=
      clusterViewGet_replace_of_ne (f := (·.refresh now incarnation)) (fun _ hself => hself) hne
    rw [hkept]
    cases hget : clusterViewGet view self with
    | none => simp [ViewCall.written, hget]
    | some existing =>
      simp [ViewCall.written, hget, ClusterMember.refresh, clusterViewGet_nodeId hget, hne]

theorem clusterViewGet_apply (now : UInt64) (view : ClusterView) (call : ViewCall)
    (nodeId : NodeId) : clusterViewGet (call.apply now view) nodeId =
      match call.written now view with
      | some entry => if nodeId = entry.nodeId then some entry else clusterViewGet view nodeId
      | none => clusterViewGet view nodeId := by
  cases call with
  | keep => rfl
  | add member => exact clusterViewGet_apply_add now view member nodeId
  | updateStatus other status incarnation =>
    exact clusterViewGet_apply_updateStatus now view other status incarnation nodeId
  | refresh self incarnation => exact clusterViewGet_apply_refresh now view self incarnation nodeId

theorem clusterViewGet_apply_none (h : call.written now view = none) (nodeId : NodeId) :
    clusterViewGet (call.apply now view) nodeId = clusterViewGet view nodeId := by
  rw [clusterViewGet_apply, h]

theorem clusterViewGet_apply_some (h : call.written now view = some entry) (nodeId : NodeId) :
    clusterViewGet (call.apply now view) nodeId =
      if nodeId = entry.nodeId then some entry else clusterViewGet view nodeId := by
  rw [clusterViewGet_apply, h]

theorem written_status (h : call.written now view = some entry) :
    call.status = some entry.status := by
  cases call with
  | keep => cases h
  | add member =>
    cases hget : clusterViewGet view member.nodeId with
    | none =>
      simp only [ViewCall.written, hget] at h
      split_ifs at h
      cases h
      rfl
    | some existing =>
      simp only [ViewCall.written, hget] at h
      split_ifs at h <;> cases h <;> rfl
  | updateStatus nodeId status incarnation =>
    cases hget : clusterViewGet view nodeId with
    | none => simp [ViewCall.written, hget] at h
    | some existing =>
      simp only [ViewCall.written, hget] at h
      split_ifs at h
      cases h
      rfl
  | refresh nodeId incarnation =>
    obtain ⟨existing, -, rfl⟩ := Option.map_eq_some_iff.mp h
    rfl

theorem forall_entries_apply {P : ClusterMember → Prop}
    (h : ∀ nodeId entry, clusterViewGet view nodeId = some entry → P entry) :
    (∀ nodeId entry, clusterViewGet (call.apply now view) nodeId = some entry → P entry) ↔
      ∀ entry, call.written now view = some entry → P entry := by
  constructor
  · intro hafter entry hwritten
    exact hafter entry.nodeId entry (by rw [clusterViewGet_apply_some hwritten, if_pos rfl])
  · intro hwritten nodeId entry hget
    cases hcall : call.written now view with
    | none => exact h nodeId entry (clusterViewGet_apply_none hcall nodeId ▸ hget)
    | some changed =>
      rw [clusterViewGet_apply_some hcall] at hget
      split_ifs at hget
      · cases hget
        exact hwritten _ hcall
      · exact h nodeId entry hget

end Entries

end Roole
