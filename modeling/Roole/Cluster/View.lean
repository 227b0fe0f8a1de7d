import Roole.Common
import Roole.Lib.KeyedList

/-!
# The cluster view

The shared table of members: `cluster_view_add`, `cluster_view_update_status`
and the lookups. Node types and statuses are read from single bytes off the
wire, so values without a name occur.
-/

namespace Roole

open KeyedList

def maxIpLen : Nat := 16
def maxClusterNodes : Nat := 512

inductive NodeType
  | unknown
  | router
  | worker
  | other (raw : UInt8) (unnamed : 2 < raw)
  deriving DecidableEq, Repr

inductive NodeStatus
  | alive
  | suspect
  | dead
  | other (raw : UInt8) (unnamed : 2 < raw)
  deriving DecidableEq, Repr

def NodeType.ofByte (b : UInt8) : NodeType :=
  if h : 2 < b then .other b h else if b = 0 then .unknown else if b = 1 then .router else .worker

def NodeType.toByte : NodeType → UInt8
  | .unknown => 0
  | .router => 1
  | .worker => 2
  | .other raw _ => raw

def NodeStatus.ofByte (b : UInt8) : NodeStatus :=
  if h : 2 < b then .other b h else if b = 0 then .alive else if b = 1 then .suspect else .dead

def NodeStatus.toByte : NodeStatus → UInt8
  | .alive => 0
  | .suspect => 1
  | .dead => 2
  | .other raw _ => raw

@[simp] theorem NodeType.ofByte_toByte (t : NodeType) : ofByte t.toByte = t := by
  cases t with
  | unknown => rfl
  | router => rfl
  | worker => rfl
  | other raw h => simp [ofByte, toByte, h]

@[simp] theorem NodeStatus.ofByte_toByte (s : NodeStatus) : ofByte s.toByte = s := by
  cases s with
  | alive => rfl
  | suspect => rfl
  | dead => rfl
  | other raw h => simp [ofByte, toByte, h]

structure ClusterMember where
  nodeId : NodeId
  nodeType : NodeType
  ipAddress : List UInt8
  gossipPort : UInt16
  dataPort : UInt16
  status : NodeStatus
  lastSeenMs : UInt64
  incarnation : UInt64
  deriving DecidableEq, Repr

/-- The table only changes through the functions below, which keep ids apart
and the count within the capacity. -/
structure ClusterView where
  members : List ClusterMember
  capacity : Nat
  nodup : (members.map ClusterMember.nodeId).Nodup
  length_le : members.length ≤ capacity

def ClusterView.empty (capacity : Nat) : ClusterView where
  members := []
  capacity := capacity
  nodup := List.nodup_nil
  length_le := Nat.zero_le _

def clusterViewGet (view : ClusterView) (nodeId : NodeId) : Option ClusterMember :=
  lookup ClusterMember.nodeId view.members nodeId

def ClusterView.replace (view : ClusterView) (nodeId : NodeId) (f : ClusterMember → ClusterMember)
    (hf : ∀ member, member.nodeId = nodeId → (f member).nodeId = nodeId) : ClusterView where
  members := modify ClusterMember.nodeId nodeId f view.members
  capacity := view.capacity
  nodup := by
    rw [map_key_modify hf]
    exact view.nodup
  length_le := by
    rw [modify_length]
    exact view.length_le

def ClusterView.append (view : ClusterView) (member : ClusterMember)
    (hnew : clusterViewGet view member.nodeId = none)
    (hroom : view.members.length < view.capacity) : ClusterView where
  members := view.members ++ [member]
  capacity := view.capacity
  nodup := nodup_map_concat view.nodup hnew
  length_le := by
    rw [List.length_append]
    exact hroom

def clusterViewAdd (now : UInt64) (view : ClusterView) (member : ClusterMember) :
    ResultStatus × ClusterView :=
  match h : clusterViewGet view member.nodeId with
  | some existing =>
    if member.status = .alive ∧ existing.status = .dead then
      -- a rejoining node comes back with the next incarnation
      let rejoined := { member with lastSeenMs := now, incarnation := member.incarnation + 1 }
      (.ok, view.replace member.nodeId (fun _ => rejoined) fun _ _ => rfl)
    else if member.incarnation ≥ existing.incarnation then
      let updated := { member with lastSeenMs := now }
      (.ok, view.replace member.nodeId (fun _ => updated) fun _ _ => rfl)
    else (.ok, view)
  | none =>
    if hroom : view.members.length < view.capacity then
      (.ok, view.append { member with lastSeenMs := now } h hroom)
    else (.errFull, view)

/-- The change `cluster_view_update_status` makes to an entry. -/
def ClusterMember.setStatus (now : UInt64) (status : NodeStatus) (incarnation : UInt64)
    (member : ClusterMember) : ClusterMember :=
  { member with
    status := status
    incarnation := incarnation
    lastSeenMs :=
      if status = .alive then now
      else if status = .suspect ∧ member.status = .alive then now
      else member.lastSeenMs }

@[simp] theorem setStatus_nodeId (now : UInt64) (status : NodeStatus) (incarnation : UInt64)
    (member : ClusterMember) :
    (member.setStatus now status incarnation).nodeId = member.nodeId := rfl

def clusterViewUpdateStatus (now : UInt64) (view : ClusterView) (nodeId : NodeId)
    (status : NodeStatus) (incarnation : UInt64) : ResultStatus × ClusterView :=
  match clusterViewGet view nodeId with
  | some existing =>
    if incarnation ≥ existing.incarnation then
      (.ok, view.replace nodeId (·.setStatus now status incarnation) (by simp))
    else (.ok, view)
  | none => (.errNotfound, view)

def ClusterView.remove (view : ClusterView) (nodeId : NodeId) : ClusterView where
  members := KeyedList.remove ClusterMember.nodeId nodeId view.members
  capacity := view.capacity
  nodup := view.nodup.sublist ((remove_sublist nodeId view.members).map _)
  length_le := (remove_sublist nodeId view.members).length_le.trans view.length_le

def clusterViewRemove (view : ClusterView) (nodeId : NodeId) : ResultStatus × ClusterView :=
  match clusterViewGet view nodeId with
  | some _ => (.ok, view.remove nodeId)
  | none => (.errNotfound, view)

theorem clusterViewGet_nodeId (h : clusterViewGet view nodeId = some member) :
    member.nodeId = nodeId := lookup_key h

theorem clusterViewGet_of_mem {view : ClusterView} (h : member ∈ view.members) :
    clusterViewGet view member.nodeId = some member := lookup_of_mem view.nodup h

theorem clusterViewGet_replace
    (hf : ∀ member, member.nodeId = nodeId → (f member).nodeId = nodeId) :
    clusterViewGet (view.replace nodeId f hf) nodeId = (clusterViewGet view nodeId).map f :=
  lookup_modify hf _

theorem clusterViewGet_replace_of_ne
    (hf : ∀ member, member.nodeId = nodeId → (f member).nodeId = nodeId) (hne : other ≠ nodeId) :
    clusterViewGet (view.replace nodeId f hf) other = clusterViewGet view other :=
  lookup_modify_of_ne hf hne _

theorem clusterViewGet_append : clusterViewGet (view.append member hnew hroom) nodeId =
    (clusterViewGet view nodeId).or (if member.nodeId = nodeId then some member else none) := by
  simp [clusterViewGet, ClusterView.append, lookup_append, lookup_cons]

theorem clusterViewAdd_of_ne (hne : nodeId ≠ member.nodeId) :
    clusterViewGet (clusterViewAdd now view member).2 nodeId = clusterViewGet view nodeId := by
  unfold clusterViewAdd
  split
  · split_ifs
    · exact clusterViewGet_replace_of_ne (by simp) hne
    · exact clusterViewGet_replace_of_ne (by simp) hne
    · rfl
  · split_ifs
    · simp [clusterViewGet_append, hne.symm]
    · rfl

theorem clusterViewAdd_new (hget : clusterViewGet view member.nodeId = none)
    (hroom : view.members.length < view.capacity) :
    clusterViewGet (clusterViewAdd now view member).2 member.nodeId =
      some { member with lastSeenMs := now } := by
  unfold clusterViewAdd
  split
  · simp_all
  · simp [hroom, clusterViewGet_append, hget]

theorem clusterViewAdd_full (now : UInt64) (hget : clusterViewGet view member.nodeId = none)
    (hfull : view.capacity ≤ view.members.length) : (clusterViewAdd now view member).2 = view := by
  unfold clusterViewAdd
  split
  · simp_all
  · simp [Nat.not_lt.mpr hfull]

theorem clusterViewAdd_self (now : UInt64)
    (hget : clusterViewGet view member.nodeId = some existing) :
    clusterViewGet (clusterViewAdd now view member).2 member.nodeId =
      some (if member.status = .alive ∧ existing.status = .dead then
          { member with lastSeenMs := now, incarnation := member.incarnation + 1 }
        else if member.incarnation ≥ existing.incarnation then { member with lastSeenMs := now }
        else existing) := by
  unfold clusterViewAdd
  split
  · rename_i held hheld
    cases hheld.symm.trans hget
    split_ifs <;> simp [clusterViewGet_replace, hget]
  · simp_all

theorem clusterViewAdd_rejoin (hget : clusterViewGet view member.nodeId = some existing)
    (halive : member.status = .alive) (hdead : existing.status = .dead) :
    clusterViewGet (clusterViewAdd now view member).2 member.nodeId =
      some { member with lastSeenMs := now, incarnation := member.incarnation + 1 } := by
  rw [clusterViewAdd_self now hget, if_pos ⟨halive, hdead⟩]

theorem clusterViewUpdateStatus_of_ne (hne : other ≠ nodeId) :
    clusterViewGet (clusterViewUpdateStatus now view nodeId status incarnation).2 other =
      clusterViewGet view other := by
  unfold clusterViewUpdateStatus
  cases hget : clusterViewGet view nodeId with
  | some existing =>
    dsimp only
    split_ifs
    · exact clusterViewGet_replace_of_ne (by simp) hne
    · rfl
  | none => rfl

theorem clusterViewUpdateStatus_self (now : UInt64) (status : NodeStatus) (incarnation : UInt64)
    (hget : clusterViewGet view nodeId = some existing) :
    clusterViewGet (clusterViewUpdateStatus now view nodeId status incarnation).2 nodeId =
      some (if incarnation ≥ existing.incarnation then existing.setStatus now status incarnation
        else existing) := by
  simp only [clusterViewUpdateStatus, hget]
  split_ifs
  · exact (clusterViewGet_replace (by simp)).trans (by rw [hget, Option.map_some])
  · exact hget

theorem clusterViewAdd_length (hget : clusterViewGet view member.nodeId = some existing) :
    (clusterViewAdd now view member).2.members.length = view.members.length := by
  unfold clusterViewAdd
  split
  · split_ifs <;> simp [ClusterView.replace]
  · simp_all

theorem clusterViewAdd_length_new (hget : clusterViewGet view member.nodeId = none)
    (hroom : view.members.length < view.capacity) :
    (clusterViewAdd now view member).2.members.length = view.members.length + 1 := by
  unfold clusterViewAdd
  split
  · simp_all
  · simp [hroom, ClusterView.append]

@[simp] theorem clusterViewAdd_capacity (now : UInt64) (view : ClusterView)
    (member : ClusterMember) : (clusterViewAdd now view member).2.capacity = view.capacity := by
  unfold clusterViewAdd
  split
  · split_ifs <;> rfl
  · split_ifs <;> rfl

@[simp] theorem clusterViewUpdateStatus_length (now : UInt64) (view : ClusterView)
    (nodeId : NodeId) (status : NodeStatus) (incarnation : UInt64) :
    (clusterViewUpdateStatus now view nodeId status incarnation).2.members.length =
      view.members.length := by
  unfold clusterViewUpdateStatus
  split
  · split_ifs <;> simp [ClusterView.replace]
  · rfl

@[simp] theorem clusterViewUpdateStatus_capacity (now : UInt64) (view : ClusterView)
    (nodeId : NodeId) (status : NodeStatus) (incarnation : UInt64) :
    (clusterViewUpdateStatus now view nodeId status incarnation).2.capacity = view.capacity := by
  unfold clusterViewUpdateStatus
  split
  · split_ifs <;> rfl
  · rfl

end Roole
