import Roole.Cluster.View
import Roole.Lib.SlotArray

/-!
# The array of the members

`membership.c` keeps a view in an array of fixed size: every operation searches
the slots in use, writes the one it finds or the first free one, and a removal
moves the slots behind it up. Each operation does to the array what the
operation of the view does to the list of its members.
-/

namespace Roole

open KeyedList SlotArray

def ClusterMember.zero : ClusterMember where
  nodeId := 0
  nodeType := .unknown
  ipAddress := []
  gossipPort := 0
  dataPort := 0
  status := .alive
  lastSeenMs := 0
  incarnation := 0

structure ViewTable where
  members : SlotArray ClusterMember
  capacity : Nat

namespace ViewTable

def init (capacity : Nat) : ViewTable where
  members := ⟨List.replicate capacity .zero, 0⟩
  capacity := capacity

def items (table : ViewTable) : List ClusterMember := table.members.items

def find (table : ViewTable) (nodeId : NodeId) : Option (Nat × ClusterMember) :=
  table.members.search ClusterMember.nodeId nodeId

def write (table : ViewTable) (i : Nat) (member : ClusterMember) : ViewTable :=
  { table with members := table.members.write i member }

def add (now : UInt64) (table : ViewTable) (member : ClusterMember) : ResultStatus × ViewTable :=
  match table.find member.nodeId with
  | some (i, existing) =>
    if member.status = .alive ∧ existing.status = .dead then
      (.ok, table.write i
        { member with lastSeenMs := now, incarnation := member.incarnation + 1 })
    else if member.incarnation ≥ existing.incarnation then
      (.ok, table.write i { member with lastSeenMs := now })
    else (.ok, table)
  | none =>
    if table.members.count ≥ table.capacity then (.errFull, table)
    else (.ok, { table with members := table.members.push { member with lastSeenMs := now } })

def updateStatus (now : UInt64) (table : ViewTable) (nodeId : NodeId) (status : NodeStatus)
    (incarnation : UInt64) : ResultStatus × ViewTable :=
  match table.find nodeId with
  | some (i, existing) =>
    if incarnation ≥ existing.incarnation then
      (.ok, table.write i (existing.setStatus now status incarnation))
    else (.ok, table)
  | none => (.errNotfound, table)

def remove (table : ViewTable) (nodeId : NodeId) : ResultStatus × ViewTable :=
  match table.find nodeId with
  | some (i, _) => (.ok, { table with members := table.members.removeAt i })
  | none => (.errNotfound, table)

def get (table : ViewTable) (nodeId : NodeId) : Option ClusterMember :=
  (table.find nodeId).map Prod.snd

end ViewTable

/-- The slots in use hold the members of the view, and no more of them are in
use than there are. -/
structure Represents (table : ViewTable) (view : ClusterView) : Prop where
  items : table.items = view.members
  capacity : table.capacity = view.capacity
  slots : table.members.slots.length = table.capacity
  count_le : table.members.count ≤ table.capacity

namespace Represents

variable {table : ViewTable} {view : ClusterView} {nodeId : NodeId}

theorem init (capacity : Nat) : Represents (.init capacity) (.empty capacity) where
  items := rfl
  capacity := rfl
  slots := List.length_replicate
  count_le := Nat.zero_le capacity

theorem count (h : Represents table view) : table.members.count = view.members.length := by
  rw [← h.items]
  exact (items_length (h.slots ▸ h.count_le)).symm

theorem get (h : Represents table view) (nodeId : NodeId) :
    table.get nodeId = clusterViewGet view nodeId := by
  rw [clusterViewGet, ← h.items]
  exact search_eq ClusterMember.nodeId table.members nodeId

theorem find_some (h : Represents table view) (hfind : table.find nodeId = some (i, existing)) :
    clusterViewGet view nodeId = some existing := by
  rw [← h.get, ViewTable.get, hfind]
  rfl

theorem find_none (h : Represents table view) (hfind : table.find nodeId = none) :
    clusterViewGet view nodeId = none := by
  rw [← h.get, ViewTable.get, hfind]
  rfl

theorem write (h : Represents table view) (hfind : table.find nodeId = some (i, existing))
    (f : ClusterMember → ClusterMember)
    (hf : ∀ member, member.nodeId = nodeId → (f member).nodeId = nodeId) :
    Represents (table.write i (f existing)) (view.replace nodeId f hf) where
  items := (items_write_found hfind f).trans
    (congrArg (modify ClusterMember.nodeId nodeId f) h.items)
  capacity := h.capacity
  slots := (write_length table.members i _).trans h.slots
  count_le := h.count_le

theorem overwrite (h : Represents table view) (hfind : table.find nodeId = some (i, existing))
    (entry : ClusterMember) (hentry : entry.nodeId = nodeId) :
    Represents (table.write i entry) (view.replace nodeId (fun _ => entry) fun _ _ => hentry) :=
  h.write hfind (fun _ => entry) fun _ _ => hentry

theorem push (h : Represents table view) (hroom : view.members.length < view.capacity)
    (hnew : clusterViewGet view member.nodeId = none) :
    Represents { table with members := table.members.push member }
      (view.append member hnew hroom) where
  items := by
    have hslot : table.members.count < table.members.slots.length := by
      rw [h.slots, h.count, h.capacity]
      exact hroom
    exact (items_push hslot).trans (congrArg (· ++ [member]) h.items)
  capacity := h.capacity
  slots := (push_length table.members member).trans h.slots
  count_le := by
    show table.members.count + 1 ≤ table.capacity
    rw [h.count, h.capacity]
    exact hroom

theorem removeAt (h : Represents table view) (hfind : table.find nodeId = some (i, existing)) :
    Represents { table with members := table.members.removeAt i } (view.remove nodeId) where
  items := (items_remove_found hfind (h.slots ▸ h.count_le)).trans
    (congrArg (KeyedList.remove ClusterMember.nodeId nodeId) h.items)
  capacity := h.capacity
  slots := (removeAt_length (search_lt hfind (h.slots ▸ h.count_le))
    (h.slots ▸ h.count_le)).trans h.slots
  count_le := (Nat.sub_le _ 1).trans h.count_le

theorem add (h : Represents table view) (now : UInt64) (member : ClusterMember) :
    (table.add now member).1 = (clusterViewAdd now view member).1 ∧
      Represents (table.add now member).2 (clusterViewAdd now view member).2 := by
  have hget := h.get member.nodeId
  unfold clusterViewAdd
  split
  · rename_i existing hheld
    obtain ⟨⟨i, found⟩, hfind, rfl⟩ := Option.map_eq_some_iff.mp (hget.trans hheld)
    simp only [ViewTable.add, hfind]
    split_ifs
    · exact ⟨rfl, h.overwrite hfind _ (by rfl)⟩
    · exact ⟨rfl, h.overwrite hfind _ (by rfl)⟩
    · exact ⟨rfl, h⟩
  · rename_i hnew
    have hfind := Option.map_eq_none_iff.mp (hget.trans hnew)
    have hfull : table.members.count ≥ table.capacity ↔
        ¬ view.members.length < view.capacity := by
      rw [h.count, h.capacity]
      exact Nat.not_lt.symm
    simp only [ViewTable.add, hfind, hfull]
    split_ifs with hroom
    · exact ⟨rfl, h.push hroom (by exact hnew)⟩
    · exact ⟨rfl, h⟩

theorem updateStatus (h : Represents table view) (now : UInt64) (nodeId : NodeId)
    (status : NodeStatus) (incarnation : UInt64) :
    (table.updateStatus now nodeId status incarnation).1 =
        (clusterViewUpdateStatus now view nodeId status incarnation).1 ∧
      Represents (table.updateStatus now nodeId status incarnation).2
        (clusterViewUpdateStatus now view nodeId status incarnation).2 := by
  unfold ViewTable.updateStatus clusterViewUpdateStatus
  cases hfind : table.find nodeId with
  | some found =>
    obtain ⟨i, existing⟩ := found
    simp only [h.find_some hfind]
    split_ifs
    · exact ⟨rfl, h.write hfind (·.setStatus now status incarnation) (by simp)⟩
    · exact ⟨rfl, h⟩
  | none =>
    simp only [h.find_none hfind]
    exact ⟨trivial, h⟩

theorem remove (h : Represents table view) (nodeId : NodeId) :
    (table.remove nodeId).1 = (clusterViewRemove view nodeId).1 ∧
      Represents (table.remove nodeId).2 (clusterViewRemove view nodeId).2 := by
  unfold ViewTable.remove clusterViewRemove
  cases hfind : table.find nodeId with
  | some found =>
    obtain ⟨i, existing⟩ := found
    simp only [h.find_some hfind]
    exact ⟨trivial, h.removeAt hfind⟩
  | none =>
    simp only [h.find_none hfind]
    exact ⟨trivial, h⟩

end Represents

end Roole
