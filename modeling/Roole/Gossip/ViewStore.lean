import Mathlib.Data.List.Induction
import Roole.Cluster.Table
import Roole.Gossip.TurnEffects

/-!
# The array under an engine

The view of an engine is kept in an array that its owner and the message
handlers both work on. Over any sequence of operations and messages the array
is a finite map from ids to entries: it has one entry for each id that was
added and not removed since.
-/

namespace Roole

open KeyedList

-- ----------------------------------------------------------------------------
-- Calls
-- ----------------------------------------------------------------------------

def ViewTable.refresh (now : UInt64) (table : ViewTable) (nodeId : NodeId) (incarnation : UInt64) :
    ViewTable :=
  match table.find nodeId with
  | some (i, existing) => table.write i (existing.refresh now incarnation)
  | none => table

/-- The operations that change the array. -/
inductive TableCall
  | add (now : UInt64) (member : ClusterMember)
  | updateStatus (now : UInt64) (nodeId : NodeId) (status : NodeStatus) (incarnation : UInt64)
  | refresh (now : UInt64) (nodeId : NodeId) (incarnation : UInt64)
  | remove (nodeId : NodeId)
  deriving DecidableEq

theorem others_replace (view : ClusterView) {f : ClusterMember → ClusterMember}
    (hf : ∀ member, member.nodeId = nodeId → (f member).nodeId = nodeId) :
    (view.replace nodeId f hf).members.filter (·.nodeId ≠ nodeId) =
      view.members.filter (·.nodeId ≠ nodeId) := filter_modify hf view.members

theorem known_iff_mem (view : ClusterView) (nodeId : NodeId) :
    (∃ entry, clusterViewGet view nodeId = some entry) ↔
      nodeId ∈ view.members.map ClusterMember.nodeId := by
  constructor
  · rintro ⟨entry, hget⟩
    exact List.mem_map.mpr ⟨entry, lookup_mem hget, lookup_key hget⟩
  · intro hmem
    obtain ⟨entry, hentry, rfl⟩ := List.mem_map.mp hmem
    exact ⟨entry, clusterViewGet_of_mem hentry⟩

theorem ids_replace (view : ClusterView) {f : ClusterMember → ClusterMember}
    (hf : ∀ member, member.nodeId = nodeId → (f member).nodeId = nodeId) :
    (view.replace nodeId f hf).members.map ClusterMember.nodeId =
      view.members.map ClusterMember.nodeId := map_key_modify hf view.members

theorem mem_ids_add (now : UInt64) (view : ClusterView) (member : ClusterMember) (id : NodeId) :
    id ∈ (clusterViewAdd now view member).2.members.map ClusterMember.nodeId ↔
      (member.nodeId = id ∧ (clusterViewAdd now view member).1 = .ok) ∨
        id ∈ view.members.map ClusterMember.nodeId := by
  unfold clusterViewAdd
  split
  · rename_i existing hget
    have hmem := (known_iff_mem view member.nodeId).mp ⟨existing, hget⟩
    have hself : (member.nodeId = id ∧ ResultStatus.ok = .ok) ∨
        id ∈ view.members.map ClusterMember.nodeId ↔
          id ∈ view.members.map ClusterMember.nodeId :=
      or_iff_right_of_imp fun h => h.1 ▸ hmem
    split_ifs
    · rw [ids_replace, hself]
    · rw [ids_replace, hself]
    · exact hself.symm
  · split_ifs
    · simp [ClusterView.append, or_comm, eq_comm]
    · simp

theorem ids_updateStatus (now : UInt64) (view : ClusterView) (nodeId : NodeId)
    (status : NodeStatus) (incarnation : UInt64) :
    (clusterViewUpdateStatus now view nodeId status incarnation).2.members.map
        ClusterMember.nodeId = view.members.map ClusterMember.nodeId := by
  unfold clusterViewUpdateStatus
  split
  · split_ifs
    · exact ids_replace view (by simp)
    · rfl
  · rfl

theorem remove_members (view : ClusterView) (nodeId : NodeId) :
    (view.remove nodeId).members = view.members.filter (·.nodeId ≠ nodeId) :=
  remove_eq_filter view.nodup nodeId

theorem clusterViewRemove_members (view : ClusterView) (nodeId : NodeId) :
    (clusterViewRemove view nodeId).2.members = view.members.filter (·.nodeId ≠ nodeId) := by
  unfold clusterViewRemove
  cases hget : clusterViewGet view nodeId with
  | some existing => exact remove_members view nodeId
  | none =>
    have hnone := lookup_eq_none.mp hget
    exact (List.filter_eq_self.mpr fun member hmem => by simpa using hnone member hmem).symm

namespace TableCall

def nodeId : TableCall → NodeId
  | .add _ member => member.nodeId
  | .updateStatus _ nodeId .. => nodeId
  | .refresh _ nodeId _ => nodeId
  | .remove nodeId => nodeId

def onTable (table : ViewTable) : TableCall → ResultStatus × ViewTable
  | .add now member => table.add now member
  | .updateStatus now nodeId status incarnation =>
    table.updateStatus now nodeId status incarnation
  | .refresh now nodeId incarnation => (.ok, table.refresh now nodeId incarnation)
  | .remove nodeId => table.remove nodeId

def onView (view : ClusterView) : TableCall → ResultStatus × ClusterView
  | .add now member => clusterViewAdd now view member
  | .updateStatus now nodeId status incarnation =>
    clusterViewUpdateStatus now view nodeId status incarnation
  | .refresh now nodeId incarnation =>
    (.ok, view.replace nodeId (·.refresh now incarnation) fun _ hself => hself)
  | .remove nodeId => clusterViewRemove view nodeId

theorem represents (h : Represents table view) (call : TableCall) :
    (call.onTable table).1 = (call.onView view).1 ∧
      Represents (call.onTable table).2 (call.onView view).2 := by
  cases call with
  | add now member => exact h.add now member
  | updateStatus now nodeId status incarnation => exact h.updateStatus now nodeId status incarnation
  | remove nodeId => exact h.remove nodeId
  | refresh now nodeId incarnation =>
    refine ⟨rfl, ?_⟩
    simp only [onTable, onView, ViewTable.refresh]
    cases hfind : table.find nodeId with
    | some found => exact h.write hfind (·.refresh now incarnation) fun _ hself => hself
    | none =>
      have hkept :
          view.replace nodeId (·.refresh now incarnation) (fun _ hself => hself) = view := by
        have hnone := lookup_eq_none.mp (h.find_none hfind)
        simp only [ClusterView.replace, modify_of_none hnone]
      rw [hkept]
      exact h

theorem others (view : ClusterView) (call : TableCall) :
    (call.onView view).2.members.filter (·.nodeId ≠ call.nodeId) =
      view.members.filter (·.nodeId ≠ call.nodeId) := by
  cases call with
  | add now member =>
    simp only [onView, nodeId]
    unfold clusterViewAdd
    split
    · split_ifs
      · exact others_replace view (by simp)
      · exact others_replace view (by simp)
      · rfl
    · split_ifs
      · simp [ClusterView.append]
      · rfl
  | updateStatus now nodeId status incarnation =>
    simp only [onView, TableCall.nodeId]
    unfold clusterViewUpdateStatus
    split
    · split_ifs
      · exact others_replace view (by simp)
      · rfl
    · rfl
  | refresh now nodeId incarnation =>
    exact others_replace (f := (·.refresh now incarnation)) view fun _ hself => hself
  | remove nodeId =>
    simp only [onView, TableCall.nodeId, clusterViewRemove_members, List.filter_filter]
    exact List.filter_congr fun member _ => Bool.and_self _

theorem known (view : ClusterView) (call : TableCall) (id : NodeId) :
    (∃ entry, clusterViewGet (call.onView view).2 id = some entry) ↔
      (∃ now member, call = .add now member ∧ member.nodeId = id ∧
        (clusterViewAdd now view member).1 = .ok) ∨
      ((∃ entry, clusterViewGet view id = some entry) ∧ call ≠ .remove id) := by
  rw [known_iff_mem, known_iff_mem]
  cases call with
  | add now member =>
    simp only [onView, mem_ids_add]
    simp
  | updateStatus now nodeId status incarnation =>
    simp only [onView, ids_updateStatus]
    simp
  | refresh now nodeId incarnation =>
    have hids := @ids_replace nodeId view (·.refresh now incarnation) fun _ hself => hself
    simp only [onView, hids]
    simp
  | remove nodeId =>
    simp only [onView, clusterViewRemove_members, List.mem_map, List.mem_filter]
    grind

end TableCall

-- ----------------------------------------------------------------------------
-- Additions and removals
-- ----------------------------------------------------------------------------

def afterCalls (capacity : Nat) (calls : List TableCall) : ViewTable :=
  Runs.run (fun table call => (call.onTable table).2) (.init capacity) calls

def AddedAndKept (capacity : Nat) (calls : List TableCall) (nodeId : NodeId) : Prop :=
  ∃ i now member, calls[i]? = some (.add now member) ∧ member.nodeId = nodeId ∧
    ((afterCalls capacity (calls.take i)).add now member).1 = .ok ∧
    ∀ j, i < j → calls[j]? ≠ some (.remove nodeId)

theorem afterCalls_concat (capacity : Nat) (calls : List TableCall) (call : TableCall) :
    afterCalls capacity (calls ++ [call]) = (call.onTable (afterCalls capacity calls)).2 := by
  simp [afterCalls, Runs.run]

theorem length_concat_le {calls : List α} (h : calls.length < i) :
    (calls ++ [call]).length ≤ i := by
  rw [List.length_append]
  exact h

theorem addedAndKept_concat (capacity : Nat) (calls : List TableCall) (call : TableCall)
    (nodeId : NodeId) : AddedAndKept capacity (calls ++ [call]) nodeId ↔
      (∃ now member, call = .add now member ∧ member.nodeId = nodeId ∧
        ((afterCalls capacity calls).add now member).1 = .ok) ∨
      (AddedAndKept capacity calls nodeId ∧ call ≠ .remove nodeId) := by
  constructor
  · rintro ⟨i, now, member, hadd, hid, hok, hkept⟩
    rcases Nat.lt_trichotomy i calls.length with hlt | rfl | hgt
    · right
      rw [List.getElem?_append_left hlt] at hadd
      rw [List.take_append_of_le_length hlt.le] at hok
      refine ⟨⟨i, now, member, hadd, hid, hok, fun j hij hremove => ?_⟩, fun hremove => ?_⟩
      · have hj := (List.getElem?_eq_some_iff.mp hremove).1
        exact hkept j hij ((List.getElem?_append_left hj).trans hremove)
      · exact hkept calls.length hlt (by simp [hremove])
    · left
      rw [List.getElem?_concat_length, Option.some_inj] at hadd
      rw [List.take_left] at hok
      exact ⟨now, member, hadd, hid, hok⟩
    · rw [List.getElem?_eq_none (length_concat_le hgt)] at hadd
      cases hadd
  · rintro (⟨now, member, rfl, hid, hok⟩ | ⟨⟨i, now, member, hadd, hid, hok, hkept⟩, hcall⟩)
    · refine ⟨calls.length, now, member, by simp, hid, by simpa using hok, fun j hj => ?_⟩
      rw [List.getElem?_eq_none (length_concat_le hj)]
      nofun
    · have hi := (List.getElem?_eq_some_iff.mp hadd).1
      refine ⟨i, now, member, (List.getElem?_append_left hi).trans hadd, hid, ?_, fun j hij => ?_⟩
      · rwa [List.take_append_of_le_length hi.le]
      · rcases Nat.lt_or_ge j calls.length with hlt | hge
        · rw [List.getElem?_append_left hlt]
          exact hkept j hij
        · rcases Nat.eq_or_lt_of_le hge with rfl | hgt
          · simpa using hcall
          · rw [List.getElem?_eq_none (length_concat_le hgt)]
            nofun

-- ----------------------------------------------------------------------------
-- Runs
-- ----------------------------------------------------------------------------

def ViewCall.made (now : UInt64) : ViewCall → Option TableCall
  | .keep => none
  | .add member => some (.add now member)
  | .updateStatus nodeId status incarnation => some (.updateStatus now nodeId status incarnation)
  | .refresh nodeId incarnation => some (.refresh now nodeId incarnation)

def GossipEngine.calls : GossipEngine → List TimedTurn → List TableCall
  | _, [] => []
  | engine, turn :: rest =>
    ((engine.turnEffect turn).call.made turn.1).toList ++ calls (engine.turn turn) rest

def ClusterView.after (view : ClusterView) (calls : List TableCall) : ClusterView :=
  Runs.run (fun view call => (call.onView view).2) view calls

theorem ClusterView.after_append (view : ClusterView) (first rest : List TableCall) :
    view.after (first ++ rest) = (view.after first).after rest := List.foldl_append

theorem after_made (now : UInt64) (view : ClusterView) (call : ViewCall) :
    view.after (call.made now).toList = call.apply now view := by
  cases call <;> rfl

theorem turns_view (engine : GossipEngine) (turns : List TimedTurn) :
    (engine.turns turns).view = engine.view.after (engine.calls turns) := by
  induction turns generalizing engine with
  | nil => rfl
  | cons turn rest ih =>
    rw [GossipEngine.calls, ClusterView.after_append, after_made,
      ← (turn_does engine turn).view]
    exact ih (engine.turn turn)

inductive ViewOp
  | add (now : UInt64) (member : ClusterMember)
  | updateStatus (now : UInt64) (nodeId : NodeId) (status : NodeStatus) (incarnation : UInt64)
  | remove (nodeId : NodeId)
  | dispatch (now : UInt64) (past : Nat → GossipMemberUpdate) (srcIp : List UInt8)
      (srcPort : UInt16) (msg : GossipMessage)

def ViewOp.calls (engine : GossipEngine) : ViewOp → List TableCall
  | .add now member => [.add now member]
  | .updateStatus now nodeId status incarnation => [.updateStatus now nodeId status incarnation]
  | .remove nodeId => [.remove nodeId]
  | .dispatch now past srcIp _ msg => engine.calls (dispatchTurns now past srcIp engine msg)

def ViewOp.onEngine (engine : GossipEngine) : ViewOp → GossipEngine
  | .add now member => { engine with view := (clusterViewAdd now engine.view member).2 }
  | .updateStatus now nodeId status incarnation =>
    { engine with view := (clusterViewUpdateStatus now engine.view nodeId status incarnation).2 }
  | .remove nodeId => { engine with view := (clusterViewRemove engine.view nodeId).2 }
  | .dispatch now past srcIp srcPort msg => (dispatchMessage now past srcIp srcPort engine msg).1

theorem ViewOp.onEngine_view (engine : GossipEngine) (op : ViewOp) :
    (op.onEngine engine).view = engine.view.after (op.calls engine) := by
  cases op with
  | dispatch now past srcIp srcPort msg =>
    refine Eq.trans ?_ (turns_view engine _)
    exact congrArg GossipEngine.view turns_dispatch.symm
  | _ => rfl

/-- An engine, the array that its view is in, and the calls made on it. -/
structure ViewStore where
  engine : GossipEngine
  table : ViewTable
  calls : List TableCall

namespace ViewStore

def init (engine : GossipEngine) (capacity : Nat) : ViewStore where
  engine := { engine with view := .empty capacity }
  table := .init capacity
  calls := []

def step (store : ViewStore) (op : ViewOp) : ViewStore where
  engine := op.onEngine store.engine
  table := Runs.run (fun table call => (call.onTable table).2) store.table (op.calls store.engine)
  calls := store.calls ++ op.calls store.engine

/-- The array is a finite map: what the operations do in this state, and what
is found in it. -/
structure IsMap (capacity : Nat) (store : ViewStore) : Prop where
  distinct : (store.table.items.map ClusterMember.nodeId).Nodup
  count_le : store.table.members.count ≤ store.table.capacity
  full_iff : ∀ now member, store.table.get member.nodeId = none →
    ((store.table.add now member).1 = .errFull ↔
      store.table.members.count = store.table.capacity)
  full_same : ∀ now member, (store.table.add now member).1 = .errFull →
    (store.table.add now member).2 = store.table
  others : ∀ call : TableCall,
    (call.onTable store.table).2.items.filter (·.nodeId ≠ call.nodeId) =
      store.table.items.filter (·.nodeId ≠ call.nodeId)
  removed : ∀ nodeId, (store.table.remove nodeId).2.items =
    store.table.items.filter (·.nodeId ≠ nodeId)
  get_iff : ∀ nodeId entry, store.table.get nodeId = some entry ↔
    entry ∈ store.table.items ∧ entry.nodeId = nodeId
  known_iff : ∀ nodeId, (∃ entry, store.table.get nodeId = some entry) ↔
    AddedAndKept capacity store.calls nodeId

/-- The array holds what the engine reads, and is what the calls have made of it. -/
structure Follows (capacity : Nat) (store : ViewStore) : Prop where
  represents : Represents store.table store.engine.view
  after : store.table = afterCalls capacity store.calls

theorem follows_init (engine : GossipEngine) (capacity : Nat) :
    Follows capacity (init engine capacity) where
  represents := .init capacity
  after := rfl

theorem represents_calls {table : ViewTable} (h : Represents table view) (calls : List TableCall) :
    Represents (Runs.run (fun table call => (call.onTable table).2) table calls)
      (view.after calls) := by
  induction calls generalizing table view with
  | nil => exact h
  | cons call rest ih => exact ih (call.represents h).2

theorem follows_step {store : ViewStore} (h : Follows capacity store) (op : ViewOp) :
    Follows capacity (store.step op) where
  represents := by
    rw [step, op.onEngine_view]
    exact represents_calls h.represents _
  after := by
    simp only [step, h.after]
    exact List.foldl_append.symm

theorem get_afterCalls (capacity : Nat) (calls : List TableCall) (nodeId : NodeId) :
    (∃ entry, (afterCalls capacity calls).get nodeId = some entry) ↔
      AddedAndKept capacity calls nodeId := by
  induction calls using List.reverseRecOn with
  | nil =>
    refine iff_of_false ?_ ?_
    · rintro ⟨entry, hget⟩
      cases hget
    · rintro ⟨i, now, member, hadd, -⟩
      cases hadd
  | append_singleton calls call ih =>
    have hrepresents := represents_calls (.init capacity) calls
    have hnext := (call.represents hrepresents).2
    rw [addedAndKept_concat, ← ih, afterCalls_concat]
    simp only [afterCalls, hrepresents.get, hnext.get, (hrepresents.add ..).1]
    exact call.known _ nodeId

theorem follows_run {store : ViewStore} (h : Follows capacity store) (ops : List ViewOp) :
    Follows capacity (Runs.run step store ops) := by
  induction ops generalizing store with
  | nil => exact h
  | cons op rest ih => exact ih (follows_step h op)

section Map

variable {store : ViewStore} {capacity : Nat} {now : UInt64} {member : ClusterMember}

theorem full_iff (h : Follows capacity store) (hget : store.table.get member.nodeId = none) :
    (store.table.add now member).1 = .errFull ↔
      store.table.members.count = store.table.capacity := by
  have hfind : store.table.find member.nodeId = none := Option.map_eq_none_iff.mp hget
  have hle := h.represents.count_le
  simp only [ViewTable.add, hfind]
  split_ifs with hfull
  · exact iff_of_true rfl (Nat.le_antisymm hle hfull)
  · exact iff_of_false (by decide) fun heq => hfull heq.ge

theorem full_same (hfull : (store.table.add now member).1 = .errFull) :
    (store.table.add now member).2 = store.table := by
  unfold ViewTable.add at hfull ⊢
  split at hfull
  · split_ifs at hfull
  · split_ifs at hfull ⊢
    rfl

theorem get_iff (h : Follows capacity store) (nodeId : NodeId) (entry : ClusterMember) :
    store.table.get nodeId = some entry ↔
      entry ∈ store.table.items ∧ entry.nodeId = nodeId := by
  rw [h.represents.get, h.represents.items]
  constructor
  · exact fun hget => ⟨lookup_mem hget, lookup_key hget⟩
  · rintro ⟨hmem, rfl⟩
    exact clusterViewGet_of_mem hmem

theorem isMap (h : Follows capacity store) : store.IsMap capacity where
  distinct := by
    rw [h.represents.items]
    exact store.engine.view.nodup
  count_le := h.represents.count_le
  full_iff _ _ hget := full_iff h hget
  full_same _ _ := full_same
  others call := by
    rw [(call.represents h.represents).2.items, h.represents.items]
    exact call.others store.engine.view
  removed nodeId := by
    rw [(h.represents.remove nodeId).2.items, h.represents.items]
    exact clusterViewRemove_members store.engine.view nodeId
  get_iff := get_iff h
  known_iff nodeId := by
    rw [h.after]
    exact get_afterCalls capacity store.calls nodeId

end Map

/-- Whatever operations and messages come after the initialisation, the array
is a finite map. -/
theorem view_is_map (engine : GossipEngine) (capacity : Nat) (ops : List ViewOp) :
    (Runs.run step (init engine capacity) ops).IsMap capacity :=
  isMap (follows_run (follows_init engine capacity) ops)

end ViewStore

end Roole
