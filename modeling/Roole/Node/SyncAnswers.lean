import Roole.Node.CatalogValidity

/-!
# What the answer to a synchronisation says

`handle_sync_catalog` answers SUCCESS to every DAG that it can decode. It has
stored the DAG only if the catalog took it and every configuration was copied.
-/

namespace Roole

open KeyedList

def DagCatalog.Holds (catalog : DagCatalog) (dag : Dag) : Prop :=
  ∃ stored, dagCatalogGet catalog dag.dagId = some stored ∧
    { stored with updatedAtMs := dag.updatedAtMs } = dag

/-- The status of the first answer after a request. -/
def FirstAnswer (before after : NodeServer) (context : RpcAsyncContext) (status : RpcStatus) :
    Prop :=
  ∃ reply, after.trace[before.trace.length]? = some (.respond context status reply)

theorem firstAnswer_respond {before quiet : NodeServer} (htrace : quiet.trace = before.trace)
    (context : RpcAsyncContext) (status answered : RpcStatus) (reply : List UInt8) :
    FirstAnswer before (rpcSendAsyncResponse context status reply quiet).2 context answered ↔
      answered = status := by
  have hfirst : (rpcSendAsyncResponse context status reply quiet).2.trace[before.trace.length]? =
      some (.respond context status reply) := by
    simp [rpcSendAsyncResponse, htrace]
  rw [FirstAnswer, hfirst]
  simp [eq_comm]

/-- SUCCESS says that the DAG is in the catalog, and anything else that the
catalog has not changed. -/
structure SyncAnswered (env : NodeEnv) (context : RpcAsyncContext) (inData : List UInt8)
    (before after : NodeServer) : Prop where
  success : FirstAnswer before after context .success ↔
    ∃ dag, dagDeserialize env.deserializeAlloc env.now inData = .ok dag ∧
      after.node.dagCatalog.Holds dag
  failure : ¬ FirstAnswer before after context .success →
    (∃ status ≠ .success, FirstAnswer before after context status) ∧
      after.node.dagCatalog = before.node.dagCatalog

-- ----------------------------------------------------------------------------
-- What the catalog holds
-- ----------------------------------------------------------------------------

section

variable {copyAlloc : Nat → Bool} {catalog : DagCatalog} {dag : Dag}

theorem DagCatalog.holds_append (hnew : dagCatalogGet catalog dag.dagId = none)
    (hroom : catalog.dags.length < catalog.capacity) :
    (catalog.append dag hnew hroom).Holds dag := by
  refine ⟨dag, ?_, rfl⟩
  have hlookup : lookup Dag.dagId catalog.dags dag.dagId = none := hnew
  rw [dagCatalogGet, append_dags, lookup_append, hlookup]
  exact (lookup_cons ..).trans (if_pos rfl)

theorem DagCatalog.not_holds (hget : dagCatalogGet catalog dag.dagId = none) :
    ¬ catalog.Holds dag := by
  rintro ⟨stored, hstored, -⟩
  rw [hget] at hstored
  cases hstored

/-- No copy is lost exactly if the steps are kept as they are. -/
theorem Dag.copies_iff (copyAlloc : Nat → Bool) (dag : Dag) :
    (dag.steps.mapIdx fun i step =>
      if i < dag.stepCount ∧ step.hasConfig ∧ !copyAlloc i then { step with configData := none }
      else step) = dag.steps ↔ dag.Copies copyAlloc := by
  constructor
  · intro hkept i hi hconfig
    by_contra hfails
    have hstep : dag.steps[i]? = some (dag.step i) := by
      cases hget : dag.steps[i]? with
      | none =>
        have hzero : dag.step i = .zero := by simp [step, List.getD, hget]
        rw [hzero] at hconfig
        cases hconfig
      | some found => simp [step, List.getD, hget]
    have hlost := congrArg (·[i]?) hkept
    simp only [List.getElem?_mapIdx, hstep, Option.map_some, hi, hconfig,
      Bool.eq_false_of_not_eq_true hfails, Bool.not_false, and_self, if_true,
      Option.some.injEq] at hlost
    rw [← hlost] at hconfig
    cases hconfig
  · intro hcopies
    refine List.ext_getElem (by simp) fun i hi _ => ?_
    rw [List.length_mapIdx] at hi
    rw [List.getElem_mapIdx, if_neg]
    rintro ⟨hcount, hconfig, hfails⟩
    have hstep : dag.step i = dag.steps[i] := by
      simp [step, List.getD, List.getElem?_eq_getElem hi]
    rw [hcopies i hcount (hstep ▸ hconfig)] at hfails
    cases hfails

theorem dagCatalogUpdate_holds_iff (hget : (dagCatalogGet catalog dag.dagId).isSome)
    (now : UInt64) :
    (dagCatalogUpdate copyAlloc now catalog dag).2.Holds dag ↔ dag.Copies copyAlloc := by
  obtain ⟨old, hold⟩ := Option.isSome_iff_exists.mp hget
  rw [← Dag.copies_iff, dagCatalogUpdate, hold]
  dsimp only
  generalize hsteps : dag.steps.mapIdx _ = steps
  have hstored : dagCatalogGet (catalog.replace { dag with steps := steps, updatedAtMs := now })
      dag.dagId = some { dag with steps := steps, updatedAtMs := now } := dagCatalogGet_replace hget
  simp only [DagCatalog.Holds, hstored, Option.some.injEq, exists_eq_left']
  obtain ⟨dagId, name, version, given, stepCount, createdAtMs, updatedAtMs⟩ := dag
  simp only [Dag.mk.injEq, true_and, and_true]

end

-- ----------------------------------------------------------------------------
-- The handler
-- ----------------------------------------------------------------------------

/-- A decoded DAG finds memory for its configurations, and its id or room in the
catalog. -/
def DagCatalog.Accepts (copyAlloc : Nat → Bool) (catalog : DagCatalog) (dag : Dag) : Prop :=
  dag.Copies copyAlloc ∧ ((dagCatalogGet catalog dag.dagId).isSome ∨ catalog.RoomFor dag)

theorem syncedCatalog_holds_iff (copyAlloc : Nat → Bool) (now : UInt64) (catalog : DagCatalog)
    (dag : Dag) :
    DagCatalog.Holds (if (dagCatalogAdd copyAlloc catalog dag).1 = .errExists then
        (dagCatalogUpdate copyAlloc now (dagCatalogAdd copyAlloc catalog dag).2 dag).2
      else (dagCatalogAdd copyAlloc catalog dag).2) dag ↔ catalog.Accepts copyAlloc dag := by
  unfold DagCatalog.Accepts
  cases hget : dagCatalogGet catalog dag.dagId with
  | some existing =>
    rw [dagCatalogAdd_exists hget, if_pos rfl, dagCatalogUpdate_holds_iff (by rw [hget]; rfl)]
    simp
  | none =>
    by_cases htakes : catalog.Takes copyAlloc dag
    · obtain hsome | ⟨hroom, hcopies⟩ := htakes
      · rw [hget] at hsome
        cases hsome
      · rw [dagCatalogAdd_stored hroom hcopies, if_neg (by simp)]
        exact iff_of_true (DagCatalog.holds_append hroom.1 hroom.2) ⟨hcopies, .inr hroom⟩
    · obtain ⟨result, hresult, hadd⟩ := dagCatalogAdd_refused htakes
      rw [hadd, if_neg hresult]
      refine iff_of_false (DagCatalog.not_holds hget) ?_
      rintro ⟨hcopies, hsome | hroom⟩
      · cases hsome
      · exact htakes (.inr ⟨hroom, hcopies⟩)

/-- The answer is right exactly if the DAG cannot be decoded or the catalog
accepts it. -/
theorem handleSyncCatalog_answered_iff (env : NodeEnv) (context : RpcAsyncContext)
    (inData : List UInt8) (server : NodeServer) :
    SyncAnswered env context inData server (handleSyncCatalog env context inData server).2 ↔
      ∀ dag, dagDeserialize env.deserializeAlloc env.now inData = .ok dag →
        server.node.dagCatalog.Accepts env.copyAlloc dag := by
  unfold handleSyncCatalog
  cases hdag : dagDeserialize env.deserializeAlloc env.now inData with
  | error e =>
    refine iff_of_true ⟨?_, fun _ => ⟨⟨.badArgument, by decide, ?_⟩, rfl⟩⟩ fun _ h => nomatch h
    · rw [firstAnswer_respond rfl]
      simp [hdag]
    · exact (firstAnswer_respond rfl context .badArgument .badArgument []).mpr rfl
  | ok dag =>
    simp only [Except.ok.injEq, forall_eq']
    rw [← syncedCatalog_holds_iff env.copyAlloc env.now]
    have hsuccess (catalog : DagCatalog) : FirstAnswer server (rpcSendAsyncResponse context .success
        [1] (server.setNode { server.node with dagCatalog := catalog })).2 context .success :=
      (firstAnswer_respond rfl context .success .success [1]).mpr rfl
    constructor
    · intro hanswered
      obtain ⟨other, hother, hholds⟩ := hanswered.success.mp (hsuccess _)
      obtain rfl := Except.ok.inj (hdag.symm.trans hother)
      exact hholds
    · intro hholds
      exact ⟨iff_of_true (hsuccess _) ⟨dag, hdag, hholds⟩, fun hnot => absurd (hsuccess _) hnot⟩

def fullNode : NodeServer :=
  loneNode.setNode { loneNode.node with
    dagCatalog := {
      dags := [AddDagPayload.dag 0 ⟨2, [], 1, [⟨7, 0, []⟩]⟩]
      capacity := 1
      nodup := List.nodup_singleton _
      length_le := Nat.le_refl 1 } }

/-- The full catalog refuses DAG 1, and the peer is told SUCCESS. -/
theorem handleSyncCatalog_full :
    FirstAnswer fullNode (handleSyncCatalog quietEnv clientContext danglingSync fullNode).2
        clientContext .success ∧
      ¬ SyncAnswered quietEnv clientContext danglingSync fullNode
        (handleSyncCatalog quietEnv clientContext danglingSync fullNode).2 := by
  have hsuccess : FirstAnswer fullNode
      (handleSyncCatalog quietEnv clientContext danglingSync fullNode).2 clientContext .success :=
    ⟨[1], by decide +kernel⟩
  refine ⟨hsuccess, fun hanswered => ?_⟩
  obtain ⟨dag, hdag, stored, hstored, hsame⟩ := hanswered.success.mp hsuccess
  have hmissing : ∀ dag, dagDeserialize quietEnv.deserializeAlloc quietEnv.now danglingSync =
      .ok dag → dag.dagId = 1 := by
    have hid : (dagDeserialize quietEnv.deserializeAlloc quietEnv.now danglingSync).map
        Dag.dagId = .ok 1 := by decide +kernel
    intro dag hdag
    rw [hdag] at hid
    exact Except.ok.inj hid
  rw [hmissing dag hdag] at hstored
  have hnone : dagCatalogGet (handleSyncCatalog quietEnv clientContext danglingSync
      fullNode).2.node.dagCatalog 1 = none := by decide +kernel
  rw [hnone] at hstored
  cases hstored

end Roole
