import Mathlib.Data.List.Nodup
import Mathlib.Data.List.Perm.Subperm
import Roole.Dag.Table
import Roole.Lib.Runs
import Roole.Node.AddDag

/-!
# Valid DAGs in the catalog

A DAG comes into the catalog through `handle_add_dag`, which validates it, or
through `handle_sync_catalog`, which stores what it can decode. A DAG is valid
when `dag_validate` accepts it whatever stands behind the arrays of its steps.
-/

namespace Roole

open KeyedList

/-- `dag_validate` accepts the DAG wherever it lies in memory. -/
def Dag.Valid (dag : Dag) : Prop := ∀ past, dagValidate past dag = .ok

def Dag.WithinArrays (dag : Dag) : Prop :=
  ∀ i < dag.stepCount, (dag.step i).dependencyCount ≤ maxStepDependencies

-- ----------------------------------------------------------------------------
-- Validity
-- ----------------------------------------------------------------------------

theorem fresh_word (ids : List UInt32) (h : ids.length ≤ maxDagSteps) : ∃ word, word ∉ ids := by
  let words := (List.range (maxDagSteps + 1)).map UInt32.ofNat
  have hwords : words.Nodup := by
    refine List.Nodup.map_on (fun i hi j hj hij => ?_) List.nodup_range
    have hlt : ∀ k ∈ List.range (maxDagSteps + 1), k < UInt32.size := fun k hk =>
      (List.mem_range.mp hk).trans (by decide)
    have hnat := congrArg UInt32.toNat hij
    rwa [UInt32.toNat_ofNat_of_lt' (hlt i hi), UInt32.toNat_ofNat_of_lt' (hlt j hj)] at hnat
  by_contra hall
  simp only [not_exists, not_not] at hall
  have hle := (List.subperm_of_subset hwords fun word _ => hall word).length_le
  have hlength : words.length = maxDagSteps + 1 := by simp [words]
  rw [hlength] at hle
  exact absurd (hle.trans h) (Nat.not_succ_le_self _)

theorem Dag.dependency_eq {dag : Dag} (hwithin : dag.WithinArrays) (past other : PastSlots)
    (hi : i < dag.stepCount) (hj : j < (dag.step i).dependencyCount) :
    dag.dependency past i j = dag.dependency other i j := by
  have hslot : j < maxStepDependencies := hj.trans_le (hwithin i hi)
  simp [dependency, hslot]

theorem Dag.valid_iff {dag : Dag} (past : PastSlots) :
    dag.Valid ↔ dag.WithinArrays ∧ dagValidate past dag = .ok := by
  constructor
  · intro hvalid
    refine ⟨fun i hi => ?_, hvalid past⟩
    by_contra hcount
    obtain ⟨-, hle, -⟩ := dagValidate_ok.mp (hvalid past)
    obtain ⟨word, hword⟩ := fresh_word
      ((List.range dag.stepCount).map fun k => (dag.step k).stepId) (by simpa using hle)
    obtain ⟨-, -, hexist⟩ := dagValidate_ok.mp (hvalid fun _ _ => word)
    obtain ⟨k, hk, hid⟩ := hexist i hi maxStepDependencies (Nat.not_le.mp hcount)
    rw [dependency, if_neg (Nat.lt_irrefl _)] at hid
    exact hword (List.mem_map.mpr ⟨k, List.mem_range.mpr hk, hid⟩)
  · rintro ⟨hwithin, hok⟩ other
    obtain ⟨hzero, hle, hexist⟩ := dagValidate_ok.mp hok
    refine dagValidate_ok.mpr ⟨hzero, hle, fun i hi j hj => ?_⟩
    rw [dependency_eq hwithin other past hi hj]
    exact hexist i hi j hj

theorem Dag.valid_fields {dag : Dag} : dag.Valid ↔
    (0 < dag.stepCount ∧ dag.stepCount ≤ maxDagSteps) ∧ dag.WithinArrays ∧
      ∀ i < dag.stepCount, ∀ j < (dag.step i).dependencyCount,
        ∃ k < dag.stepCount, (dag.step k).stepId = (dag.step i).dependencies.getD j 0 := by
  rw [valid_iff fun _ _ => 0, dagValidate_ok, ← Nat.pos_iff_ne_zero]
  constructor
  · rintro ⟨hwithin, hpos, hle, hexist⟩
    refine ⟨⟨hpos, hle⟩, hwithin, fun i hi j hj => ?_⟩
    simpa [dependency, hj.trans_le (hwithin i hi)] using hexist i hi j hj
  · rintro ⟨⟨hpos, hle⟩, hwithin, hexist⟩
    refine ⟨hwithin, hpos, hle, fun i hi j hj => ?_⟩
    simpa [dependency, hj.trans_le (hwithin i hi)] using hexist i hi j hj

def DagStep.checked (step : DagStep) : UInt32 × Nat × List UInt32 :=
  (step.stepId, step.dependencyCount, step.dependencies)

theorem Dag.valid_congr {dag other : Dag} (hcount : other.stepCount = dag.stepCount)
    (hsteps : ∀ i, (other.step i).checked = (dag.step i).checked) : other.Valid ↔ dag.Valid := by
  simp only [DagStep.checked, Prod.mk.injEq] at hsteps
  simp only [valid_fields, WithinArrays, hcount, hsteps]

theorem Dag.valid_updated (dag : Dag) (lost : Nat → DagStep → Prop)
    [∀ i step, Decidable (lost i step)] (now : UInt64) :
    Valid { dag with
      steps := dag.steps.mapIdx fun i step =>
        if lost i step then { step with configData := none } else step
      updatedAtMs := now } ↔ dag.Valid := by
  refine valid_congr rfl fun i => ?_
  cases hget : dag.steps[i]? with
  | none => simp [step, List.getD, List.getElem?_mapIdx, hget]
  | some found =>
    by_cases hlost : lost i found
    · simp [step, List.getD, List.getElem?_mapIdx, hget, hlost, DagStep.checked]
    · simp [step, List.getD, List.getElem?_mapIdx, hget, hlost]

-- ----------------------------------------------------------------------------
-- The two ways into the catalog
-- ----------------------------------------------------------------------------

def DagCatalog.AllValid (catalog : DagCatalog) : Prop := ∀ dag ∈ catalog.dags, dag.Valid

def DagCatalog.RoomFor (catalog : DagCatalog) (dag : Dag) : Prop :=
  dagCatalogGet catalog dag.dagId = none ∧ catalog.dags.length < catalog.capacity

def Dag.Copies (copyAlloc : Nat → Bool) (dag : Dag) : Prop :=
  ∀ i < dag.stepCount, (dag.step i).hasConfig = true → copyAlloc i = true

def DagCatalog.Takes (copyAlloc : Nat → Bool) (catalog : DagCatalog) (dag : Dag) : Prop :=
  (dagCatalogGet catalog dag.dagId).isSome ∨ catalog.RoomFor dag ∧ dag.Copies copyAlloc

theorem DagCatalog.allValid_append {catalog : DagCatalog} (h : catalog.AllValid)
    (hdags : after.dags = catalog.dags ++ [dag]) : AllValid after ↔ dag.Valid := by
  unfold AllValid
  rw [hdags, List.forall_mem_append, List.forall_mem_singleton]
  exact and_iff_right h

theorem dagCatalogGet_replace {catalog : DagCatalog} {dag : Dag}
    (hget : (dagCatalogGet catalog dag.dagId).isSome) :
    dagCatalogGet (catalog.replace dag) dag.dagId = some dag := by
  obtain ⟨old, hold⟩ := Option.isSome_iff_exists.mp hget
  rw [dagCatalogGet, DagCatalog.replace_dags, lookup_modify fun _ _ => rfl]
  exact congrArg _ hold

theorem DagCatalog.allValid_replace {catalog : DagCatalog} {dag : Dag} (h : catalog.AllValid)
    (hget : (dagCatalogGet catalog dag.dagId).isSome) :
    (catalog.replace dag).AllValid ↔ dag.Valid := by
  constructor
  · exact fun hafter => hafter dag (lookup_mem (dagCatalogGet_replace hget))
  · intro hvalid other hother
    obtain hmem | ⟨-, -, -, rfl⟩ := mem_modify hother
    · exact h other hmem
    · exact hvalid

theorem dagCatalogAdd_stored {copyAlloc : Nat → Bool} {catalog : DagCatalog} {dag : Dag}
    (h : catalog.RoomFor dag) (hcopies : dag.Copies copyAlloc) :
    dagCatalogAdd copyAlloc catalog dag = (.ok, catalog.append dag h.1 h.2) := by
  have hall : ((List.range dag.stepCount).all fun i =>
      !(dag.step i).hasConfig || copyAlloc i) = true := by
    simp only [List.all_eq_true, List.mem_range, Bool.or_eq_true, Bool.not_eq_true']
    exact fun i hi => (Bool.eq_false_or_eq_true _).symm.imp id (hcopies i hi)
  obtain ⟨hnew, hroom⟩ := h
  unfold dagCatalogAdd
  split
  · simp_all
  · simp [hroom, hall]

theorem dagCatalogAdd_refused {copyAlloc : Nat → Bool} {catalog : DagCatalog} {dag : Dag}
    (h : ¬catalog.Takes copyAlloc dag) :
    ∃ result ≠ .errExists, dagCatalogAdd copyAlloc catalog dag = (result, catalog) := by
  unfold DagCatalog.Takes at h
  rw [not_or, Option.not_isSome_iff_eq_none] at h
  obtain ⟨hnone, hnot⟩ := h
  unfold dagCatalogAdd
  split
  · simp_all
  · split_ifs with hroom hall
    · refine absurd ⟨⟨hnone, hroom⟩, fun i hi hconfig => ?_⟩ hnot
      have hcopy := List.all_eq_true.mp hall i (List.mem_range.mpr hi)
      simpa [hconfig] using hcopy
    · exact ⟨.errNomem, by decide, rfl⟩
    · exact ⟨.errFull, by decide, rfl⟩

theorem handleSyncCatalog_allValid (env : NodeEnv) (context : RpcAsyncContext)
    (inData : List UInt8) {server : NodeServer} (h : server.node.dagCatalog.AllValid) :
    (handleSyncCatalog env context inData server).2.node.dagCatalog.AllValid ↔
      ∀ dag, dagDeserialize env.deserializeAlloc env.now inData = .ok dag →
        server.node.dagCatalog.Takes env.copyAlloc dag → dag.Valid := by
  unfold handleSyncCatalog
  cases hdag : dagDeserialize env.deserializeAlloc env.now inData with
  | error => simpa using h
  | ok dag =>
    simp only [rpcSendAsyncResponse_node, RpcServer.setNode, Except.ok.injEq, forall_eq']
    by_cases htakes : server.node.dagCatalog.Takes env.copyAlloc dag
    · rw [forall_prop_of_true htakes]
      obtain hsome | ⟨hroom, hcopies⟩ := htakes
      · obtain ⟨old, hold⟩ := Option.isSome_iff_exists.mp hsome
        rw [dagCatalogAdd_exists hold]
        simp only [if_true, dagCatalogUpdate, hold]
        refine Iff.trans (DagCatalog.allValid_replace h ?_) (Dag.valid_updated dag _ _)
        exact hsome
      · rw [dagCatalogAdd_stored hroom hcopies]
        exact DagCatalog.allValid_append h rfl
    · obtain ⟨result, hresult, hadd⟩ := dagCatalogAdd_refused htakes
      simp [hadd, hresult, htakes, h]

theorem parseAddDag_hasConfig (h : parseAddDag now inData = some dag) (i : Nat) :
    (dag.step i).hasConfig = false := by
  obtain ⟨payload, rest, -, -, rfl⟩ := parseAddDag_eq_some.mp h
  exact payload.dag_hasConfig now i

theorem handleAddDag_allValid (env : NodeEnv) (context : RpcAsyncContext)
    (inData : List UInt8) {server : NodeServer} (h : server.node.dagCatalog.AllValid) :
    (handleAddDag env context inData server).2.node.dagCatalog.AllValid ↔
      ∀ dag, parseAddDag env.now inData = some dag → dagValidate env.past dag = .ok →
        server.node.dagCatalog.RoomFor dag → dag.WithinArrays := by
  obtain ⟨⟨hsame, -⟩, hnot⟩ | ⟨dag, hparse, hvalid, hadd, hdags⟩ :=
    handleAddDag_cases env context inData server
  · refine iff_of_true (hsame ▸ h) fun dag hparse hvalid hroom => ?_
    have hadd := (dagCatalogAdd_ok env.copyAlloc (parseAddDag_hasConfig hparse)).mpr hroom
    exact absurd hadd (hnot dag hparse hvalid)
  · have hroom := (dagCatalogAdd_ok env.copyAlloc (parseAddDag_hasConfig hparse)).mp hadd
    rw [DagCatalog.allValid_append h hdags, Dag.valid_iff env.past]
    constructor
    · rintro ⟨hwithin, -⟩ other hother - -
      cases hparse.symm.trans hother
      exact hwithin
    · exact fun hall => ⟨hall dag hparse hvalid hroom, hvalid⟩

-- ----------------------------------------------------------------------------
-- Runs
-- ----------------------------------------------------------------------------

inductive CatalogChange
  | addDag (env : NodeEnv) (context : RpcAsyncContext) (inData : List UInt8)
  | syncCatalog (env : NodeEnv) (context : RpcAsyncContext) (inData : List UInt8)
  | remove (dagId : RuleId)

def changeCatalog (server : NodeServer) : CatalogChange → NodeServer
  | .addDag env context inData => (handleAddDag env context inData server).2
  | .syncCatalog env context inData => (handleSyncCatalog env context inData server).2
  | .remove dagId => server.setNode { server.node with
      dagCatalog := (dagCatalogRemove server.node.dagCatalog dagId).2 }

/-- What the two handlers would have to see to. -/
def StoresValid (server : NodeServer) : CatalogChange → Prop
  | .addDag env _ inData => ∀ dag, parseAddDag env.now inData = some dag →
      dagValidate env.past dag = .ok → server.node.dagCatalog.RoomFor dag → dag.WithinArrays
  | .syncCatalog env _ inData => ∀ dag,
      dagDeserialize env.deserializeAlloc env.now inData = .ok dag →
        server.node.dagCatalog.Takes env.copyAlloc dag → dag.Valid
  | .remove _ => True

theorem dagCatalogRemove_allValid {catalog : DagCatalog} (h : catalog.AllValid) (dagId : RuleId) :
    (dagCatalogRemove catalog dagId).2.AllValid := by
  unfold dagCatalogRemove
  split
  · exact h
  · exact fun dag hdag => h dag ((remove_sublist dagId catalog.dags).subset hdag)

theorem changeCatalog_allValid (server : NodeServer) (change : CatalogChange)
    (h : server.node.dagCatalog.AllValid) :
    (changeCatalog server change).node.dagCatalog.AllValid ↔ StoresValid server change := by
  cases change with
  | addDag env context inData => exact handleAddDag_allValid env context inData h
  | syncCatalog env context inData => exact handleSyncCatalog_allValid env context inData h
  | remove dagId => exact iff_of_true (dagCatalogRemove_allValid h dagId) trivial

/-- From an empty catalog on, the catalog holds valid DAGs throughout exactly in
the runs that synchronise valid DAGs only and register none beyond its arrays. -/
theorem catalogChanges_valid_iff {server : NodeServer} (hempty : server.node.dagCatalog.dags = [])
    (changes : List CatalogChange) :
    (∀ i, (Runs.run changeCatalog server (changes.take i)).node.dagCatalog.AllValid) ↔
      Runs.Meets changeCatalog StoresValid server changes := by
  have hstart : server.node.dagCatalog.AllValid := by
    intro dag hdag
    rw [hempty] at hdag
    cases hdag
  exact Runs.invariant_iff_meets (P := fun server : NodeServer => server.node.dagCatalog.AllValid)
    changeCatalog_allValid hstart changes

def quietEnv : NodeEnv := .calm fun _ _ => 0

def danglingPayload : AddDagPayload := ⟨1, [], 1, [⟨7, 1, [9]⟩]⟩

def danglingSync : List UInt8 :=
  dagSerialize quietEnv.past (danglingPayload.dag quietEnv.now) syncBufferSize

def validChanges : List CatalogChange :=
  let payload : AddDagPayload := ⟨1, [], 1, [⟨7, 0, []⟩]⟩
  [.addDag quietEnv clientContext payload.encode, .remove 1,
    .syncCatalog quietEnv clientContext
      (dagSerialize quietEnv.past (payload.dag quietEnv.now) syncBufferSize)]

theorem catalogChanges_valid_iff_short :
    (∀ i, (Runs.run changeCatalog loneNode (validChanges.take i)).node.dagCatalog.AllValid) ↔
      Runs.Meets changeCatalog StoresValid loneNode validChanges :=
  catalogChanges_valid_iff rfl validChanges

/-- The DAG that the one handler turns down is stored by the other. -/
theorem syncCatalog_stores_dangling :
    ¬ (∀ i, (Runs.run changeCatalog loneNode
      ([.syncCatalog quietEnv clientContext danglingSync].take i)).node.dagCatalog.AllValid) ∧
    (handleAddDag quietEnv clientContext danglingPayload.encode loneNode).2.node.dagCatalog.dags =
      [] := by
  refine ⟨fun hall => ?_, by decide +kernel⟩
  have hstored : ∃ dag ∈ (handleSyncCatalog quietEnv clientContext danglingSync
      loneNode).2.node.dagCatalog.dags, dagValidate quietEnv.past dag ≠ .ok := by
    decide +kernel
  obtain ⟨dag, hdag, hinvalid⟩ := hstored
  exact hinvalid (hall 1 dag hdag quietEnv.past)

end Roole
