import Roole.Dag.Basic
import Roole.Lib.Bytes
import Roole.Lib.KeyedList

/-!
# The DAG catalog and the DAG encoding

`dag_catalog.c` without the validation: the table of DAGs with its operations,
`dag_serialize` and `dag_deserialize`. All integers of the encoding are in
network order.
-/

namespace Roole

open Bytes KeyedList

/-- The table keeps ids apart and never outgrows its array. -/
structure DagCatalog where
  dags : List Dag
  capacity : Nat
  nodup : (dags.map Dag.dagId).Nodup
  length_le : dags.length ≤ capacity

def dagCatalogInit (capacity : Nat) : DagCatalog where
  dags := []
  capacity := capacity
  nodup := List.nodup_nil
  length_le := Nat.zero_le _

def dagCatalogGet (catalog : DagCatalog) (dagId : RuleId) : Option Dag :=
  lookup Dag.dagId catalog.dags dagId

def dagCatalogList (catalog : DagCatalog) (maxCount : Nat) : List RuleId :=
  (catalog.dags.take maxCount).map Dag.dagId

def DagCatalog.append (catalog : DagCatalog) (dag : Dag)
    (hnew : dagCatalogGet catalog dag.dagId = none)
    (hroom : catalog.dags.length < catalog.capacity) : DagCatalog where
  dags := catalog.dags ++ [dag]
  capacity := catalog.capacity
  nodup := nodup_map_concat catalog.nodup hnew
  length_le := by
    rw [List.length_append]
    exact hroom

def DagCatalog.replace (catalog : DagCatalog) (dag : Dag) : DagCatalog where
  dags := modify Dag.dagId dag.dagId (fun _ => dag) catalog.dags
  capacity := catalog.capacity
  nodup := by
    rw [map_key_modify fun _ _ => rfl]
    exact catalog.nodup
  length_le := by
    rw [modify_length]
    exact catalog.length_le

def DagStep.hasConfig (step : DagStep) : Bool := step.configData.isSome && 0 < step.configLen

/-- `copyAlloc i` tells whether the copy of the configuration of step `i` finds
memory. -/
def dagCatalogAdd (copyAlloc : Nat → Bool) (catalog : DagCatalog) (dag : Dag) :
    ResultStatus × DagCatalog :=
  match hnew : dagCatalogGet catalog dag.dagId with
  | some _ => (.errExists, catalog)
  | none =>
    if hroom : catalog.dags.length < catalog.capacity then
      if (List.range dag.stepCount).all fun i => !(dag.step i).hasConfig || copyAlloc i then
        (.ok, catalog.append dag hnew hroom)
      else (.errNomem, catalog)
    else (.errFull, catalog)

theorem dagCatalogAdd_cases (copyAlloc : Nat → Bool) (catalog : DagCatalog) (dag : Dag) :
    (∃ result ≠ .ok, dagCatalogAdd copyAlloc catalog dag = (result, catalog)) ∨
      ∃ hnew hroom, dagCatalogAdd copyAlloc catalog dag = (.ok, catalog.append dag hnew hroom) := by
  unfold dagCatalogAdd
  split
  · exact .inl ⟨.errExists, by decide, rfl⟩
  · rename_i hnew
    by_cases hroom : catalog.dags.length < catalog.capacity
    · simp only [hroom, dite_true]
      split
      · exact .inr ⟨hnew, trivial, rfl⟩
      · exact .inl ⟨.errNomem, by decide, rfl⟩
    · simp only [hroom, dite_false]
      exact .inl ⟨.errFull, by decide, rfl⟩

theorem dagCatalogAdd_ok (copyAlloc : Nat → Bool) {catalog : DagCatalog} {dag : Dag}
    (hconfig : ∀ i, (dag.step i).hasConfig = false) :
    (dagCatalogAdd copyAlloc catalog dag).1 = .ok ↔
      dagCatalogGet catalog dag.dagId = none ∧ catalog.dags.length < catalog.capacity := by
  unfold dagCatalogAdd
  split
  · simp_all
  · split_ifs <;> simp_all

/-- A configuration that cannot be copied is left NULL. -/
def dagCatalogUpdate (copyAlloc : Nat → Bool) (now : UInt64) (catalog : DagCatalog) (dag : Dag) :
    ResultStatus × DagCatalog :=
  match dagCatalogGet catalog dag.dagId with
  | none => (.errNotfound, catalog)
  | some _ =>
    let steps := dag.steps.mapIdx fun i step =>
      if i < dag.stepCount ∧ step.hasConfig ∧ !copyAlloc i then { step with configData := none }
      else step
    (.ok, catalog.replace { dag with steps := steps, updatedAtMs := now })

-- ----------------------------------------------------------------------------
-- Encoding
-- ----------------------------------------------------------------------------

def DagStep.serializedSize (step : DagStep) : Nat :=
  4 + (4 + strlen step.name) + (4 + strlen step.functionName) + 4 + step.dependencyCount * 4 +
    4 + 1 + 4 + step.configLen

def Dag.serializedSize (dag : Dag) : Nat :=
  4 + 8 + 4 + strlen dag.name + 4 +
    ((List.range dag.stepCount).map fun i => (dag.step i).serializedSize).sum

def serializeString (s : List UInt8) : List UInt8 := writeBe32 (.ofNat (strlen s)) ++ cString s

def DagStep.serialize (dependency : Nat → UInt32) (step : DagStep) : List UInt8 :=
  writeBe32 step.stepId ++ serializeString step.name ++ serializeString step.functionName ++
    writeBe32 (.ofNat step.dependencyCount) ++
    ((List.range step.dependencyCount).flatMap fun j => writeBe32 (dependency j)) ++
    writeBe32 step.timeoutMs ++ [step.maxRetries] ++ writeBe32 (.ofNat step.configLen) ++
    (step.configData.getD []).take step.configLen

/-- The bytes written to a buffer of `bufferSize` bytes, none if they do not
fit. -/
def dagSerialize (past : PastSlots) (dag : Dag) (bufferSize : Nat) : List UInt8 :=
  if bufferSize < dag.serializedSize then []
  else
    writeBe32 dag.dagId ++ writeBe64 dag.version ++ serializeString dag.name ++
      writeBe32 (.ofNat dag.stepCount) ++
      (List.range dag.stepCount).flatMap fun i => (dag.step i).serialize (dag.dependency past i)

@[simp] theorem serializeString_length (s : List UInt8) :
    (serializeString s).length = 4 + strlen s := by
  simp [serializeString, strlen]

theorem DagStep.serialize_length (dependency : Nat → UInt32) {step : DagStep}
    (hconfig : step.configLen = 0) :
    (step.serialize dependency).length = step.serializedSize := by
  simp [serialize, serializedSize, hconfig, List.length_flatMap]
  omega

theorem dagSerialize_length {dag : Dag} (hconfig : ∀ i < dag.stepCount, (dag.step i).configLen = 0) :
    (dagSerialize past dag bufferSize).length =
      if bufferSize < dag.serializedSize then 0 else dag.serializedSize := by
  have hsteps : ((List.range dag.stepCount).map fun i =>
      ((dag.step i).serialize (dag.dependency past i)).length) =
        (List.range dag.stepCount).map fun i => (dag.step i).serializedSize :=
    List.map_congr_left fun i hi => DagStep.serialize_length _ (hconfig i (List.mem_range.mp hi))
  unfold dagSerialize
  split_ifs
  · rfl
  · simp only [List.length_append, List.length_flatMap, hsteps, writeBe32_length,
      writeBe64_length, serializeString_length, Dag.serializedSize]
    omega

-- ----------------------------------------------------------------------------
-- Decoding
-- ----------------------------------------------------------------------------

def orInvalid {α : Type} (result : Option α) : Except ResultStatus α :=
  result.elim (.error .errInvalid) .ok

def deserializeString (limit : Nat) (bytes : List UInt8) :
    Except ResultStatus (List UInt8 × List UInt8) := do
  let (len, bytes) ← orInvalid (takeBe32 bytes)
  if len.toNat ≥ limit then .error .errInvalid
  else orInvalid (takeBytes len.toNat bytes)

def deserializeDependencies : Nat → List UInt8 → Except ResultStatus (List UInt32 × List UInt8)
  | 0, bytes => .ok ([], bytes)
  | n + 1, bytes => do
    let (dependency, bytes) ← orInvalid (takeBe32 bytes)
    let (rest, bytes) ← deserializeDependencies n bytes
    .ok (dependency :: rest, bytes)

def deserializeStep (allocOk : Bool) (bytes : List UInt8) :
    Except ResultStatus (DagStep × List UInt8) := do
  let (stepId, bytes) ← orInvalid (takeBe32 bytes)
  let (name, bytes) ← deserializeString maxStepName bytes
  let (functionName, bytes) ← deserializeString maxStepName bytes
  let (dependencyCount, bytes) ← orInvalid (takeBe32 bytes)
  if dependencyCount.toNat > maxStepDependencies then .error .errInvalid
  else
    let (dependencies, bytes) ← deserializeDependencies dependencyCount.toNat bytes
    let (timeoutMs, bytes) ← orInvalid (takeBe32 bytes)
    let (maxRetries, bytes) ← orInvalid (takeBytes 1 bytes)
    let (configLen, bytes) ← orInvalid (takeBe32 bytes)
    let step := {
      stepId := stepId
      name := name
      functionName := functionName
      configData := none
      configLen := configLen.toNat
      dependencies := dependencies
      dependencyCount := dependencyCount.toNat
      timeoutMs := timeoutMs
      maxRetries := maxRetries.headD 0 }
    if configLen = 0 then .ok (step, bytes)
    else
      let (config, bytes) ← orInvalid (takeBytes configLen.toNat bytes)
      if allocOk then .ok ({ step with configData := some config }, bytes)
      else .error .errNomem

def deserializeSteps (alloc : Nat → Bool) : Nat → Nat → List UInt8 →
    Except ResultStatus (List DagStep × List UInt8)
  | 0, _, bytes => .ok ([], bytes)
  | n + 1, i, bytes => do
    let (step, bytes) ← deserializeStep (alloc i) bytes
    let (rest, bytes) ← deserializeSteps alloc n (i + 1) bytes
    .ok (step :: rest, bytes)

/-- `dag_deserialize`; `alloc i` tells whether the configuration of step `i`
finds memory. -/
def dagDeserialize (alloc : Nat → Bool) (now : UInt64) (buffer : List UInt8) :
    Except ResultStatus Dag :=
  if buffer.length < 16 then .error .errInvalid
  else do
    let (dagId, bytes) ← orInvalid (takeBe32 buffer)
    let (version, bytes) ← orInvalid (takeBe64 bytes)
    let (name, bytes) ← deserializeString maxDagName bytes
    let (stepCount, bytes) ← orInvalid (takeBe32 bytes)
    if stepCount.toNat > maxDagSteps then .error .errInvalid
    else
      let (steps, _) ← deserializeSteps alloc stepCount.toNat 0 bytes
      .ok {
        dagId := dagId
        name := name
        version := version
        steps := steps
        stepCount := stepCount.toNat
        createdAtMs := now
        updatedAtMs := now }

end Roole
