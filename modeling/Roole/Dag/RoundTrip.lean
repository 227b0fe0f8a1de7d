import Roole.Dag.Encoding

/-!
# DAGs survive their encoding

What `dag_serialize` writes for a DAG within the limits of the format is the
encoding of its fields, as many bytes as it computes beforehand, and
`dag_deserialize` gives the fields back.
-/

namespace Roole

open Bytes Format

def DagStep.config (step : DagStep) : List UInt8 := (step.configData.getD []).take step.configLen

def DagStep.wire (dependency : Nat → UInt32) (step : DagStep) : StepWire where
  stepId := step.stepId
  name := cString step.name
  functionName := cString step.functionName
  dependencies := (List.range step.dependencyCount).map dependency
  timeoutMs := step.timeoutMs
  maxRetries := step.maxRetries
  config := step.config

def Dag.wire (past : PastSlots) (dag : Dag) : DagWire where
  dagId := dag.dagId
  version := dag.version
  name := cString dag.name
  steps := (List.range dag.stepCount).map fun i => (dag.step i).wire (dag.dependency past i)

/-- The configuration is there when its length is not zero, with as many
bytes. -/
def DagStep.ConfigPresent (step : DagStep) : Prop :=
  (step.configData.isSome ↔ 0 < step.configLen) ∧
    ∀ bytes ∈ step.configData, step.configLen ≤ bytes.length

theorem DagStep.ConfigPresent.config_length {step : DagStep} (h : step.ConfigPresent) :
    step.config.length = step.configLen := by
  obtain ⟨hiff, hlen⟩ := h
  unfold config
  cases hdata : step.configData with
  | none =>
    have hzero : step.configLen = 0 := by simpa [hdata] using hiff
    simp [hzero]
  | some bytes => simpa using hlen bytes hdata

structure DagStep.Encodable (step : DagStep) : Prop where
  name_lt : strlen step.name < maxStepName
  functionName_lt : strlen step.functionName < maxStepName
  dependencies_le : step.dependencyCount ≤ maxStepDependencies
  configLen_lt : step.configLen < 2 ^ 32
  config : step.ConfigPresent

structure Dag.Encodable (dag : Dag) : Prop where
  name_lt : strlen dag.name < maxDagName
  steps_le : dag.stepCount ≤ maxDagSteps
  steps : ∀ i < dag.stepCount, (dag.step i).Encodable

theorem DagStep.serialize_eq (dependency : Nat → UInt32) {step : DagStep} (h : step.ConfigPresent) :
    step.serialize dependency = (step.wire dependency).encode := by
  simp only [serialize, wire, StepWire.encode, encodeCounted, serializeString, strlen,
    List.length_map, List.length_range, List.flatMap_map, List.append_assoc, h.config_length]
  rfl

theorem dagSerialize_eq (past : PastSlots) {dag : Dag}
    (h : ∀ i < dag.stepCount, (dag.step i).ConfigPresent) :
    dagSerialize past dag bufferSize =
      if bufferSize < dag.serializedSize then [] else (dag.wire past).encode := by
  have hsteps : (List.range dag.stepCount).flatMap
      (fun i => (dag.step i).serialize (dag.dependency past i)) =
        (List.range dag.stepCount).flatMap fun i =>
          ((dag.step i).wire (dag.dependency past i)).encode :=
    List.flatMap_congr fun i hi => DagStep.serialize_eq _ (h i (List.mem_range.mp hi))
  unfold dagSerialize
  split_ifs
  · rfl
  · simp only [Dag.wire, DagWire.encode, encodeCounted, serializeString, strlen, hsteps,
      List.length_map, List.length_range, List.flatMap_map]

theorem Dag.Encodable.fits (past : PastSlots) {dag : Dag} (h : dag.Encodable) :
    (dag.wire past).Fits where
  name_lt := h.name_lt
  steps_le := by simpa [wire] using h.steps_le
  steps := by
    intro step hstep
    obtain ⟨i, hi, rfl⟩ := List.mem_map.mp hstep
    have hfit := h.steps i (List.mem_range.mp hi)
    exact ⟨hfit.name_lt, hfit.functionName_lt, by simpa [DagStep.wire] using hfit.dependencies_le,
      hfit.config.config_length ▸ hfit.configLen_lt⟩

/-- The fields of two steps, character arrays up to their NUL and
configurations up to their length. -/
structure DagStep.SameFields (step step' : DagStep) : Prop where
  stepId : step.stepId = step'.stepId
  name : cString step.name = cString step'.name
  functionName : cString step.functionName = cString step'.functionName
  dependencyCount : step.dependencyCount = step'.dependencyCount
  timeoutMs : step.timeoutMs = step'.timeoutMs
  maxRetries : step.maxRetries = step'.maxRetries
  configLen : step.configLen = step'.configLen
  configData : step.configData.map (·.take step.configLen) =
    step'.configData.map (·.take step'.configLen)

/-- The fields of two DAGs except the times, arrays up to their counts. -/
structure Dag.SameFields (past : PastSlots) (dag dag' : Dag) : Prop where
  dagId : dag.dagId = dag'.dagId
  name : cString dag.name = cString dag'.name
  version : dag.version = dag'.version
  stepCount : dag.stepCount = dag'.stepCount
  steps : ∀ i < dag.stepCount, (dag.step i).SameFields (dag'.step i)
  dependencies : ∀ i < dag.stepCount, ∀ j < (dag.step i).dependencyCount,
    dag.dependency past i j = dag'.dependency past i j

theorem DagStep.wire_sameFields (dependency : Nat → UInt32) {step : DagStep}
    (h : step.ConfigPresent) : (step.wire dependency).step.SameFields step := by
  have hlen := h.config_length
  refine ⟨rfl, cString_cString _, cString_cString _, by simp [wire, StepWire.step], rfl, rfl, hlen, ?_⟩
  obtain ⟨hiff, -⟩ := h
  cases hdata : step.configData with
  | none => simp [wire, StepWire.step, config, hdata]
  | some bytes =>
    have hpos : 0 < step.configLen := by simpa [hdata] using hiff
    have hne : step.config ≠ [] := List.ne_nil_of_length_pos (hlen ▸ hpos)
    have hwire : (step.wire dependency).step.configData = some step.config := if_neg hne
    rw [hwire, Option.map_some, Option.map_some]
    change some (step.config.take step.config.length) = _
    rw [List.take_length, config, hdata, Option.getD_some]

theorem Dag.wire_sameFields (past : PastSlots) (now : UInt64) {dag : Dag} (h : dag.Encodable) :
    ((dag.wire past).dag now).SameFields past dag := by
  have hstep : ∀ i < dag.stepCount, ((dag.wire past).dag now).step i =
      ((dag.step i).wire (dag.dependency past i)).step := by
    intro i hi
    simp [Dag.step, wire, DagWire.dag, hi]
  have hcount : ((dag.wire past).dag now).stepCount = dag.stepCount := by simp [wire, DagWire.dag]
  refine ⟨rfl, cString_cString _, rfl, hcount, fun i hi => ?_, fun i hi j hj => ?_⟩
  · rw [hcount] at hi
    rw [hstep i hi]
    exact DagStep.wire_sameFields _ (h.steps i hi).config
  · rw [hcount] at hi
    rw [hstep i hi] at hj
    have hj : j < (dag.step i).dependencyCount := by simpa [DagStep.wire, StepWire.step] using hj
    have hslot : j < maxStepDependencies := hj.trans_le (h.steps i hi).dependencies_le
    rw [dependency, if_pos hslot, hstep i hi]
    simp [DagStep.wire, StepWire.step, hj]

theorem DagStep.wire_encode_length (dependency : Nat → UInt32) {step : DagStep}
    (h : step.ConfigPresent) : (step.wire dependency).encode.length = step.serializedSize := by
  have hlen := h.config_length
  simp [StepWire.encode, encodeCounted, wire, serializedSize, strlen, List.length_flatMap,
    Function.comp_def]
  omega

theorem Dag.wire_encode_length (past : PastSlots) {dag : Dag}
    (h : ∀ i < dag.stepCount, (dag.step i).ConfigPresent) :
    (dag.wire past).encode.length = dag.serializedSize := by
  have hsteps : ((List.range dag.stepCount).map fun i =>
      ((dag.step i).wire (dag.dependency past i)).encode.length) =
        (List.range dag.stepCount).map fun i => (dag.step i).serializedSize :=
    List.map_congr_left fun i hi => DagStep.wire_encode_length _ (h i (List.mem_range.mp hi))
  simp only [wire, DagWire.encode, encodeCounted, List.length_append, List.flatMap_map,
    List.length_flatMap, hsteps, writeBe32_length, writeBe64_length, serializedSize, strlen]
  omega

theorem dagSerialize_roundTrip (past : PastSlots) (now : UInt64) {dag : Dag} (h : dag.Encodable) :
    (∀ bufferSize ≥ dag.serializedSize,
      (dagSerialize past dag bufferSize).length = dag.serializedSize ∧
      ∀ trailing, ∃ decoded,
        dagDeserialize (fun _ => true) now (dagSerialize past dag bufferSize ++ trailing) =
          .ok decoded ∧
        decoded.SameFields past dag) ∧
      ∀ bufferSize < dag.serializedSize, (dagSerialize past dag bufferSize).length = 0 := by
  have hconfig : ∀ i < dag.stepCount, (dag.step i).ConfigPresent := fun i hi => (h.steps i hi).config
  refine ⟨fun bufferSize hsize => ?_, fun bufferSize hsize => ?_⟩
  · rw [dagSerialize_eq past hconfig, if_neg (Nat.not_lt.mpr hsize)]
    refine ⟨Dag.wire_encode_length past hconfig, fun trailing => ?_⟩
    exact ⟨_, dagDeserialize_ok_iff.mpr ⟨_, trailing, h.fits past, rfl, rfl⟩,
      Dag.wire_sameFields past now h⟩
  · rw [dagSerialize_eq past hconfig, if_pos hsize]
    rfl

def selfDag : Dag where
  dagId := 7
  name := [97]
  version := 1
  steps := [⟨1, [98], [99], some [1, 2], 2, [1], 1, 1000, 3⟩]
  stepCount := 1
  createdAtMs := 10
  updatedAtMs := 20

theorem selfDag_encodable : selfDag.Encodable where
  name_lt := by decide
  steps_le := by decide
  steps := by
    intro i hi
    obtain rfl : i = 0 := Nat.lt_one_iff.mp hi
    exact ⟨by decide, by decide, by decide, by decide, by decide, by simp [selfDag, Dag.step]⟩

theorem dagSerialize_roundTrip_selfDag : ∃ decoded,
    dagDeserialize (fun _ => true) 30 (dagSerialize (fun _ _ => 0) selfDag 54 ++ [1, 2]) =
      .ok decoded ∧ decoded.SameFields (fun _ _ => 0) selfDag :=
  ((dagSerialize_roundTrip (fun _ _ => 0) 30 selfDag_encodable).1 54 (by decide)).2 [1, 2]

end Roole
