import Roole.Dag.Catalog
import Roole.Lib.Cursor

/-!
# The encoding of DAGs

The format that `dag_catalog.c` documents, as a structure of its own. What
`dag_serialize` writes for a DAG within the limits is its encoding;
`dag_deserialize` accepts exactly the buffers that begin with an encoding within
the limits. A second model of `dag_deserialize` keeps the pointer, its checks and
its reads apart, to tell which bytes are read.
-/

namespace Roole

open Bytes Format Cursor

-- ----------------------------------------------------------------------------
-- The documented format
-- ----------------------------------------------------------------------------

structure StepWire where
  stepId : UInt32
  name : List UInt8
  functionName : List UInt8
  dependencies : List UInt32
  timeoutMs : UInt32
  maxRetries : UInt8
  config : List UInt8
  deriving DecidableEq, Repr

structure DagWire where
  dagId : UInt32
  version : UInt64
  name : List UInt8
  steps : List StepWire
  deriving DecidableEq, Repr

def encodeCounted (bytes : List UInt8) : List UInt8 := writeBe32 (.ofNat bytes.length) ++ bytes

def StepWire.encode (step : StepWire) : List UInt8 :=
  writeBe32 step.stepId ++ encodeCounted step.name ++ encodeCounted step.functionName ++
    writeBe32 (.ofNat step.dependencies.length) ++ step.dependencies.flatMap writeBe32 ++
    writeBe32 step.timeoutMs ++ [step.maxRetries] ++ encodeCounted step.config

def DagWire.encode (dag : DagWire) : List UInt8 :=
  writeBe32 dag.dagId ++ writeBe64 dag.version ++ encodeCounted dag.name ++
    writeBe32 (.ofNat dag.steps.length) ++ dag.steps.flatMap StepWire.encode

structure StepWire.Fits (step : StepWire) : Prop where
  name_lt : step.name.length < maxStepName
  functionName_lt : step.functionName.length < maxStepName
  dependencies_le : step.dependencies.length ≤ maxStepDependencies
  config_lt : step.config.length < 2 ^ 32

structure DagWire.Fits (dag : DagWire) : Prop where
  name_lt : dag.name.length < maxDagName
  steps_le : dag.steps.length ≤ maxDagSteps
  steps : ∀ step ∈ dag.steps, step.Fits

def StepWire.step (step : StepWire) : DagStep where
  stepId := step.stepId
  name := step.name
  functionName := step.functionName
  configData := if step.config = [] then none else some step.config
  configLen := step.config.length
  dependencies := step.dependencies
  dependencyCount := step.dependencies.length
  timeoutMs := step.timeoutMs
  maxRetries := step.maxRetries

def DagWire.dag (now : UInt64) (dag : DagWire) : Dag where
  dagId := dag.dagId
  name := dag.name
  version := dag.version
  steps := dag.steps.map StepWire.step
  stepCount := dag.steps.length
  createdAtMs := now
  updatedAtMs := now

-- ----------------------------------------------------------------------------
-- Reading the format
-- ----------------------------------------------------------------------------

theorem decodes_takeBytes (n : Nat) :
    Decodes ResultStatus.errInvalid (fun input => orInvalid (takeBytes n input))
      fun bytes tokens => bytes.length = n ∧ tokens = bytes :=
  .ofOption fun {input bytes rest} => by
    rw [takeBytes_eq_some]
    constructor
    · rintro ⟨rfl, hlen⟩
      exact ⟨bytes, ⟨hlen, rfl⟩, rfl⟩
    · rintro ⟨_, ⟨hlen, rfl⟩, rfl⟩
      exact ⟨rfl, hlen⟩

theorem decodes_takeBe32 : Decodes ResultStatus.errInvalid (fun input => orInvalid (takeBe32 input))
    fun x tokens => tokens = writeBe32 x :=
  .ofOption fun {input x rest} => by simp [takeBe32_eq_some]

theorem decodes_takeBe64 : Decodes ResultStatus.errInvalid (fun input => orInvalid (takeBe64 input))
    fun x tokens => tokens = writeBe64 x :=
  .ofOption fun {input x rest} => by simp [takeBe64_eq_some]

theorem decodes_counted {α : Type} {limit : Nat} (hlimit : limit ≤ 2 ^ 32)
    {decode : Nat → Decoder UInt8 ResultStatus α} {format : α → List UInt8 → Prop} {size : α → Nat}
    (h : ∀ n < limit, Decodes .errInvalid (decode n) fun a tokens => size a = n ∧ format a tokens) :
    Decodes .errInvalid (fun input => do
      let (len, input) ← orInvalid (takeBe32 input)
      if len.toNat ≥ limit then .error .errInvalid else decode len.toNat input)
      fun a tokens => size a < limit ∧
        ∃ back, format a back ∧ tokens = writeBe32 (.ofNat (size a)) ++ back := by
  refine (decodes_takeBe32.bind fun len => Decodes.guard (c := len.toNat ≥ limit)
    fun hlen => h len.toNat (Nat.not_le.mp hlen)).congr ?_
  intro a tokens
  constructor
  · rintro ⟨len, _, back, rfl, ⟨hlen, hsize, hformat⟩, rfl⟩
    rw [hsize, UInt32.ofNat_toNat]
    exact ⟨Nat.not_le.mp hlen, back, hformat, rfl⟩
  · rintro ⟨hsize, back, hformat, rfl⟩
    have hlen : (UInt32.ofNat (size a)).toNat = size a :=
      UInt32.toNat_ofNat_of_lt' (hsize.trans_le hlimit)
    refine ⟨.ofNat (size a), _, back, rfl, ⟨?_, hlen.symm, hformat⟩, rfl⟩
    rw [hlen]
    exact Nat.not_le.mpr hsize

theorem decodes_string (hlimit : limit ≤ 2 ^ 32) :
    Decodes .errInvalid (deserializeString limit)
      fun s tokens => s.length < limit ∧ tokens = encodeCounted s := by
  have hcounted := decodes_counted hlimit fun n (_ : n < limit) => decodes_takeBytes n
  exact hcounted.congr fun s tokens => by simp [encodeCounted]

theorem decodes_dependencies (n : Nat) :
    Decodes .errInvalid (deserializeDependencies n)
      fun dependencies tokens => dependencies.length = n ∧
        tokens = dependencies.flatMap writeBe32 := by
  have hmany : Decodes .errInvalid (deserializeDependencies n)
      fun dependencies tokens => dependencies.length = n ∧
        Many (fun x tokens => tokens = writeBe32 x) dependencies tokens := by
    induction n with
    | zero => exact .nil
    | succ n ih => exact decodes_takeBe32.cons ih
  refine hmany.congr fun dependencies tokens => ?_
  have hiff : Many (fun x tokens => tokens = writeBe32 x) dependencies tokens ↔
      (∀ x ∈ dependencies, True) ∧ tokens = dependencies.flatMap writeBe32 :=
    many_iff (by simp)
  rw [hiff]
  simp

theorem config_iff {configLen : UInt32} (step : Option (List UInt8) → DagStep) :
    (if configLen = 0 then result = step none ∧ tokens = []
      else Format.Seq (fun bytes tokens => bytes.length = configLen.toNat ∧ tokens = bytes)
        (fun config result tokens => result = step (some config) ∧ tokens = []) result tokens) ↔
      ∃ config : List UInt8, config.length = configLen.toNat ∧
        result = step (if config = [] then none else some config) ∧ tokens = config := by
  split_ifs with hlen
  · subst hlen
    constructor
    · rintro ⟨rfl, rfl⟩
      exact ⟨[], rfl, rfl, rfl⟩
    · rintro ⟨config, hlen, rfl, rfl⟩
      obtain rfl := List.eq_nil_of_length_eq_zero hlen
      exact ⟨rfl, rfl⟩
  · have hne : ∀ config : List UInt8, config.length = configLen.toNat → config ≠ [] := by
      rintro _ hconfig rfl
      exact hlen (UInt32.toNat_inj.mp hconfig.symm)
    constructor
    · rintro ⟨config, front, _, ⟨hconfig, rfl⟩, ⟨rfl, rfl⟩, rfl⟩
      exact ⟨front, hconfig, by rw [if_neg (hne front hconfig)], List.append_nil _⟩
    · rintro ⟨config, hconfig, rfl, rfl⟩
      exact ⟨tokens, tokens, [], ⟨hconfig, rfl⟩, ⟨by rw [if_neg (hne tokens hconfig)], rfl⟩,
        (List.append_nil _).symm⟩

theorem decodes_step : Decodes .errInvalid (deserializeStep true)
    fun step tokens => ∃ wire : StepWire, wire.Fits ∧ step = wire.step ∧ tokens = wire.encode := by
  have hname : maxStepName ≤ 2 ^ 32 := by decide
  refine Decodes.congr (decodes_takeBe32.bind fun stepId => (decodes_string hname).bind fun name =>
    (decodes_string hname).bind fun functionName => decodes_takeBe32.bind fun dependencyCount =>
    .guard fun _ => (decodes_dependencies _).bind fun dependencies =>
    decodes_takeBe32.bind fun timeoutMs => (decodes_takeBytes 1).bind fun maxRetries =>
    decodes_takeBe32.bind fun configLen => .congr
    (.ite (fun _ => .pure _) fun _ => (decodes_takeBytes _).bind fun config => .pure _)
    fun result tokens => config_iff fun config => ⟨stepId, name, functionName, config,
      configLen.toNat, dependencies, dependencyCount.toNat, timeoutMs, maxRetries.headD 0⟩) ?_
  intro step tokens
  constructor
  · rintro ⟨stepId, _, _, rfl, ⟨name, _, _, ⟨hname, rfl⟩, ⟨functionName, _, _, ⟨hfunction, rfl⟩,
      ⟨count, _, _, rfl, ⟨hcount, dependencies, _, _, ⟨hdependencies, rfl⟩, ⟨timeoutMs, _, _, rfl,
      ⟨retries, _, _, ⟨hretries, rfl⟩, ⟨configLen, _, config, rfl, ⟨_, hconfig, rfl, rfl⟩, rfl⟩,
      rfl⟩, rfl⟩, rfl⟩, rfl⟩, rfl⟩, rfl⟩, rfl⟩
    obtain ⟨maxRetries, rfl⟩ := List.length_eq_one_iff.mp hretries
    refine ⟨⟨stepId, name, functionName, dependencies, timeoutMs, maxRetries, config⟩,
      ⟨hname, hfunction, ?_, hconfig ▸ configLen.toNat_lt⟩, ?_, ?_⟩
    · exact hdependencies ▸ Nat.not_lt.mp hcount
    · simp [StepWire.step, hconfig, hdependencies]
    · simp [StepWire.encode, encodeCounted, hconfig, hdependencies]
  · rintro ⟨wire, hfits, rfl, rfl⟩
    have hcount : (UInt32.ofNat wire.dependencies.length).toNat = wire.dependencies.length :=
      UInt32.toNat_ofNat_of_lt' (hfits.dependencies_le.trans_lt (by decide))
    have hconfig : (UInt32.ofNat wire.config.length).toNat = wire.config.length :=
      UInt32.toNat_ofNat_of_lt' hfits.config_lt
    refine ⟨wire.stepId, _, _, rfl, ⟨wire.name, _, _, ⟨hfits.name_lt, rfl⟩,
      ⟨wire.functionName, _, _, ⟨hfits.functionName_lt, rfl⟩,
      ⟨.ofNat wire.dependencies.length, _, _, rfl, ⟨?_, wire.dependencies, _, _, ⟨hcount.symm, rfl⟩,
      ⟨wire.timeoutMs, _, _, rfl, ⟨[wire.maxRetries], _, _, ⟨rfl, rfl⟩,
      ⟨.ofNat wire.config.length, _, _, rfl, ⟨wire.config, hconfig.symm, ?_, rfl⟩, rfl⟩,
      rfl⟩, rfl⟩, rfl⟩, rfl⟩, rfl⟩, rfl⟩, ?_⟩
    · rw [hcount]
      exact Nat.not_lt.mpr hfits.dependencies_le
    · simp [StepWire.step, hcount, hconfig]
    · simp [StepWire.encode, encodeCounted]

theorem decodes_steps (n i : Nat) : Decodes .errInvalid (deserializeSteps (fun _ => true) n i)
    fun steps tokens => ∃ wires : List StepWire, wires.length = n ∧ (∀ wire ∈ wires, wire.Fits) ∧
      steps = wires.map StepWire.step ∧ tokens = wires.flatMap StepWire.encode := by
  induction n generalizing i with
  | zero =>
    refine Decodes.congr (.pure []) fun steps tokens => ?_
    constructor
    · rintro ⟨rfl, rfl⟩
      exact ⟨[], rfl, by simp, rfl, rfl⟩
    · rintro ⟨wires, hlen, -, rfl, rfl⟩
      obtain rfl := List.eq_nil_of_length_eq_zero hlen
      exact ⟨rfl, rfl⟩
  | succ n ih =>
    refine Decodes.congr (decodes_step.bind fun step => (ih (i + 1)).bind fun rest => .pure _) ?_
    intro steps tokens
    constructor
    · rintro ⟨_, _, _, ⟨wire, hfits, rfl, rfl⟩, ⟨_, _, _, ⟨wires, hlen, hall, rfl, rfl⟩,
        ⟨rfl, rfl⟩, rfl⟩, rfl⟩
      refine ⟨wire :: wires, congrArg (· + 1) hlen, List.forall_mem_cons.mpr ⟨hfits, hall⟩, rfl, ?_⟩
      simp
    · rintro ⟨wires, hlen, hall, rfl, rfl⟩
      cases wires with
      | nil => cases hlen
      | cons wire wires =>
        obtain ⟨hfits, hall⟩ := List.forall_mem_cons.mp hall
        refine ⟨_, _, _, ⟨wire, hfits, rfl, rfl⟩, ⟨_, _, _,
          ⟨wires, Nat.succ.inj hlen, hall, rfl, rfl⟩, ⟨rfl, rfl⟩, rfl⟩, ?_⟩
        simp

def decodeDag (alloc : Nat → Bool) (now : UInt64) : Decoder UInt8 ResultStatus Dag := fun bytes => do
  let (dagId, bytes) ← orInvalid (takeBe32 bytes)
  let (version, bytes) ← orInvalid (takeBe64 bytes)
  let (name, bytes) ← deserializeString maxDagName bytes
  let (stepCount, bytes) ← orInvalid (takeBe32 bytes)
  if stepCount.toNat > maxDagSteps then .error .errInvalid
  else
    let (steps, bytes) ← deserializeSteps alloc stepCount.toNat 0 bytes
    .ok ({
      dagId := dagId
      name := name
      version := version
      steps := steps
      stepCount := stepCount.toNat
      createdAtMs := now
      updatedAtMs := now }, bytes)

theorem dagDeserialize_eq (alloc : Nat → Bool) (now : UInt64) (buffer : List UInt8) :
    dagDeserialize alloc now buffer = if buffer.length < 16 then .error .errInvalid
      else (decodeDag alloc now buffer).map Prod.fst := by
  unfold dagDeserialize decodeDag
  refine if_congr Iff.rfl rfl ?_
  change _ = Prod.fst <$> (_ >>= _)
  simp only [map_bind, apply_ite (Functor.map Prod.fst)]
  rfl

theorem decodes_dag (now : UInt64) : Decodes .errInvalid (decodeDag (fun _ => true) now)
    fun dag tokens => ∃ wire : DagWire, wire.Fits ∧ dag = wire.dag now ∧ tokens = wire.encode := by
  refine Decodes.congr (decodes_takeBe32.bind fun dagId => decodes_takeBe64.bind fun version =>
    (decodes_string (by decide)).bind fun name => decodes_takeBe32.bind fun stepCount =>
    .guard fun _ => (decodes_steps _ 0).bind fun steps => .pure _) ?_
  intro dag tokens
  constructor
  · rintro ⟨dagId, _, _, rfl, ⟨version, _, _, rfl, ⟨name, _, _, ⟨hname, rfl⟩, ⟨stepCount, _, _, rfl,
      ⟨hcount, _, _, _, ⟨steps, hlen, hsteps, rfl, rfl⟩, ⟨rfl, rfl⟩, rfl⟩, rfl⟩, rfl⟩, rfl⟩, rfl⟩
    refine ⟨⟨dagId, version, name, steps⟩, ⟨hname, hlen ▸ Nat.not_lt.mp hcount, hsteps⟩, ?_, ?_⟩
    · simp [DagWire.dag, hlen]
    · simp [DagWire.encode, hlen]
  · rintro ⟨wire, hfits, rfl, rfl⟩
    have hcount : (UInt32.ofNat wire.steps.length).toNat = wire.steps.length :=
      UInt32.toNat_ofNat_of_lt' (hfits.steps_le.trans_lt (by decide))
    refine ⟨wire.dagId, _, _, rfl, ⟨wire.version, _, _, rfl, ⟨wire.name, _, _, ⟨hfits.name_lt, rfl⟩,
      ⟨.ofNat wire.steps.length, _, _, rfl, ⟨?_, _, _, _, ⟨wire.steps, hcount.symm, hfits.steps,
        rfl, rfl⟩, ⟨?_, rfl⟩, rfl⟩, rfl⟩, rfl⟩, rfl⟩, ?_⟩
    · rw [hcount]
      exact Nat.not_lt.mpr hfits.steps_le
    · simp [DagWire.dag, hcount]
    · simp [DagWire.encode]

theorem DagWire.le_encode_length (wire : DagWire) : 20 ≤ wire.encode.length := by
  simp [encode, encodeCounted]
  omega

theorem dagDeserialize_ok_iff : dagDeserialize (fun _ => true) now buffer = .ok dag ↔
    ∃ (wire : DagWire) (rest : List UInt8),
      wire.Fits ∧ buffer = wire.encode ++ rest ∧ dag = wire.dag now := by
  rw [dagDeserialize_eq]
  constructor
  · intro h
    split_ifs at h
    cases hresult : decodeDag (fun _ => true) now buffer with
    | error e =>
      rw [hresult] at h
      cases h
    | ok result =>
      rw [hresult] at h
      cases h
      obtain ⟨_, ⟨wire, hfits, hdag, rfl⟩, hbuffer⟩ := (decodes_dag now).ok_iff.mp hresult
      exact ⟨wire, result.2, hfits, hbuffer, hdag⟩
  · rintro ⟨wire, rest, hfits, rfl, rfl⟩
    have hlen := wire.le_encode_length
    have hlong : ¬ (wire.encode ++ rest).length < 16 := by
      rw [List.length_append]
      omega
    rw [if_neg hlong, (decodes_dag now).ok_append ⟨wire, hfits, rfl, rfl⟩]
    rfl

theorem dagDeserialize_error (h : dagDeserialize (fun _ => true) now buffer = .error e) :
    e = .errInvalid := by
  rw [dagDeserialize_eq] at h
  split_ifs at h
  · cases h
    rfl
  · cases hresult : decodeDag (fun _ => true) now buffer with
    | error e' =>
      rw [hresult] at h
      cases h
      exact (decodes_dag now).error_eq hresult
    | ok result =>
      rw [hresult] at h
      cases h

-- ----------------------------------------------------------------------------
-- The pointer
-- ----------------------------------------------------------------------------

/-- `if (ptr + n > end) return RESULT_ERR_INVALID`, then a copy of the `n`
bytes. -/
def readBytes (n : Nat) : Reader UInt8 ResultStatus (List UInt8) := do
  .need .errInvalid n
  .next n

def readNet32 : Reader UInt8 ResultStatus UInt32 := do
  let word ← readBytes 4
  return readBe32 word

def readNet64 : Reader UInt8 ResultStatus UInt64 := do
  let word ← readBytes 8
  return readBe64 word

def readString (limit : Nat) : Reader UInt8 ResultStatus (List UInt8) := do
  let len ← readNet32
  if len.toNat ≥ limit then .fail .errInvalid else readBytes len.toNat

def readDependencies : Nat → Reader UInt8 ResultStatus (List UInt32)
  | 0 => return []
  | n + 1 => do
    let dependency ← readNet32
    let rest ← readDependencies n
    return dependency :: rest

def readStep (allocOk : Bool) : Reader UInt8 ResultStatus DagStep := do
  let stepId ← readNet32
  let name ← readString maxStepName
  let functionName ← readString maxStepName
  let dependencyCount ← readNet32
  if dependencyCount.toNat > maxStepDependencies then .fail .errInvalid
  else
    let dependencies ← readDependencies dependencyCount.toNat
    let timeoutMs ← readNet32
    let maxRetries ← readBytes 1
    let configLen ← readNet32
    let step := {
      stepId := stepId
      name := name
      functionName := functionName
      configData := none
      configLen := configLen.toNat
      dependencies := dependencies
      dependencyCount := dependencyCount.toNat
      timeoutMs := timeoutMs
      maxRetries := maxRetries.headD 0 }
    if configLen = 0 then return step
    else
      -- The bytes are checked first, then comes the allocation, then the copy.
      .need .errInvalid configLen.toNat
      if allocOk then
        let config ← .next configLen.toNat
        return { step with configData := some config }
      else .fail .errNomem

def readSteps (alloc : Nat → Bool) : Nat → Nat → Reader UInt8 ResultStatus (List DagStep)
  | 0, _ => return []
  | n + 1, i => do
    let step ← readStep (alloc i)
    let rest ← readSteps alloc n (i + 1)
    return step :: rest

def readDag (alloc : Nat → Bool) (now : UInt64) : Reader UInt8 ResultStatus Dag := do
  let dagId ← readNet32
  let version ← readNet64
  let name ← readString maxDagName
  let stepCount ← readNet32
  if stepCount.toNat > maxDagSteps then .fail .errInvalid
  else
    let steps ← readSteps alloc stepCount.toNat 0
    return {
      dagId := dagId
      name := name
      version := version
      steps := steps
      stepCount := stepCount.toNat
      createdAtMs := now
      updatedAtMs := now }

/-- `dag_deserialize` on a buffer that lies at the front of this memory. -/
def dagDeserializeRun (alloc : Nat → Bool) (now : UInt64) (memory : Nat → UInt8)
    (bufferLen : Nat) : Run ResultStatus Dag :=
  if bufferLen < 16 then ⟨[], .error .errInvalid⟩ else readDag alloc now memory bufferLen 0

theorem implements_bytes (n : Nat) :
    Implements (readBytes n) fun input => orInvalid (takeBytes n input) :=
  (Implements.need_next ResultStatus.errInvalid n).congr fun input => by
    unfold takeBytes
    split_ifs <;> rfl

theorem implements_net32 : Implements readNet32 fun input => orInvalid (takeBe32 input) :=
  ((implements_bytes 4).bind fun word => .pure (readBe32 word)).congr fun input => by
    unfold takeBe32
    cases takeBytes 4 input <;> rfl

theorem implements_net64 : Implements readNet64 fun input => orInvalid (takeBe64 input) :=
  ((implements_bytes 8).bind fun word => .pure (readBe64 word)).congr fun input => by
    unfold takeBe64
    cases takeBytes 8 input <;> rfl

theorem implements_string (limit : Nat) : Implements (readString limit) (deserializeString limit) :=
  implements_net32.bind fun len => .ite (.fail ResultStatus.errInvalid) (implements_bytes len.toNat)

theorem implements_dependencies (n : Nat) :
    Implements (readDependencies n) (deserializeDependencies n) := by
  induction n with
  | zero => exact .pure []
  | succ n ih => exact implements_net32.bind fun dependency => ih.bind fun rest => .pure _

/-- The allocation stands between the check and the copy. -/
theorem implements_config (allocOk : Bool) (configLen : Nat) (f : List UInt8 → DagStep) :
    Implements (do
      .need .errInvalid configLen
      if allocOk then
        let config ← .next configLen
        return f config
      else .fail .errNomem) (fun input => do
        let (config, rest) ← orInvalid (takeBytes configLen input)
        if allocOk then .ok (f config, rest) else .error .errNomem) := by
  cases allocOk with
  | true =>
    change Implements (Reader.need _ _ >>= fun _ => Reader.next configLen >>= fun config =>
      pure (f config)) _
    rw [← Reader.bind_assoc]
    exact (implements_bytes configLen).bind fun config => .pure (f config)
  | false =>
    have h : Implements
        (Reader.need ResultStatus.errInvalid configLen >>= fun _ => .fail .errNomem)
        (fun input => (if input.length < configLen then .error .errInvalid
          else .ok ((), input)) >>= fun _ => .error .errNomem : Decoder UInt8 ResultStatus DagStep) :=
      (Implements.need _ _).bind fun _ => .fail ResultStatus.errNomem
    refine h.congr fun input => ?_
    by_cases hlen : input.length < configLen <;> simp only [takeBytes, hlen, if_true, if_false] <;> rfl

theorem implements_step (allocOk : Bool) : Implements (readStep allocOk) (deserializeStep allocOk) :=
  implements_net32.bind fun _ => (implements_string _).bind fun _ => (implements_string _).bind fun _ =>
    implements_net32.bind fun _ => .ite (.fail ResultStatus.errInvalid) <|
    (implements_dependencies _).bind fun _ => implements_net32.bind fun _ =>
    (implements_bytes 1).bind fun _ => implements_net32.bind fun _ =>
    .ite (.pure _) (implements_config allocOk _ _)

theorem implements_steps (alloc : Nat → Bool) (n i : Nat) :
    Implements (readSteps alloc n i) (deserializeSteps alloc n i) := by
  induction n generalizing i with
  | zero => exact .pure []
  | succ n ih => exact (implements_step (alloc i)).bind fun _ => (ih (i + 1)).bind fun _ => .pure _

theorem implements_dag (alloc : Nat → Bool) (now : UInt64) :
    Implements (readDag alloc now) (decodeDag alloc now) :=
  implements_net32.bind fun _ => implements_net64.bind fun _ => (implements_string _).bind fun _ =>
    implements_net32.bind fun _ => .ite (.fail ResultStatus.errInvalid) <|
    (implements_steps alloc _ 0).bind fun _ => .pure _

theorem dagDeserializeRun_result (alloc : Nat → Bool) (now : UInt64) (memory : Nat → UInt8)
    (bufferLen : Nat) : (dagDeserializeRun alloc now memory bufferLen).result =
      dagDeserialize alloc now (window memory bufferLen 0) := by
  rw [dagDeserialize_eq, window_length, Nat.sub_zero]
  unfold dagDeserializeRun
  split_ifs
  · rfl
  · exact (implements_dag alloc now).result_eq memory (Nat.zero_le _)

theorem dagDeserializeRun_reads (alloc : Nat → Bool) (now : UInt64) (memory : Nat → UInt8)
    (bufferLen : Nat) : ∀ offset ∈ (dagDeserializeRun alloc now memory bufferLen).reads,
      offset < bufferLen := by
  unfold dagDeserializeRun
  split_ifs
  · simp
  · exact (implements_dag alloc now).reads_lt (Nat.zero_le _)

/-- Whatever lies in memory, only the buffer is read, and what is accepted is
what begins with an encoding within the limits. -/
theorem dagDeserialize_accepts (now : UInt64) (memory : Nat → UInt8) (bufferLen : Nat) :
    let run := dagDeserializeRun (fun _ => true) now memory bufferLen
    let Begins (wire : DagWire) := ∃ rest, window memory bufferLen 0 = wire.encode ++ rest
    (∀ offset ∈ run.reads, offset < bufferLen) ∧
      (∀ dag, run.result = .ok dag ↔
        ∃ wire : DagWire, wire.Fits ∧ Begins wire ∧ dag = wire.dag now) ∧
      ((¬ ∃ wire : DagWire, wire.Fits ∧ Begins wire) → run.result = .error .errInvalid) := by
  intro run Begins
  have hresult : run.result = dagDeserialize _ now _ := dagDeserializeRun_result _ now memory bufferLen
  refine ⟨dagDeserializeRun_reads _ now memory bufferLen, fun dag => ?_, fun hnone => ?_⟩
  · rw [hresult, dagDeserialize_ok_iff]
    exact exists_congr fun wire => by simp only [Begins, exists_and_left, exists_and_right]
  · cases hrun : run.result with
    | error e =>
      rw [hresult] at hrun
      rw [dagDeserialize_error hrun]
    | ok dag =>
      rw [hresult] at hrun
      obtain ⟨wire, rest, hfits, hbuffer, -⟩ := dagDeserialize_ok_iff.mp hrun
      exact absurd ⟨wire, hfits, rest, hbuffer⟩ hnone

end Roole
