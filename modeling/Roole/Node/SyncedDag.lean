import Roole.Node.CatalogValidity
import Roole.Node.SyncCatalog

/-!
# The DAG that a worker receives

What a worker decodes from the encoding of a registered DAG is that DAG, field by
field, also where the encoding is outside the limits of the format: then the
worker rejects it.
-/

namespace Roole

open Bytes Format

-- ----------------------------------------------------------------------------
-- Decoding with and without memory
-- ----------------------------------------------------------------------------

theorem bind_eq_or {m : Except ε α} {f g : α → Except ε β} (h : ∀ a, f a = g a ∨ f a = .error e) :
    m >>= f = m >>= g ∨ m >>= f = .error e := by
  cases m with
  | error e' => exact .inl rfl
  | ok a => exact h a

theorem ite_eq_or {p : Prop} [Decidable p] {x y z : Except ε α} (h : x = y ∨ x = .error e) :
    (if p then z else x) = (if p then z else y) ∨ (if p then z else x) = .error e := by
  split_ifs
  · exact .inl rfl
  · exact h

theorem deserializeStep_alloc (allocOk : Bool) (bytes : List UInt8) :
    deserializeStep allocOk bytes = deserializeStep true bytes ∨
      deserializeStep allocOk bytes = .error .errNomem := by
  cases allocOk with
  | true => exact .inl rfl
  | false =>
    refine bind_eq_or fun _ => bind_eq_or fun _ => bind_eq_or fun _ => bind_eq_or fun _ =>
      ite_eq_or (bind_eq_or fun _ => bind_eq_or fun _ => bind_eq_or fun _ => bind_eq_or fun _ =>
        ite_eq_or (bind_eq_or fun _ => .inr rfl))

theorem deserializeSteps_alloc (alloc : Nat → Bool) (n i : Nat) (bytes : List UInt8) :
    deserializeSteps alloc n i bytes = deserializeSteps (fun _ => true) n i bytes ∨
      deserializeSteps alloc n i bytes = .error .errNomem := by
  induction n generalizing i bytes with
  | zero => exact .inl rfl
  | succ n ih =>
    simp only [deserializeSteps]
    rcases deserializeStep_alloc (alloc i) bytes with heq | herror
    · rw [heq]
      refine bind_eq_or fun result => ?_
      rcases ih (i + 1) result.2 with heq | herror
      · exact .inl (by simp only [heq])
      · exact .inr (by simp only [herror]; rfl)
    · exact .inr (by rw [herror]; rfl)

theorem dagDeserialize_alloc (h : dagDeserialize alloc now buffer = .ok dag) :
    dagDeserialize (fun _ => true) now buffer = .ok dag := by
  have hcases : dagDeserialize alloc now buffer = dagDeserialize (fun _ => true) now buffer ∨
      dagDeserialize alloc now buffer = .error .errNomem := by
    unfold dagDeserialize
    refine ite_eq_or (bind_eq_or fun _ => bind_eq_or fun _ => bind_eq_or fun _ => bind_eq_or
      fun count => ite_eq_or ?_)
    rcases deserializeSteps_alloc alloc count.1.toNat 0 count.2 with heq | herror
    · exact .inl (by simp only [heq])
    · exact .inr (by simp only [herror]; rfl)
  rcases hcases with heq | herror
  · rw [← heq, h]
  · rw [h] at herror
    cases herror

-- ----------------------------------------------------------------------------
-- Encodings that begin alike
-- ----------------------------------------------------------------------------

theorem writeBe32_prefix (h : writeBe32 x ++ rest = writeBe32 y ++ rest') :
    x = y ∧ rest = rest' := by
  have hx := takeBe32_eq_some.mpr (rfl : writeBe32 x ++ rest = writeBe32 x ++ rest)
  rw [h, takeBe32_eq_some.mpr rfl] at hx
  cases hx
  exact ⟨rfl, rfl⟩

theorem writeBe64_prefix (h : writeBe64 x ++ rest = writeBe64 y ++ rest') :
    x = y ∧ rest = rest' := by
  have hx := takeBe64_eq_some.mpr (rfl : writeBe64 x ++ rest = writeBe64 x ++ rest)
  rw [h, takeBe64_eq_some.mpr rfl] at hx
  cases hx
  exact ⟨rfl, rfl⟩

theorem writeCount_prefix (hm : m < 2 ^ 32) (hn : n < 2 ^ 32)
    (h : writeBe32 (.ofNat m) ++ rest = writeBe32 (.ofNat n) ++ rest') : m = n ∧ rest = rest' := by
  obtain ⟨hword, hrest⟩ := writeBe32_prefix h
  have hnat := congrArg UInt32.toNat hword
  rw [UInt32.toNat_ofNat_of_lt' hm, UInt32.toNat_ofNat_of_lt' hn] at hnat
  exact ⟨hnat, hrest⟩

theorem encodeCounted_prefix (hs : s.length < 2 ^ 32) (ht : t.length < 2 ^ 32)
    (h : encodeCounted s ++ rest = encodeCounted t ++ rest') : s = t ∧ rest = rest' := by
  simp only [encodeCounted, List.append_assoc] at h
  obtain ⟨hlen, h⟩ := writeCount_prefix hs ht h
  exact List.append_inj h hlen

theorem flatMap_prefix {encode : α → List UInt8} {valid : α → Prop}
    (hencode : ∀ {a b rest rest'}, valid a → valid b →
      encode a ++ rest = encode b ++ rest' → a = b ∧ rest = rest')
    {xs ys : List α} (hxs : ∀ a ∈ xs, valid a) (hys : ∀ b ∈ ys, valid b)
    (hlen : xs.length = ys.length)
    (h : xs.flatMap encode ++ rest = ys.flatMap encode ++ rest') : xs = ys ∧ rest = rest' := by
  induction xs generalizing ys with
  | nil =>
    obtain rfl := List.eq_nil_of_length_eq_zero hlen.symm
    exact ⟨rfl, h⟩
  | cons a xs ih =>
    obtain ⟨b, ys, rfl⟩ := List.exists_cons_of_length_eq_add_one hlen.symm
    rw [List.forall_mem_cons] at hxs hys
    simp only [List.flatMap_cons, List.append_assoc] at h
    obtain ⟨rfl, htail⟩ := hencode hxs.1 hys.1 h
    obtain ⟨rfl, hrest⟩ := ih hxs.2 hys.2 (Nat.succ.inj hlen) htail
    exact ⟨rfl, hrest⟩

structure StepWire.Counted (step : StepWire) : Prop where
  name : step.name.length < 2 ^ 32
  functionName : step.functionName.length < 2 ^ 32
  dependencies : step.dependencies.length < 2 ^ 32
  config : step.config.length < 2 ^ 32

structure DagWire.Counted (dag : DagWire) : Prop where
  name : dag.name.length < 2 ^ 32
  count : dag.steps.length < 2 ^ 32
  steps : ∀ step ∈ dag.steps, step.Counted

theorem StepWire.Fits.counted {wire : StepWire} (h : wire.Fits) : wire.Counted where
  name := h.name_lt.trans (by decide)
  functionName := h.functionName_lt.trans (by decide)
  dependencies := h.dependencies_le.trans_lt (by decide)
  config := h.config_lt

theorem DagWire.Fits.counted {wire : DagWire} (h : wire.Fits) : wire.Counted where
  name := h.name_lt.trans (by decide)
  count := h.steps_le.trans_lt (by decide)
  steps := fun step hstep => (h.steps step hstep).counted

theorem StepWire.encode_prefix {step other : StepWire} (hstep : step.Counted)
    (hother : other.Counted) (h : step.encode ++ rest = other.encode ++ rest') :
    step = other ∧ rest = rest' := by
  simp only [encode, List.append_assoc] at h
  obtain ⟨hid, h⟩ := writeBe32_prefix h
  obtain ⟨hname, h⟩ := encodeCounted_prefix hstep.name hother.name h
  obtain ⟨hfunction, h⟩ := encodeCounted_prefix hstep.functionName hother.functionName h
  obtain ⟨hlen, h⟩ := writeCount_prefix hstep.dependencies hother.dependencies h
  have hword : ∀ {x y : UInt32} {rest rest' : List UInt8}, True → True →
      writeBe32 x ++ rest = writeBe32 y ++ rest' → x = y ∧ rest = rest' :=
    fun _ _ h => writeBe32_prefix h
  obtain ⟨hdependencies, h⟩ :=
    flatMap_prefix hword (fun _ _ => trivial) (fun _ _ => trivial) hlen h
  obtain ⟨htimeout, h⟩ := writeBe32_prefix h
  obtain ⟨hretries, h⟩ := List.append_inj h rfl
  obtain ⟨hconfig, hrest⟩ := encodeCounted_prefix hstep.config hother.config h
  obtain ⟨stepId, name, functionName, dependencies, timeoutMs, maxRetries, config⟩ := step
  cases hid
  cases hname
  cases hfunction
  cases hdependencies
  cases htimeout
  cases hretries
  cases hconfig
  exact ⟨rfl, hrest⟩

theorem DagWire.encode_prefix {dag other : DagWire} (hdag : dag.Counted) (hother : other.Counted)
    (h : dag.encode ++ rest = other.encode ++ rest') : dag = other ∧ rest = rest' := by
  simp only [encode, List.append_assoc] at h
  obtain ⟨hid, h⟩ := writeBe32_prefix h
  obtain ⟨hversion, h⟩ := writeBe64_prefix h
  obtain ⟨hname, h⟩ := encodeCounted_prefix hdag.name hother.name h
  obtain ⟨hlen, h⟩ := writeCount_prefix hdag.count hother.count h
  obtain ⟨hsteps, hrest⟩ := flatMap_prefix StepWire.encode_prefix hdag.steps hother.steps hlen h
  obtain ⟨dagId, version, name, steps⟩ := dag
  cases hid
  cases hversion
  cases hname
  cases hsteps
  exact ⟨rfl, hrest⟩

-- ----------------------------------------------------------------------------
-- The registered DAG
-- ----------------------------------------------------------------------------

theorem AddDagPayload.step_config (payload : AddDagPayload) (now : UInt64) (i : Nat) :
    ((payload.dag now).step i).configData = none ∧ ((payload.dag now).step i).configLen = 0 := by
  cases hget : payload.stages[i]? with
  | none =>
    rw [dag_step_none hget]
    exact ⟨rfl, rfl⟩
  | some stage =>
    rw [dag_step hget]
    exact ⟨rfl, rfl⟩

theorem AddDagPayload.configPresent (payload : AddDagPayload) (now : UInt64) (i : Nat) :
    ((payload.dag now).step i).ConfigPresent := by
  obtain ⟨hdata, hlen⟩ := payload.step_config now i
  simp [DagStep.ConfigPresent, hdata, hlen]

theorem AddDagPayload.step_counted (payload : AddDagPayload) (now : UInt64) (i : Nat)
    (dependency : Nat → UInt32) : (((payload.dag now).step i).wire dependency).Counted := by
  have hconfig : (((payload.dag now).step i).wire dependency).config.length < 2 ^ 32 := by
    have hlen := (payload.configPresent now i).config_length
    rw [(payload.step_config now i).2] at hlen
    exact hlen.trans_lt (by decide)
  cases hget : payload.stages[i]? with
  | none =>
    rw [dag_step_none hget] at hconfig ⊢
    exact ⟨Nat.two_pow_pos 32, Nat.two_pow_pos 32, Nat.two_pow_pos 32, hconfig⟩
  | some stage =>
    rw [dag_step hget] at hconfig ⊢
    refine ⟨(stageName_strlen _).trans (by decide), (stageFunctionName_strlen _).trans (by decide),
      ?_, hconfig⟩
    simpa [DagStep.wire, AddDagStage.step] using stage.dependencyCount.toNat_lt

theorem AddDagPayload.wire_counted (payload : AddDagPayload) (past : PastSlots) (now : UInt64)
    (hle : (payload.dag now).stepCount ≤ maxDagSteps) :
    ((payload.dag now).wire past).Counted where
  name := (strlen_le _).trans_lt ((List.length_take_le _ _).trans_lt (by decide))
  count := by
    simp only [Dag.wire, List.length_map, List.length_range]
    exact hle.trans_lt (by decide)
  steps := by
    intro step hstep
    obtain ⟨i, -, rfl⟩ := List.mem_map.mp hstep
    exact payload.step_counted now i _

theorem AddDagPayload.wire_hasConfig (payload : AddDagPayload) (past : PastSlots)
    (now later : UInt64) (i : Nat) :
    ((((payload.dag now).wire past).dag later).step i).hasConfig = false := by
  have hstep : ∀ step ∈ ((payload.dag now).wire past).steps, step.step.configData = none := by
    intro step hmem
    obtain ⟨k, -, rfl⟩ := List.mem_map.mp hmem
    have hlen := (payload.configPresent now k).config_length
    rw [(payload.step_config now k).2] at hlen
    exact if_pos (List.eq_nil_of_length_eq_zero hlen)
  have hnone : ((((payload.dag now).wire past).dag later).step i).configData = none := by
    cases hget : ((payload.dag now).wire past).steps[i]? with
    | none => simp [Dag.step, DagWire.dag, hget, DagStep.zero]
    | some step =>
      simpa [Dag.step, DagWire.dag, hget] using hstep step (List.mem_of_getElem? hget)
  simp [DagStep.hasConfig, hnone]

/-- A worker that accepts the encoding of a registered DAG has got that DAG, and
the DAG keeps to its arrays. -/
theorem AddDagPayload.received (payload : AddDagPayload)
    (hle : (payload.dag now).stepCount ≤ maxDagSteps)
    (h : dagDeserialize alloc later (dagSerialize past (payload.dag now) bufferSize) =
      .ok decoded) :
    decoded.SameFields past (payload.dag now) ∧ (payload.dag now).WithinArrays ∧
      ∀ i, (decoded.step i).hasConfig = false := by
  obtain ⟨wire, rest, hfits, hbuffer, rfl⟩ := dagDeserialize_ok_iff.mp (dagDeserialize_alloc h)
  rw [dagSerialize_eq past fun i _ => payload.configPresent now i] at hbuffer
  split_ifs at hbuffer
  · have hlen := congrArg List.length hbuffer
    have hlong := wire.le_encode_length
    rw [List.length_append, List.length_nil] at hlen
    omega
  · rw [← List.append_nil (DagWire.encode _)] at hbuffer
    obtain ⟨rfl, -⟩ :=
      DagWire.encode_prefix (payload.wire_counted past now hle) hfits.counted hbuffer
    have hwithin : (payload.dag now).WithinArrays := by
      intro i hi
      have hstep := hfits.steps _ (List.mem_map_of_mem (List.mem_range.mpr hi))
      simpa [DagStep.wire] using hstep.dependencies_le
    have hencodable := payload.dag_encodable now hle hwithin
    exact ⟨Dag.wire_sameFields past later hencodable, hwithin,
      payload.wire_hasConfig past now later⟩

end Roole
