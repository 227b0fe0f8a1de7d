import Mathlib.Data.List.Induction
import Roole.Common

/-!
# Histograms and their Prometheus lines

A histogram keeps one counter per bucket, their bounds ascending with infinity
last, next to the number and the sum of the observations. An observation is
counted in the first bucket whose bound it does not exceed; a bucket's line shows
that bucket's own counter.
-/

namespace Roole

/-- A `double` bound that is a whole number, or `INFINITY`. -/
inductive UpperBound
  | finite (bound : Int)
  | infinity
  deriving DecidableEq, Repr

instance : LE UpperBound where
  le
  | _, .infinity => True
  | .infinity, .finite _ => False
  | .finite bound, .finite bound' => bound ≤ bound'

inductive HistogramBucketsType
  | latencyMs
  | latencyUs
  | sizeBytes
  | custom
  deriving DecidableEq, Repr

def finiteBounds : HistogramBucketsType → List Int
  | .latencyMs => [1, 5, 10, 50, 100, 500, 1000, 5000]
  | .latencyUs => [100, 500, 1000, 5000, 10000, 50000, 100000]
  | .sizeBytes => [256, 1024, 4096, 16384, 65536, 262144, 1048576, 4194304]
  | .custom => []

def metricsGetBuckets (bucketsType : HistogramBucketsType) : List UpperBound :=
  match bucketsType with
  | .custom => []
  | _ => (finiteBounds bucketsType).map UpperBound.finite ++ [.infinity]

structure MetricLabel where
  name : String
  value : String
  deriving DecidableEq, Repr

structure HistogramMetric where
  name : String
  help : String
  labels : List MetricLabel
  buckets : List UpperBound
  bucketCounts : List UInt64
  count : UInt64
  sum : UInt64
  deriving DecidableEq

def HistogramMetric.create (name help : String) (bucketsType : HistogramBucketsType)
    (labels : List MetricLabel) : HistogramMetric where
  name := name
  help := help
  labels := labels
  buckets := metricsGetBuckets bucketsType
  bucketCounts := (metricsGetBuckets bucketsType).map fun _ => 0
  count := 0
  sum := 0

def covers : UpperBound → Int32 → Bool
  | .finite bound, value => decide (value.toInt ≤ bound)
  | .infinity, _ => true

@[simp] theorem covers_infinity (value : Int32) : covers .infinity value = true := rfl

@[simp] theorem covers_finite (bound : Int) (value : Int32) :
    covers (.finite bound) value = decide (value.toInt ≤ bound) := rfl

/-- The loop over the buckets, which ends at the first that covers the value. -/
def observeBuckets (value : Int32) : List UpperBound → List UInt64 → List UInt64
  | bound :: bounds, n :: counts =>
    if covers bound value then (n + 1) :: counts else n :: observeBuckets value bounds counts
  | _, counts => counts

def metricsHistogramObserve (metric : HistogramMetric) (value : Int32) : HistogramMetric :=
  { metric with
    count := metric.count + 1
    sum := metric.sum + .ofInt value.toInt
    bucketCounts := observeBuckets value metric.buckets metric.bucketCounts }

-- ----------------------------------------------------------------------------
-- Rendering
-- ----------------------------------------------------------------------------

inductive HistogramLine
  | help
  | type
  | bucket (le : UpperBound) (value : UInt64)
  | sum (value : UInt64)
  | count (value : UInt64)
  deriving DecidableEq

def histogramLines (metric : HistogramMetric) : List HistogramLine :=
  .help :: .type :: List.zipWith .bucket metric.buckets metric.bucketCounts ++
    [.sum metric.sum, .count metric.count]

-- ----------------------------------------------------------------------------
-- What the counters hold
-- ----------------------------------------------------------------------------

def total : List Int32 → Int
  | [] => 0
  | value :: rest => value.toInt + total rest

theorem total_append (observations : List Int32) (value : Int32) :
    total (observations ++ [value]) = total observations + value.toInt := by
  induction observations with
  | nil => simp [total]
  | cons first rest ih => simp [total, ih, Int.add_assoc]

/-- How many observations each bucket counts: those it covers and none before
it does. -/
def tallies : List UpperBound → List Int32 → List Nat
  | [], _ => []
  | bound :: bounds, observations =>
    observations.countP (covers bound) ::
      tallies bounds (observations.filter fun value => !covers bound value)

theorem tallies_nil (bounds : List UpperBound) : tallies bounds [] = bounds.map fun _ => 0 := by
  induction bounds with
  | nil => rfl
  | cons bound bounds ih => simp [tallies, ih]

theorem observeBuckets_tallies (bounds : List UpperBound) (observations : List Int32)
    (value : Int32) :
    observeBuckets value bounds ((tallies bounds observations).map UInt64.ofNat) =
      (tallies bounds (observations ++ [value])).map UInt64.ofNat := by
  induction bounds generalizing observations with
  | nil => rfl
  | cons bound bounds ih =>
    cases hcovers : covers bound value with
    | true => simp [tallies, observeBuckets, hcovers, List.countP_append, List.filter_append]
    | false => simp [tallies, observeBuckets, hcovers, List.countP_append, List.filter_append, ih]

theorem tallies_concat (bounds : List UpperBound) (bound : UpperBound)
    (observations : List Int32) :
    tallies (bounds ++ [bound]) observations = tallies bounds observations ++
      [observations.countP fun value =>
        covers bound value && bounds.all fun earlier => !covers earlier value] := by
  induction bounds generalizing observations with
  | nil => simp [tallies]
  | cons first bounds ih =>
    simp only [List.cons_append, tallies, ih, List.countP_filter, List.all_cons]
    congr 4
    funext value
    cases covers bound value <;> cases covers first value <;> simp

theorem observe_eq (name help : String)
    (bucketsType : HistogramBucketsType) (labels : List MetricLabel) (observations : List Int32) :
    observations.foldl metricsHistogramObserve (.create name help bucketsType labels) =
      { HistogramMetric.create name help bucketsType labels with
        bucketCounts := (tallies (metricsGetBuckets bucketsType) observations).map UInt64.ofNat
        count := .ofNat observations.length
        sum := .ofInt (total observations) } := by
  induction observations using List.reverseRecOn with
  | nil =>
    simp only [List.foldl_nil, HistogramMetric.create, tallies_nil, List.map_map]
    rfl
  | append_singleton observations value ih =>
    rw [List.foldl_append, ih]
    simp [metricsHistogramObserve, HistogramMetric.create, observeBuckets_tallies, total_append,
      UInt64.ofInt_add]

@[simp] theorem tallies_length (bounds : List UpperBound) (observations : List Int32) :
    (tallies bounds observations).length = bounds.length := by
  induction bounds generalizing observations with
  | nil => rfl
  | cons bound bounds ih => simp [tallies, ih]

theorem tallies_uncovered
    (h : ∀ value ∈ observations, ∀ bound ∈ bounds, covers bound value = false) :
    tallies bounds observations = bounds.map fun _ => 0 := by
  induction bounds generalizing observations with
  | nil => rfl
  | cons bound bounds ih =>
    have hfirst : ∀ value ∈ observations, covers bound value = false := fun value hvalue =>
      h value hvalue bound List.mem_cons_self
    have hrest : tallies bounds (observations.filter fun value => !covers bound value) =
        bounds.map fun _ => 0 := by
      refine ih fun value hvalue later hlater => ?_
      exact h value (List.mem_filter.mp hvalue |>.1) later (List.mem_cons_of_mem _ hlater)
    rw [tallies, hrest, List.countP_eq_zero.mpr fun value hvalue => by simp [hfirst value hvalue]]
    rfl

-- ----------------------------------------------------------------------------
-- The Prometheus reading
-- ----------------------------------------------------------------------------

/-- What the format says of the lines of a histogram with these observations. -/
structure PrometheusSemantics (observations : List Int32) (lines : List HistogramLine) : Prop where
  bucket : ∀ le value, .bucket le value ∈ lines →
    value.toNat = observations.countP (covers le)
  nondecreasing : ∀ le value le' value', .bucket le value ∈ lines →
    .bucket le' value' ∈ lines → le ≤ le' → value ≤ value'
  infinite : ∃ value, .bucket .infinity value ∈ lines ∧
    ∀ count, .count count ∈ lines → value = count
  sum : ∀ value, .sum value ∈ lines →
    (value.toNat : Int) = total observations

theorem total_nonneg {observations : List Int32}
    (h : ∀ value ∈ observations, 0 ≤ value.toInt) : 0 ≤ total observations := by
  induction observations with
  | nil => exact Int.le_refl 0
  | cons value rest ih =>
    obtain ⟨hvalue, hrest⟩ := List.forall_mem_cons.mp h
    exact Int.add_nonneg hvalue (ih hrest)

theorem toNat_ofInt {n : Int} (hnonneg : 0 ≤ n) (hlt : n < UInt64.size) :
    ((UInt64.ofInt n).toNat : Int) = n := by
  obtain ⟨m, rfl⟩ := Int.eq_ofNat_of_zero_le hnonneg
  have hm : m < UInt64.size := by exact_mod_cast hlt
  have hsize : (2 : Int) ^ 64 = UInt64.size := rfl
  have hmod : ((m : Int) % 2 ^ 64).toNat = m := by
    rw [hsize, Int.emod_eq_of_lt hnonneg hlt, Int.toNat_natCast]
  rw [UInt64.ofInt, hmod, UInt64.toNat_ofNat_of_lt' hm]

theorem countP_covers_mono (observations : List Int32) (h : le ≤ le') :
    observations.countP (covers le) ≤ observations.countP (covers le') := by
  refine List.countP_mono_left fun value _ hcovers => ?_
  cases le' with
  | infinity => rfl
  | finite bound' =>
    cases le with
    | infinity => exact h.elim
    | finite bound =>
      simp only [covers_finite, decide_eq_true_eq] at hcovers ⊢
      exact Int.le_trans hcovers h

theorem histogramLines_eq (h : bucketsType ≠ .custom) (name help : String)
    (labels : List MetricLabel) (observations : List Int32) :
    histogramLines (observations.foldl metricsHistogramObserve
      (.create name help bucketsType labels)) =
    .help :: .type ::
      List.zipWith .bucket ((finiteBounds bucketsType).map UpperBound.finite)
        ((tallies ((finiteBounds bucketsType).map UpperBound.finite) observations).map
          UInt64.ofNat) ++
      [.bucket .infinity (.ofNat (observations.countP fun value =>
          (finiteBounds bucketsType).all fun bound => !covers (.finite bound) value)),
        .sum (.ofInt (total observations)),
        .count (.ofNat observations.length)] := by
  have hbounds : metricsGetBuckets bucketsType =
      (finiteBounds bucketsType).map UpperBound.finite ++ [.infinity] := by
    cases bucketsType with
    | custom => exact absurd rfl h
    | _ => rfl
  rw [observe_eq, hbounds, tallies_concat, List.map_append]
  simp only [histogramLines, HistogramMetric.create, hbounds]
  rw [List.zipWith_append (by simp)]
  simp [List.all_map, Function.comp_def]

theorem lines_of_beyond (h : bucketsType ≠ .custom) (name help : String)
    (labels : List MetricLabel) {observations : List Int32}
    (hbeyond : ∀ value ∈ observations, ∀ bound ∈ finiteBounds bucketsType, bound < value.toInt) :
    histogramLines (observations.foldl metricsHistogramObserve
      (.create name help bucketsType labels)) =
    .help :: .type :: ((finiteBounds bucketsType).map fun bound => .bucket (.finite bound) 0) ++
      [.bucket .infinity (.ofNat observations.length), .sum (.ofInt (total observations)),
        .count (.ofNat observations.length)] := by
  have huncovered : ∀ value ∈ observations,
      ∀ bound ∈ (finiteBounds bucketsType).map UpperBound.finite, covers bound value = false := by
    intro value hvalue bound hbound
    obtain ⟨whole, hwhole, rfl⟩ := List.mem_map.mp hbound
    simpa using hbeyond value hvalue whole hwhole
  have hall : observations.countP (fun value => (finiteBounds bucketsType).all fun bound =>
      !covers (.finite bound) value) = observations.length := by
    rw [List.countP_eq_length]
    intro value hvalue
    simpa using hbeyond value hvalue
  rw [histogramLines_eq h, tallies_uncovered huncovered, hall]
  simp [List.zipWith_map, List.zipWith_self]

theorem bucket_of_beyond (h : bucketsType ≠ .custom) (name help : String)
    (labels : List MetricLabel) {observations : List Int32}
    (hlength : observations.length < UInt64.size)
    (hbeyond : ∀ value ∈ observations, ∀ bound ∈ finiteBounds bucketsType, bound < value.toInt)
    (hline : .bucket le value ∈ histogramLines
      (observations.foldl metricsHistogramObserve (.create name help bucketsType labels))) :
    value.toNat = observations.countP (covers le) := by
  simp only [lines_of_beyond h name help labels hbeyond, List.mem_append, List.mem_cons,
    reduceCtorEq, List.mem_map, HistogramLine.bucket.injEq, List.not_mem_nil, or_false,
    false_or] at hline
  obtain ⟨bound, hbound, rfl, rfl⟩ | ⟨rfl, rfl⟩ := hline
  · have hnone : observations.countP (covers (.finite bound)) = 0 := by
      rw [List.countP_eq_zero]
      intro value hvalue
      simpa using hbeyond value hvalue bound hbound
    rw [hnone]
    rfl
  · rw [UInt64.toNat_ofNat_of_lt' hlength, eq_comm, List.countP_eq_length]
    exact fun _ _ => covers_infinity _

/-- The lines read as Prometheus histograms do exactly when nothing was observed
that a finite bound covers: of every such observation the later buckets do not
know. -/
theorem histogramLines_prometheus_iff (name help : String) (bucketsType : HistogramBucketsType)
    (labels : List MetricLabel) (observations : List Int32) (htype : bucketsType ≠ .custom)
    (hnonneg : ∀ value ∈ observations, 0 ≤ value.toInt)
    (hlength : observations.length < UInt64.size)
    (hsum : total observations < UInt64.size) :
    PrometheusSemantics observations (histogramLines
        (observations.foldl metricsHistogramObserve (.create name help bucketsType labels))) ↔
      ∀ value ∈ observations, ∀ bound ∈ finiteBounds bucketsType, bound < value.toInt := by
  constructor
  · intro h value hvalue bound hbound
    have hlast := h.bucket .infinity (.ofNat (observations.countP fun value =>
      (finiteBounds bucketsType).all fun bound => !covers (.finite bound) value))
      (by rw [histogramLines_eq htype]; simp)
    rw [UInt64.toNat_ofNat_of_lt' (Nat.lt_of_le_of_lt List.countP_le_length hlength),
      List.countP_eq_length.mpr fun _ _ => covers_infinity _, List.countP_eq_length] at hlast
    simpa using List.all_eq_true.mp (hlast value hvalue) bound hbound
  · intro hbeyond
    have hbucket : ∀ le value, .bucket le value ∈ histogramLines
        (observations.foldl metricsHistogramObserve (.create name help bucketsType labels)) →
        value.toNat = observations.countP (covers le) :=
      fun _ _ => bucket_of_beyond htype name help labels hlength hbeyond
    refine ⟨hbucket, ?_, ?_, ?_⟩
    · intro le value le' value' hline hline' hle
      rw [UInt64.le_iff_toNat_le, hbucket le value hline, hbucket le' value' hline']
      exact countP_covers_mono observations hle
    · refine ⟨.ofNat observations.length, ?_, fun count hcount => ?_⟩
      · simp [lines_of_beyond htype name help labels hbeyond]
      · simp [lines_of_beyond htype name help labels hbeyond] at hcount
        exact hcount.symm
    · intro value hline
      simp [lines_of_beyond htype name help labels hbeyond] at hline
      rw [hline]
      exact toNat_ofInt (total_nonneg hnonneg) hsum

/-- One fast execution: the bucket of 5 counts it, that of 10 does not. -/
theorem histogramLines_not_cumulative :
    ¬PrometheusSemantics [3] (histogramLines ([3].foldl metricsHistogramObserve
      (.create "execution_duration_ms" "Histogram of message execution duration in milliseconds"
        .latencyMs []))) := by
  intro h
  have hten := h.bucket (.finite 10) 0 (by decide)
  exact absurd hten (by decide)

theorem histogramLines_prometheus_iff_slow :
    PrometheusSemantics [6000, 7000] (histogramLines ([6000, 7000].foldl metricsHistogramObserve
      (.create "execution_duration_ms" "Histogram of message execution duration in milliseconds"
        .latencyMs []))) :=
  (histogramLines_prometheus_iff _ _ .latencyMs [] [6000, 7000] (by decide)
    (List.forall_mem_cons.mpr ⟨by decide, List.forall_mem_singleton.mpr (by decide)⟩)
    (by decide) (by decide)).mpr
    (List.forall_mem_cons.mpr ⟨by decide, List.forall_mem_singleton.mpr (by decide)⟩)

end Roole
