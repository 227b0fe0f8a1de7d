import Roole.Core.Config
import Roole.Core.Metrics
import Roole.Lib.Interning
import Roole.Lib.Runs

/-!
# The metrics registry

`metrics.c`: counters and gauges in one array and histograms in another, each
created by the first call that does not find it. The names are compared with copies
that are cut to their arrays, and the labels of a histogram up to the number that
is asked for.
-/

namespace Roole

def maxMetricNameLen : Nat := 128
def maxMetricHelpLen : Nat := 256
def maxMetricsPerRegistry : Nat := 256
def maxLabelNameLen : Nat := 64
def maxLabelValueLen : Nat := 128
def maxLabelsPerMetric : Nat := 8

@[ext] structure RegistryLabel where
  name : List UInt8
  value : List UInt8
  name_text : 0 ∉ name
  value_text : 0 ∉ value
  name_lt : name.length < maxLabelNameLen
  value_lt : value.length < maxLabelValueLen

instance : DecidableEq RegistryLabel := fun _ _ => decidable_of_iff _ RegistryLabel.ext_iff.symm

def RegistryLabel.zero : RegistryLabel where
  name := []
  value := []
  name_text := List.not_mem_nil
  value_text := List.not_mem_nil
  name_lt := by decide
  value_lt := by decide

inductive MetricType
  | counter
  | gauge
  deriving DecidableEq, Repr

/-- A counter or a gauge; `value` is its number as `%.0f` prints it, with the 309 digits
of the largest `double` and a sign at most. -/
structure RegisteredMetric where
  name : List UInt8
  help : List UInt8
  type : MetricType
  labels : List RegistryLabel
  value : List UInt8
  name_lt : name.length < maxMetricNameLen
  help_lt : help.length < maxMetricHelpLen
  labels_le : labels.length ≤ maxLabelsPerMetric
  value_le : value.length ≤ 310
  deriving DecidableEq

structure RegisteredHistogram where
  name : List UInt8
  help : List UInt8
  labels : List RegistryLabel
  buckets : List UpperBound
  bucketCounts : List UInt64
  count : UInt64
  sum : UInt64
  name_lt : name.length < maxMetricNameLen
  help_lt : help.length < maxMetricHelpLen
  labels_le : labels.length ≤ maxLabelsPerMetric
  deriving DecidableEq

structure MetricsRegistry where
  metrics : List RegisteredMetric
  histograms : List RegisteredHistogram
  metrics_le : metrics.length ≤ maxMetricsPerRegistry
  histograms_le : histograms.length ≤ maxMetricsPerRegistry

def metricsRegistryInit : MetricsRegistry := ⟨[], [], Nat.zero_le _, Nat.zero_le _⟩

theorem safeStrncpy_length_lt (src : List UInt8) (h : 0 < size) :
    (safeStrncpy src size).length < size :=
  Nat.lt_of_le_of_lt (List.length_take_le _ _) (Nat.sub_one_lt_of_lt h)

-- ----------------------------------------------------------------------------
-- Getting and creating
-- ----------------------------------------------------------------------------

/-- The loop over the labels that are asked for. Behind the stored labels the array
has labels of zeros. -/
def labelsAgree : List RegistryLabel → List RegistryLabel → Bool
  | _, [] => true
  | stored, label :: labels => stored.headD .zero == label && labelsAgree stored.tail labels

def RegisteredMetric.Is (metric : RegisteredMetric) (name : List UInt8)
    (labels : List RegistryLabel) : Bool :=
  metric.name == cString name && metric.labels.length == labels.length &&
    labelsAgree metric.labels labels

def RegisteredHistogram.Is (histogram : RegisteredHistogram) (name : List UInt8)
    (labels : List RegistryLabel) : Bool :=
  histogram.name == cString name && labelsAgree histogram.labels labels

def RegisteredMetric.create (name help : List UInt8) (type : MetricType)
    (labels : List RegistryLabel) (hlabels : labels.length ≤ maxLabelsPerMetric) :
    RegisteredMetric where
  name := safeStrncpy name maxMetricNameLen
  help := safeStrncpy help maxMetricHelpLen
  type := type
  labels := labels
  value := [.ofNat '0'.toNat]
  name_lt := safeStrncpy_length_lt name (by decide)
  help_lt := safeStrncpy_length_lt help (by decide)
  labels_le := hlabels
  value_le := by decide

def RegisteredHistogram.create (name help : List UInt8) (bucketsType : HistogramBucketsType)
    (labels : List RegistryLabel) (hlabels : labels.length ≤ maxLabelsPerMetric) :
    RegisteredHistogram where
  name := safeStrncpy name maxMetricNameLen
  help := safeStrncpy help maxMetricHelpLen
  labels := labels
  buckets := metricsGetBuckets bucketsType
  bucketCounts := (metricsGetBuckets bucketsType).map fun _ => 0
  count := 0
  sum := 0
  name_lt := safeStrncpy_length_lt name (by decide)
  help_lt := safeStrncpy_length_lt help (by decide)
  labels_le := hlabels

namespace MetricsRegistry

def addMetric (reg : MetricsRegistry) (metric : RegisteredMetric)
    (h : reg.metrics.length < maxMetricsPerRegistry) : MetricsRegistry :=
  { reg with
    metrics := reg.metrics ++ [metric]
    metrics_le := by
      rw [List.length_append, List.length_singleton]
      exact h }

def addHistogram (reg : MetricsRegistry) (histogram : RegisteredHistogram)
    (h : reg.histograms.length < maxMetricsPerRegistry) : MetricsRegistry :=
  { reg with
    histograms := reg.histograms ++ [histogram]
    histograms_le := by
      rw [List.length_append, List.length_singleton]
      exact h }

/-- The pointer that is returned is the index of its entry. -/
def findOrCreateMetric (reg : MetricsRegistry) (name help : Option (List UInt8))
    (type : MetricType) (labels : List RegistryLabel) : Option Nat × MetricsRegistry :=
  match name, help with
  | some name, some help =>
    if hlabels : labels.length ≤ maxLabelsPerMetric then
      match reg.metrics.findIdx? (·.Is name labels) with
      | some i => (some i, reg)
      | none =>
        if h : reg.metrics.length < maxMetricsPerRegistry then
          (some reg.metrics.length, reg.addMetric (.create name help type labels hlabels) h)
        else (none, reg)
    else (none, reg)
  | _, _ => (none, reg)

def metricsGetOrCreateCounter (reg : MetricsRegistry) (name help : Option (List UInt8))
    (labels : List RegistryLabel) : Option Nat × MetricsRegistry :=
  reg.findOrCreateMetric name help .counter labels

def metricsGetOrCreateGauge (reg : MetricsRegistry) (name help : Option (List UInt8))
    (labels : List RegistryLabel) : Option Nat × MetricsRegistry :=
  reg.findOrCreateMetric name help .gauge labels

/-- The number of labels is not checked; more than eight would not fit. -/
def metricsGetOrCreateHistogram (reg : MetricsRegistry) (name help : Option (List UInt8))
    (bucketsType : HistogramBucketsType) (labels : List RegistryLabel)
    (hlabels : labels.length ≤ maxLabelsPerMetric) : Option Nat × MetricsRegistry :=
  match name with
  | none => (none, reg)
  | some name =>
    match reg.histograms.findIdx? (·.Is name labels) with
    | some i => (some i, reg)
    | none =>
      if h : reg.histograms.length < maxMetricsPerRegistry then
        (some reg.histograms.length,
          reg.addHistogram (.create name (help.getD []) bucketsType labels hlabels) h)
      else (none, reg)

end MetricsRegistry

-- ----------------------------------------------------------------------------
-- Calls
-- ----------------------------------------------------------------------------

structure MetricCall where
  type : MetricType
  name : List UInt8
  help : List UInt8
  labels : List RegistryLabel
  labels_le : labels.length ≤ maxLabelsPerMetric
  deriving DecidableEq

structure HistogramCall where
  name : List UInt8
  help : Option (List UInt8)
  bucketsType : HistogramBucketsType
  labels : List RegistryLabel
  labels_le : labels.length ≤ maxLabelsPerMetric
  deriving DecidableEq

def MetricCall.key (call : MetricCall) : List UInt8 × List RegistryLabel :=
  (cString call.name, call.labels)

def HistogramCall.key (call : HistogramCall) : List UInt8 × List RegistryLabel :=
  (cString call.name, call.labels)

inductive RegistryCall
  | metric (call : MetricCall)
  | histogram (call : HistogramCall)

structure RegistryRun where
  reg : MetricsRegistry
  metricCalls : List (MetricCall × Option Nat)
  histogramCalls : List (HistogramCall × Option Nat)

namespace RegistryRun

def start : RegistryRun := ⟨metricsRegistryInit, [], []⟩

def step (r : RegistryRun) : RegistryCall → RegistryRun
  | .metric call =>
    let (metric, reg) :=
      match call.type with
      | .counter => r.reg.metricsGetOrCreateCounter (some call.name) (some call.help) call.labels
      | .gauge => r.reg.metricsGetOrCreateGauge (some call.name) (some call.help) call.labels
    { r with reg := reg, metricCalls := r.metricCalls ++ [(call, metric)] }
  | .histogram call =>
    let (histogram, reg) := r.reg.metricsGetOrCreateHistogram (some call.name) call.help
      call.bucketsType call.labels call.labels_le
    { r with reg := reg, histogramCalls := r.histogramCalls ++ [(call, histogram)] }

def metricLog (r : RegistryRun) : Interning.Log RegisteredMetric MetricCall :=
  ⟨r.reg.metrics, r.metricCalls⟩

def histogramLog (r : RegistryRun) : Interning.Log RegisteredHistogram HistogramCall :=
  ⟨r.reg.histograms, r.histogramCalls⟩

/-- Two calls of one function returned the same metric exactly if they were given
the same name and the same labels. -/
structure OneToOne (r : RegistryRun) : Prop where
  metrics : Interning.Distinguishes MetricCall.type MetricCall.key r.metricCalls
  histograms : Interning.Distinguishes (fun _ => ()) HistogramCall.key r.histogramCalls

def NotFull (r : RegistryRun) : RegistryCall → Prop
  | .metric _ => r.reg.metrics.length < maxMetricsPerRegistry
  | .histogram _ => r.reg.histograms.length < maxMetricsPerRegistry

/-- The call that was the first to be given what this one finds. -/
def metricMaker (r : RegistryRun) (call : MetricCall) : Option MetricCall :=
  (r.reg.metrics.findIdx? (·.Is call.name call.labels)).bind r.metricLog.maker

def histogramMaker (r : RegistryRun) (call : HistogramCall) : Option HistogramCall :=
  (r.reg.histograms.findIdx? (·.Is call.name call.labels)).bind r.histogramLog.maker

/-- A name that is cut is new to its function with these labels; any other name finds
nothing that was made for a name that was cut, but by the other function, and no
histogram with another number of labels. -/
def KeyFits (r : RegistryRun) : RegistryCall → Prop
  | .metric call =>
    if strlen call.name < maxMetricNameLen then
      ∀ first ∈ r.metricMaker call, first.type = call.type → strlen first.name < maxMetricNameLen
    else ∀ x ∈ r.metricCalls, x.1.type = call.type → x.1.key ≠ call.key
  | .histogram call =>
    if strlen call.name < maxMetricNameLen then
      ∀ first ∈ r.histogramMaker call,
        strlen first.name < maxMetricNameLen ∧ first.labels.length = call.labels.length
    else ∀ x ∈ r.histogramCalls, x.1.key ≠ call.key

end RegistryRun

-- ----------------------------------------------------------------------------
-- What is found
-- ----------------------------------------------------------------------------

theorem labelsAgree_iff (h : stored.length = labels.length) :
    labelsAgree stored labels = true ↔ stored = labels := by
  induction labels generalizing stored with
  | nil =>
    rw [List.length_eq_zero_iff.mp h]
    exact iff_of_true rfl rfl
  | cons label labels ih =>
    cases stored with
    | nil => cases h
    | cons first stored =>
      have hlength : stored.length = labels.length := Nat.succ.inj h
      simp [labelsAgree, ih hlength]

theorem RegisteredMetric.is_iff (metric : RegisteredMetric) (name : List UInt8)
    (labels : List RegistryLabel) :
    metric.Is name labels = true ↔ metric.name = cString name ∧ metric.labels = labels := by
  unfold Is
  rw [Bool.and_eq_true, Bool.and_eq_true, beq_iff_eq, beq_iff_eq, and_assoc]
  refine and_congr_right fun _ => ⟨fun h => (labelsAgree_iff h.1).mp h.2, ?_⟩
  rintro rfl
  exact ⟨rfl, (labelsAgree_iff rfl).mpr rfl⟩

theorem RegisteredHistogram.is_iff (histogram : RegisteredHistogram) (name : List UInt8)
    (labels : List RegistryLabel) :
    histogram.Is name labels = true ↔
      histogram.name = cString name ∧ labelsAgree histogram.labels labels = true := by
  rw [Is, Bool.and_eq_true, beq_iff_eq]

theorem safeStrncpy_eq_iff (name : List UInt8) (other : List UInt8)
    (hshort : strlen other < maxMetricNameLen)
    (hsame : safeStrncpy name maxMetricNameLen = cString other) :
    cString name = cString other ↔ strlen name < maxMetricNameLen := by
  constructor
  · intro heq
    unfold strlen at hshort ⊢
    rwa [heq]
  · intro hname
    rw [← hsame]
    exact (List.take_of_length_le (Nat.le_sub_one_of_lt hname)).symm

def MetricCall.make (call : MetricCall) : RegisteredMetric :=
  .create call.name call.help call.type call.labels call.labels_le

def HistogramCall.make (call : HistogramCall) : RegisteredHistogram :=
  .create call.name (call.help.getD []) call.bucketsType call.labels call.labels_le

def metricHit (metric : RegisteredMetric) (call : MetricCall) : Bool :=
  metric.Is call.name call.labels

def histogramHit (histogram : RegisteredHistogram) (call : HistogramCall) : Bool :=
  histogram.Is call.name call.labels

theorem metricHit_key (metric : RegisteredMetric) (a b : MetricCall) (h : a.key = b.key) :
    metricHit metric a = metricHit metric b := by
  obtain ⟨hname, hlabels⟩ := Prod.mk.inj h
  rw [metricHit, metricHit, RegisteredMetric.Is, RegisteredMetric.Is, hname, hlabels]

theorem histogramHit_key (histogram : RegisteredHistogram) (a b : HistogramCall)
    (h : a.key = b.key) : histogramHit histogram a = histogramHit histogram b := by
  obtain ⟨hname, hlabels⟩ := Prod.mk.inj h
  rw [histogramHit, histogramHit, RegisteredHistogram.Is, RegisteredHistogram.Is, hname, hlabels]

theorem metricHit_make {call : MetricCall} (h : strlen call.name < maxMetricNameLen) :
    metricHit call.make call = true :=
  (RegisteredMetric.is_iff _ _ _).mpr
    ⟨List.take_of_length_le (Nat.le_sub_one_of_lt h), rfl⟩

theorem histogramHit_make {call : HistogramCall} (h : strlen call.name < maxMetricNameLen) :
    histogramHit call.make call = true :=
  (RegisteredHistogram.is_iff _ _ _).mpr
    ⟨List.take_of_length_le (Nat.le_sub_one_of_lt h), (labelsAgree_iff rfl).mpr rfl⟩

theorem short_of_metricHit (h : metricHit metric call = true) :
    strlen call.name < maxMetricNameLen := by
  have hname := ((RegisteredMetric.is_iff _ _ _).mp h).1
  unfold strlen
  rw [← hname]
  exact metric.name_lt

theorem short_of_histogramHit (h : histogramHit histogram call = true) :
    strlen call.name < maxMetricNameLen := by
  have hname := ((RegisteredHistogram.is_iff _ _ _).mp h).1
  unfold strlen
  rw [← hname]
  exact histogram.name_lt

theorem metricHit_self (metric : RegisteredMetric) (call : MetricCall)
    (h : metricHit metric call = true) : metricHit call.make call = true :=
  metricHit_make (short_of_metricHit h)

theorem histogramHit_self (histogram : RegisteredHistogram) (call : HistogramCall)
    (h : histogramHit histogram call = true) : histogramHit call.make call = true :=
  histogramHit_make (short_of_histogramHit h)

theorem metricHit_shared (call a b : MetricCall) (ha : metricHit call.make a = true)
    (hb : metricHit call.make b = true) : a.key = b.key := by
  obtain ⟨hname, hlabels⟩ := (RegisteredMetric.is_iff _ _ _).mp ha
  obtain ⟨hname', hlabels'⟩ := (RegisteredMetric.is_iff _ _ _).mp hb
  exact Prod.ext (hname.symm.trans hname') (hlabels.symm.trans hlabels')

theorem metricKey_iff {first call : MetricCall} (h : metricHit first.make call = true) :
    first.key = call.key ↔ strlen first.name < maxMetricNameLen := by
  obtain ⟨hname, hlabels⟩ := (RegisteredMetric.is_iff _ _ _).mp h
  rw [← safeStrncpy_eq_iff first.name call.name (short_of_metricHit h) hname]
  exact ⟨fun heq => congrArg Prod.fst heq, fun heq => Prod.ext heq hlabels⟩

theorem histogramKey_iff {first call : HistogramCall} (h : histogramHit first.make call = true) :
    first.key = call.key ↔
      strlen first.name < maxMetricNameLen ∧ first.labels.length = call.labels.length := by
  obtain ⟨hname, hlabels⟩ := (RegisteredHistogram.is_iff _ _ _).mp h
  rw [← safeStrncpy_eq_iff first.name call.name (short_of_histogramHit h) hname]
  constructor
  · intro heq
    obtain ⟨hfst, hsnd⟩ := Prod.mk.inj heq
    exact ⟨hfst, congrArg List.length hsnd⟩
  · rintro ⟨hfst, hlength⟩
    exact Prod.ext hfst ((labelsAgree_iff hlength).mp hlabels)

-- ----------------------------------------------------------------------------
-- Steps
-- ----------------------------------------------------------------------------

namespace RegistryRun

theorem metricLog_step_metric (r : RegistryRun) (call : MetricCall) :
    (r.step (.metric call)).metricLog =
      r.metricLog.ask maxMetricsPerRegistry MetricCall.make metricHit call ∧
    (r.step (.metric call)).histogramLog = r.histogramLog := by
  have hstep : r.step (.metric call) =
      { r with
        reg := (r.reg.findOrCreateMetric (some call.name) (some call.help) call.type
          call.labels).2
        metricCalls := r.metricCalls ++ [(call, (r.reg.findOrCreateMetric (some call.name)
          (some call.help) call.type call.labels).1)] } := by
    cases htype : call.type with
    | counter =>
      simp only [step, htype]
      rfl
    | gauge =>
      simp only [step, htype]
      rfl
  rw [hstep]
  unfold MetricsRegistry.findOrCreateMetric metricLog histogramLog Interning.Log.ask
    Interning.intern
  dsimp only
  rw [dif_pos call.labels_le]
  unfold metricHit
  cases r.reg.metrics.findIdx? (·.Is call.name call.labels) with
  | some i => exact ⟨rfl, rfl⟩
  | none =>
    dsimp only
    split_ifs <;> exact ⟨rfl, rfl⟩

theorem histogramLog_step_histogram (r : RegistryRun) (call : HistogramCall) :
    (r.step (.histogram call)).histogramLog =
      r.histogramLog.ask maxMetricsPerRegistry HistogramCall.make histogramHit call ∧
    (r.step (.histogram call)).metricLog = r.metricLog := by
  unfold step MetricsRegistry.metricsGetOrCreateHistogram metricLog histogramLog
    Interning.Log.ask Interning.intern histogramHit
  dsimp only
  cases r.reg.histograms.findIdx? (·.Is call.name call.labels) with
  | some i => exact ⟨rfl, rfl⟩
  | none =>
    dsimp only
    split_ifs <;> exact ⟨rfl, rfl⟩

structure WellMade (r : RegistryRun) : Prop where
  metrics : Interning.WellMade MetricCall.make metricHit r.metricLog
  histograms : Interning.WellMade HistogramCall.make histogramHit r.histogramLog

theorem WellMade.start : WellMade .start := ⟨.empty, .empty⟩

theorem WellMade.step (h : WellMade r) (call : RegistryCall) (hroom : r.NotFull call) :
    WellMade (r.step call) := by
  cases call with
  | metric call =>
    obtain ⟨hmetric, hhistogram⟩ := metricLog_step_metric r call
    exact ⟨hmetric ▸ h.metrics.ask hroom call, hhistogram ▸ h.histograms⟩
  | histogram call =>
    obtain ⟨hhistogram, hmetric⟩ := histogramLog_step_histogram r call
    exact ⟨hmetric ▸ h.metrics, hhistogram ▸ h.histograms.ask hroom call⟩

theorem metricFits_iff (h : WellMade r) (call : MetricCall) :
    Interning.Fits metricHit MetricCall.type MetricCall.key r.metricLog call ↔
      r.KeyFits (.metric call) :=
  Interning.fits_iff metricHit_key metricHit_self h.metrics call _
    (fun _ => short_of_metricHit) metricHit_make _ fun _ => metricKey_iff

theorem histogramFits_iff (h : WellMade r) (call : HistogramCall) :
    Interning.Fits histogramHit (fun _ => ()) HistogramCall.key r.histogramLog call ↔
      r.KeyFits (.histogram call) := by
  rw [Interning.fits_iff histogramHit_key histogramHit_self h.histograms call _
    (fun _ => short_of_histogramHit) histogramHit_make _ fun _ => histogramKey_iff]
  simp only [forall_prop_of_true]
  rfl

/-- One more call leaves the metrics one to one exactly if its key fits. -/
theorem step_oneToOne_iff (hmade : WellMade r) (h : OneToOne r) (call : RegistryCall)
    (hroom : r.NotFull call) : OneToOne (r.step call) ↔ r.KeyFits call := by
  cases call with
  | metric call =>
    obtain ⟨hmetric, hhistogram⟩ := metricLog_step_metric r call
    have hask := Interning.distinguishes_ask_iff metricHit_key metricHit_self
      (fun c a b ha hb _ _ => metricHit_shared c a b ha hb) hmade.metrics h.metrics hroom call
    rw [metricFits_iff hmade, ← hmetric] at hask
    rw [← hask]
    have hother : (r.step (.metric call)).histogramCalls = r.histogramCalls :=
      congrArg Interning.Log.past hhistogram
    refine ⟨fun hnext => hnext.metrics, fun hnext => ⟨hnext, ?_⟩⟩
    rw [hother]
    exact h.histograms
  | histogram call =>
    obtain ⟨hhistogram, hmetric⟩ := histogramLog_step_histogram r call
    have hask := Interning.distinguishes_ask_iff histogramHit_key histogramHit_self
      (fun c a b _ _ _ hne => absurd rfl hne) hmade.histograms h.histograms hroom call
    rw [histogramFits_iff hmade, ← hhistogram] at hask
    rw [← hask]
    have hother : (r.step (.histogram call)).metricCalls = r.metricCalls :=
      congrArg Interning.Log.past hmetric
    refine ⟨fun hnext => hnext.histograms, fun hnext => ⟨?_, hnext⟩⟩
    rw [hother]
    exact h.metrics

end RegistryRun

/-- In a registry that is not full, the calls and the metrics they return are one to
one exactly as long as the keys fit. -/
theorem metricsRegistry_oneToOne_iff (calls : List RegistryCall)
    (hroom : Runs.Meets RegistryRun.step RegistryRun.NotFull .start calls) :
    (∀ i, (Runs.run RegistryRun.step .start (calls.take i)).OneToOne) ↔
      Runs.Meets RegistryRun.step RegistryRun.KeyFits .start calls := by
  have hmade : ∀ i, (Runs.run RegistryRun.step .start (calls.take i)).WellMade :=
    Runs.invariant (P := RegistryRun.WellMade) (fun _ call h hr => h.step call hr) .start hroom
  have hstart : RegistryRun.start.WellMade ∧ RegistryRun.start.OneToOne :=
    ⟨.start, ⟨List.forall_mem_nil _, List.forall_mem_nil _⟩⟩
  rw [← Runs.invariant_iff_meets_of (P := fun r => r.WellMade ∧ r.OneToOne) ?_ hstart hroom]
  · exact forall_congr' fun i => (and_iff_right (hmade i)).symm
  · rintro r call ⟨hmade, h⟩ hr
    rw [and_iff_right (hmade.step call hr)]
    exact RegistryRun.step_oneToOne_iff hmade h call hr

def requestsCall : MetricCall where
  type := .counter
  name := chars "requests_total"
  help := chars "Requests"
  labels := []
  labels_le := by decide

theorem metricsRegistry_oneToOne_twice :
    (Runs.run RegistryRun.step .start [.metric requestsCall, .metric requestsCall]).OneToOne := by
  refine (metricsRegistry_oneToOne_iff [.metric requestsCall, .metric requestsCall] ?_).mpr ?_ 2
  · exact ⟨show 0 < 256 by decide, show 1 < 256 by decide, trivial⟩
  · refine ⟨?_, ?_, trivial⟩
    · unfold RegistryRun.KeyFits
      dsimp only
      rw [if_pos (by decide)]
      exact fun _ hfirst => nomatch hfirst
    · unfold RegistryRun.KeyFits
      dsimp only
      rw [if_pos (by decide)]
      intro first hfirst _
      have hmaker : (RegistryRun.start.step (.metric requestsCall)).metricMaker requestsCall =
          some requestsCall := by decide
      cases hmaker.symm.trans hfirst
      decide

def routeLabel : RegistryLabel where
  name := chars "route"
  value := chars "a"
  name_text := by decide
  value_text := by decide
  name_lt := by decide
  value_lt := by decide

def latencyCall (labels : List RegistryLabel) (h : labels.length ≤ maxLabelsPerMetric) :
    HistogramCall where
  name := chars "latency_ms"
  help := none
  bucketsType := .latencyMs
  labels := labels
  labels_le := h

/-- A histogram with a label is returned where one without labels is asked for. -/
theorem metricsRegistry_shared :
    ¬(Runs.run RegistryRun.step .start
      [.histogram (latencyCall [routeLabel] (by decide)),
        .histogram (latencyCall [] (by decide))]).OneToOne := by
  intro h
  have hshared := h.histograms (latencyCall [routeLabel] (by decide), some 0) (by decide)
    (latencyCall [] (by decide), some 0) (by decide) rfl
  exact absurd (hshared.mp rfl) (by decide)

end Roole
