import Mathlib.Algebra.Order.Ring.Nat
import Roole.Core.Scrape
import Roole.Node.State

/-!
# The metrics of a node

`node_metrics.c`: the counters, gauges and histograms that a node creates at its
start, each with the same three labels. Whatever their values are, the registry fits
its buffer, and a scrape yields all of them.
-/

namespace Roole

-- ----------------------------------------------------------------------------
-- Names
-- ----------------------------------------------------------------------------

inductive NodeMetric
  | messagesProcessed
  | messagesFailed
  | messagesRouted
  | queueSize
  | activeExecutions
  | uptimeSeconds
  | clusterMembersTotal
  | clusterMembersActive
  | clusterMembersSuspect
  | clusterMembersDead
  | dagCatalogSize
  deriving DecidableEq, Repr

inductive NodeHistogram
  | execDuration
  | queueWait
  | messageSize
  | gossipRtt
  deriving DecidableEq, Repr

namespace NodeMetric

def all : List NodeMetric :=
  [messagesProcessed, messagesFailed, messagesRouted, queueSize, activeExecutions, uptimeSeconds,
    clusterMembersTotal, clusterMembersActive, clusterMembersSuspect, clusterMembersDead,
    dagCatalogSize]

def type : NodeMetric → MetricType
  | messagesProcessed | messagesFailed | messagesRouted => .counter
  | _ => .gauge

def name : NodeMetric → List UInt8
  | messagesProcessed => chars "messages_processed_total"
  | messagesFailed => chars "messages_failed_total"
  | messagesRouted => chars "messages_routed_total"
  | queueSize => chars "messages_queue_size"
  | activeExecutions => chars "active_executions"
  | uptimeSeconds => chars "uptime_seconds"
  | clusterMembersTotal => chars "cluster_members_total"
  | clusterMembersActive => chars "cluster_members_active"
  | clusterMembersSuspect => chars "cluster_members_suspect"
  | clusterMembersDead => chars "cluster_members_dead"
  | dagCatalogSize => chars "dag_catalog_size"

def help : NodeMetric → List UInt8
  | messagesProcessed => chars "Total number of messages successfully processed"
  | messagesFailed => chars "Total number of messages that failed processing"
  | messagesRouted => chars "Total number of messages routed to other nodes"
  | queueSize => chars "Current number of messages in processing queue"
  | activeExecutions => chars "Number of currently executing messages"
  | uptimeSeconds => chars "Node uptime in seconds"
  | clusterMembersTotal => chars "Total number of cluster members known to this node"
  | clusterMembersActive => chars "Number of active cluster members"
  | clusterMembersSuspect => chars "Number of suspected cluster members"
  | clusterMembersDead => chars "Number of dead cluster members"
  | dagCatalogSize => chars "Number of DAGs in the catalog"

end NodeMetric

namespace NodeHistogram

def all : List NodeHistogram := [execDuration, queueWait, messageSize, gossipRtt]

def bucketsType : NodeHistogram → HistogramBucketsType
  | execDuration | queueWait => .latencyMs
  | messageSize => .sizeBytes
  | gossipRtt => .latencyUs

def name : NodeHistogram → List UInt8
  | execDuration => chars "execution_duration_ms"
  | queueWait => chars "message_queue_wait_ms"
  | messageSize => chars "message_size_bytes"
  | gossipRtt => chars "gossip_rtt_us"

def help : NodeHistogram → List UInt8
  | execDuration => chars "Histogram of message execution duration in milliseconds"
  | queueWait => chars "Histogram of time messages spend in queue before processing"
  | messageSize => chars "Histogram of message sizes in bytes"
  | gossipRtt => chars "Histogram of gossip PING/ACK round-trip time in microseconds"

def bounds (histogram : NodeHistogram) : List UpperBound := metricsGetBuckets histogram.bucketsType

end NodeHistogram

-- ----------------------------------------------------------------------------
-- Labels
-- ----------------------------------------------------------------------------

theorem safeStrncpy_text (src : List UInt8) (size : Nat) : 0 ∉ safeStrncpy src size :=
  cString_eq_self_iff.mp (cString_safeStrncpy src size)

def RegistryLabel.ofStrings (name value : List UInt8) : RegistryLabel where
  name := safeStrncpy name maxLabelNameLen
  value := safeStrncpy value maxLabelValueLen
  name_text := safeStrncpy_text _ _
  value_text := safeStrncpy_text _ _
  name_lt := safeStrncpy_length_lt name (by decide)
  value_lt := safeStrncpy_length_lt value (by decide)

def nodeLabels (clusterName : List UInt8) (nodeId : NodeId) (capabilities : NodeCapabilities) :
    List RegistryLabel :=
  [.ofStrings (chars "cluster_name") clusterName,
    .ofStrings (chars "node_id") (printInt nodeId.toNat),
    .ofStrings (chars "node_type")
      (if capabilities.hasIngress then chars "router" else chars "worker")]

-- ----------------------------------------------------------------------------
-- Creation
-- ----------------------------------------------------------------------------

section Creation

variable (labels : List RegistryLabel) (hlabels : labels.length ≤ maxLabelsPerMetric)

def createNodeMetric (reg : MetricsRegistry) (metric : NodeMetric) : Option Nat × MetricsRegistry :=
  match metric.type with
  | .counter => reg.metricsGetOrCreateCounter (some metric.name) (some metric.help) labels
  | .gauge => reg.metricsGetOrCreateGauge (some metric.name) (some metric.help) labels

def createNodeHistogram (reg : MetricsRegistry) (histogram : NodeHistogram) :
    Option Nat × MetricsRegistry :=
  reg.metricsGetOrCreateHistogram (some histogram.name) (some histogram.help)
    histogram.bucketsType labels hlabels

def createNodeMetrics : MetricsRegistry :=
  NodeHistogram.all.foldl
    (fun reg histogram => (createNodeHistogram labels hlabels reg histogram).2)
    (NodeMetric.all.foldl (fun reg metric => (createNodeMetric labels reg metric).2)
      metricsRegistryInit)

def NodeMetric.entry (metric : NodeMetric) : RegisteredMetric :=
  .create metric.name metric.help metric.type labels hlabels

def NodeHistogram.entry (histogram : NodeHistogram) : RegisteredHistogram :=
  .create histogram.name histogram.help histogram.bucketsType labels hlabels

@[simp] theorem NodeMetric.entry_name (metric : NodeMetric) :
    (metric.entry labels hlabels).name = metric.name := by
  have hname : safeStrncpy metric.name maxMetricNameLen = metric.name := by
    cases metric <;> decide
  exact hname

@[simp] theorem NodeHistogram.entry_name (histogram : NodeHistogram) :
    (histogram.entry labels hlabels).name = histogram.name := by
  have hname : safeStrncpy histogram.name maxMetricNameLen = histogram.name := by
    cases histogram <;> decide
  exact hname

theorem NodeMetric.cString_name (metric : NodeMetric) : cString metric.name = metric.name := by
  cases metric <;> decide

theorem NodeHistogram.cString_name (histogram : NodeHistogram) :
    cString histogram.name = histogram.name := by
  cases histogram <;> decide

theorem createNodeMetric_new {reg : MetricsRegistry} {metric : NodeMetric}
    (hnew : metric.name ∉ reg.metrics.map RegisteredMetric.name)
    (hroom : reg.metrics.length < maxMetricsPerRegistry) :
    createNodeMetric labels reg metric =
      (some reg.metrics.length, reg.addMetric (metric.entry labels hlabels) hroom) := by
  have hnone : reg.metrics.findIdx? (·.Is metric.name labels) = none := by
    rw [List.findIdx?_eq_none_iff]
    intro stored hmem
    rw [← Bool.not_eq_true, RegisteredMetric.is_iff, metric.cString_name]
    rintro ⟨hname, -⟩
    exact hnew (hname ▸ List.mem_map_of_mem hmem)
  have hfind : createNodeMetric labels reg metric =
      reg.findOrCreateMetric (some metric.name) (some metric.help) metric.type labels := by
    unfold createNodeMetric
    cases metric.type <;> rfl
  rw [hfind, MetricsRegistry.findOrCreateMetric]
  simp only [hlabels, hnone, hroom, dite_true]
  rfl

theorem createNodeHistogram_new {reg : MetricsRegistry} {histogram : NodeHistogram}
    (hnew : histogram.name ∉ reg.histograms.map RegisteredHistogram.name)
    (hroom : reg.histograms.length < maxMetricsPerRegistry) :
    createNodeHistogram labels hlabels reg histogram =
      (some reg.histograms.length, reg.addHistogram (histogram.entry labels hlabels) hroom) := by
  have hnone : reg.histograms.findIdx? (·.Is histogram.name labels) = none := by
    rw [List.findIdx?_eq_none_iff]
    intro stored hmem
    rw [← Bool.not_eq_true, RegisteredHistogram.is_iff, histogram.cString_name]
    rintro ⟨hname, -⟩
    exact hnew (hname ▸ List.mem_map_of_mem hmem)
  rw [createNodeHistogram, MetricsRegistry.metricsGetOrCreateHistogram]
  simp only [hnone, hroom, dite_true]
  rfl

theorem foldl_createNodeMetric (metrics : List NodeMetric) (reg : MetricsRegistry)
    (hnodup : (reg.metrics.map RegisteredMetric.name ++ metrics.map NodeMetric.name).Nodup)
    (hroom : reg.metrics.length + metrics.length ≤ maxMetricsPerRegistry) :
    let created := metrics.foldl (fun reg metric => (createNodeMetric labels reg metric).2) reg
    created.metrics = reg.metrics ++ metrics.map (NodeMetric.entry labels hlabels) ∧
      created.histograms = reg.histograms := by
  induction metrics generalizing reg with
  | nil => exact ⟨(List.append_nil _).symm, rfl⟩
  | cons metric metrics ih =>
    rw [List.length_cons] at hroom
    have hnew : metric.name ∉ reg.metrics.map RegisteredMetric.name := by
      rw [List.map_cons, List.nodup_append] at hnodup
      exact fun hmem => hnodup.2.2 _ hmem _ List.mem_cons_self rfl
    have hone := createNodeMetric_new labels hlabels hnew (by omega)
    obtain ⟨hmetrics, hhistograms⟩ := ih
      (reg.addMetric (metric.entry labels hlabels) (by omega))
      (by simpa [MetricsRegistry.addMetric] using hnodup)
      (by simp [MetricsRegistry.addMetric]; omega)
    dsimp only
    rw [List.foldl_cons, hone]
    refine ⟨hmetrics.trans ?_, hhistograms⟩
    simp [MetricsRegistry.addMetric]

theorem foldl_createNodeHistogram (histograms : List NodeHistogram) (reg : MetricsRegistry)
    (hnodup : (reg.histograms.map RegisteredHistogram.name ++
      histograms.map NodeHistogram.name).Nodup)
    (hroom : reg.histograms.length + histograms.length ≤ maxMetricsPerRegistry) :
    let created := histograms.foldl
      (fun reg histogram => (createNodeHistogram labels hlabels reg histogram).2) reg
    created.histograms = reg.histograms ++ histograms.map (NodeHistogram.entry labels hlabels) ∧
      created.metrics = reg.metrics := by
  induction histograms generalizing reg with
  | nil => exact ⟨(List.append_nil _).symm, rfl⟩
  | cons histogram histograms ih =>
    rw [List.length_cons] at hroom
    have hnew : histogram.name ∉ reg.histograms.map RegisteredHistogram.name := by
      rw [List.map_cons, List.nodup_append] at hnodup
      exact fun hmem => hnodup.2.2 _ hmem _ List.mem_cons_self rfl
    have hone := createNodeHistogram_new labels hlabels hnew (by omega)
    obtain ⟨hhistograms, hmetrics⟩ := ih
      (reg.addHistogram (histogram.entry labels hlabels) (by omega))
      (by simpa [MetricsRegistry.addHistogram] using hnodup)
      (by simp [MetricsRegistry.addHistogram]; omega)
    dsimp only
    rw [List.foldl_cons, hone]
    refine ⟨hhistograms.trans ?_, hmetrics⟩
    simp [MetricsRegistry.addHistogram]

theorem createNodeMetrics_entries :
    (createNodeMetrics labels hlabels).metrics =
        NodeMetric.all.map (NodeMetric.entry labels hlabels) ∧
      (createNodeMetrics labels hlabels).histograms =
        NodeHistogram.all.map (NodeHistogram.entry labels hlabels) := by
  obtain ⟨hmetrics, hnone⟩ := foldl_createNodeMetric labels hlabels NodeMetric.all
    metricsRegistryInit (by decide) (by decide)
  obtain ⟨hhistograms, hkept⟩ := foldl_createNodeHistogram labels hlabels NodeHistogram.all
    (NodeMetric.all.foldl (fun reg metric => (createNodeMetric labels reg metric).2)
      metricsRegistryInit) (by rw [hnone]; decide) (by rw [hnone]; decide)
  exact ⟨hkept.trans hmetrics, hhistograms.trans (by rw [hnone]; rfl)⟩

end Creation

-- ----------------------------------------------------------------------------
-- Numbers
-- ----------------------------------------------------------------------------

/-- A natural number rounded to the 53 bits of a `double`, ties to even. -/
def toDouble (n : Nat) : Nat :=
  let unit := 2 ^ (n.log2 - 52)
  let q := n / unit
  let r := n % unit
  (if 2 * r < unit ∨ (2 * r = unit ∧ q % 2 = 0) then q else q + 1) * unit

theorem toDouble_of_lt (h : n < 2 ^ 53) : toDouble n = n := by
  have hlog : n.log2 - 52 = 0 := by
    by_cases hzero : n = 0
    · rw [hzero]
      rfl
    · have hlt := (Nat.log2_lt hzero).mpr h
      omega
  unfold toDouble
  simp [hlog, Nat.mod_one]

theorem toDouble_le (h : n ≤ 2 ^ 64) : toDouble n ≤ 2 ^ 64 := by
  by_cases htop : n = 2 ^ 64
  · rw [htop]
    decide +kernel
  by_cases hzero : n = 0
  · rw [hzero]
    decide +kernel
  have hlog : n.log2 < 64 := (Nat.log2_lt hzero).mpr (by omega)
  have hsplit : 2 ^ 64 = 2 ^ (n.log2 - 52) * 2 ^ (64 - (n.log2 - 52)) := by
    rw [← Nat.pow_add]
    congr 1
    omega
  have hquotient : n / 2 ^ (n.log2 - 52) + 1 ≤ 2 ^ (64 - (n.log2 - 52)) := by
    refine Nat.div_lt_of_lt_mul ?_
    rw [← hsplit]
    omega
  have hround : ∀ m ≤ n / 2 ^ (n.log2 - 52) + 1, m * 2 ^ (n.log2 - 52) ≤ 2 ^ 64 := by
    intro m hm
    rw [hsplit, Nat.mul_comm]
    exact Nat.mul_le_mul_left _ (hm.trans hquotient)
  unfold toDouble
  dsimp only
  refine hround _ ?_
  split_ifs
  · exact Nat.le_succ _
  · exact Nat.le_refl _

/-- The `double` of a metric: here always a whole number of at most 64 bits. -/
structure Whole where
  toNat : Nat
  toNat_le : toNat ≤ 2 ^ 64
  deriving DecidableEq

namespace Whole

def zero : Whole := ⟨0, Nat.zero_le _⟩

def ofSize (n : UInt64) : Whole := ⟨toDouble n.toNat, toDouble_le n.toNat_lt.le⟩

def inc (value : Whole) : Whole :=
  if h : value.toNat < 2 ^ 64 then ⟨toDouble (value.toNat + 1), toDouble_le h⟩ else value

end Whole

-- ----------------------------------------------------------------------------
-- Cells
-- ----------------------------------------------------------------------------

structure HistogramCells where
  count : UInt64
  sum : UInt64
  bucketCounts : List UInt64

structure NodeCells where
  number : NodeMetric → Whole
  histogram : NodeHistogram → HistogramCells

def NodeCells.zero : NodeCells where
  number := fun _ => .zero
  histogram := fun histogram => ⟨0, 0, histogram.bounds.map fun _ => 0⟩

inductive Cell
  | number (metric : NodeMetric)
  | bucket (histogram : NodeHistogram) (i : Nat)
  | count (histogram : NodeHistogram)
  | sum (histogram : NodeHistogram)
  deriving DecidableEq

/-- The cells in the order in which they are read: the buckets of a histogram, then
its count and its sum. -/
def readingOrder : List Cell :=
  NodeMetric.all.map .number ++ NodeHistogram.all.flatMap fun histogram =>
    (List.range histogram.bounds.length).map (.bucket histogram) ++
      [.count histogram, .sum histogram]

theorem Whole.print_length (value : Whole) : (printInt value.toNat).length ≤ 20 := by
  rw [HttpAnswer.printInt_nat]
  exact Decimal.print_length_le (by decide) (Nat.lt_of_le_of_lt value.toNat_le (by decide))

section Registry

variable (labels : List RegistryLabel) (hlabels : labels.length ≤ maxLabelsPerMetric)

def NodeMetric.read (metric : NodeMetric) (cells : Cell → NodeCells) : RegisteredMetric :=
  { metric.entry labels hlabels with
    value := printInt ((cells (.number metric)).number metric).toNat
    value_le := (Whole.print_length _).trans (by decide) }

def NodeHistogram.read (histogram : NodeHistogram) (cells : Cell → NodeCells) :
    RegisteredHistogram :=
  { histogram.entry labels hlabels with
    bucketCounts := (List.range histogram.bounds.length).map fun i =>
      ((cells (.bucket histogram i)).histogram histogram).bucketCounts.getD i 0
    count := ((cells (.count histogram)).histogram histogram).count
    sum := ((cells (.sum histogram)).histogram histogram).sum }

def nodeRegistry (cells : Cell → NodeCells) : MetricsRegistry where
  metrics := NodeMetric.all.map fun metric => metric.read labels hlabels cells
  histograms := NodeHistogram.all.map fun histogram => histogram.read labels hlabels cells
  metrics_le := by
    rw [List.length_map]
    decide
  histograms_le := by
    rw [List.length_map]
    decide

theorem NodeMetric.read_zero (metric : NodeMetric) :
    metric.read labels hlabels (fun _ => .zero) = metric.entry labels hlabels := by
  have hvalue : printInt (0 : Nat) = [.ofNat '0'.toNat] := by decide
  rw [NodeMetric.read]
  simp only [NodeCells.zero, Whole.zero, hvalue]
  rfl

theorem NodeHistogram.read_zero (histogram : NodeHistogram) :
    histogram.read labels hlabels (fun _ => .zero) = histogram.entry labels hlabels := by
  have hcounts : (List.range histogram.bounds.length).map (fun i =>
      (histogram.bounds.map fun _ => (0 : UInt64)).getD i 0) =
        histogram.bounds.map fun _ => 0 := by
    cases histogram <;> decide
  rw [NodeHistogram.read]
  simp only [NodeCells.zero, hcounts]
  rfl

theorem createNodeMetrics_eq :
    (createNodeMetrics labels hlabels).metrics =
        (nodeRegistry labels hlabels fun _ => .zero).metrics ∧
      (createNodeMetrics labels hlabels).histograms =
        (nodeRegistry labels hlabels fun _ => .zero).histograms := by
  obtain ⟨hmetrics, hhistograms⟩ := createNodeMetrics_entries labels hlabels
  refine ⟨hmetrics.trans ?_, hhistograms.trans ?_⟩
  · exact List.map_congr_left fun metric _ =>
      (NodeMetric.read_zero labels hlabels metric).symm
  · exact List.map_congr_left fun histogram _ =>
      (NodeHistogram.read_zero labels hlabels histogram).symm

end Registry

-- ----------------------------------------------------------------------------
-- Fitting the buffer
-- ----------------------------------------------------------------------------

theorem helpLine_length (name help : List UInt8) :
    (helpLine name help).length = name.length + help.length + 9 := by
  simp [helpLine, chars]
  omega

theorem typeLine_length (name kind : List UInt8) :
    (typeLine name kind).length = name.length + kind.length + 9 := by
  simp [typeLine, chars]
  omega

theorem labelPieces_length (labels : List RegistryLabel) :
    (labelPieces labels).flatten.length ≤ (wholeLabels labels).length + 2 := by
  unfold labelPieces wholeLabels
  split_ifs <;> simp [chars]

theorem RegisteredMetric.pieces_length {metric : RegisteredMetric}
    (hvalue : metric.value.length ≤ 20) :
    metric.pieces.flatten.length ≤ (wholeLabels metric.labels).length + 700 := by
  have hname : metric.name.length < 128 := metric.name_lt
  have hhelp : metric.help.length < 256 := metric.help_lt
  have htype : metric.type.text.length ≤ 7 := by cases metric.type <;> decide
  have hlabels := labelPieces_length metric.labels
  have hpieces : metric.pieces = [helpLine metric.name metric.help,
      typeLine metric.name metric.type.text, metric.name] ++ (labelPieces metric.labels ++
        [chars " " ++ metric.value ++ chars "\n"]) := by
    rw [RegisteredMetric.pieces, labelPieces, List.append_assoc]
  have hends : (chars " ").length + (chars "\n").length = 2 := by decide
  rw [hpieces]
  simp only [List.flatten_append, List.flatten_cons, List.flatten_nil, List.length_append,
    List.length_nil, helpLine_length, typeLine_length]
  omega

theorem printInt_length (number : UInt64) : (printInt number.toNat).length ≤ 20 :=
  Whole.print_length ⟨number.toNat, number.toNat_lt.le⟩

theorem NodeHistogram.bounds_length (histogram : NodeHistogram) : histogram.bounds.length ≤ 9 := by
  cases histogram <;> decide

theorem NodeHistogram.print_length (histogram : NodeHistogram) :
    ∀ bound ∈ histogram.bounds, bound.print.length ≤ 10 := by
  cases histogram <;> decide

theorem RegisteredHistogram.bucketPieces_length (histogram : RegisteredHistogram)
    {bucket : UpperBound × UInt64} (hbound : bucket.1.print.length ≤ 10) :
    (histogram.bucketPieces bucket).flatten.length ≤
      (wholeLabels histogram.labels).length + 200 := by
  have hname : histogram.name.length < 128 := histogram.name_lt
  have hcount := printInt_length bucket.2
  have hfixed : (chars "_bucket\x7b").length + (chars ",").length + (chars "le=\"").length +
      (chars "\"\x7d ").length + (chars "\n").length = 17 := by decide
  have hcomma : (if histogram.labels.length > 0 then chars "," else []).length ≤
      (chars ",").length := by split_ifs <;> simp
  simp only [bucketPieces, bucketStart, bucketRest, List.flatten_cons, List.flatten_nil,
    List.length_append, List.length_nil]
  omega

theorem RegisteredHistogram.endPieces_length (histogram : RegisteredHistogram) :
    histogram.endPieces.flatten.length ≤ 2 * (wholeLabels histogram.labels).length + 400 := by
  have hname : histogram.name.length < 128 := histogram.name_lt
  have hcount := printInt_length histogram.count
  have hsum := printInt_length histogram.sum
  have hfixed : (chars "_sum").length + (chars "_count").length + 2 * ((chars "\x7b").length +
      (chars "\x7d ").length + (chars "\n").length) = 18 := by decide
  simp only [endPieces, totalLine, List.flatten_cons, List.flatten_nil, List.length_append,
    List.length_nil]
  omega

theorem flatten_length_le {pieces : α → List (List β)} {values : List α}
    (h : ∀ value ∈ values, (pieces value).flatten.length ≤ bound) :
    (values.flatMap pieces).flatten.length ≤ values.length * bound := by
  induction values with
  | nil => exact Nat.zero_le _
  | cons value values ih =>
    rw [List.forall_mem_cons] at h
    have hrest := ih h.2
    rw [List.flatMap_cons, List.flatten_append, List.length_append, List.length_cons, Nat.succ_mul]
    omega

theorem RegisteredHistogram.pieces_length {histogram : RegisteredHistogram}
    (hbuckets : histogram.buckets.length ≤ 9)
    (hbounds : ∀ bound ∈ histogram.buckets, bound.print.length ≤ 10) :
    histogram.pieces.flatten.length ≤ 11 * (wholeLabels histogram.labels).length + 3000 := by
  have hname : histogram.name.length < 128 := histogram.name_lt
  have hhelp : histogram.help.length < 256 := histogram.help_lt
  have hends := histogram.endPieces_length
  have hkind : (chars "histogram").length = 9 := by decide
  have hzip : (histogram.buckets.zip histogram.bucketCounts).length ≤ 9 := by
    rw [List.length_zip]
    exact (Nat.min_le_left _ _).trans hbuckets
  have hall : ((histogram.buckets.zip histogram.bucketCounts).flatMap
      histogram.bucketPieces).flatten.length ≤
        (histogram.buckets.zip histogram.bucketCounts).length *
          ((wholeLabels histogram.labels).length + 200) :=
    flatten_length_le fun bucket hmem =>
      histogram.bucketPieces_length (hbounds bucket.1 (List.of_mem_zip hmem).1)
  have hnine := hall.trans (Nat.mul_le_mul_right _ hzip)
  simp only [pieces, List.flatten_append, List.flatten_cons, List.flatten_nil, List.length_append,
    List.length_nil, helpLine_length, typeLine_length]
  omega

section Fits

variable {labels : List RegistryLabel} (hlabels : labels.length ≤ maxLabelsPerMetric)

theorem nodeRegistry_fits (hshort : (wholeLabels labels).length ≤ 200)
    (cells : Cell → NodeCells) : (nodeRegistry labels hlabels cells).Fits where
  length := by
    have hmetrics : ((nodeRegistry labels hlabels cells).metrics.flatMap
        RegisteredMetric.pieces).flatten.length ≤ 11 * ((wholeLabels labels).length + 700) := by
      have hone : ∀ metric : NodeMetric,
          (metric.read labels hlabels cells).pieces.flatten.length ≤
            (wholeLabels labels).length + 700 := fun metric =>
        RegisteredMetric.pieces_length (Whole.print_length _)
      rw [nodeRegistry, List.flatMap_map]
      exact flatten_length_le fun metric (_ : metric ∈ NodeMetric.all) => hone metric
    have hhistograms : ((nodeRegistry labels hlabels cells).histograms.flatMap
        RegisteredHistogram.pieces).flatten.length ≤
          4 * (11 * (wholeLabels labels).length + 3000) := by
      have hone : ∀ histogram : NodeHistogram,
          (histogram.read labels hlabels cells).pieces.flatten.length ≤
            11 * (wholeLabels labels).length + 3000 := fun histogram =>
        RegisteredHistogram.pieces_length histogram.bounds_length histogram.print_length
      rw [nodeRegistry, List.flatMap_map]
      exact flatten_length_le fun histogram (_ : histogram ∈ NodeHistogram.all) => hone histogram
    rw [MetricsRegistry.pieces, List.flatten_append, List.length_append]
    show _ < 65536
    omega
  labels := by
    refine List.forall_mem_map.mpr fun histogram _ => ?_
    show (wholeLabels labels).length < 512
    omega

end Fits

theorem nodeLabels_length (clusterName : List UInt8) (nodeId : NodeId)
    (capabilities : NodeCapabilities) :
    (wholeLabels (nodeLabels clusterName nodeId capabilities)).length ≤ 200 := by
  have hcluster : (safeStrncpy clusterName maxLabelValueLen).length ≤ 127 := List.length_take_le _ _
  have hid : (safeStrncpy (printInt nodeId.toNat) maxLabelValueLen).length ≤ 20 := by
    have hprint := Whole.print_length ⟨nodeId.toNat, nodeId.toNat_lt.le.trans (by decide)⟩
    exact ((List.length_take_le' _ _).trans (List.takeWhile_prefix _).length_le).trans hprint
  have htype : (safeStrncpy (if capabilities.hasIngress then chars "router" else chars "worker")
      maxLabelValueLen).length ≤ 6 := by
    split_ifs <;> decide
  have hfixed : (safeStrncpy (chars "cluster_name") maxLabelNameLen).length +
      (safeStrncpy (chars "node_id") maxLabelNameLen).length +
      (safeStrncpy (chars "node_type") maxLabelNameLen).length + 2 * (chars ",").length +
      3 * ((chars "=\"").length + (chars "\"").length) = 39 := by decide
  simp only [wholeLabels, nodeLabels, RegistryLabel.ofStrings, labelTexts, labelText, List.map_cons,
    List.map_nil, List.flatten_cons, List.flatten_nil, List.length_append, List.length_nil]
  omega

-- ----------------------------------------------------------------------------
-- Reading back
-- ----------------------------------------------------------------------------

section Names

open Exposition

theorem plainName_of (h : ∀ b ∈ name, 32 ≤ b ∧ b ≠ space ∧ b ≠ openBrace ∧ b ≠ 35)
    (hne : name ≠ []) : PlainName name where
  visible := fun b hb => (h b hb).1
  ne_nil := hne
  head := fun hhead => (h 35 (List.mem_of_head? hhead)).2.2.2 rfl
  space := fun hmem => (h _ hmem).2.1 rfl
  brace := fun hmem => (h _ hmem).2.2.1 rfl

theorem NodeMetric.plainName (metric : NodeMetric) : PlainName metric.name := by
  cases metric <;> exact plainName_of (forall_mem_of_all (by decide)) (by decide)

theorem NodeHistogram.plainName (histogram : NodeHistogram) : PlainName histogram.name := by
  cases histogram <;> exact plainName_of (forall_mem_of_all (by decide)) (by decide)

end Names

theorem safeStrncpy_visible (h : Visible src) (size : Nat) : Visible (safeStrncpy src size) :=
  fun b hb => h b ((List.takeWhile_sublist _).subset (List.mem_of_mem_take hb))

section Plain

open Exposition

/-- A name of a cluster that stands between quotes as it is. -/
structure PlainCluster (clusterName : List UInt8) : Prop where
  visible : Visible clusterName
  quote : quoteMark ∉ clusterName
  backslash : backslashMark ∉ clusterName

theorem not_mem_safeStrncpy {src : List UInt8} (h : b ∉ src) (size : Nat) :
    b ∉ safeStrncpy src size := fun hmem =>
  h ((List.takeWhile_sublist _).subset (List.mem_of_mem_take hmem))

theorem ofStrings_plain {name : List UInt8}
    (hname : ∀ b ∈ name, 32 ≤ b ∧ b ≠ Exposition.equals ∧ b ≠ Exposition.closeBrace)
    (hvalue : PlainCluster value) : PlainLabel (.ofStrings name value) where
  name := safeStrncpy_visible (fun b hb => (hname b hb).1) _
  equals := not_mem_safeStrncpy (fun hmem => (hname _ hmem).2.1 rfl) _
  brace := not_mem_safeStrncpy (fun hmem => (hname _ hmem).2.2 rfl) _
  value := safeStrncpy_visible hvalue.visible _
  quote := not_mem_safeStrncpy hvalue.quote _
  backslash := not_mem_safeStrncpy hvalue.backslash _

theorem numeric_plain (h : ∀ b ∈ text, IsNumeric b) : PlainCluster text where
  visible := numeric_visible h
  quote := fun hmem => by
    rcases h _ hmem with hdigit | hother
    · exact absurd hdigit (by decide)
    · exact absurd hother (by decide)
  backslash := fun hmem => by
    rcases h _ hmem with hdigit | hother
    · exact absurd hdigit (by decide)
    · exact absurd hother (by decide)

variable {clusterName : List UInt8}

theorem nodeLabels_plain (h : PlainCluster clusterName) (nodeId : NodeId)
    (capabilities : NodeCapabilities) :
    ∀ label ∈ nodeLabels clusterName nodeId capabilities, PlainLabel label := by
  have hnames : ∀ name ∈ [chars "cluster_name", chars "node_id", chars "node_type"],
      name.all (fun b => decide (32 ≤ b ∧ b ≠ Exposition.equals ∧
        b ≠ Exposition.closeBrace)) = true := by decide
  have htypes : ∀ type ∈ [chars "router", chars "worker"],
      Visible type ∧ Exposition.quoteMark ∉ type ∧ Exposition.backslashMark ∉ type := by decide
  have htype :
      PlainCluster (if capabilities.hasIngress then chars "router" else chars "worker") := by
    split_ifs
    · obtain ⟨hvisible, hquote, hbackslash⟩ := htypes (chars "router") List.mem_cons_self
      exact ⟨hvisible, hquote, hbackslash⟩
    · obtain ⟨hvisible, hquote, hbackslash⟩ :=
        htypes (chars "worker") (List.mem_cons_of_mem _ List.mem_cons_self)
      exact ⟨hvisible, hquote, hbackslash⟩
  simp only [List.forall_mem_cons] at hnames
  obtain ⟨hcluster, hid, hkind, -⟩ := hnames
  simp only [nodeLabels, List.forall_mem_cons]
  exact ⟨ofStrings_plain (forall_mem_of_all hcluster) h,
    ofStrings_plain (forall_mem_of_all hid) (numeric_plain (printInt_numeric _)),
    ofStrings_plain (forall_mem_of_all hkind) htype, List.forall_mem_nil _⟩

theorem NodeMetric.help_visible (metric : NodeMetric) :
    Visible (safeStrncpy metric.help maxMetricHelpLen) := by
  have hhelp : Visible metric.help := by cases metric <;> decide
  exact safeStrncpy_visible hhelp _

theorem NodeHistogram.help_visible (histogram : NodeHistogram) :
    Visible (safeStrncpy histogram.help maxMetricHelpLen) := by
  have hhelp : Visible histogram.help := by cases histogram <;> decide
  exact safeStrncpy_visible hhelp _

theorem nodeRegistry_plain {labels : List RegistryLabel}
    (hlabels : labels.length ≤ maxLabelsPerMetric) (h : ∀ label ∈ labels, PlainLabel label)
    (cells : Cell → NodeCells) : (nodeRegistry labels hlabels cells).Plain where
  metrics := by
    refine List.forall_mem_map.mpr fun metric _ => ⟨?_, metric.help_visible, h, ?_⟩
    · exact (metric.entry_name labels hlabels).symm ▸ metric.plainName
    · have hvalue : Visible (printInt ((cells (.number metric)).number metric).toNat) :=
        numeric_visible (printInt_numeric _)
      exact hvalue
  histograms := by
    refine List.forall_mem_map.mpr fun histogram _ => ⟨?_, histogram.help_visible, h⟩
    exact (histogram.entry_name labels hlabels).symm ▸ histogram.plainName

end Plain

-- ----------------------------------------------------------------------------
-- Samples
-- ----------------------------------------------------------------------------

def NodeHistogram.countName (histogram : NodeHistogram) : List UInt8 :=
  histogram.name ++ chars "_count"

theorem NodeMetric.mem_all (metric : NodeMetric) : metric ∈ all := by
  cases metric <;> decide

theorem NodeHistogram.mem_all (histogram : NodeHistogram) : histogram ∈ all := by
  cases histogram <;> decide

theorem NodeMetric.name_inj : ∀ metric ∈ all, ∀ other ∈ all, metric.name = other.name →
    metric = other := by decide

theorem NodeMetric.name_ne_countName : ∀ metric ∈ all, ∀ histogram ∈ NodeHistogram.all,
    metric.name ≠ histogram.countName := by decide

theorem NodeHistogram.countName_apart : ∀ histogram ∈ all, ∀ other ∈ all,
    other.name ++ chars "_bucket" ≠ histogram.countName ∧
      other.name ++ chars "_sum" ≠ histogram.countName ∧
      (other.countName = histogram.countName → other = histogram) := by decide

theorem value_printInt (n : Nat) : Decimal.value (printInt n) = n := by
  rw [HttpAnswer.printInt_nat, Decimal.value_print]

section Samples

variable (labels : List RegistryLabel) (hlabels : labels.length ≤ maxLabelsPerMetric)
  (cells : Cell → NodeCells)

theorem sampleNumber_metrics (metric : NodeMetric) (metrics : List NodeMetric) :
    sampleNumber metric.name
        (metrics.flatMap fun other => (other.read labels hlabels cells).lines) =
      if metric ∈ metrics then some ((cells (.number metric)).number metric).toNat else none := by
  induction metrics with
  | nil => rfl
  | cons other metrics ih =>
    have hname : (other.read labels hlabels cells).name = metric.name ↔ metric = other := by
      rw [show (other.read labels hlabels cells).name = other.name from
        other.entry_name labels hlabels]
      exact ⟨fun heq => metric.name_inj metric.mem_all other other.mem_all heq.symm,
        fun heq => heq ▸ rfl⟩
    rw [List.flatMap_cons, sampleNumber_append, ih, sampleNumber_metric]
    simp only [hname, List.mem_cons]
    by_cases hsame : metric = other
    · subst hsame
      have hvalue : Decimal.value (metric.read labels hlabels cells).value =
          ((cells (.number metric)).number metric).toNat := value_printInt _
      simp [hvalue]
    · simp [hsame]

theorem sampleNumber_metrics_none {name : List UInt8} (metrics : List NodeMetric)
    (h : ∀ metric ∈ metrics, metric.name ≠ name) :
    sampleNumber name
      (metrics.flatMap fun other => (other.read labels hlabels cells).lines) = none := by
  induction metrics with
  | nil => rfl
  | cons other metrics ih =>
    rw [List.forall_mem_cons] at h
    have hname : (other.read labels hlabels cells).name ≠ name :=
      (other.entry_name labels hlabels).symm ▸ h.1
    rw [List.flatMap_cons, sampleNumber_append, ih h.2, sampleNumber_metric, if_neg hname]
    rfl

theorem sampleNumber_counts (histogram : NodeHistogram) (histograms : List NodeHistogram) :
    sampleNumber histogram.countName
        (histograms.flatMap fun other => (other.read labels hlabels cells).lines) =
      if histogram ∈ histograms then
        some ((cells (.count histogram)).histogram histogram).count.toNat else none := by
  induction histograms with
  | nil => rfl
  | cons other histograms ih =>
    obtain ⟨hbucket, hsum, hcount⟩ :=
      histogram.countName_apart histogram.mem_all other other.mem_all
    have hname : (other.read labels hlabels cells).name = other.name :=
      other.entry_name labels hlabels
    have hsame : (other.read labels hlabels cells).name ++ chars "_count" = histogram.countName ↔
        histogram = other := by
      rw [hname]
      exact ⟨fun heq => (hcount heq).symm, fun heq => heq ▸ rfl⟩
    rw [List.flatMap_cons, sampleNumber_append, ih,
      sampleNumber_histogram (by rwa [hname]) (by rwa [hname])]
    simp only [hsame, List.mem_cons]
    by_cases heq : histogram = other
    · subst heq
      have hvalue : Decimal.value
          (printInt (histogram.read labels hlabels cells).count.toNat) =
          ((cells (.count histogram)).histogram histogram).count.toNat := value_printInt _
      simp [hvalue]
    · simp [heq]

theorem nodeRegistry_number (metric : NodeMetric) :
    sampleNumber metric.name (nodeRegistry labels hlabels cells).lines =
      some ((cells (.number metric)).number metric).toNat := by
  rw [MetricsRegistry.lines, sampleNumber_append, nodeRegistry, List.flatMap_map,
    sampleNumber_metrics, if_pos metric.mem_all]
  rfl

theorem nodeRegistry_count (histogram : NodeHistogram) :
    sampleNumber histogram.countName (nodeRegistry labels hlabels cells).lines =
      some ((cells (.count histogram)).histogram histogram).count.toNat := by
  rw [MetricsRegistry.lines, sampleNumber_append, nodeRegistry, List.flatMap_map, List.flatMap_map,
    sampleNumber_metrics_none labels hlabels cells _ fun metric hmem =>
      metric.name_ne_countName hmem histogram histogram.mem_all,
    sampleNumber_counts, if_pos histogram.mem_all]
  rfl

end Samples

end Roole
