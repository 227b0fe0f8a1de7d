import Mathlib.Logic.Function.Basic
import Roole.Lib.Interleaving
import Roole.Node.Executor
import Roole.Node.NodeMetrics

/-!
# What the executors measure

The calls that a round of `node_executor_thread_fn` makes on the metrics of its node,
cut where other threads may come in between: any number of executors count, while a
scrape reads one cell after the other. Operations and reads come one at a time, in one
order for all threads.
-/

namespace Roole

open Interleaving

-- ----------------------------------------------------------------------------
-- Operations
-- ----------------------------------------------------------------------------

/-- A change of one cell, by one atomic operation or under the lock of the metric. -/
inductive MetricOp
  | inc (metric : NodeMetric)
  | set (metric : NodeMetric) (n : UInt64)
  | count (histogram : NodeHistogram)
  | sum (histogram : NodeHistogram) (value : Int32)
  | bucket (histogram : NodeHistogram) (value : Int32)
  deriving DecidableEq

namespace NodeCells

def setNumber (cells : NodeCells) (metric : NodeMetric) (value : Whole) : NodeCells :=
  { cells with number := Function.update cells.number metric value }

def setHistogram (cells : NodeCells) (histogram : NodeHistogram) (value : HistogramCells) :
    NodeCells :=
  { cells with histogram := Function.update cells.histogram histogram value }

def apply (cells : NodeCells) : MetricOp → NodeCells
  | .inc metric => cells.setNumber metric (cells.number metric).inc
  | .set metric n => cells.setNumber metric (.ofSize n)
  | .count histogram => cells.setHistogram histogram
      { cells.histogram histogram with count := (cells.histogram histogram).count + 1 }
  | .sum histogram value => cells.setHistogram histogram
      { cells.histogram histogram with
        sum := (cells.histogram histogram).sum + .ofInt value.toInt }
  | .bucket histogram value => cells.setHistogram histogram
      { cells.histogram histogram with
        bucketCounts := observeBuckets value histogram.bounds
          (cells.histogram histogram).bucketCounts }

def after (log : List MetricOp) : NodeCells := log.foldl apply zero

end NodeCells

def observeOps (histogram : NodeHistogram) (value : Int32) : List MetricOp :=
  [.count histogram, .sum histogram value, .bucket histogram value]

theorem observeOps_alone (cells : NodeCells) (histogram : NodeHistogram) (value : Int32)
    {metric : HistogramMetric} (hbuckets : metric.buckets = histogram.bounds)
    (hcells : cells.histogram histogram = ⟨metric.count, metric.sum, metric.bucketCounts⟩) :
    ((observeOps histogram value).foldl NodeCells.apply cells).histogram histogram =
      ⟨(metricsHistogramObserve metric value).count, (metricsHistogramObserve metric value).sum,
        (metricsHistogramObserve metric value).bucketCounts⟩ := by
  simp [observeOps, NodeCells.apply, NodeCells.setHistogram, metricsHistogramObserve, hcells,
    hbuckets]

-- ----------------------------------------------------------------------------
-- Programs
-- ----------------------------------------------------------------------------

inductive RoundOutcome
  | notFound
  | noOutput
  | executed (durationMs : Int32) (completed : Bool)

/-- What a round has to measure; the last two are what it has read of
`active_executions`. -/
structure MeasuredRound where
  waitMs : Int32
  size : Int32
  outcome : RoundOutcome
  activeBefore : UInt64
  activeAfter : UInt64

namespace MeasuredRound

variable (round : MeasuredRound)

def startOps : List MetricOp :=
  observeOps .queueWait round.waitMs ++ observeOps .messageSize round.size ++
    [.set .activeExecutions round.activeBefore]

def outcomeOps : List MetricOp :=
  match round.outcome with
  | .notFound => [.inc .messagesFailed]
  | .noOutput => [.inc .messagesFailed, .set .activeExecutions round.activeAfter]
  | .executed durationMs completed => observeOps .execDuration durationMs ++
      [.inc (if completed then .messagesProcessed else .messagesFailed),
        .set .activeExecutions round.activeAfter]

def ops : List MetricOp := round.startOps ++ round.outcomeOps

end MeasuredRound

/-- How the round of a message goes on, and the time it measures for an execution. -/
def roundOutcome (env : NodeEnv) (executeStep : StepFunction) (message : Message)
    (server : NodeServer) (durationMs : Int32) : RoundOutcome :=
  match dagCatalogGet server.node.dagCatalog message.dagId with
  | none => .notFound
  | some dag =>
    if env.mallocOk then
      .executed durationMs ((dagExecute env.past executeStep env.now env.now
        (message.executionContext dag)).1 = .ok)
    else .noOutput

inductive NodeProgram : List MetricOp → Prop
  | round (round : MeasuredRound) : NodeProgram round.ops
  | idle (queueSize : UInt64) : NodeProgram [.set .queueSize queueSize]
  | catalogChanged (newCount : UInt64) : NodeProgram [.set .dagCatalogSize newCount]

def isPop (op : MetricOp) : Bool := op = .count .queueWait
def isExecution (op : MetricOp) : Bool := op = .count .execDuration
def isMeasured (op : MetricOp) : Bool := op = .count .messageSize
def isProcessed (op : MetricOp) : Bool := op = .inc .messagesProcessed
def isFailed (op : MetricOp) : Bool := op = .inc .messagesFailed
def isConcluded (op : MetricOp) : Bool := isProcessed op || isFailed op

theorem startOps_counts (round : MeasuredRound) :
    round.startOps.countP isConcluded = 0 ∧ round.startOps.countP isPop = 1 ∧
      round.startOps.countP isExecution = 0 ∧ round.startOps.countP isProcessed = 0 := by
  simp [MeasuredRound.startOps, observeOps, isConcluded, isProcessed, isFailed, isPop, isExecution]

theorem outcomeOps_counts (round : MeasuredRound) :
    round.outcomeOps.countP isConcluded = 1 ∧ round.outcomeOps.countP isPop = 0 ∧
      round.outcomeOps.countP isExecution ≤ 1 := by
  cases houtcome : round.outcome with
  | notFound | noOutput =>
    simp [MeasuredRound.outcomeOps, houtcome, isConcluded, isProcessed, isFailed, isPop,
      isExecution]
  | executed durationMs completed =>
    cases completed <;>
      simp [MeasuredRound.outcomeOps, houtcome, observeOps, isConcluded, isProcessed, isFailed,
        isPop, isExecution]

/-- What a round counts is what `executeMessage` does: it measures an execution where
`dag_execute` is called, and the message is processed where that returns OK. -/
theorem executeMessage_ops (env : NodeEnv) (executeStep : StepFunction) (message : Message)
    (server : NodeServer) {round : MeasuredRound}
    (h : round.outcome = roundOutcome env executeStep message server durationMs) :
    let result := (executeMessage env executeStep message server).1
    round.ops.countP isExecution = result.toList.length ∧
      round.ops.countP isProcessed = (if result = some .ok then 1 else 0) ∧
      round.ops.countP isFailed = if result = some .ok then 0 else 1 := by
  have hcatalog : (server.setActiveExecutions (server.node.activeExecutions + 1)).node.dagCatalog =
      server.node.dagCatalog := rfl
  have hstart : round.startOps.countP isFailed = 0 := by
    simp [MeasuredRound.startOps, observeOps, isFailed]
  obtain ⟨-, -, hexecution, hprocessed⟩ := startOps_counts round
  simp only [MeasuredRound.ops, List.countP_append, hstart, hexecution, hprocessed, Nat.zero_add,
    MeasuredRound.outcomeOps, h, roundOutcome, executeMessage, hcatalog]
  cases dagCatalogGet server.node.dagCatalog message.dagId with
  | none => simp [isExecution, isProcessed, isFailed]
  | some dag =>
    cases env.mallocOk with
    | false => simp [isExecution, isProcessed, isFailed]
    | true =>
      by_cases hok : (dagExecute env.past executeStep env.now env.now
        (message.executionContext dag)).1 = .ok
      · simp [hok, observeOps, isExecution, isProcessed, isFailed]
      · simp [hok, observeOps, isExecution, isProcessed, isFailed]

theorem concluded_follows (program : List MetricOp) (h : NodeProgram program) :
    Follows isPop isConcluded program := by
  cases h with
  | round round =>
    obtain ⟨hnone, hpop, -⟩ := startOps_counts round
    refine follows_append hnone ?_
    rw [hpop, (outcomeOps_counts round).1]
  | idle | catalogChanged => exact follows_of_none rfl

theorem execution_follows (program : List MetricOp) (h : NodeProgram program) :
    Follows isPop isExecution program := by
  cases h with
  | round round =>
    obtain ⟨-, hpop, hnone, -⟩ := startOps_counts round
    refine follows_append hnone ?_
    rw [hpop]
    exact (outcomeOps_counts round).2.2
  | idle | catalogChanged => exact follows_of_none rfl

theorem processed_follows (program : List MetricOp) (h : NodeProgram program) :
    Follows isExecution isProcessed program := by
  cases h with
  | round round =>
    obtain ⟨-, -, hexecution, hprocessed⟩ := startOps_counts round
    cases houtcome : round.outcome with
    | notFound | noOutput =>
      refine follows_of_none ?_
      rw [MeasuredRound.ops, List.countP_append, hprocessed]
      simp [MeasuredRound.outcomeOps, houtcome, isProcessed]
    | executed durationMs completed =>
      have hops : round.ops = round.startOps ++ observeOps .execDuration durationMs ++
          [.inc (if completed then .messagesProcessed else .messagesFailed),
            .set .activeExecutions round.activeAfter] := by
        rw [MeasuredRound.ops, MeasuredRound.outcomeOps, houtcome, List.append_assoc]
      rw [hops]
      refine follows_append ?_ ?_
      · rw [List.countP_append, hprocessed]
        simp [observeOps, isProcessed]
      · rw [List.countP_append, hexecution]
        cases completed <;> simp [observeOps, isProcessed, isExecution]
  | idle | catalogChanged => exact follows_of_none rfl

theorem pops_eq_concluded (program : List MetricOp) (h : NodeProgram program) :
    program.countP isPop = program.countP isConcluded := by
  cases h with
  | round round =>
    obtain ⟨hnone, hpop, -⟩ := startOps_counts round
    obtain ⟨hone, hnopop, -⟩ := outcomeOps_counts round
    rw [MeasuredRound.ops, List.countP_append, List.countP_append, hnone, hpop, hone, hnopop]
  | idle | catalogChanged => rfl

theorem pops_eq_measured (program : List MetricOp) (h : NodeProgram program) :
    program.countP isPop = program.countP isMeasured := by
  cases h with
  | round round =>
    obtain ⟨-, hpop, -⟩ := startOps_counts round
    obtain ⟨-, hnopop, -⟩ := outcomeOps_counts round
    have hstart : round.startOps.countP isMeasured = 1 := by
      simp [MeasuredRound.startOps, observeOps, isMeasured]
    have houtcome : round.outcomeOps.countP isMeasured = 0 := by
      unfold MeasuredRound.outcomeOps
      split <;> simp [observeOps, isMeasured]
    rw [MeasuredRound.ops, List.countP_append, List.countP_append, hpop, hnopop, hstart, houtcome]
  | idle | catalogChanged => rfl

theorem not_set_counter (h : NodeProgram program) (hop : .set metric n ∈ program) :
    metric.type = .gauge := by
  cases h with
  | round round =>
    rcases List.mem_append.mp hop with hstart | houtcome
    · simp only [MeasuredRound.startOps, observeOps, List.mem_append, List.mem_cons,
        List.not_mem_nil, or_false, reduceCtorEq, false_or, MetricOp.set.injEq] at hstart
      rw [hstart.1]
      rfl
    · unfold MeasuredRound.outcomeOps at houtcome
      split at houtcome
      all_goals simp [observeOps] at houtcome
      all_goals
        rw [houtcome.1]
        rfl
  | idle | catalogChanged =>
    simp only [List.mem_singleton, MetricOp.set.injEq] at hop
    rw [hop.1]
    rfl

-- ----------------------------------------------------------------------------
-- What the cells hold
-- ----------------------------------------------------------------------------

theorem Whole.inc_min (value : Whole) (h : value.toNat = min n (2 ^ 53)) :
    value.inc.toNat = min (n + 1) (2 ^ 53) := by
  have hlt : value.toNat < 2 ^ 64 := by
    rw [h]
    exact Nat.lt_of_le_of_lt (Nat.min_le_right _ _) (by decide)
  have hinc : value.inc.toNat = toDouble (value.toNat + 1) := by
    rw [Whole.inc, dif_pos hlt]
  rw [hinc, h]
  rcases Nat.lt_or_ge n (2 ^ 53) with hsmall | hlarge
  · rw [Nat.min_eq_left hsmall.le, Nat.min_eq_left hsmall]
    rcases Nat.lt_or_ge (n + 1) (2 ^ 53) with hbelow | htop
    · exact toDouble_of_lt hbelow
    · have heq : n + 1 = 2 ^ 53 := Nat.le_antisymm hsmall htop
      show toDouble (n + 1) = n + 1
      rw [heq]
      decide +kernel
  · rw [Nat.min_eq_right hlarge, Nat.min_eq_right (hlarge.trans (Nat.le_succ n))]
    decide +kernel

theorem after_concat (log : List MetricOp) (op : MetricOp) :
    NodeCells.after (log ++ [op]) = (NodeCells.after log).apply op := by
  rw [NodeCells.after, List.foldl_append]
  rfl

theorem after_number (metric : NodeMetric) {log : List MetricOp}
    (h : ∀ n, .set metric n ∉ log) :
    ((NodeCells.after log).number metric).toNat =
      min (log.countP fun op => op = .inc metric) (2 ^ 53) := by
  induction log using List.reverseRecOn with
  | nil => rfl
  | append_singleton log op ih =>
    have hlog : ∀ n, .set metric n ∉ log := fun n hmem => h n (List.mem_append_left _ hmem)
    have hop : ∀ n, op ≠ .set metric n := by
      rintro n rfl
      exact h n (List.mem_append_right _ List.mem_cons_self)
    rw [after_concat, List.countP_append, List.countP_singleton]
    cases op with
    | inc other =>
      by_cases hsame : other = metric
      · subst hsame
        have hinc := Whole.inc_min _ (ih hlog)
        simpa [NodeCells.apply, NodeCells.setNumber] using hinc
      · have hkept := ih hlog
        simpa [NodeCells.apply, NodeCells.setNumber, hsame, Ne.symm hsame] using hkept
    | set other n =>
      have hother : other ≠ metric := fun heq => hop n (heq ▸ rfl)
      have hkept := ih hlog
      simpa [NodeCells.apply, NodeCells.setNumber, hother, Ne.symm hother] using hkept
    | count | sum | bucket =>
      have hkept := ih hlog
      simpa [NodeCells.apply, NodeCells.setHistogram] using hkept

theorem after_count (histogram : NodeHistogram) (log : List MetricOp) :
    ((NodeCells.after log).histogram histogram).count =
      .ofNat (log.countP fun op => op = .count histogram) := by
  induction log using List.reverseRecOn with
  | nil => rfl
  | append_singleton log op ih =>
    rw [after_concat, List.countP_append, List.countP_singleton]
    cases op with
    | count other =>
      by_cases hsame : other = histogram
      · subst hsame
        simp [NodeCells.apply, NodeCells.setHistogram, ih, UInt64.ofNat_add]
      · simpa [NodeCells.apply, NodeCells.setHistogram, hsame, Ne.symm hsame] using ih
    | sum other value | bucket other value =>
      by_cases hsame : other = histogram
      · subst hsame
        simpa [NodeCells.apply, NodeCells.setHistogram] using ih
      · simpa [NodeCells.apply, NodeCells.setHistogram, hsame, Ne.symm hsame] using ih
    | inc | set => simpa [NodeCells.apply, NodeCells.setNumber] using ih

-- ----------------------------------------------------------------------------
-- Runs
-- ----------------------------------------------------------------------------

section Runs

variable {actions : List (Action MetricOp)}
  (hstarts : ∀ action ∈ actions, Pool.Starts NodeProgram action)
include hstarts

theorem pool_consistent : (Pool.run actions).Consistent NodeProgram := by
  have hall := Pool.run_consistent hstarts actions.length
  rwa [List.take_length] at hall

theorem counter_take (metric : NodeMetric) (hmetric : metric.type = .counter) (n : Nat) :
    ((NodeCells.after ((Pool.run actions).log.take n)).number metric).toNat =
      min (((Pool.run actions).log.take n).countP fun op => op = .inc metric) (2 ^ 53) := by
  refine after_number metric fun m hmem => ?_
  obtain ⟨program, hprogram, hop⟩ := (pool_consistent hstarts).mem_log (List.mem_of_mem_take hmem)
  rw [not_set_counter hprogram hop] at hmetric
  cases hmetric

omit hstarts in
theorem countP_concluded (log : List MetricOp) :
    log.countP isConcluded = log.countP isProcessed + log.countP isFailed := by
  induction log with
  | nil => rfl
  | cons op log ih =>
    have hapart : ¬ (isProcessed op = true ∧ isFailed op = true) := by
      unfold isProcessed isFailed
      rw [decide_eq_true_eq, decide_eq_true_eq]
      rintro ⟨rfl, hother⟩
      cases hother
    rw [List.countP_cons, List.countP_cons, List.countP_cons, ih]
    unfold isConcluded
    cases hprocessed : isProcessed op <;> cases hfailed : isFailed op <;> simp_all
    all_goals omega

/-- Where no round is under way, each message that was popped has been counted once,
processed or failed. -/
theorem settled_counts (hthrough : ∀ task ∈ (Pool.run actions).tasks, task.left = [])
    (hfew : (Pool.run actions).log.countP isPop ≤ 2 ^ 53) :
    let cells := NodeCells.after (Pool.run actions).log
    (cells.number .messagesProcessed).toNat + (cells.number .messagesFailed).toNat =
        (cells.histogram .queueWait).count.toNat ∧
      (cells.histogram .messageSize).count = (cells.histogram .queueWait).count := by
  have hpool := pool_consistent hstarts
  have hconcluded := hpool.count_eq hthrough pops_eq_concluded
  have hmeasured := hpool.count_eq hthrough pops_eq_measured
  have hprocessed := counter_take hstarts .messagesProcessed rfl (Pool.run actions).log.length
  have hfailed := counter_take hstarts .messagesFailed rfl (Pool.run actions).log.length
  rw [List.take_length] at hprocessed hfailed
  rw [countP_concluded] at hconcluded
  have hwait : ((Pool.run actions).log.countP fun op => op = .count .queueWait) < 2 ^ 64 :=
    Nat.lt_of_le_of_lt hfew (by decide)
  refine ⟨?_, ?_⟩
  · rw [hprocessed, hfailed, after_count, UInt64.toNat_ofNat_of_lt' hwait]
    change min ((Pool.run actions).log.countP isProcessed) _ +
      min ((Pool.run actions).log.countP isFailed) _ = (Pool.run actions).log.countP isPop
    omega
  · rw [after_count, after_count]
    exact congrArg _ hmeasured.symm

end Runs

def measuredRound : MeasuredRound := ⟨7, 12, .executed 3 true, 1, 0⟩

def oneRound : List (Action MetricOp) :=
  .start measuredRound.ops :: List.replicate 12 (.advance 0)

theorem oneRound_starts : ∀ action ∈ oneRound, Pool.Starts NodeProgram action := by
  refine List.forall_mem_cons.mpr ⟨.round measuredRound, fun action hmem => ?_⟩
  rw [List.eq_of_mem_replicate hmem]
  trivial

theorem settled_counts_round :
    let cells := NodeCells.after (Pool.run oneRound).log
    (cells.number .messagesProcessed).toNat + (cells.number .messagesFailed).toNat =
        (cells.histogram .queueWait).count.toNat ∧
      (cells.histogram .messageSize).count = (cells.histogram .queueWait).count :=
  settled_counts oneRound_starts (by decide +kernel) (by decide +kernel)

-- ----------------------------------------------------------------------------
-- Scrapes
-- ----------------------------------------------------------------------------

/-- The cells of a scrape: `time` tells how many operations have been done when a cell is
read. -/
def cellsAt (log : List MetricOp) (time : Cell → Nat) : Cell → NodeCells := fun cell =>
  NodeCells.after (log.take (time cell))

/-- The cells are read one after the other. -/
def InOrder (time : Cell → Nat) : Prop := (readingOrder.map time).Pairwise (· ≤ ·)

instance (time : Cell → Nat) : Decidable (InOrder time) :=
  inferInstanceAs (Decidable ((readingOrder.map time).Pairwise (· ≤ ·)))

theorem InOrder.counts (h : InOrder time) :
    time (.number .messagesProcessed) ≤ time (.number .messagesFailed) ∧
      time (.number .messagesProcessed) ≤ time (.count .execDuration) ∧
      time (.number .messagesFailed) ≤ time (.count .queueWait) ∧
      time (.count .execDuration) ≤ time (.count .queueWait) := by
  have hsub : List.Sublist [Cell.number .messagesProcessed, .number .messagesFailed,
      .count .execDuration, .count .queueWait] readingOrder := by decide
  have hpairs := List.Pairwise.sublist (hsub.map time) h
  simp only [List.map_cons, List.map_nil, List.pairwise_cons, List.forall_mem_cons] at hpairs
  omega

theorem nodeLabels_le (clusterName : List UInt8) (nodeId : NodeId)
    (capabilities : NodeCapabilities) :
    (nodeLabels clusterName nodeId capabilities).length ≤ maxLabelsPerMetric := by
  show 3 ≤ 8
  decide

def scrapedRegistry (clusterName : List UInt8) (nodeId : NodeId) (capabilities : NodeCapabilities)
    (log : List MetricOp) (time : Cell → Nat) : MetricsRegistry :=
  nodeRegistry (nodeLabels clusterName nodeId capabilities) (nodeLabels_le _ _ _)
    (cellsAt log time)

theorem countP_take_le (log : List MetricOp) (p : MetricOp → Bool) (h : m ≤ n) :
    (log.take m).countP p ≤ (log.take n).countP p :=
  (List.take_prefix_take_left h).sublist.countP_le

section Scraped

variable {actions : List (Action MetricOp)}
  (hstarts : ∀ action ∈ actions, Pool.Starts NodeProgram action)
include hstarts

/-- Reading the concluded messages first and the popped ones last never shows more of the
former. -/
theorem cellsAt_counts (hfew : (Pool.run actions).log.countP isPop < 2 ^ 64)
    (htime : InOrder time) :
    let cells := cellsAt (Pool.run actions).log time
    let processed := ((cells (.number .messagesProcessed)).number .messagesProcessed).toNat
    let failed := ((cells (.number .messagesFailed)).number .messagesFailed).toNat
    let executed := ((cells (.count .execDuration)).histogram .execDuration).count.toNat
    let popped := ((cells (.count .queueWait)).histogram .queueWait).count.toNat
    processed + failed ≤ popped ∧ processed ≤ executed ∧ executed ≤ popped := by
  obtain ⟨hone, htwo, hthree, hfour⟩ := htime.counts
  have hpopped : ∀ n, ((Pool.run actions).log.take n).countP isPop < 2 ^ 64 := fun n =>
    Nat.lt_of_le_of_lt (List.take_sublist _ _).countP_le hfew
  have hexecuted : ∀ n, ((Pool.run actions).log.take n).countP isExecution < 2 ^ 64 := fun n =>
    Nat.lt_of_le_of_lt (Pool.count_le_take hstarts execution_follows n) (hpopped n)
  have hexec : ((cellsAt (Pool.run actions).log time (.count .execDuration)).histogram
      .execDuration).count.toNat =
        ((Pool.run actions).log.take (time (.count .execDuration))).countP isExecution :=
    (congrArg UInt64.toNat (after_count _ _)).trans (UInt64.toNat_ofNat_of_lt' (hexecuted _))
  have hpop : ((cellsAt (Pool.run actions).log time (.count .queueWait)).histogram
      .queueWait).count.toNat =
        ((Pool.run actions).log.take (time (.count .queueWait))).countP isPop :=
    (congrArg UInt64.toNat (after_count _ _)).trans (UInt64.toNat_ofNat_of_lt' (hpopped _))
  have hprocessed : ((cellsAt (Pool.run actions).log time (.number .messagesProcessed)).number
      .messagesProcessed).toNat ≤
        ((Pool.run actions).log.take (time (.number .messagesProcessed))).countP isProcessed :=
    (counter_take hstarts .messagesProcessed rfl _).trans_le (Nat.min_le_left _ _)
  have hfailed : ((cellsAt (Pool.run actions).log time (.number .messagesFailed)).number
      .messagesFailed).toNat ≤
        ((Pool.run actions).log.take (time (.number .messagesFailed))).countP isFailed :=
    (counter_take hstarts .messagesFailed rfl _).trans_le (Nat.min_le_left _ _)
  -- Both counters at the moment at which the second one is read.
  have hconcluded := Pool.count_le_take hstarts concluded_follows (time (.number .messagesFailed))
  rw [countP_concluded] at hconcluded
  have hmeasured := Pool.count_le_take hstarts processed_follows (time (.number .messagesProcessed))
  have htaken := Pool.count_le_take hstarts execution_follows (time (.count .execDuration))
  have hlater (p : MetricOp → Bool) {m n : Nat} (h : m ≤ n) :=
    countP_take_le (Pool.run actions).log p h
  have hstep₁ := hlater isProcessed hone
  have hstep₂ := hlater isExecution htwo
  have hstep₃ := hlater isPop hthree
  have hstep₄ := hlater isPop hfour
  dsimp only
  omega

end Scraped

section Registry

variable {clusterName : List UInt8} (hcluster : PlainCluster clusterName) (nodeId : NodeId)
  (capabilities : NodeCapabilities) (log : List MetricOp) (time : Cell → Nat)

theorem scrapedRegistry_fits : (scrapedRegistry clusterName nodeId capabilities log time).Fits :=
  nodeRegistry_fits _ (nodeLabels_length clusterName nodeId capabilities) _

include hcluster

theorem scrapedRegistry_plain : (scrapedRegistry clusterName nodeId capabilities log time).Plain :=
  nodeRegistry_plain _ (nodeLabels_plain hcluster nodeId capabilities) _

end Registry

/-- In a scrape that is answered, the executors have not counted more messages as
processed or failed than they have popped, nor more as processed than they have
measured the execution of. -/
theorem scraped_counts {clusterName : List UInt8} (hcluster : PlainCluster clusterName)
    (nodeId : NodeId) (capabilities : NodeCapabilities) {actions : List (Action MetricOp)}
    (hstarts : ∀ action ∈ actions, Pool.Starts NodeProgram action)
    (hfew : (Pool.run actions).log.countP isPop < 2 ^ 64) {time : Cell → Nat}
    (htime : InOrder time)
    (hrequest : AsksForMetrics (cString (received.take (maxRequestSize - 1))))
    (htake : sends.TakeAll (metricsPage (metricsRegistryRenderPrometheus
      (scrapedRegistry clusterName nodeId capabilities (Pool.run actions).log time)).out.text)) :
    ∃ lines processed failed executed popped,
      readMetrics (handleHttpRequest (renderedText true
        (scrapedRegistry clusterName nodeId capabilities (Pool.run actions).log time))
          (some received) sends) = some lines ∧
      sampleNumber NodeMetric.messagesProcessed.name lines = some processed ∧
      sampleNumber NodeMetric.messagesFailed.name lines = some failed ∧
      sampleNumber NodeHistogram.execDuration.countName lines = some executed ∧
      sampleNumber NodeHistogram.queueWait.countName lines = some popped ∧
      processed + failed ≤ popped ∧ processed ≤ executed ∧ executed ≤ popped := by
  have hread := readMetrics_sent (scrapedRegistry_plain hcluster nodeId capabilities _ _)
    (scrapedRegistry_fits nodeId capabilities _ _) hrequest htake
  have hnumber (metric : NodeMetric) : sampleNumber metric.name (scrapedRegistry clusterName
      nodeId capabilities (Pool.run actions).log time).lines = some _ :=
    nodeRegistry_number _ _ _ metric
  have hcount (histogram : NodeHistogram) : sampleNumber histogram.countName (scrapedRegistry
      clusterName nodeId capabilities (Pool.run actions).log time).lines = some _ :=
    nodeRegistry_count _ _ _ histogram
  have hcounts := cellsAt_counts hstarts hfew htime
  refine ⟨_, _, _, _, _, hread, hnumber .messagesProcessed, hnumber .messagesFailed,
    hcount .execDuration, hcount .queueWait, ?_⟩
  exact hcounts

def stepwise : Cell → Nat := fun cell => readingOrder.idxOf cell

theorem prod_plain : PlainCluster (chars "prod") :=
  ⟨by decide, by decide, by decide⟩

theorem scraped_counts_round :
    ∃ lines processed failed executed popped,
      readMetrics (handleHttpRequest (renderedText true
        (scrapedRegistry (chars "prod") 7 ⟨true, true, true⟩ (Pool.run oneRound).log stepwise))
          (some (chars "GET /metrics")) ⟨some 100000, some 100000⟩) = some lines ∧
      sampleNumber NodeMetric.messagesProcessed.name lines = some processed ∧
      sampleNumber NodeMetric.messagesFailed.name lines = some failed ∧
      sampleNumber NodeHistogram.execDuration.countName lines = some executed ∧
      sampleNumber NodeHistogram.queueWait.countName lines = some popped ∧
      processed + failed ≤ popped ∧ processed ≤ executed ∧ executed ≤ popped :=
  scraped_counts prod_plain 7 _ oneRound_starts
    (by decide +kernel) (by decide +kernel) asksForMetrics_bare
    (takeAll_metrics (scrapedRegistry_plain prod_plain 7 _ _ _) (scrapedRegistry_fits 7 _ _ _)
      (by decide) (by decide))

end Roole
