import Roole.Core.MetricsRegistry
import Roole.Lib.Printing

/-!
# Rendering the registry

`metrics_registry_render_prometheus`: counters and gauges are printed with a check
behind each piece, histograms with guesses of the room that they need. A piece
behind the end of the buffer, or of the label string, is printed with a size that
has wrapped.
-/

namespace Roole

open Printing

def renderBufferSize : Nat := 65536
def labelStrSize : Nat := 512

-- ----------------------------------------------------------------------------
-- Pieces
-- ----------------------------------------------------------------------------

def MetricType.text : MetricType → List UInt8
  | .counter => chars "counter"
  | .gauge => chars "gauge"

def helpLine (name help : List UInt8) : List UInt8 :=
  chars "# HELP " ++ name ++ chars " " ++ help ++ chars "\n"

def typeLine (name type : List UInt8) : List UInt8 :=
  chars "# TYPE " ++ name ++ chars " " ++ type ++ chars "\n"

def labelText (separator : List UInt8) (label : RegistryLabel) : List UInt8 :=
  separator ++ label.name ++ chars "=\"" ++ label.value ++ chars "\""

def labelTexts : List RegistryLabel → List (List UInt8)
  | [] => []
  | label :: labels => labelText [] label :: labels.map (labelText (chars ","))

def UpperBound.print : UpperBound → List UInt8
  | .infinity => chars "+Inf"
  | .finite bound => printInt bound ++ chars ".00"

def RegisteredHistogram.bucketStart (histogram : RegisteredHistogram) (labelStr : List UInt8) :
    List UInt8 :=
  histogram.name ++ chars "_bucket\x7b" ++ labelStr ++
    (if histogram.labels.length > 0 then chars "," else []) ++ chars "le=\""

def bucketRest (count : UInt64) : List UInt8 :=
  chars "\"\x7d " ++ printInt count.toNat ++ chars "\n"

def totalLine (name suffix labelStr : List UInt8) (number : UInt64) : List UInt8 :=
  name ++ suffix ++ chars "\x7b" ++ labelStr ++ chars "\x7d " ++ printInt number.toNat ++ chars "\n"

-- ----------------------------------------------------------------------------
-- Counters and gauges
-- ----------------------------------------------------------------------------

/-- Where the loop over the metrics goes on: with the next one, behind the loop, or
at `done`. -/
inductive LoopExit
  | next
  | leave
  | done
  deriving DecidableEq, Repr

def attempt (pieces : List (List UInt8)) (exit : LoopExit) (out : Printer UInt8) :
    Printer UInt8 × LoopExit :=
  match out.tryAll renderBufferSize pieces with
  | (out, true) => (out, .next)
  | (out, false) => (out, exit)

def andThen (result : Printer UInt8 × LoopExit) (more : Printer UInt8 → Printer UInt8 × LoopExit) :
    Printer UInt8 × LoopExit :=
  match result with
  | (out, .next) => more out
  | stopped => stopped

def printMetricLabels (labels : List RegistryLabel) (out : Printer UInt8) :
    Printer UInt8 × LoopExit :=
  if labels.length > 0 then
    andThen (attempt [chars "\x7b"] .leave out) fun out =>
      andThen (attempt (labelTexts labels) .done out) (attempt [chars "\x7d"] .leave)
  else (out, .next)

def printMetric (metric : RegisteredMetric) (out : Printer UInt8) : Printer UInt8 × LoopExit :=
  if out.offset + 512 ≥ renderBufferSize then (out, .leave)
  else
    andThen (attempt [helpLine metric.name metric.help, typeLine metric.name metric.type.text,
        metric.name] .leave out) fun out =>
      andThen (printMetricLabels metric.labels out)
        (attempt [chars " " ++ metric.value ++ chars "\n"] .leave)

def printMetrics : List RegisteredMetric → Printer UInt8 → Printer UInt8 × LoopExit
  | [], out => (out, .next)
  | metric :: metrics, out =>
    andThen (printMetric metric out) (printMetrics metrics)

-- ----------------------------------------------------------------------------
-- Histograms
-- ----------------------------------------------------------------------------

/-- The output, and the label strings built on the way. -/
structure Rendering where
  out : Printer UInt8
  labelStrs : List (Printer UInt8)

def buildLabelStr (labels : List RegistryLabel) : Printer UInt8 :=
  Printer.printAll labelStrSize (labelTexts labels) .start

/-- The loop over the buckets, while there are more than 256 bytes. -/
def printBuckets (bucketStart : List UInt8) :
    List (UpperBound × UInt64) → Printer UInt8 → Printer UInt8
  | [], out => out
  | (le, count) :: buckets, out =>
    if out.offset + 256 ≥ renderBufferSize then out
    else
      printBuckets bucketStart buckets
        (out.printAll renderBufferSize [bucketStart, le.print, bucketRest count])

def printHistogram (histogram : RegisteredHistogram) (rendering : Rendering) : Rendering :=
  let out := rendering.out.printAll renderBufferSize
    [helpLine histogram.name histogram.help, typeLine histogram.name (chars "histogram")]
  let labelStr := buildLabelStr histogram.labels
  let out := printBuckets (histogram.bucketStart labelStr.text)
    (histogram.buckets.zip histogram.bucketCounts) out
  { out := out.printAll renderBufferSize
      [totalLine histogram.name (chars "_sum") labelStr.text histogram.sum,
        totalLine histogram.name (chars "_count") labelStr.text histogram.count]
    labelStrs := rendering.labelStrs ++ [labelStr] }

def printHistograms : List RegisteredHistogram → Rendering → Rendering
  | [], rendering => rendering
  | histogram :: histograms, rendering =>
    if rendering.out.offset + 2048 ≥ renderBufferSize then rendering
    else printHistograms histograms (printHistogram histogram rendering)

/-- With the buffer allocated; its text is returned. -/
def metricsRegistryRenderPrometheus (reg : MetricsRegistry) : Rendering :=
  match printMetrics reg.metrics .start with
  | (out, .done) => ⟨out, []⟩
  | (out, _) => printHistograms reg.histograms ⟨out, []⟩

/-- No size given to `snprintf` wraps. -/
structure Rendering.InBounds (rendering : Rendering) : Prop where
  out : rendering.out.InBounds renderBufferSize
  labelStrs : ∀ labelStr ∈ rendering.labelStrs, labelStr.InBounds labelStrSize

-- ----------------------------------------------------------------------------
-- Lengths
-- ----------------------------------------------------------------------------

def RegisteredMetric.pieces (metric : RegisteredMetric) : List (List UInt8) :=
  [helpLine metric.name metric.help, typeLine metric.name metric.type.text, metric.name] ++
    (if metric.labels.length > 0 then
      [chars "\x7b"] ++ labelTexts metric.labels ++ [chars "\x7d"]
    else []) ++
    [chars " " ++ metric.value ++ chars "\n"]

def metricsLength (metrics : List RegisteredMetric) : Nat :=
  (metrics.flatMap RegisteredMetric.pieces).flatten.length

def labelString (labels : List RegistryLabel) : List UInt8 :=
  (labelTexts labels).flatten.take (labelStrSize - 1)

def bucketsEnd (bucketStart : List UInt8) : List (UpperBound × UInt64) → Nat → Nat
  | [], offset => offset
  | (le, count) :: buckets, offset =>
    if offset + 256 ≥ renderBufferSize then offset
    else
      bucketsEnd bucketStart buckets
        (offset + (bucketStart.length + le.print.length + (bucketRest count).length))

namespace RegisteredHistogram

variable (histogram : RegisteredHistogram)

def countStart (offset : Nat) : Nat :=
  bucketsEnd (histogram.bucketStart (labelString histogram.labels))
      (histogram.buckets.zip histogram.bucketCounts)
      (offset + (helpLine histogram.name histogram.help).length +
        (typeLine histogram.name (chars "histogram")).length) +
    (totalLine histogram.name (chars "_sum") (labelString histogram.labels) histogram.sum).length

/-- The labels but the last fit the label string, and the `_count` line starts inside
the buffer. -/
def Fits (offset : Nat) : Prop :=
  (labelTexts histogram.labels).dropLast.flatten.length < labelStrSize ∧
    histogram.countStart offset < renderBufferSize

def endsAt (offset : Nat) : Nat :=
  histogram.countStart offset +
    (totalLine histogram.name (chars "_count") (labelString histogram.labels)
      histogram.count).length

end RegisteredHistogram

/-- Every histogram that 2048 bytes are left for fits. -/
def HistogramsFit : List RegisteredHistogram → Nat → Prop
  | [], _ => True
  | histogram :: histograms, offset =>
    offset + 2048 ≥ renderBufferSize ∨
      (histogram.Fits offset ∧ HistogramsFit histograms (histogram.endsAt offset))

-- ----------------------------------------------------------------------------
-- What checked pieces do
-- ----------------------------------------------------------------------------

/-- A part of the metrics' loop that prints `length` bytes stays inside the buffer.
Where it leaves the loop, there are 2048 bytes left neither then nor behind all it
would have printed. -/
structure Prints (length : Nat) (out : Printer UInt8) (result : Printer UInt8 × LoopExit) :
    Prop where
  inBounds : result.1.InBounds renderBufferSize
  offset_lt : result.2 = .next → result.1.offset < renderBufferSize
  next : result.2 = .next → result.1.offset = out.offset + length
  left : result.2 ≠ .next → renderBufferSize ≤ result.1.offset + 2048 ∧
    renderBufferSize ≤ out.offset + length + 2048

theorem attempt_prints {pieces : List (List UInt8)} {out : Printer UInt8}
    (hpieces : ∀ piece ∈ pieces, piece.length ≤ 2048) (exit : LoopExit) (hexit : exit ≠ .next)
    (h : out.InBounds renderBufferSize) (hlt : out.offset < renderBufferSize) :
    Prints pieces.flatten.length out (attempt pieces exit out) := by
  obtain ⟨q, hq, ⟨hall, hend, hnext⟩ | ⟨hpart, hlong, piece, hpiece, hleft⟩⟩ :=
    Printer.tryAll_cases pieces h hlt
  · rw [attempt, hall]
    exact ⟨hq, fun _ => hnext, fun _ => hend, fun hne => absurd rfl hne⟩
  · have hshort := hpieces piece hpiece
    rw [attempt, hpart]
    refine ⟨hq, fun heq => absurd heq hexit, fun heq => absurd heq hexit, fun _ => ?_⟩
    dsimp only
    omega

theorem attempt_one_prints {piece : List UInt8} {out : Printer UInt8}
    (hpiece : piece.length ≤ 2048) (exit : LoopExit) (hexit : exit ≠ .next)
    (h : out.InBounds renderBufferSize) (hlt : out.offset < renderBufferSize) :
    Prints piece.length out (attempt [piece] exit out) := by
  have hone := attempt_prints (List.forall_mem_singleton.mpr hpiece) exit hexit h hlt
  rwa [List.flatten_singleton] at hone

theorem Prints.andThen {result : Printer UInt8 × LoopExit}
    {more : Printer UInt8 → Printer UInt8 × LoopExit} (h : Prints first out result)
    (hmore : ∀ q : Printer UInt8, q.InBounds renderBufferSize → q.offset < renderBufferSize →
      Prints second q (more q)) : Prints (first + second) out (andThen result more) := by
  obtain ⟨q, exit⟩ := result
  cases exit with
  | next =>
    have hoffset : q.offset = out.offset + first := h.next rfl
    have hrest := hmore q h.inBounds (h.offset_lt rfl)
    refine ⟨hrest.inBounds, hrest.offset_lt, fun heq => ?_, fun hne => ?_⟩
    · rw [← Nat.add_assoc, ← hoffset]
      exact hrest.next heq
    · rw [← Nat.add_assoc, ← hoffset]
      exact hrest.left hne
  | leave | done =>
    obtain ⟨hleft, hlong⟩ := h.left (by simp)
    refine ⟨h.inBounds, (nomatch ·), (nomatch ·), fun _ => ⟨hleft, ?_⟩⟩
    omega

theorem labelText_length_le (hseparator : separator.length ≤ 1) (label : RegistryLabel) :
    (labelText separator label).length ≤ 2048 := by
  have hname : label.name.length < 64 := label.name_lt
  have hvalue : label.value.length < 128 := label.value_lt
  simp [labelText, chars]
  omega

theorem labelTexts_length_le (labels : List RegistryLabel) :
    ∀ text ∈ labelTexts labels, text.length ≤ 2048 := by
  cases labels with
  | nil => exact List.forall_mem_nil _
  | cons label labels =>
    refine List.forall_mem_cons.mpr ⟨labelText_length_le (Nat.zero_le _) label, ?_⟩
    exact List.forall_mem_map.mpr fun label _ => labelText_length_le (by decide) label

theorem printMetricLabels_prints (labels : List RegistryLabel) {out : Printer UInt8}
    (h : out.InBounds renderBufferSize) (hlt : out.offset < renderBufferSize) :
    Prints (if labels.length > 0 then
        [chars "\x7b"] ++ labelTexts labels ++ [chars "\x7d"] else []).flatten.length out
      (printMetricLabels labels out) := by
  unfold printMetricLabels
  split_ifs
  · have hbrace : ∀ brace ∈ [chars "\x7b", chars "\x7d"], brace.length ≤ 2048 := by decide
    simp only [List.forall_mem_cons] at hbrace
    obtain ⟨hopen, hclose, -⟩ := hbrace
    have hall := (attempt_one_prints hopen .leave (by decide) h hlt).andThen
      fun q hq hqlt =>
        (attempt_prints (labelTexts_length_le labels) .done (by decide) hq hqlt).andThen
          fun q' hq' hqlt' => attempt_one_prints hclose .leave (by decide) hq' hqlt'
    have hlength : ([chars "\x7b"] ++ labelTexts labels ++ [chars "\x7d"]).flatten.length =
        (chars "\x7b").length + ((labelTexts labels).flatten.length + (chars "\x7d").length) := by
      simp
    rwa [hlength]
  · exact ⟨h, fun _ => hlt, fun _ => rfl, fun hne => absurd rfl hne⟩

theorem printMetric_prints (metric : RegisteredMetric) {out : Printer UInt8}
    (h : out.InBounds renderBufferSize) (hlt : out.offset < renderBufferSize) :
    Prints metric.pieces.flatten.length out (printMetric metric out) := by
  have hname : metric.name.length < 128 := metric.name_lt
  have hhelp : metric.help.length < 256 := metric.help_lt
  have hvalue := metric.value_le
  unfold printMetric
  split_ifs with hroom
  · exact ⟨h, (nomatch ·), (nomatch ·), fun _ => ⟨by dsimp only; omega, by omega⟩⟩
  · have hhead : ∀ piece ∈ [helpLine metric.name metric.help,
        typeLine metric.name metric.type.text, metric.name], piece.length ≤ 2048 := by
      have htype : metric.type.text.length ≤ 7 := by cases metric.type <;> decide
      simp only [List.forall_mem_cons, List.not_mem_nil, false_imp_iff, implies_true, and_true]
      refine ⟨?_, ?_, by omega⟩
      · simp [helpLine, chars]
        omega
      · simp [typeLine, chars]
        omega
    have hnumber : (chars " " ++ metric.value ++ chars "\n").length ≤ 2048 := by
      simp [chars]
      omega
    have hall := (attempt_prints hhead .leave (by decide) h hlt).andThen
      fun q hq hqlt => (printMetricLabels_prints metric.labels hq hqlt).andThen
        fun q' hq' hqlt' => attempt_one_prints hnumber .leave (by decide) hq' hqlt'
    rw [RegisteredMetric.pieces, List.append_assoc, List.flatten_append, List.length_append,
      List.flatten_append, List.length_append, List.flatten_singleton]
    exact hall

theorem printMetrics_prints (metrics : List RegisteredMetric) {out : Printer UInt8}
    (h : out.InBounds renderBufferSize) (hlt : out.offset < renderBufferSize) :
    Prints (metricsLength metrics) out (printMetrics metrics out) := by
  induction metrics generalizing out with
  | nil => exact ⟨h, fun _ => hlt, fun _ => rfl, fun hne => absurd rfl hne⟩
  | cons metric metrics ih =>
    have hall := (printMetric_prints metric h hlt).andThen fun q hq hqlt => ih hq hqlt
    rwa [metricsLength, ← List.length_append, ← List.flatten_append, ← List.flatMap_cons] at hall

-- ----------------------------------------------------------------------------
-- Where histograms end
-- ----------------------------------------------------------------------------

theorem buildLabelStr_text (labels : List RegistryLabel) :
    (buildLabelStr labels).text = labelString labels :=
  Printer.printAll_text _ _ (Nat.zero_le _)

theorem buildLabelStr_inBounds_iff (labels : List RegistryLabel) :
    (buildLabelStr labels).InBounds labelStrSize ↔
      (labelTexts labels).dropLast.flatten.length < labelStrSize := by
  by_cases hne : labelTexts labels = []
  · rw [buildLabelStr, hne]
    exact iff_of_true Printer.start_inBounds (by decide)
  · rw [buildLabelStr, Printer.printAll_inBounds_iff hne, and_iff_right Printer.start_inBounds]
    simp [Printer.start]

theorem printBuckets_offset (bucketStart : List UInt8) (buckets : List (UpperBound × UInt64))
    (out : Printer UInt8) :
    (printBuckets bucketStart buckets out).offset = bucketsEnd bucketStart buckets out.offset := by
  induction buckets generalizing out with
  | nil => rfl
  | cons bucket buckets ih =>
    unfold printBuckets bucketsEnd
    split_ifs
    · rfl
    · rw [ih, Printer.printAll_offset]
      simp [Nat.add_assoc]

theorem le_bucketsEnd (bucketStart : List UInt8) (buckets : List (UpperBound × UInt64))
    (offset : Nat) : offset ≤ bucketsEnd bucketStart buckets offset := by
  induction buckets generalizing offset with
  | nil => exact Nat.le_refl _
  | cons bucket buckets ih =>
    unfold bucketsEnd
    split_ifs
    · exact Nat.le_refl _
    · exact (Nat.le_add_right _ _).trans (ih _)

theorem inBounds_of_printBuckets {out : Printer UInt8}
    (h : (printBuckets bucketStart buckets out).InBounds renderBufferSize) :
    out.InBounds renderBufferSize := by
  induction buckets generalizing out with
  | nil => exact h
  | cons bucket buckets ih =>
    unfold printBuckets at h
    split_ifs at h
    · exact h
    · exact Printer.inBounds_of_printAll (ih h)

theorem printBuckets_inBounds {out : Printer UInt8} (h : out.InBounds renderBufferSize)
    (hend : bucketsEnd bucketStart buckets out.offset < renderBufferSize) :
    (printBuckets bucketStart buckets out).InBounds renderBufferSize := by
  induction buckets generalizing out with
  | nil => exact h
  | cons bucket buckets ih =>
    unfold printBuckets
    unfold bucketsEnd at hend
    split_ifs at hend ⊢
    · exact h
    · have hle := le_bucketsEnd bucketStart buckets
        (out.offset + (bucketStart.length + bucket.1.print.length + (bucketRest bucket.2).length))
      refine ih ?_ ?_
      · refine (Printer.printAll_inBounds_iff (List.cons_ne_nil _ _) out).mpr ⟨h, ?_⟩
        simp
        omega
      · rw [Printer.printAll_offset]
        simpa [Nat.add_assoc] using hend

theorem printHistogram_offset (histogram : RegisteredHistogram) (rendering : Rendering) :
    (printHistogram histogram rendering).out.offset = histogram.endsAt rendering.out.offset := by
  unfold printHistogram RegisteredHistogram.endsAt RegisteredHistogram.countStart
  dsimp only
  rw [Printer.printAll_offset, printBuckets_offset, Printer.printAll_offset, buildLabelStr_text]
  simp [Nat.add_assoc]

/-- A histogram that 2048 bytes are left for is printed inside the buffers exactly if
it fits. -/
theorem printHistogram_inBounds_iff (histogram : RegisteredHistogram) {rendering : Rendering}
    (h : rendering.InBounds) (hroom : rendering.out.offset + 2048 < renderBufferSize) :
    (printHistogram histogram rendering).InBounds ↔ histogram.Fits rendering.out.offset := by
  have hhelp : (helpLine histogram.name histogram.help).length ≤ 2048 := by
    have hname : histogram.name.length < 128 := histogram.name_lt
    have hhelp : histogram.help.length < 256 := histogram.help_lt
    simp [helpLine, chars]
    omega
  have hhead : (rendering.out.printAll renderBufferSize [helpLine histogram.name histogram.help,
      typeLine histogram.name (chars "histogram")]).InBounds renderBufferSize := by
    refine (Printer.printAll_inBounds_iff (List.cons_ne_nil _ _) _).mpr ⟨h.out, ?_⟩
    simp
    omega
  have hout : (printHistogram histogram rendering).out.InBounds renderBufferSize ↔
      histogram.countStart rendering.out.offset < renderBufferSize := by
    have hplace : rendering.out.offset + [helpLine histogram.name histogram.help,
        typeLine histogram.name (chars "histogram")].flatten.length =
        rendering.out.offset + (helpLine histogram.name histogram.help).length +
          (typeLine histogram.name (chars "histogram")).length := by
      simp [Nat.add_assoc]
    unfold printHistogram RegisteredHistogram.countStart
    dsimp only
    rw [Printer.printAll_inBounds_iff (List.cons_ne_nil _ _), printBuckets_offset,
      Printer.printAll_offset, buildLabelStr_text, hplace, List.dropLast_cons_cons,
      List.dropLast_singleton, List.flatten_singleton]
    refine and_iff_right_of_imp fun hend => printBuckets_inBounds hhead ?_
    rw [Printer.printAll_offset, hplace]
    exact Nat.lt_of_le_of_lt (Nat.le_add_right _ _) hend
  have hlabels : (∀ labelStr ∈ (printHistogram histogram rendering).labelStrs,
      labelStr.InBounds labelStrSize) ↔
        (labelTexts histogram.labels).dropLast.flatten.length < labelStrSize := by
    rw [← buildLabelStr_inBounds_iff]
    exact (List.forall_mem_append.trans (and_iff_right h.labelStrs)).trans List.forall_mem_singleton
  refine ⟨fun hnext => ⟨hlabels.mp hnext.labelStrs, hout.mp hnext.out⟩, fun hfits => ?_⟩
  exact ⟨hout.mpr hfits.2, hlabels.mpr hfits.1⟩

theorem inBounds_of_printHistograms {histograms : List RegisteredHistogram}
    {rendering : Rendering} (h : (printHistograms histograms rendering).InBounds) :
    rendering.InBounds := by
  induction histograms generalizing rendering with
  | nil => exact h
  | cons histogram histograms ih =>
    unfold printHistograms at h
    split_ifs at h
    · exact h
    · have hnext := ih h
      refine ⟨?_, fun labelStr hmem => hnext.labelStrs labelStr (List.mem_append_left _ hmem)⟩
      exact Printer.inBounds_of_printAll
        (inBounds_of_printBuckets (Printer.inBounds_of_printAll hnext.out))

theorem printHistograms_inBounds_iff (histograms : List RegisteredHistogram)
    {rendering : Rendering} (h : rendering.InBounds) :
    (printHistograms histograms rendering).InBounds ↔
      HistogramsFit histograms rendering.out.offset := by
  induction histograms generalizing rendering with
  | nil => exact iff_of_true h trivial
  | cons histogram histograms ih =>
    unfold printHistograms HistogramsFit
    split_ifs with hfull
    · exact iff_of_true h (.inl hfull)
    · have hone := printHistogram_inBounds_iff histogram h (Nat.lt_of_not_le hfull)
      rw [or_iff_right hfull, ← hone, ← printHistogram_offset]
      constructor
      · intro hall
        have hnext := inBounds_of_printHistograms hall
        exact ⟨hnext, (ih hnext).mp hall⟩
      · rintro ⟨hnext, hrest⟩
        exact (ih hnext).mpr hrest

theorem histogramsFit_of_full (histograms : List RegisteredHistogram)
    (h : renderBufferSize ≤ offset + 2048) : HistogramsFit histograms offset := by
  cases histograms with
  | nil => trivial
  | cons histogram histograms => exact .inl h

/-- No size wraps exactly if every histogram fits that 2048 bytes are left for behind
the counters, the gauges and the histograms before it. -/
theorem renderPrometheus_inBounds_iff (reg : MetricsRegistry) :
    (metricsRegistryRenderPrometheus reg).InBounds ↔
      HistogramsFit reg.histograms (metricsLength reg.metrics) := by
  have hmetrics := printMetrics_prints reg.metrics Printer.start_inBounds
    (show Printer.start.offset < renderBufferSize by decide)
  unfold metricsRegistryRenderPrometheus
  generalize printMetrics reg.metrics .start = result at hmetrics ⊢
  obtain ⟨out, exit⟩ := result
  have hout : (⟨out, []⟩ : Rendering).InBounds := ⟨hmetrics.inBounds, List.forall_mem_nil _⟩
  have hhistograms := printHistograms_inBounds_iff reg.histograms hout
  have hstart : (Printer.start : Printer UInt8).offset = 0 := rfl
  cases exit with
  | next =>
    have hend := hmetrics.next rfl
    rw [hstart, Nat.zero_add] at hend
    rw [← hend]
    exact hhistograms
  | leave =>
    obtain ⟨hleft, hlong⟩ := hmetrics.left (nomatch ·)
    rw [hstart, Nat.zero_add] at hlong
    exact hhistograms.trans
      (iff_of_true (histogramsFit_of_full _ hleft) (histogramsFit_of_full _ hlong))
  | done =>
    obtain ⟨-, hlong⟩ := hmetrics.left (nomatch ·)
    rw [hstart, Nat.zero_add] at hlong
    exact iff_of_true hout (histogramsFit_of_full _ hlong)

def fullLabel : RegistryLabel where
  name := List.replicate 63 97
  value := List.replicate 127 98
  name_text := by simp
  value_text := by simp
  name_lt := by decide +kernel
  value_lt := by decide +kernel

def labelledRegistry : MetricsRegistry :=
  metricsRegistryInit.addHistogram
    (.create (chars "latency_ms") [] .latencyMs (List.replicate 8 fullLabel) (by decide))
    (by decide)

theorem labelledRegistry_not_inBounds :
    ¬(metricsRegistryRenderPrometheus labelledRegistry).InBounds := by
  intro h
  have hbuilt := h.labelStrs (buildLabelStr (List.replicate 8 fullLabel)) List.mem_cons_self
  exact absurd ((buildLabelStr_inBounds_iff _).mp hbuilt) (by decide +kernel)

end Roole
