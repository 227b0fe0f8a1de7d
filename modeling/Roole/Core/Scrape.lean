import Roole.Core.MetricsServer
import Roole.Core.PrometheusRendering
import Roole.Lib.Exposition

/-!
# Scraping the registry

What a client makes of the metrics page: where the registry fits the buffer it is
printed as a whole, and what is printed is read back line by line.
-/

namespace Roole

open Http Printing

-- ----------------------------------------------------------------------------
-- Printing as a whole
-- ----------------------------------------------------------------------------

theorem attempt_fits (exit : LoopExit) {pieces : List (List UInt8)} {out : Printer UInt8}
    (h : out.offset + pieces.flatten.length < renderBufferSize) :
    attempt pieces exit out = (out.printAll renderBufferSize pieces, .next) := by
  rw [attempt, Printer.tryAll_fits pieces h]

def labelPieces (labels : List RegistryLabel) : List (List UInt8) :=
  if labels.length > 0 then [chars "\x7b"] ++ labelTexts labels ++ [chars "\x7d"] else []

theorem printMetricLabels_fits {labels : List RegistryLabel} {out : Printer UInt8}
    (h : out.offset + (labelPieces labels).flatten.length < renderBufferSize) :
    printMetricLabels labels out = (out.printAll renderBufferSize (labelPieces labels), .next) := by
  unfold labelPieces at h ⊢
  unfold printMetricLabels
  split_ifs at h ⊢
  · simp only [List.flatten_append, List.length_append] at h
    rw [attempt_fits .leave (by omega), andThen,
      attempt_fits .done (by rw [Printer.printAll_offset]; omega), andThen,
      attempt_fits .leave (by rw [Printer.printAll_offset, Printer.printAll_offset]; omega),
      ← Printer.printAll_append, ← Printer.printAll_append, List.append_assoc]
  · rfl

theorem printMetric_fits {metric : RegisteredMetric} {out : Printer UInt8}
    (h : out.offset + metric.pieces.flatten.length + 512 < renderBufferSize) :
    printMetric metric out = (out.printAll renderBufferSize metric.pieces, .next) := by
  have hpieces : metric.pieces = [helpLine metric.name metric.help,
      typeLine metric.name metric.type.text, metric.name] ++ (labelPieces metric.labels ++
        [chars " " ++ metric.value ++ chars "\n"]) := by
    rw [RegisteredMetric.pieces, labelPieces, List.append_assoc]
  rw [hpieces] at h ⊢
  rw [List.flatten_append, List.length_append, List.flatten_append, List.length_append] at h
  rw [printMetric, if_neg (by omega), attempt_fits .leave (by omega), andThen,
    printMetricLabels_fits (by rw [Printer.printAll_offset]; omega), andThen,
    attempt_fits .leave (by rw [Printer.printAll_offset, Printer.printAll_offset]; omega),
    ← Printer.printAll_append, ← Printer.printAll_append, List.append_assoc]

theorem printMetrics_fits {metrics : List RegisteredMetric} {out : Printer UInt8}
    (h : out.offset + metricsLength metrics + 512 < renderBufferSize) :
    printMetrics metrics out =
      (out.printAll renderBufferSize (metrics.flatMap RegisteredMetric.pieces), .next) := by
  induction metrics generalizing out with
  | nil => rfl
  | cons metric metrics ih =>
    rw [metricsLength, List.flatMap_cons, List.flatten_append, List.length_append] at h
    have hrest : (out.printAll renderBufferSize metric.pieces).offset + metricsLength metrics +
        512 < renderBufferSize := by
      rw [Printer.printAll_offset, metricsLength]
      omega
    rw [printMetrics, printMetric_fits (by omega), andThen, ih hrest, List.flatMap_cons,
      Printer.printAll_append]

def wholeLabels (labels : List RegistryLabel) : List UInt8 := (labelTexts labels).flatten

namespace RegisteredHistogram

variable (histogram : RegisteredHistogram)

def bucketPieces (bucket : UpperBound × UInt64) : List (List UInt8) :=
  [histogram.bucketStart (wholeLabels histogram.labels), bucket.1.print, bucketRest bucket.2]

def endPieces : List (List UInt8) :=
  [totalLine histogram.name (chars "_sum") (wholeLabels histogram.labels) histogram.sum,
    totalLine histogram.name (chars "_count") (wholeLabels histogram.labels) histogram.count]

def pieces : List (List UInt8) :=
  [helpLine histogram.name histogram.help, typeLine histogram.name (chars "histogram")] ++
    (histogram.buckets.zip histogram.bucketCounts).flatMap histogram.bucketPieces ++
    histogram.endPieces

def LabelsFit : Prop := (wholeLabels histogram.labels).length < labelStrSize

end RegisteredHistogram

theorem buildLabelStr_whole (h : (wholeLabels labels).length < labelStrSize) :
    (buildLabelStr labels).text = wholeLabels labels := by
  rw [buildLabelStr_text, labelString]
  exact List.take_of_length_le (Nat.le_sub_one_of_lt h)

theorem printBuckets_fits (histogram : RegisteredHistogram) {buckets : List (UpperBound × UInt64)}
    {out : Printer UInt8} (h : out.offset +
      (buckets.flatMap histogram.bucketPieces).flatten.length + 256 < renderBufferSize) :
    printBuckets (histogram.bucketStart (wholeLabels histogram.labels)) buckets out =
      out.printAll renderBufferSize (buckets.flatMap histogram.bucketPieces) := by
  induction buckets generalizing out with
  | nil => rfl
  | cons bucket buckets ih =>
    rw [List.flatMap_cons, List.flatten_append, List.length_append] at h
    have hrest : (out.printAll renderBufferSize (histogram.bucketPieces bucket)).offset +
        (buckets.flatMap histogram.bucketPieces).flatten.length + 256 < renderBufferSize := by
      rw [Printer.printAll_offset]
      omega
    rw [printBuckets, if_neg (by omega), List.flatMap_cons, Printer.printAll_append]
    exact ih hrest

theorem printHistogram_fits {histogram : RegisteredHistogram} (rendering : Rendering)
    (hlabels : histogram.LabelsFit) (h : rendering.out.offset +
      histogram.pieces.flatten.length + 256 < renderBufferSize) :
    (printHistogram histogram rendering).out =
      rendering.out.printAll renderBufferSize histogram.pieces := by
  have hroom := h
  rw [RegisteredHistogram.pieces, List.flatten_append, List.length_append, List.flatten_append,
    List.length_append] at hroom
  unfold printHistogram
  dsimp only
  rw [buildLabelStr_whole hlabels, printBuckets_fits histogram
    (by rw [Printer.printAll_offset]; omega), ← Printer.printAll_append]
  exact (Printer.printAll_append _ _ _).symm

theorem printHistograms_fits {histograms : List RegisteredHistogram} {rendering : Rendering}
    (hlabels : ∀ histogram ∈ histograms, histogram.LabelsFit)
    (h : rendering.out.offset + (histograms.flatMap RegisteredHistogram.pieces).flatten.length +
      2048 < renderBufferSize) :
    (printHistograms histograms rendering).out = rendering.out.printAll renderBufferSize
      (histograms.flatMap RegisteredHistogram.pieces) := by
  induction histograms generalizing rendering with
  | nil => rfl
  | cons histogram histograms ih =>
    rw [List.forall_mem_cons] at hlabels
    rw [List.flatMap_cons, List.flatten_append, List.length_append] at h
    have hone := printHistogram_fits rendering hlabels.1 (by omega)
    rw [printHistograms, if_neg (by omega), ih hlabels.2
      (by rw [hone, Printer.printAll_offset]; omega), hone, List.flatMap_cons,
      Printer.printAll_append]

namespace MetricsRegistry

def pieces (reg : MetricsRegistry) : List (List UInt8) :=
  reg.metrics.flatMap RegisteredMetric.pieces ++
    reg.histograms.flatMap RegisteredHistogram.pieces

/-- The whole registry is printed before the last 2048 bytes. -/
structure Fits (reg : MetricsRegistry) : Prop where
  length : reg.pieces.flatten.length + 2048 < renderBufferSize
  labels : ∀ histogram ∈ reg.histograms, histogram.LabelsFit

end MetricsRegistry

theorem render_fits {reg : MetricsRegistry} (h : reg.Fits) :
    (metricsRegistryRenderPrometheus reg).out = Printer.start.printAll renderBufferSize
      reg.pieces := by
  have hlength := h.length
  rw [MetricsRegistry.pieces, List.flatten_append, List.length_append] at hlength
  have hmetrics : printMetrics reg.metrics .start = (Printer.start.printAll renderBufferSize
      (reg.metrics.flatMap RegisteredMetric.pieces), .next) := by
    refine printMetrics_fits ?_
    show 0 + metricsLength reg.metrics + 512 < renderBufferSize
    rw [metricsLength]
    omega
  rw [metricsRegistryRenderPrometheus, hmetrics]
  dsimp only
  rw [printHistograms_fits h.labels, MetricsRegistry.pieces, Printer.printAll_append]
  show (Printer.start.printAll renderBufferSize _).offset + _ + 2048 < _
  rw [Printer.printAll_offset]
  show 0 + _ + _ + 2048 < _
  omega

theorem render_text {reg : MetricsRegistry} (h : reg.Fits) :
    (metricsRegistryRenderPrometheus reg).out.text = reg.pieces.flatten := by
  rw [render_fits h, Printer.printAll_text _ _ (Nat.zero_le _)]
  have hlength := h.length
  exact List.take_of_length_le (Nat.le_sub_one_of_lt (by
    show reg.pieces.flatten.length < _
    omega))

-- ----------------------------------------------------------------------------
-- Lines
-- ----------------------------------------------------------------------------

def RegistryLabel.exposed (label : RegistryLabel) : Exposition.Label := ⟨label.name, label.value⟩

def RegisteredMetric.lines (metric : RegisteredMetric) : List Exposition.Line :=
  [.help metric.name metric.help, .type metric.name metric.type.text,
    .sample metric.name (metric.labels.map RegistryLabel.exposed) metric.value]

namespace RegisteredHistogram

variable (histogram : RegisteredHistogram)

def bucketLine (bucket : UpperBound × UInt64) : Exposition.Line :=
  .sample (histogram.name ++ chars "_bucket")
    (histogram.labels.map RegistryLabel.exposed ++ [⟨chars "le", bucket.1.print⟩])
    (printInt bucket.2.toNat)

def lines : List Exposition.Line :=
  [.help histogram.name histogram.help, .type histogram.name (chars "histogram")] ++
    (histogram.buckets.zip histogram.bucketCounts).map histogram.bucketLine ++
    [.sample (histogram.name ++ chars "_sum") (histogram.labels.map RegistryLabel.exposed)
        (printInt histogram.sum.toNat),
      .sample (histogram.name ++ chars "_count") (histogram.labels.map RegistryLabel.exposed)
        (printInt histogram.count.toNat)]

/-- A line of `histogramLines`, with what the registry has stored of its histogram. -/
def line : HistogramLine → Exposition.Line
  | .help => .help histogram.name histogram.help
  | .type => .type histogram.name (chars "histogram")
  | .bucket le value => histogram.bucketLine (le, value)
  | .sum value => .sample (histogram.name ++ chars "_sum")
      (histogram.labels.map RegistryLabel.exposed) (printInt value.toNat)
  | .count value => .sample (histogram.name ++ chars "_count")
      (histogram.labels.map RegistryLabel.exposed) (printInt value.toNat)

theorem lines_eq {metric : HistogramMetric} (hbuckets : metric.buckets = histogram.buckets)
    (hcounts : metric.bucketCounts = histogram.bucketCounts)
    (hsum : metric.sum = histogram.sum) (hcount : metric.count = histogram.count) :
    histogram.lines = (histogramLines metric).map histogram.line := by
  have hzip : (histogram.buckets.zip histogram.bucketCounts).map histogram.bucketLine =
      (List.zipWith .bucket histogram.buckets histogram.bucketCounts).map histogram.line := by
    rw [List.zip, List.map_zipWith, List.map_zipWith]
    rfl
  simp [lines, histogramLines, hbuckets, hcounts, hsum, hcount, hzip, line]

end RegisteredHistogram

def MetricsRegistry.lines (reg : MetricsRegistry) : List Exposition.Line :=
  reg.metrics.flatMap RegisteredMetric.lines ++ reg.histograms.flatMap RegisteredHistogram.lines

def Visible (text : List UInt8) : Prop := ∀ b ∈ text, 32 ≤ b

instance (text : List UInt8) : Decidable (Visible text) := List.decidableBAll (32 ≤ ·) text

theorem forall_mem_of_all {p : UInt8 → Prop} [DecidablePred p] {text : List UInt8}
    (h : text.all (fun b => decide (p b)) = true) : ∀ b ∈ text, p b :=
  fun b hb => of_decide_eq_true (List.all_eq_true.mp h b hb)

theorem Visible.not_mem (h : Visible text) (hb : b < 32) : b ∉ text := fun hmem =>
  absurd (h b hmem) (UInt8.not_le.mpr hb)

open Exposition in
structure PlainName (name : List UInt8) : Prop where
  visible : Visible name
  ne_nil : name ≠ []
  head : name.head? ≠ some 35
  space : space ∉ name
  brace : openBrace ∉ name

open Exposition in
structure PlainLabel (label : RegistryLabel) : Prop where
  name : Visible label.name
  equals : equals ∉ label.name
  brace : closeBrace ∉ label.name
  value : Visible label.value
  quote : quoteMark ∉ label.value
  backslash : backslashMark ∉ label.value

structure RegisteredMetric.Plain (metric : RegisteredMetric) : Prop where
  name : PlainName metric.name
  help : Visible metric.help
  labels : ∀ label ∈ metric.labels, PlainLabel label
  value : Visible metric.value

structure RegisteredHistogram.Plain (histogram : RegisteredHistogram) : Prop where
  name : PlainName histogram.name
  help : Visible histogram.help
  labels : ∀ label ∈ histogram.labels, PlainLabel label

structure MetricsRegistry.Plain (reg : MetricsRegistry) : Prop where
  metrics : ∀ metric ∈ reg.metrics, metric.Plain
  histograms : ∀ histogram ∈ reg.histograms, histogram.Plain

-- ----------------------------------------------------------------------------
-- What is printed
-- ----------------------------------------------------------------------------

section Printed

open Exposition

theorem escape_plain {value : List UInt8} (h : Visible value) (hquote : quoteMark ∉ value)
    (hbackslash : backslashMark ∉ value) : value.flatMap escape = value := by
  have hone : ∀ b ∈ value, escape b = [b] := fun b hb => by
    have hnewline : newline ∉ value := h.not_mem (by decide)
    rw [escape, if_neg, if_neg]
    · rintro rfl
      exact hnewline hb
    · rintro (rfl | rfl)
      · exact hbackslash hb
      · exact hquote hb
  rw [List.flatMap_congr hone, List.flatMap_singleton']

theorem labelText_exposed (h : PlainLabel label) (separator : List UInt8) :
    labelText separator label = separator ++ label.exposed.text := by
  have hvalue := escape_plain h.value h.quote h.backslash
  have hopen : chars "=\"" = [equals, quoteMark] := rfl
  have hclose : chars "\"" = [quoteMark] := rfl
  simp [labelText, Label.text, RegistryLabel.exposed, hvalue, hopen, hclose]

theorem wholeLabels_exposed (h : ∀ label ∈ labels, PlainLabel label) :
    wholeLabels labels = labelsText (labels.map RegistryLabel.exposed) := by
  cases labels with
  | nil => rfl
  | cons first labels =>
    rw [List.forall_mem_cons] at h
    have hmore : (labels.map (labelText (chars ","))).flatten =
        labels.flatMap fun label => comma :: label.exposed.text := by
      rw [← List.flatMap_def]
      exact List.flatMap_congr fun label hmem => labelText_exposed (h.2 label hmem) _
    rw [wholeLabels, labelTexts, List.flatten_cons, hmore, labelText_exposed h.1, List.map_cons,
      labelsText, List.flatMap_map]
    rfl

theorem helpLine_spells (name help : List UInt8) :
    Spells (.help name help) (helpLine name help) := by
  have htext : helpLine name help = helpStart ++ (name ++ space :: (help ++ [newline])) := by
    simp [helpLine, helpStart, chars, Scanning.asciiBytes, space, newline]
  rw [htext]
  exact .help

theorem typeLine_spells (name kind : List UInt8) :
    Spells (.type name kind) (typeLine name kind) := by
  have htext : typeLine name kind = typeStart ++ (name ++ space :: (kind ++ [newline])) := by
    simp [typeLine, typeStart, chars, Scanning.asciiBytes, space, newline]
  rw [htext]
  exact .type

theorem RegisteredMetric.Plain.sample_spells {metric : RegisteredMetric} (h : metric.Plain) :
    Spells (.sample metric.name (metric.labels.map RegistryLabel.exposed) metric.value)
      (metric.name ++ ((labelPieces metric.labels).flatten ++
        (chars " " ++ metric.value ++ chars "\n"))) := by
  have hblank : chars " " = [space] := rfl
  have hend : chars "\n" = [newline] := rfl
  unfold labelPieces
  split_ifs with hlabels
  · have hopen : chars "\x7b" = [openBrace] := rfl
    have hclose : chars "\x7d" = [closeBrace] := rfl
    have htext : metric.name ++ (([chars "\x7b"] ++ labelTexts metric.labels ++
          [chars "\x7d"]).flatten ++ (chars " " ++ metric.value ++ chars "\n")) =
        metric.name ++ openBrace :: (labelsText (metric.labels.map RegistryLabel.exposed) ++
          closeBrace :: space :: (metric.value ++ [newline])) := by
      rw [← wholeLabels_exposed h.labels, wholeLabels]
      simp [hopen, hclose, hblank, hend]
    rw [htext]
    exact .sample
  · have htext : metric.name ++ (([] : List (List UInt8)).flatten ++
          (chars " " ++ metric.value ++ chars "\n")) =
        metric.name ++ space :: (metric.value ++ [newline]) := by
      simp [hblank, hend]
    rw [htext, List.length_eq_zero_iff.mp (Nat.eq_zero_of_not_pos hlabels)]
    exact .bare

theorem RegisteredMetric.Plain.document {metric : RegisteredMetric} (h : metric.Plain) :
    Document metric.lines metric.pieces.flatten := by
  have htext : metric.pieces.flatten = helpLine metric.name metric.help ++
      (typeLine metric.name metric.type.text ++ (metric.name ++
        ((labelPieces metric.labels).flatten ++ (chars " " ++ metric.value ++ chars "\n")))) := by
    simp [RegisteredMetric.pieces, labelPieces]
  rw [htext]
  exact (Document.line (helpLine_spells _ _)).append
    ((Document.line (typeLine_spells _ _)).append (Document.line h.sample_spells))

theorem totalLine_spells (name suffix : List UInt8) (h : ∀ label ∈ labels, PlainLabel label)
    (number : UInt64) :
    Spells (.sample (name ++ suffix) (labels.map RegistryLabel.exposed) (printInt number.toNat))
      (totalLine name suffix (wholeLabels labels) number) := by
  have hopen : chars "\x7b" = [openBrace] := rfl
  have hclose : chars "\x7d " = [closeBrace, space] := rfl
  have hend : chars "\n" = [newline] := rfl
  have htext : totalLine name suffix (wholeLabels labels) number = name ++ suffix ++ openBrace ::
      (labelsText (labels.map RegistryLabel.exposed) ++
        closeBrace :: space :: (printInt number.toNat ++ [newline])) := by
    simp [totalLine, wholeLabels_exposed h, hopen, hclose, hend]
  rw [htext]
  exact .sample

theorem flatten_flatMap (values : List α) (pieces : α → List (List β)) :
    (values.flatMap pieces).flatten = values.flatMap fun value => (pieces value).flatten := by
  simp only [List.flatten_eq_flatMap, List.flatMap_assoc]

def IsNumeric (b : UInt8) : Prop :=
  Decimal.IsDigit b ∨ b ∈ (chars "+-.Inf" : List UInt8)

theorem printInt_numeric (n : Int) : ∀ b ∈ printInt n, IsNumeric b := by
  intro b hb
  unfold printInt at hb
  split_ifs at hb
  · rcases List.mem_cons.mp hb with rfl | hb
    · exact .inr (by decide)
    · exact .inl (Decimal.isDigit_of_mem _ b hb)
  · exact .inl (Decimal.isDigit_of_mem _ b hb)

theorem UpperBound.print_numeric (bound : UpperBound) : ∀ b ∈ bound.print, IsNumeric b := by
  cases bound with
  | infinity =>
    have hall : ∀ b ∈ chars "+Inf", b ∈ chars "+-.Inf" := forall_mem_of_all (by decide)
    exact fun b hb => .inr (hall b hb)
  | finite bound =>
    intro b hb
    rcases List.mem_append.mp hb with hnumber | hzeros
    · exact printInt_numeric bound b hnumber
    · have hall : ∀ b ∈ chars ".00", Decimal.IsDigit b ∨ b ∈ chars "+-.Inf" :=
        forall_mem_of_all (by decide)
      exact hall b hzeros

theorem escape_numeric {text : List UInt8} (h : ∀ b ∈ text, IsNumeric b) :
    text.flatMap escape = text := by
  refine escape_plain ?_ ?_ ?_
  · intro b hb
    rcases h b hb with ⟨hlow, -⟩ | hmem
    · exact UInt8.le_trans (by decide) hlow
    · have hall : Visible (chars "+-.Inf") := by decide
      exact hall b hmem
  · intro hmem
    rcases h _ hmem with hdigit | hother
    · exact absurd hdigit (by decide)
    · exact absurd hother (by decide)
  · intro hmem
    rcases h _ hmem with hdigit | hother
    · exact absurd hdigit (by decide)
    · exact absurd hother (by decide)

theorem labelsText_concat (labels : List Label) (last : Label) :
    labelsText (labels ++ [last]) =
      labelsText labels ++ (if labels.length > 0 then [comma] else []) ++ last.text := by
  cases labels with
  | nil => simp [labelsText]
  | cons first labels => simp [labelsText]

theorem RegisteredHistogram.Plain.bucket_spells {histogram : RegisteredHistogram}
    (h : histogram.Plain)
    (bucket : UpperBound × UInt64) :
    Spells (histogram.bucketLine bucket) (histogram.bucketPieces bucket).flatten := by
  have hle : Label.text ⟨chars "le", bucket.1.print⟩ =
      chars "le=\"" ++ (bucket.1.print ++ [quoteMark]) := by
    rw [Label.text, escape_numeric bucket.1.print_numeric]
    rfl
  have hstart : chars "_bucket\x7b" = chars "_bucket" ++ [openBrace] := by decide
  have hrest : chars "\"\x7d " = [quoteMark, closeBrace, space] := rfl
  have hcomma : chars "," = [comma] := rfl
  have hend : chars "\n" = [newline] := rfl
  have htext : (histogram.bucketPieces bucket).flatten = histogram.name ++ chars "_bucket" ++
      openBrace :: (labelsText (histogram.labels.map RegistryLabel.exposed ++
        [⟨chars "le", bucket.1.print⟩]) ++
          closeBrace :: space :: (printInt bucket.2.toNat ++ [newline])) := by
    rw [labelsText_concat, List.length_map, ← wholeLabels_exposed h.labels, hle]
    simp [bucketPieces, bucketStart, bucketRest, hstart, hrest, hcomma, hend]
  rw [htext]
  exact .sample

theorem RegisteredHistogram.Plain.document {histogram : RegisteredHistogram} (h : histogram.Plain) :
    Document histogram.lines histogram.pieces.flatten := by
  have htext : histogram.pieces.flatten = helpLine histogram.name histogram.help ++
      (typeLine histogram.name (chars "histogram") ++
        ((histogram.buckets.zip histogram.bucketCounts).flatMap
            (fun bucket => (histogram.bucketPieces bucket).flatten) ++
          (totalLine histogram.name (chars "_sum") (wholeLabels histogram.labels) histogram.sum ++
            totalLine histogram.name (chars "_count") (wholeLabels histogram.labels)
              histogram.count))) := by
    rw [← flatten_flatMap]
    simp [pieces, endPieces]
  have hlines : histogram.lines = [.help histogram.name histogram.help] ++
      ([.type histogram.name (chars "histogram")] ++
        ((histogram.buckets.zip histogram.bucketCounts).map histogram.bucketLine ++
          ([.sample (histogram.name ++ chars "_sum")
              (histogram.labels.map RegistryLabel.exposed) (printInt histogram.sum.toNat)] ++
            [.sample (histogram.name ++ chars "_count")
              (histogram.labels.map RegistryLabel.exposed)
              (printInt histogram.count.toNat)]))) := by
    simp [lines]
  rw [htext, hlines]
  exact (Document.line (helpLine_spells _ _)).append
    ((Document.line (typeLine_spells _ _)).append
      ((Document.map _ fun bucket _ => h.bucket_spells bucket).append
        ((Document.line (totalLine_spells _ _ h.labels _)).append
          (Document.line (totalLine_spells _ _ h.labels _)))))

theorem MetricsRegistry.Plain.document {reg : MetricsRegistry} (h : reg.Plain) :
    Document reg.lines reg.pieces.flatten := by
  rw [pieces, List.flatten_append, flatten_flatMap, flatten_flatMap]
  exact (Document.flatMap _ fun metric hmem => (h.metrics metric hmem).document).append
    (Document.flatMap _ fun histogram hmem => (h.histograms histogram hmem).document)

end Printed

-- ----------------------------------------------------------------------------
-- What is read back
-- ----------------------------------------------------------------------------

section Lines

open Exposition

theorem PlainName.append (h : PlainName name)
    (hsuffix : ∀ b ∈ suffix, 32 ≤ b ∧ b ≠ Exposition.space ∧ b ≠ Exposition.openBrace) :
    PlainName (name ++ suffix) where
  visible := List.forall_mem_append.mpr ⟨h.visible, fun b hb => (hsuffix b hb).1⟩
  ne_nil := List.append_ne_nil_of_left_ne_nil h.ne_nil suffix
  head := by
    rw [List.head?_append_of_ne_nil _ h.ne_nil]
    exact h.head
  space := fun hmem => (List.mem_append.mp hmem).elim h.space fun hb => (hsuffix _ hb).2.1 rfl
  brace := fun hmem => (List.mem_append.mp hmem).elim h.brace fun hb => (hsuffix _ hb).2.2 rfl

/-- A line that is read back, without control characters. -/
structure PlainLine (line : Line) : Prop where
  wellFormed : line.WellFormed
  visible : line.All (32 ≤ ·)

theorem helpLine_plain (hname : PlainName name) (hhelp : Visible help) :
    PlainLine (.help name help) :=
  ⟨⟨hname.space, hhelp.not_mem (by decide)⟩, hname.visible, hhelp⟩

theorem typeLine_plain (hname : PlainName name) (hkind : Visible kind) :
    PlainLine (.type name kind) :=
  ⟨⟨hname.space, hkind.not_mem (by decide)⟩, hname.visible, hkind⟩

theorem sample_plain (hname : PlainName name)
    (hlabels : ∀ label ∈ labels, Label.WellFormed label ∧ Visible label.name ∧ Visible label.value)
    (hvalue : Visible value) : PlainLine (.sample name labels value) where
  wellFormed := by
    refine ⟨hname.ne_nil, hname.head, fun b hb => ⟨?_, ?_⟩, fun label hmem =>
      (hlabels label hmem).1, hvalue.not_mem (by decide)⟩
    · rintro rfl
      exact hname.brace hb
    · rintro rfl
      exact hname.space hb
  visible := ⟨hname.visible, fun label hmem => (hlabels label hmem).2, hvalue⟩

theorem exposed_plain {labels : List RegistryLabel} (h : ∀ label ∈ labels, PlainLabel label) :
    ∀ label ∈ labels.map RegistryLabel.exposed,
      Label.WellFormed label ∧ Visible label.name ∧ Visible label.value :=
  List.forall_mem_map.mpr fun label hmem =>
    have hplain := h label hmem
    ⟨⟨hplain.equals, hplain.brace⟩, hplain.name, hplain.value⟩

theorem numeric_visible (h : ∀ b ∈ text, IsNumeric b) : Visible text := by
  intro b hb
  rcases h b hb with ⟨hlow, -⟩ | hmem
  · exact UInt8.le_trans (by decide) hlow
  · have hall : Visible (chars "+-.Inf") := by decide
    exact hall b hmem

theorem MetricType.text_visible (type : MetricType) : Visible type.text := by
  cases type <;> decide

theorem RegisteredMetric.Plain.lines {metric : RegisteredMetric} (h : metric.Plain) :
    ∀ line ∈ metric.lines, PlainLine line := by
  simp only [RegisteredMetric.lines, List.forall_mem_cons]
  exact ⟨helpLine_plain h.name h.help, typeLine_plain h.name metric.type.text_visible,
    sample_plain h.name (exposed_plain h.labels) h.value, List.forall_mem_nil _⟩

theorem RegisteredHistogram.Plain.lines {histogram : RegisteredHistogram} (h : histogram.Plain) :
    ∀ line ∈ histogram.lines, PlainLine line := by
  have hlabels := exposed_plain h.labels
  have hkind : Visible (chars "histogram") := by decide
  have hsuffix : ∀ suffix ∈ [chars "_bucket", chars "_sum", chars "_count"],
      suffix.all (fun b => decide (32 ≤ b ∧ b ≠ space ∧ b ≠ openBrace)) = true := by decide
  have hle : Label.WellFormed ⟨chars "le", []⟩ ∧ Visible (chars "le") :=
    ⟨⟨by decide, by decide⟩, by decide⟩
  simp only [List.forall_mem_cons] at hsuffix
  obtain ⟨hbucket, hsum, hcount, -⟩ := hsuffix
  simp only [RegisteredHistogram.lines, List.forall_mem_append, List.forall_mem_cons]
  refine ⟨⟨⟨helpLine_plain h.name h.help, typeLine_plain h.name hkind, List.forall_mem_nil _⟩, ?_⟩,
    sample_plain (h.name.append (forall_mem_of_all hsum)) hlabels
      (numeric_visible (printInt_numeric _)),
    sample_plain (h.name.append (forall_mem_of_all hcount)) hlabels
      (numeric_visible (printInt_numeric _)),
    List.forall_mem_nil _⟩
  refine List.forall_mem_map.mpr fun bucket _ => ?_
  refine sample_plain (h.name.append (forall_mem_of_all hbucket)) ?_
    (numeric_visible (printInt_numeric _))
  refine List.forall_mem_append.mpr ⟨hlabels, List.forall_mem_singleton.mpr ?_⟩
  exact ⟨⟨hle.1.equals, hle.1.closeBrace⟩, hle.2, numeric_visible bucket.1.print_numeric⟩

theorem MetricsRegistry.Plain.lines {reg : MetricsRegistry} (h : reg.Plain) :
    ∀ line ∈ reg.lines, PlainLine line := by
  intro line hmem
  rcases List.mem_append.mp hmem with hmetric | hhistogram
  · obtain ⟨metric, hmetric, hline⟩ := List.mem_flatMap.mp hmetric
    exact (h.metrics metric hmetric).lines line hline
  · obtain ⟨histogram, hhistogram, hline⟩ := List.mem_flatMap.mp hhistogram
    exact (h.histograms histogram hhistogram).lines line hline

theorem PlainLine.head (h : PlainLine line) (hspells : Spells line text) :
    text.head? ≠ some lf := by
  rcases hspells.head h.wellFormed with hmark | ⟨name, labels, value, rfl, hname⟩
  · rw [hmark]
    decide
  · rw [hname]
    intro hhead
    exact absurd (h.visible.1 lf (List.mem_of_head? hhead)) (by decide)

theorem document_head (h : Document lines text) (hlines : ∀ line ∈ lines, PlainLine line) :
    text.head? ≠ some lf := by
  obtain ⟨texts, hspells, rfl⟩ := h
  cases hspells with
  | nil => exact (nomatch ·)
  | cons hone _ =>
    rw [List.forall_mem_cons] at hlines
    rw [List.flatten_cons, List.head?_append_of_ne_nil]
    · exact hlines.1.head hone
    · exact (readAs_of_spells hlines.1.wellFormed hone).ne_nil

end Lines

def renderedText (mallocOk : Bool) (reg : MetricsRegistry) : Option (List UInt8) :=
  if mallocOk then some (metricsRegistryRenderPrometheus reg).out.text else none

section Scrape

variable {reg : MetricsRegistry} (hplain : reg.Plain) (hfits : reg.Fits)
include hplain hfits

theorem render_bytes :
    ∀ b ∈ (metricsRegistryRenderPrometheus reg).out.text, b = Exposition.newline ∨ 32 ≤ b := by
  rw [render_text hfits]
  refine hplain.document.bytes (forall_mem_of_all (by decide)) fun line hmem => ?_
  exact (hplain.lines line hmem).visible.imp fun b hb => .inr hb

theorem render_cString : cString (metricsRegistryRenderPrometheus reg).out.text =
    (metricsRegistryRenderPrometheus reg).out.text :=
  cString_eq_self fun hmem => absurd (render_bytes hplain hfits 0 hmem) (by decide)

theorem render_plainText : PlainText (metricsRegistryRenderPrometheus reg).out.text := by
  have hcr : cr ∉ (metricsRegistryRenderPrometheus reg).out.text := fun hmem =>
    absurd (render_bytes hplain hfits cr hmem) (by decide)
  have hhead : (metricsRegistryRenderPrometheus reg).out.text.head? ≠ some lf := by
    rw [render_text hfits]
    exact document_head hplain.document hplain.lines
  have hlength : reg.pieces.flatten.length < 2 ^ 64 := by
    have hroom := hfits.length
    exact Nat.lt_of_le_of_lt (Nat.le_add_right _ 2048) (hroom.trans (by decide))
  refine ⟨?_, ?_⟩
  · rw [render_cString hplain hfits]
    exact ⟨hcr, hhead⟩
  · rwa [strlen, render_cString hplain hfits, render_text hfits]

theorem takeAll_metrics (hheader : 1024 ≤ m) (hbody : renderBufferSize ≤ n) :
    (⟨some m, some n⟩ : SendResults).TakeAll
      (metricsPage (metricsRegistryRenderPrometheus reg).out.text) where
  header :=
    ⟨m, rfl, (metricsPage_plain (render_plainText hplain hfits)).header_length_lt.le.trans hheader⟩
  body := by
    have hlength := hfits.length
    show (cString (metricsRegistryRenderPrometheus reg).out.text).length ≤ n
    rw [render_cString hplain hfits, render_text hfits]
    omega

end Scrape

def readMetrics (stream : List UInt8) : Option (List Exposition.Line) :=
  (readResponse stream).bind fun response =>
    if response.status = chars "200 OK" then Exposition.read response.body else none

def sampleOf (name : List UInt8) : Exposition.Line → Option Nat
  | .sample other _ value => if other = name then some (Decimal.value value) else none
  | _ => none

def sampleNumber (name : List UInt8) (lines : List Exposition.Line) : Option Nat :=
  lines.findSome? (sampleOf name)

theorem sampleNumber_metric (name : List UInt8) (metric : RegisteredMetric) :
    sampleNumber name metric.lines =
      if metric.name = name then some (Decimal.value metric.value) else none := by
  simp only [sampleNumber, RegisteredMetric.lines, List.findSome?_cons, List.findSome?_nil,
    sampleOf]
  split_ifs <;> rfl

theorem sampleNumber_append (name : List UInt8) (front back : List Exposition.Line) :
    sampleNumber name (front ++ back) = (sampleNumber name front).or (sampleNumber name back) :=
  List.findSome?_append

theorem sampleNumber_histogram {histogram : RegisteredHistogram} {name : List UInt8}
    (hbucket : histogram.name ++ chars "_bucket" ≠ name)
    (hsum : histogram.name ++ chars "_sum" ≠ name) :
    sampleNumber name histogram.lines =
      if histogram.name ++ chars "_count" = name then
        some (Decimal.value (printInt histogram.count.toNat)) else none := by
  have hbuckets : ∀ buckets : List (UpperBound × UInt64),
      sampleNumber name (buckets.map histogram.bucketLine) = none := by
    intro buckets
    rw [sampleNumber, List.findSome?_eq_none_iff]
    intro line hmem
    obtain ⟨bucket, -, rfl⟩ := List.mem_map.mp hmem
    exact if_neg hbucket
  rw [RegisteredHistogram.lines, sampleNumber_append, sampleNumber_append, hbuckets]
  simp only [sampleNumber, List.findSome?_cons, List.findSome?_nil, sampleOf, if_neg hsum,
    Option.none_or]
  split_ifs <;> rfl

/-- The first two words are `GET` and `/metrics`. -/
def AsksForMetrics (request : List UInt8) : Prop :=
  ∃ rest more, Scanning.BeginsWith isSpace (chars "GET") rest request ∧
    Scanning.BeginsWith isSpace (chars "/metrics") more rest

section Client

variable {reg : MetricsRegistry} {received : List UInt8} (hplain : reg.Plain) (hfits : reg.Fits)
  (hrequest : AsksForMetrics (cString (received.take (maxRequestSize - 1))))
include hplain hfits

theorem render_read :
    Exposition.read (cString (metricsRegistryRenderPrometheus reg).out.text) = some reg.lines := by
  rw [render_cString hplain hfits, render_text hfits]
  exact hplain.document.read fun line hmem => (hplain.lines line hmem).wellFormed

include hrequest

theorem readResponse_metrics (sends : SendResults) (response : Response) :
    readResponse (handleHttpRequest (renderedText true reg) (some received) sends) =
        some response ↔
      sends.TakeAll (metricsPage (metricsRegistryRenderPrometheus reg).out.text) ∧
        response = (metricsPage (metricsRegistryRenderPrometheus reg).out.text).response := by
  obtain ⟨rest, more, hfirst, hsecond⟩ := hrequest
  have hreceived : received ≠ [] := by
    rintro rfl
    obtain ⟨gap, -, hfront⟩ := hfirst.front
    have hnil : (chars "GET" ++ rest) = [] := (List.append_eq_nil_iff.mp hfront.symm).2
    cases hnil
  have htext : ∀ text ∈ renderedText true reg, PlainText text := fun text hmem =>
    Option.some.inj hmem ▸ render_plainText hplain hfits
  exact readResponse_handle htext hreceived (.metrics hfirst hsecond rfl) sends response

theorem readMetrics_sent {sends : SendResults}
    (htake : sends.TakeAll (metricsPage (metricsRegistryRenderPrometheus reg).out.text)) :
    readMetrics (handleHttpRequest (renderedText true reg) (some received) sends) =
      some reg.lines := by
  rw [readMetrics, (readResponse_metrics hplain hfits hrequest sends _).mpr ⟨htake, rfl⟩,
    Option.bind_some]
  exact (if_pos rfl).trans (render_read hplain hfits)

/-- A client that asks for the metrics reads the whole registry if both calls of `send`
take all they are given, and nothing otherwise. -/
theorem registry_scraped (sends : SendResults) (lines : List Exposition.Line) :
    readMetrics (handleHttpRequest (renderedText true reg) (some received) sends) = some lines ↔
      sends.TakeAll (metricsPage (metricsRegistryRenderPrometheus reg).out.text) ∧
        lines = reg.lines := by
  constructor
  · intro hread
    obtain ⟨response, hresponse, -⟩ := Option.bind_eq_some_iff.mp hread
    have htake := ((readResponse_metrics hplain hfits hrequest sends response).mp hresponse).1
    rw [readMetrics_sent hplain hfits hrequest htake] at hread
    exact ⟨htake, (Option.some.inj hread).symm⟩
  · rintro ⟨htake, rfl⟩
    exact readMetrics_sent hplain hfits hrequest htake

end Client

def nodeIdLabel : RegistryLabel where
  name := chars "node_id"
  value := chars "1"
  name_text := by decide
  value_text := by decide
  name_lt := by decide
  value_lt := by decide

def nodeTypeLabel : RegistryLabel where
  name := chars "node_type"
  value := chars "router"
  name_text := by decide
  value_text := by decide
  name_lt := by decide
  value_lt := by decide

theorem twoLabels_le : [nodeIdLabel, nodeTypeLabel].length ≤ maxLabelsPerMetric := by decide

theorem metricsRegistryInit_room : metricsRegistryInit.metrics.length < maxMetricsPerRegistry := by
  decide

/-- A counter with two labels. -/
def countingRegistry : MetricsRegistry :=
  metricsRegistryInit.addMetric
    (.create (chars "messages_processed_total") (chars "Total messages processed") .counter
      [nodeIdLabel, nodeTypeLabel] twoLabels_le)
    metricsRegistryInit_room

theorem countingRegistry_room :
    countingRegistry.histograms.length < maxMetricsPerRegistry := by
  decide

def waitHistogram : RegisteredHistogram :=
  { RegisteredHistogram.create (chars "queue_wait_ms") (chars "Time in the queue") .latencyMs
      [nodeIdLabel, nodeTypeLabel] twoLabels_le with
    bucketCounts := [0, 1, 0, 0, 0, 0, 0, 0, 0]
    count := 1
    sum := 3 }

def labelledCounts : MetricsRegistry :=
  countingRegistry.addHistogram waitHistogram countingRegistry_room

theorem twoLabels_plain : ∀ label ∈ [nodeIdLabel, nodeTypeLabel], PlainLabel label :=
  List.forall_mem_cons.mpr
    ⟨⟨by decide, by decide, by decide, by decide, by decide, by decide⟩,
      List.forall_mem_singleton.mpr
        ⟨by decide, by decide, by decide, by decide, by decide, by decide⟩⟩

theorem labelledCounts_plain : labelledCounts.Plain where
  metrics := List.forall_mem_singleton.mpr {
    name := ⟨by decide, by decide, by decide, by decide, by decide⟩
    help := by decide
    labels := twoLabels_plain
    value := by decide }
  histograms := List.forall_mem_singleton.mpr {
    name := ⟨by decide, by decide, by decide, by decide, by decide⟩
    help := by decide
    labels := twoLabels_plain }

theorem labelledCounts_fits : labelledCounts.Fits where
  length := by decide +kernel
  labels := List.forall_mem_singleton.mpr
    (show (wholeLabels [nodeIdLabel, nodeTypeLabel]).length < labelStrSize by decide +kernel)

theorem asksForMetrics_bare :
    AsksForMetrics (cString ((chars "GET /metrics").take (maxRequestSize - 1))) := by
  have hspace : ∀ b ∈ [(32 : UInt8)], isSpace b = true := List.forall_mem_singleton.mpr rfl
  refine ⟨chars " /metrics", [], ⟨⟨[], List.forall_mem_nil _, by decide⟩, by decide,
    forall_mem_of_all (by decide), fun b hb => Option.some.inj hb ▸ rfl⟩,
    ⟨⟨chars " ", hspace, by decide⟩, by decide, forall_mem_of_all (by decide), nofun⟩⟩

theorem registry_scraped_labelled :
    readMetrics (handleHttpRequest (renderedText true labelledCounts) (some (chars "GET /metrics"))
      ⟨some 2000, some 2000⟩) = some labelledCounts.lines :=
  (registry_scraped labelledCounts_plain labelledCounts_fits
    asksForMetrics_bare ⟨some 2000, some 2000⟩ labelledCounts.lines).mpr
      ⟨⟨⟨2000, rfl, by decide +kernel⟩, by decide +kernel⟩, rfl⟩

end Roole
