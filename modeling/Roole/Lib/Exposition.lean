import Roole.Lib.Scanning

/-!
# The text exposition format of metrics

A line for each help text, each type and each sample. Labels stand in braces, their
values in quotes, with a backslash before what cannot stand there.
-/

namespace Exposition

open Scanning

def newline : UInt8 := 10
def space : UInt8 := 32
def quoteMark : UInt8 := 34
def comma : UInt8 := 44
def equals : UInt8 := 61
def backslashMark : UInt8 := 92
def openBrace : UInt8 := 123
def closeBrace : UInt8 := 125

structure Label where
  name : List UInt8
  value : List UInt8
  deriving DecidableEq

inductive Line
  | help (name text : List UInt8)
  | type (name kind : List UInt8)
  | sample (name : List UInt8) (labels : List Label) (value : List UInt8)
  deriving DecidableEq

-- ----------------------------------------------------------------------------
-- Label values
-- ----------------------------------------------------------------------------

def escape (b : UInt8) : List UInt8 :=
  if b = backslashMark ∨ b = quoteMark then [backslashMark, b]
  else if b = newline then [backslashMark, 110]
  else [b]

def unescape (b : UInt8) : Option UInt8 :=
  if b = backslashMark ∨ b = quoteMark then some b
  else if b = 110 then some newline
  else none

def readQuoted : List UInt8 → Option (List UInt8 × List UInt8)
  | [] => none
  | [b] => if b = quoteMark then some ([], []) else none
  | b :: c :: rest =>
    if b = quoteMark then some ([], c :: rest)
    else if b = backslashMark then
      (unescape c).bind fun b => (readQuoted rest).map fun (value, rest) => (b :: value, rest)
    else (readQuoted (c :: rest)).map fun (value, rest) => (b :: value, rest)

theorem readQuoted_quote (rest : List UInt8) :
    readQuoted (quoteMark :: rest) = some ([], rest) := by
  cases rest <;> rfl

theorem readQuoted_cons (hquote : b ≠ quoteMark) (hbackslash : b ≠ backslashMark)
    (rest : List UInt8) :
    readQuoted (b :: rest) = (readQuoted rest).map fun (value, rest) => (b :: value, rest) := by
  cases rest with
  | nil =>
    have hnone : readQuoted [b] = none := if_neg hquote
    rw [hnone]
    rfl
  | cons c rest => rw [readQuoted, if_neg hquote, if_neg hbackslash]

theorem readQuoted_backslash (h : unescape c = some b) (rest : List UInt8) :
    readQuoted (backslashMark :: c :: rest) =
      (readQuoted rest).map fun (value, rest) => (b :: value, rest) := by
  rw [readQuoted, if_neg (by decide), if_pos rfl, h, Option.bind_some]

theorem readQuoted_escape (b : UInt8) (rest : List UInt8) : readQuoted (escape b ++ rest) =
    (readQuoted rest).map fun (value, rest) => (b :: value, rest) := by
  unfold escape
  split_ifs with hescaped hnewline
  · exact readQuoted_backslash (if_pos hescaped) rest
  · exact readQuoted_backslash (hnewline ▸ rfl) rest
  · rw [not_or] at hescaped
    exact readQuoted_cons hescaped.2 hescaped.1 rest

theorem readQuoted_append (value rest : List UInt8) :
    readQuoted (value.flatMap escape ++ quoteMark :: rest) = some (value, rest) := by
  induction value with
  | nil => exact readQuoted_quote rest
  | cons b value ih =>
    rw [List.flatMap_cons, List.append_assoc, readQuoted_escape, ih]
    rfl

-- ----------------------------------------------------------------------------
-- Labels
-- ----------------------------------------------------------------------------

def Label.text (label : Label) : List UInt8 :=
  label.name ++ equals :: quoteMark :: (label.value.flatMap escape ++ [quoteMark])

structure Label.WellFormed (label : Label) : Prop where
  equals : equals ∉ label.name
  closeBrace : closeBrace ∉ label.name

def readLabel (text : List UInt8) : Option (Label × List UInt8) :=
  (upTo equals text).bind fun (name, rest) =>
    (skip [quoteMark] rest).bind fun rest =>
      (readQuoted rest).map fun (value, rest) => (⟨name, value⟩, rest)

theorem readLabel_append (h : Label.WellFormed label) (rest : List UInt8) :
    readLabel (label.text ++ rest) = some (label, rest) := by
  have htext : label.text ++ rest = label.name ++
      equals :: ([quoteMark] ++ (label.value.flatMap escape ++ quoteMark :: rest)) := by
    simp [Label.text]
  rw [htext, readLabel, upTo_append h.equals, Option.bind_some]
  simp only [skip_append, Option.bind_some, readQuoted_append, Option.map_some]

def labelsText : List Label → List UInt8
  | [] => []
  | label :: labels => label.text ++ labels.flatMap fun label => comma :: label.text

def readLabels : Nat → List UInt8 → Option (List Label × List UInt8)
  | 0, _ => none
  | fuel + 1, text =>
    (readLabel text).bind fun (label, rest) =>
      match rest with
      | [] => none
      | b :: rest =>
        if b = closeBrace then some ([label], rest)
        else if b = comma then
          (readLabels fuel rest).map fun (labels, rest) => (label :: labels, rest)
        else none

theorem readLabels_append (h : ∀ label ∈ first :: labels, Label.WellFormed label)
    (hfuel : labels.length < fuel) (rest : List UInt8) :
    readLabels fuel (labelsText (first :: labels) ++ closeBrace :: rest) =
      some (first :: labels, rest) := by
  induction labels generalizing first fuel with
  | nil =>
    obtain ⟨fuel, rfl⟩ := Nat.exists_eq_add_of_lt hfuel
    have hfirst := readLabel_append (h first List.mem_cons_self) (closeBrace :: rest)
    rw [labelsText, List.flatMap_nil, List.append_nil, readLabels, hfirst]
    rfl
  | cons second labels ih =>
    cases fuel with
    | zero => cases hfuel
    | succ fuel =>
      have hmore := ih (fun label hmem => h label (List.mem_cons_of_mem _ hmem))
        (Nat.lt_of_succ_lt_succ hfuel)
      have hcomma : comma ≠ closeBrace := by decide
      have htext : labelsText (first :: second :: labels) ++ closeBrace :: rest = first.text ++
          comma :: (labelsText (second :: labels) ++ closeBrace :: rest) := by
        simp [labelsText]
      rw [htext, readLabels, readLabel_append (h first List.mem_cons_self), Option.bind_some]
      simp only [hcomma, if_false, if_true, hmore, Option.map_some]

def readLabelBlock (text : List UInt8) : Option (List Label × List UInt8) :=
  match skip [closeBrace] text with
  | some rest => some ([], rest)
  | none => readLabels text.length text

theorem length_le_labelsText (first : Label) (labels : List Label) :
    labels.length < (labelsText (first :: labels)).length := by
  have hflat : labels.length ≤ (labels.flatMap fun label => comma :: label.text).length := by
    induction labels with
    | nil => exact Nat.zero_le _
    | cons label labels ih =>
      rw [List.flatMap_cons, List.length_append, List.length_cons, List.length_cons]
      omega
  have htext : 0 < first.text.length := List.length_pos_of_ne_nil
    (List.append_ne_nil_of_right_ne_nil _ (List.cons_ne_nil _ _))
  rw [labelsText, List.length_append]
  omega

theorem readLabelBlock_append (h : ∀ label ∈ labels, Label.WellFormed label)
    (rest : List UInt8) : readLabelBlock (labelsText labels ++ closeBrace :: rest) =
      some (labels, rest) := by
  cases labels with
  | nil =>
    have hskip : skip [closeBrace] (closeBrace :: rest) = some rest :=
      skip_append [closeBrace] rest
    rw [labelsText, List.nil_append, readLabelBlock, hskip]
  | cons first labels =>
    have hnone : skip [closeBrace] (labelsText (first :: labels) ++ closeBrace :: rest) = none := by
      have hfirst := (h first List.mem_cons_self).closeBrace
      rw [labelsText, Label.text]
      cases hname : first.name with
      | nil => exact skip_cons_ne (by decide) _ _
      | cons b name =>
        rw [hname, List.mem_cons, not_or] at hfirst
        exact skip_cons_ne hfirst.1 _ _
    rw [readLabelBlock, hnone]
    refine readLabels_append h ?_ rest
    rw [List.length_append]
    exact Nat.lt_add_right _ (length_le_labelsText first labels)

-- ----------------------------------------------------------------------------
-- Lines
-- ----------------------------------------------------------------------------

def helpStart : List UInt8 := asciiBytes "# HELP "
def typeStart : List UInt8 := asciiBytes "# TYPE "

def readSample (text : List UInt8) : Option (Line × List UInt8) :=
  let name := text.takeWhile fun b => b ≠ openBrace ∧ b ≠ space
  match text.drop name.length with
  | [] => none
  | b :: rest =>
    if b = openBrace then
      (readLabelBlock rest).bind fun (labels, rest) =>
        (skip [space] rest).bind fun rest =>
          (upTo newline rest).map fun (value, rest) => (.sample name labels value, rest)
    else (upTo newline rest).map fun (value, rest) => (.sample name [] value, rest)

def readComment (line : List UInt8 → List UInt8 → Line) (text : List UInt8) :
    Option (Line × List UInt8) :=
  (upTo space text).bind fun (name, rest) =>
    (upTo newline rest).map fun (text, rest) => (line name text, rest)

def readLine (text : List UInt8) : Option (Line × List UInt8) :=
  match skip helpStart text with
  | some rest => readComment .help rest
  | none =>
    match skip typeStart text with
    | some rest => readComment .type rest
    | none => readSample text

def read (text : List UInt8) : Option (List Line) := many readLine text.length text

inductive Spells : Line → List UInt8 → Prop
  | help : Spells (.help name text) (helpStart ++ (name ++ space :: (text ++ [newline])))
  | type : Spells (.type name kind) (typeStart ++ (name ++ space :: (kind ++ [newline])))
  | sample : Spells (.sample name labels value)
      (name ++ openBrace :: (labelsText labels ++ closeBrace :: space :: (value ++ [newline])))
  | bare : Spells (.sample name [] value) (name ++ space :: (value ++ [newline]))

/-- No part of a line has something in it that ends the part. -/
def Line.WellFormed : Line → Prop
  | .help name text => space ∉ name ∧ newline ∉ text
  | .type name kind => space ∉ name ∧ newline ∉ kind
  | .sample name labels value => name ≠ [] ∧ name.head? ≠ some 35 ∧
      (∀ b ∈ name, b ≠ openBrace ∧ b ≠ space) ∧
      (∀ label ∈ labels, Label.WellFormed label) ∧ newline ∉ value

theorem readComment_append (line : List UInt8 → List UInt8 → Line) (hname : space ∉ name)
    (htext : newline ∉ text) (rest : List UInt8) :
    readComment line (name ++ space :: (text ++ newline :: rest)) =
      some (line name text, rest) := by
  rw [readComment, upTo_append hname, Option.bind_some]
  simp only [upTo_append htext, Option.map_some]

theorem readSample_name (h : ∀ b ∈ name, b ≠ openBrace ∧ b ≠ space)
    (hmark : mark = openBrace ∨ mark = space) (rest : List UInt8) :
    (name ++ mark :: rest).takeWhile (fun b => b ≠ openBrace ∧ b ≠ space) = name := by
  have hstop : (mark :: rest).takeWhile (fun b => b ≠ openBrace ∧ b ≠ space) = [] := by
    refine List.takeWhile_cons_of_neg ?_
    rw [decide_eq_true_eq]
    exact fun hne => hmark.elim hne.1 hne.2
  rw [List.takeWhile_append_of_pos fun b hb => decide_eq_true (h b hb), hstop, List.append_nil]

theorem readLine_sample {name : List UInt8} (hne : name ≠ []) (hhead : name.head? ≠ some 35)
    (rest : List UInt8) : readLine (name ++ rest) = readSample (name ++ rest) := by
  obtain ⟨b, front, rfl⟩ := List.exists_cons_of_ne_nil hne
  have hb : 35 ≠ b := fun heq => hhead (heq ▸ rfl)
  have hhelp : skip helpStart (b :: (front ++ rest)) = none := skip_cons_ne hb _ _
  have htype : skip typeStart (b :: (front ++ rest)) = none := skip_cons_ne hb _ _
  rw [List.cons_append, readLine, hhelp, htype]

theorem skip_typeStart (rest : List UInt8) : skip helpStart (typeStart ++ rest) = none := by
  rw [Option.eq_none_iff_forall_ne_some]
  intro after hafter
  have hthird : some (84 : UInt8) = some 72 :=
    congrArg (fun text => text[2]?) (skip_eq_some.mp hafter)
  cases hthird

theorem readAs_of_spells (h : line.WellFormed) (hspells : Spells line text) :
    ReadAs readLine line text := by
  cases hspells with
  | @help name text =>
    refine ⟨List.append_ne_nil_of_left_ne_nil (by decide) _, fun rest => ?_⟩
    have hread := readComment_append Line.help h.1 h.2 rest
    rw [List.append_assoc, readLine, skip_append]
    simpa using hread
  | @type name kind =>
    refine ⟨List.append_ne_nil_of_left_ne_nil (by decide) _, fun rest => ?_⟩
    have hread := readComment_append Line.type h.1 h.2 rest
    rw [List.append_assoc, readLine, skip_typeStart, skip_append]
    simpa using hread
  | @sample name labels value =>
    obtain ⟨hne, hhead, hname, hlabels, hvalue⟩ := h
    refine ⟨List.append_ne_nil_of_left_ne_nil hne _, fun rest => ?_⟩
    have hblock := readLabelBlock_append hlabels ([space] ++ (value ++ newline :: rest))
    have htext : name ++ openBrace :: (labelsText labels ++
          closeBrace :: space :: (value ++ [newline])) ++ rest =
        name ++ openBrace :: (labelsText labels ++
          closeBrace :: ([space] ++ (value ++ newline :: rest))) := by simp
    rw [htext, readLine_sample hne hhead, readSample]
    simp only [readSample_name hname (.inl rfl), List.drop_left, if_true, hblock,
      Option.bind_some, skip_append, upTo_append hvalue, Option.map_some]
  | @bare name value =>
    obtain ⟨hne, hhead, hname, -, hvalue⟩ := h
    refine ⟨List.append_ne_nil_of_left_ne_nil hne _, fun rest => ?_⟩
    have hspace : space ≠ openBrace := by decide
    have htext : name ++ space :: (value ++ [newline]) ++ rest =
        name ++ space :: (value ++ newline :: rest) := by simp
    rw [htext, readLine_sample hne hhead, readSample]
    simp only [readSample_name hname (.inr rfl), List.drop_left, hspace, if_false,
      upTo_append hvalue, Option.map_some]

-- ----------------------------------------------------------------------------
-- The bytes of a line
-- ----------------------------------------------------------------------------

def Line.All (p : UInt8 → Prop) : Line → Prop
  | .help name text => (∀ b ∈ name, p b) ∧ ∀ b ∈ text, p b
  | .type name kind => (∀ b ∈ name, p b) ∧ ∀ b ∈ kind, p b
  | .sample name labels value => (∀ b ∈ name, p b) ∧
      (∀ label ∈ labels, (∀ b ∈ label.name, p b) ∧ ∀ b ∈ label.value, p b) ∧ ∀ b ∈ value, p b

theorem Line.All.imp {p q : UInt8 → Prop} {line : Line} (h : line.All p)
    (himp : ∀ b, p b → q b) : line.All q := by
  cases line with
  | help | type => exact ⟨fun b hb => himp b (h.1 b hb), fun b hb => himp b (h.2 b hb)⟩
  | sample =>
    exact ⟨fun b hb => himp b (h.1 b hb), fun label hmem =>
      ⟨fun b hb => himp b ((h.2.1 label hmem).1 b hb), fun b hb =>
        himp b ((h.2.1 label hmem).2 b hb)⟩, fun b hb => himp b (h.2.2 b hb)⟩

def fixedBytes : List UInt8 :=
  helpStart ++ typeStart ++
    [space, newline, quoteMark, comma, equals, backslashMark, 110, openBrace, closeBrace]

section Bytes

variable {p : UInt8 → Prop} (hfixed : ∀ b ∈ fixedBytes, p b)
include hfixed

theorem escape_bytes (hb : p b) : ∀ c ∈ escape b, p c := by
  have hbackslash : p backslashMark := hfixed _ (by decide)
  have hletter : p 110 := hfixed _ (by decide)
  unfold escape
  split_ifs <;> simp [hb, hbackslash, hletter]

theorem Label.text_bytes {label : Label} (hname : ∀ b ∈ label.name, p b)
    (hvalue : ∀ b ∈ label.value, p b) : ∀ b ∈ label.text, p b := by
  have hequals : p equals := hfixed _ (by decide)
  have hquote : p quoteMark := hfixed _ (by decide)
  have hescaped : ∀ b ∈ label.value.flatMap escape, p b := by
    intro b hb
    obtain ⟨c, hc, hb⟩ := List.mem_flatMap.mp hb
    exact escape_bytes hfixed (hvalue c hc) b hb
  simp only [Label.text, List.forall_mem_append, List.forall_mem_cons]
  exact ⟨hname, hequals, hquote, hescaped, hquote, List.forall_mem_nil _⟩

theorem labelsText_bytes {labels : List Label}
    (h : ∀ label ∈ labels, (∀ b ∈ label.name, p b) ∧ ∀ b ∈ label.value, p b) :
    ∀ b ∈ labelsText labels, p b := by
  cases labels with
  | nil => exact List.forall_mem_nil _
  | cons first labels =>
    rw [List.forall_mem_cons] at h
    refine List.forall_mem_append.mpr ⟨first.text_bytes hfixed h.1.1 h.1.2, fun b hb => ?_⟩
    obtain ⟨label, hlabel, hb⟩ := List.mem_flatMap.mp hb
    rcases List.mem_cons.mp hb with rfl | hb
    · exact hfixed _ (by decide)
    · exact label.text_bytes hfixed (h.2 label hlabel).1 (h.2 label hlabel).2 b hb

theorem Spells.bytes (h : Spells line text) (hline : line.All p) : ∀ b ∈ text, p b := by
  have hspace : p space := hfixed _ (by decide)
  have hend : p newline ∧ ∀ b ∈ [], p b := ⟨hfixed _ (by decide), List.forall_mem_nil _⟩
  cases h with
  | help =>
    simp only [List.forall_mem_append, List.forall_mem_cons]
    refine ⟨fun b hb => hfixed b ?_, hline.1, hspace, hline.2, hend⟩
    exact List.mem_append_left _ (List.mem_append_left _ hb)
  | type =>
    simp only [List.forall_mem_append, List.forall_mem_cons]
    refine ⟨fun b hb => hfixed b ?_, hline.1, hspace, hline.2, hend⟩
    exact List.mem_append_left _ (List.mem_append_right _ hb)
  | sample =>
    have hopen : p openBrace := hfixed _ (by decide)
    have hclose : p closeBrace := hfixed _ (by decide)
    simp only [List.forall_mem_append, List.forall_mem_cons]
    exact ⟨hline.1, hopen, labelsText_bytes hfixed hline.2.1, hclose, hspace, hline.2.2, hend⟩
  | bare =>
    simp only [List.forall_mem_append, List.forall_mem_cons]
    exact ⟨hline.1, hspace, hline.2.2, hend⟩

end Bytes

theorem Spells.head (h : Spells line text) (hline : line.WellFormed) :
    text.head? = some 35 ∨ ∃ name labels value, line = .sample name labels value ∧
      text.head? = name.head? := by
  cases h with
  | help | type => exact .inl rfl
  | sample | bare => exact .inr ⟨_, _, _, rfl, List.head?_append_of_ne_nil _ hline.1⟩

-- ----------------------------------------------------------------------------
-- Documents
-- ----------------------------------------------------------------------------

/-- The lines are written one after the other. -/
def Document (lines : List Line) (text : List UInt8) : Prop :=
  ∃ texts, List.Forall₂ Spells lines texts ∧ text = texts.flatten

namespace Document

theorem nil : Document [] [] := ⟨[], .nil, rfl⟩

theorem line (h : Spells one text) : Document [one] text :=
  ⟨[text], .cons h .nil, (List.append_nil text).symm⟩

theorem append (h : Document first front) (h' : Document second back) :
    Document (first ++ second) (front ++ back) := by
  obtain ⟨texts, hspells, rfl⟩ := h
  obtain ⟨texts', hspells', rfl⟩ := h'
  exact ⟨texts ++ texts', List.rel_append hspells hspells', List.flatten_append.symm⟩

theorem flatMap {lines : α → List Line} {text : α → List UInt8} (values : List α)
    (h : ∀ value ∈ values, Document (lines value) (text value)) :
    Document (values.flatMap lines) (values.flatMap text) := by
  induction values with
  | nil => exact nil
  | cons value values ih =>
    rw [List.forall_mem_cons] at h
    exact h.1.append (ih h.2)

theorem map {lineOf : α → Line} {text : α → List UInt8} (values : List α)
    (h : ∀ value ∈ values, Spells (lineOf value) (text value)) :
    Document (values.map lineOf) (values.flatMap text) := by
  have hlines : values.map lineOf = values.flatMap fun value => [lineOf value] :=
    List.map_eq_flatMap
  rw [hlines]
  exact flatMap values fun value hmem => line (h value hmem)

theorem bytes {p : UInt8 → Prop} (h : Document lines text) (hfixed : ∀ b ∈ fixedBytes, p b)
    (hlines : ∀ line ∈ lines, line.All p) : ∀ b ∈ text, p b := by
  obtain ⟨texts, hspells, rfl⟩ := h
  induction hspells with
  | nil => exact List.forall_mem_nil _
  | cons hone _ ih =>
    rw [List.forall_mem_cons] at hlines
    rw [List.flatten_cons, List.forall_mem_append]
    exact ⟨hone.bytes hfixed hlines.1, ih hlines.2⟩

theorem read (h : Document lines text) (hlines : ∀ line ∈ lines, line.WellFormed) :
    read text = some lines := by
  obtain ⟨texts, hspells, rfl⟩ := h
  have hread : List.Forall₂ (ReadAs readLine) lines texts := by
    induction hspells with
    | nil => exact .nil
    | cons hone _ ih =>
      rw [List.forall_mem_cons] at hlines
      exact .cons (readAs_of_spells hlines.1 hone) (ih hlines.2)
  exact many_flatten hread (length_le_flatten hread)

end Document

end Exposition
