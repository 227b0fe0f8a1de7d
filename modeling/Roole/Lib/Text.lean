import Mathlib.Data.List.DropRight
import Mathlib.Data.List.Flatten
import Mathlib.Data.List.Forall2

/-!
# Lines, fields and blanks

What line-oriented readers do to a text: cut it into lines that fit a buffer, cut
a line into fields at a separator, and leave out the blanks around them.
-/

namespace Text

-- ----------------------------------------------------------------------------
-- Blanks
-- ----------------------------------------------------------------------------

def trim (blank : α → Bool) (text : List α) : List α := (text.dropWhile blank).rdropWhile blank

@[simp] theorem trim_nil (blank : α → Bool) : trim blank [] = [] := by simp [trim]

theorem trim_length_le (blank : α → Bool) (text : List α) :
    (trim blank text).length ≤ text.length :=
  (List.rdropWhile_prefix _ _).length_le.trans (List.dropWhile_suffix _).length_le

theorem trim_eq_self (h : ∀ b ∈ text, blank b = false) : trim blank text = text := by
  have hfront : text.dropWhile blank = text := by
    refine List.dropWhile_eq_self_iff.mpr fun hpos => ?_
    simp [h _ (List.getElem_mem hpos)]
  rw [trim, hfront, List.rdropWhile_eq_self_iff]
  intro hne
  simp [h _ (List.getLast_mem hne)]

theorem rdropWhile_append_blanks (text : List α) (h : ∀ b ∈ post, blank b = true) :
    (text ++ post).rdropWhile blank = text.rdropWhile blank := by
  rw [List.rdropWhile, List.reverse_append, List.dropWhile_append_of_pos, List.rdropWhile]
  exact fun b hb => h b (List.mem_reverse.mp hb)

theorem trim_pad (text : List α) (hpre : ∀ b ∈ pre, blank b = true)
    (hpost : ∀ b ∈ post, blank b = true) :
    trim blank (pre ++ text ++ post) = trim blank text := by
  unfold trim
  rw [List.append_assoc, List.dropWhile_append_of_pos hpre, List.dropWhile_append]
  split_ifs with hempty
  · have hpost' : post.dropWhile blank = [] := List.dropWhile_eq_nil_iff.mpr hpost
    rw [hpost', List.isEmpty_iff.mp hempty]
  · exact rdropWhile_append_blanks _ hpost

theorem trim_prepend (text : List α) (hpre : ∀ b ∈ pre, blank b = true) :
    trim blank (pre ++ text) = trim blank text := by
  have hpad : trim blank (pre ++ text ++ []) = trim blank text :=
    trim_pad text hpre fun _ hb => nomatch hb
  rwa [List.append_nil] at hpad

theorem trim_append (text : List α) (hpost : ∀ b ∈ post, blank b = true) :
    trim blank (text ++ post) = trim blank text := by
  have hpad : trim blank ([] ++ text ++ post) = trim blank text :=
    trim_pad text (fun _ hb => nomatch hb) hpost
  rwa [List.nil_append] at hpad

theorem dropWhile_append_mark {front : List α} (hmark : blank mark = false) (rest : List α) :
    (front ++ mark :: rest).dropWhile blank = front.dropWhile blank ++ mark :: rest := by
  induction front with
  | nil => simp [hmark]
  | cons b front ih =>
    rw [List.cons_append, List.dropWhile_cons, List.dropWhile_cons]
    split_ifs
    · exact ih
    · rfl

theorem rdropWhile_append_mark (front : List α) (hmark : blank mark = false) (rest : List α) :
    (front ++ mark :: rest).rdropWhile blank = front ++ mark :: rest.rdropWhile blank := by
  unfold List.rdropWhile
  rw [List.reverse_append, List.reverse_cons, List.append_assoc, List.singleton_append,
    dropWhile_append_mark hmark]
  simp

theorem trim_split (blank : α → Bool) (text : List α) :
    ∃ pre post, (∀ b ∈ pre, blank b = true) ∧ (∀ b ∈ post, blank b = true) ∧
      text = pre ++ trim blank text ++ post := by
  refine ⟨text.takeWhile blank, (text.dropWhile blank).rtakeWhile blank,
    fun b hb => List.mem_takeWhile_imp hb, fun b hb => List.mem_rtakeWhile_imp hb, ?_⟩
  rw [List.append_assoc, trim, List.rdropWhile_append_rtakeWhile,
    List.takeWhile_append_dropWhile]

theorem head_trim (h : trim blank text = b :: front) : blank b = false := by
  have hprefix : trim blank text <+: text.dropWhile blank := List.rdropWhile_prefix _ _
  obtain ⟨rest, hrest⟩ := hprefix
  rw [h] at hrest
  have hhead := List.head?_dropWhile_not blank text
  rw [← hrest] at hhead
  simpa using hhead

theorem trim_mark (text : List α) {gap : List α} (hgap : ∀ b ∈ gap, blank b = true)
    (hmark : blank mark = false) (rest : List α) :
    ∃ mid, (∀ b ∈ mid, blank b = true) ∧
      trim blank (text ++ (gap ++ mark :: rest)) =
        trim blank text ++ (mid ++ mark :: rest.rdropWhile blank) := by
  obtain ⟨pre, post, hpre, hpost, htext⟩ := trim_split blank text
  by_cases hnil : trim blank text = []
  · rw [hnil, List.append_nil] at htext
    have hfront : ∀ b ∈ pre ++ post ++ gap, blank b = true :=
      List.forall_mem_append.mpr ⟨List.forall_mem_append.mpr ⟨hpre, hpost⟩, hgap⟩
    refine ⟨[], List.forall_mem_nil _, ?_⟩
    rw [hnil, htext, ← List.append_assoc, trim_prepend _ hfront, trim,
      List.dropWhile_cons_of_neg (by simp [hmark])]
    exact rdropWhile_append_mark [] hmark rest
  · refine ⟨post ++ gap, List.forall_mem_append.mpr ⟨hpost, hgap⟩, ?_⟩
    have hwhole : text ++ (gap ++ mark :: rest) =
        pre ++ (trim blank text ++ (post ++ gap) ++ mark :: rest) := by
      conv_lhs => rw [htext]
      simp
    obtain ⟨b, front, hfront⟩ := List.exists_cons_of_ne_nil hnil
    rw [hwhole, trim_prepend _ hpre, hfront, trim, List.cons_append, List.cons_append,
      List.dropWhile_cons_of_neg (by simp [head_trim hfront]), ← List.cons_append,
      rdropWhile_append_mark _ hmark]
    simp

theorem trim_padded (htrim : trim blank text = text) (hpre : ∀ b ∈ pre, blank b = true)
    (hpost : ∀ b ∈ post, blank b = true) : trim blank (pre ++ text ++ post) = text :=
  (trim_pad text hpre hpost).trans htrim

theorem not_blank_of_trim (htrim : trim blank (front ++ [b]) = front ++ [b]) : blank b = false := by
  cases hb : blank b with
  | false => rfl
  | true =>
    have hshort : (trim blank (front ++ [b])).length ≤ front.length := by
      rw [trim_append front (by simpa using hb)]
      exact trim_length_le blank front
    rw [htrim, List.length_append, List.length_singleton] at hshort
    exact absurd hshort (Nat.not_succ_le_self _)

section Count

variable {blank solid : α → Bool} {text : List α}

theorem countP_blanks (hsolid : ∀ b, blank b = true → solid b = false)
    (h : ∀ b ∈ text, blank b = true) : text.countP solid = 0 :=
  List.countP_eq_zero.mpr fun b hb => by simp [hsolid b (h b hb)]

theorem countP_dropWhile (hsolid : ∀ b, blank b = true → solid b = false) (text : List α) :
    (text.dropWhile blank).countP solid = text.countP solid := by
  have hsplit := congrArg (List.countP solid)
    (List.takeWhile_append_dropWhile (p := blank) (l := text))
  rw [List.countP_append, countP_blanks hsolid fun b hb => List.mem_takeWhile_imp hb,
    Nat.zero_add] at hsplit
  exact hsplit

theorem countP_trim (hsolid : ∀ b, blank b = true → solid b = false) (text : List α) :
    (trim blank text).countP solid = text.countP solid := by
  rw [trim, List.rdropWhile, List.countP_reverse, countP_dropWhile hsolid, List.countP_reverse,
    countP_dropWhile hsolid]

end Count

-- ----------------------------------------------------------------------------
-- Fields
-- ----------------------------------------------------------------------------

def Padded (blank : α → Bool) (field padded : List α) : Prop :=
  ∃ pre post, (∀ b ∈ pre, blank b = true) ∧ (∀ b ∈ post, blank b = true) ∧
    padded = pre ++ field ++ post

theorem exists_of_forall₂ {R : α → β → Prop} (h : List.Forall₂ R items pieces) :
    ∀ piece ∈ pieces, ∃ item ∈ items, R item piece := by
  induction h with
  | nil => exact fun _ hmem => nomatch hmem
  | cons hpiece _ ih =>
    refine List.forall_mem_cons.mpr ⟨⟨_, List.mem_cons_self, hpiece⟩, fun piece hmem => ?_⟩
    obtain ⟨item, hitem, hrel⟩ := ih piece hmem
    exact ⟨item, List.mem_cons_of_mem _ hitem, hrel⟩

theorem Padded.trim (h : Padded blank field padded) :
    Text.trim blank padded = Text.trim blank field := by
  obtain ⟨pre, post, hpre, hpost, rfl⟩ := h
  exact trim_pad field hpre hpost

theorem Padded.not_mem (h : Padded blank field padded) (hblank : blank b = false)
    (hfield : b ∉ field) : b ∉ padded := by
  obtain ⟨pre, post, hpre, hpost, rfl⟩ := h
  intro hmem
  simp only [List.mem_append] at hmem
  rcases hmem with (hin | hin) | hin
  · exact absurd (hpre b hin) (by simp [hblank])
  · exact hfield hin
  · exact absurd (hpost b hin) (by simp [hblank])

section Fields

variable [BEq α] [LawfulBEq α]

def fields (separator : α) (blank : α → Bool) (text : List α) : List (List α) :=
  ((text.splitOn separator).map (trim blank)).filter (!·.isEmpty)

theorem fields_intercalate {separator : α} {items pieces : List (List α)}
    (hpieces : List.Forall₂ (Padded blank) items pieces)
    (hitems : ∀ item ∈ items, item ≠ [] ∧ trim blank item = item ∧ separator ∉ item)
    (hseparator : blank separator = false) :
    fields separator blank ([separator].intercalate pieces) = items := by
  have hparts : pieces.map (trim blank) = items ∧ ∀ piece ∈ pieces, separator ∉ piece := by
    induction hpieces with
    | nil => exact ⟨rfl, fun _ hmem => nomatch hmem⟩
    | cons hpiece _ ih =>
      obtain ⟨⟨-, htrim, hfree⟩, hrest⟩ := List.forall_mem_cons.mp hitems
      obtain ⟨hmap, hall⟩ := ih hrest
      refine ⟨?_, List.forall_mem_cons.mpr ⟨hpiece.not_mem hseparator hfree, hall⟩⟩
      rw [List.map_cons, hpiece.trim, htrim, hmap]
  have hkeep : items.filter (!·.isEmpty) = items :=
    List.filter_eq_self.mpr fun item hitem => by simpa using (hitems item hitem).1
  unfold fields
  by_cases hnil : pieces = []
  · subst hnil
    cases hpieces
    simp
  · rw [List.splitOn_intercalate separator hparts.2 hnil, hparts.1, hkeep]

omit [LawfulBEq α] in
theorem splitOn_append_cons {separator : α} (text : List α) {post : List α}
    (hpost : post.splitOn separator = first :: others) :
    ∃ front last, text.splitOn separator = front ++ [last] ∧
      (text ++ post).splitOn separator = front ++ (last ++ first) :: others := by
  induction text with
  | nil => exact ⟨[], [], by simp, by simp [hpost]⟩
  | cons b rest ih =>
    obtain ⟨front, last, hsplit, hsplit'⟩ := ih
    rw [List.cons_append, List.splitOn_cons_eq_if_modifyHead, List.splitOn_cons_eq_if_modifyHead,
      hsplit, hsplit']
    split_ifs
    · exact ⟨[] :: front, last, rfl, rfl⟩
    · cases front with
      | nil => exact ⟨[], b :: last, rfl, rfl⟩
      | cons piece front => exact ⟨(b :: piece) :: front, last, rfl, rfl⟩

omit [LawfulBEq α] in
theorem sublist_of_mem_splitOn {separator : α} {text : List α} :
    ∀ piece ∈ text.splitOn separator, piece.Sublist text := by
  induction text with
  | nil => simp
  | cons b rest ih =>
    rw [List.splitOn_cons_eq_if_modifyHead]
    split_ifs
    · exact List.forall_mem_cons.mpr
        ⟨List.nil_sublist _, fun piece hpiece => (ih piece hpiece).cons b⟩
    · obtain ⟨first, pieces, hpieces⟩ :=
        List.exists_cons_of_ne_nil (List.splitOn_ne_nil separator rest)
      rw [hpieces] at ih ⊢
      obtain ⟨hfirst, hothers⟩ := List.forall_mem_cons.mp ih
      exact List.forall_mem_cons.mpr
        ⟨hfirst.cons_cons b, fun piece hpiece => (hothers piece hpiece).cons b⟩

theorem splitOn_append {separator : α} (text : List α) (hfree : separator ∉ post) :
    ∃ front last, text.splitOn separator = front ++ [last] ∧
      (text ++ post).splitOn separator = front ++ [last ++ post] :=
  splitOn_append_cons text (List.splitOn_eq_singleton hfree)

theorem splitOn_prepend {separator : α} (text : List α) (hfree : separator ∉ pre) :
    (pre ++ text).splitOn separator = (text.splitOn separator).modifyHead (pre ++ ·) := by
  induction pre with
  | nil => cases h : text.splitOn separator <;> simp [h]
  | cons b pre ih =>
    rw [List.mem_cons, not_or] at hfree
    have hb : (b == separator) = false := beq_false_of_ne (Ne.symm hfree.1)
    rw [List.cons_append, List.splitOn_cons_eq_if_modifyHead, hb, ih hfree.2,
      List.modifyHead_modifyHead]
    rfl

theorem fields_pad {separator : α} (text : List α) (hpre : ∀ b ∈ pre, blank b = true)
    (hpost : ∀ b ∈ post, blank b = true) (hseparator : blank separator = false) :
    fields separator blank (pre ++ text ++ post) = fields separator blank text := by
  have hfree : separator ∉ pre := fun hmem => by simp [hpre separator hmem] at hseparator
  have hfree' : separator ∉ post := fun hmem => by simp [hpost separator hmem] at hseparator
  obtain ⟨front, last, hsplit, hsplit'⟩ := splitOn_append text hfree'
  rw [fields, fields, List.append_assoc, splitOn_prepend _ hfree, hsplit, hsplit']
  cases front with
  | nil => simp [trim_prepend _ hpre, trim_append last hpost]
  | cons first front => simp [trim_prepend first hpre, trim_append last hpost]

theorem fields_append {separator : α} (text : List α) (hpost : ∀ b ∈ post, blank b = true)
    (hseparator : blank separator = false) :
    fields separator blank (text ++ post) = fields separator blank text := by
  have hpad : fields separator blank ([] ++ text ++ post) = fields separator blank text :=
    fields_pad text (fun _ hb => nomatch hb) hpost hseparator
  rwa [List.nil_append] at hpad

theorem fields_trim {separator : α} (text : List α) (hseparator : blank separator = false) :
    fields separator blank (trim blank text) = fields separator blank text := by
  obtain ⟨pre, post, hpre, hpost, htext⟩ := trim_split blank text
  rw [htext, ← htext, eq_comm]
  exact (congrArg _ htext).trans (fields_pad _ hpre hpost hseparator)

theorem countP_splitOn {separator : α} {solid : α → Bool} (hseparator : solid separator = false)
    (text : List α) : (text.splitOn separator).flatten.countP solid = text.countP solid := by
  induction text with
  | nil => simp
  | cons b rest ih =>
    rw [List.splitOn_cons_eq_if_modifyHead]
    split_ifs with hb
    · rw [List.flatten_cons, List.nil_append, ih, eq_of_beq hb,
        List.countP_cons_of_neg (by simp [hseparator])]
    · obtain ⟨first, pieces, hpieces⟩ :=
        List.exists_cons_of_ne_nil (List.splitOn_ne_nil separator rest)
      rw [hpieces] at ih ⊢
      rw [List.modifyHead_cons, List.flatten_cons, List.cons_append, ← List.flatten_cons,
        List.countP_cons, List.countP_cons, ih]

theorem countP_fields {separator : α} {solid : α → Bool}
    (hsolid : ∀ b, blank b = true → solid b = false) (hseparator : solid separator = false)
    (text : List α) : (fields separator blank text).flatten.countP solid = text.countP solid := by
  rw [fields, List.flatten_filter_not_isEmpty, ← countP_splitOn hseparator text,
    List.countP_flatten, List.countP_flatten, List.map_map]
  congr 2
  funext piece
  exact countP_trim hsolid piece

end Fields

theorem intercalate_getLast (separator : List α) {pieces : List (List α)} (h : pieces ≠ []) :
    ∃ front, separator.intercalate pieces = front ++ pieces.getLast h := by
  induction pieces with
  | nil => exact absurd rfl h
  | cons piece rest ih =>
    cases rest with
    | nil => exact ⟨[], by simp⟩
    | cons next rest =>
      obtain ⟨front, hfront⟩ := ih (List.cons_ne_nil _ _)
      refine ⟨piece ++ separator ++ front, ?_⟩
      rw [List.getLast_cons (List.cons_ne_nil _ _), List.append_assoc, ← hfront]
      simp [List.intercalate]

-- ----------------------------------------------------------------------------
-- Lines
-- ----------------------------------------------------------------------------

section Lines

variable [DecidableEq α]

/-- The lines of a text as a reader takes them that gets at most `size` symbols at
once, each with its newline; `line` is what was read of the first one. -/
def readLines (newline : α) (size : Nat) (line : List α) : List α → List (List α)
  | [] => if line = [] then [] else [line]
  | b :: rest =>
    if b = newline ∨ (line ++ [b]).length = size then
      (line ++ [b]) :: readLines newline size [] rest
    else readLines newline size (line ++ [b]) rest

theorem readLines_line {newline : α} {front line : List α} (hfree : newline ∉ line)
    (hsize : (front ++ line).length < size) (rest : List α) :
    readLines newline size front (line ++ newline :: rest) =
      (front ++ line ++ [newline]) :: readLines newline size [] rest := by
  induction line generalizing front with
  | nil => simp [readLines]
  | cons b line ih =>
    rw [List.mem_cons, not_or] at hfree
    obtain ⟨hb, hline⟩ := hfree
    have hmore : ¬ (b = newline ∨ (front ++ [b]).length = size) := by
      simp only [List.length_append, List.length_cons, List.length_nil] at hsize ⊢
      rintro (rfl | hfull)
      · exact hb rfl
      · omega
    rw [List.cons_append, readLines, if_neg hmore, ih hline]
    · simp
    · simpa using hsize

theorem readLines_append {newline : α} (line text rest : List α) :
    readLines newline size line (text ++ newline :: rest) =
      readLines newline size line (text ++ [newline]) ++ readLines newline size [] rest := by
  induction text generalizing line with
  | nil => simp [readLines]
  | cons b text ih =>
    rw [List.cons_append, List.cons_append, readLines, readLines]
    split_ifs
    · rw [ih, List.cons_append]
    · exact ih (line ++ [b])

theorem readLines_last {newline : α} {front line : List α} (hfree : newline ∉ line)
    (hsize : (front ++ line).length < size) :
    readLines newline size front line = if front ++ line = [] then [] else [front ++ line] := by
  induction line generalizing front with
  | nil => simp [readLines]
  | cons b line ih =>
    rw [List.mem_cons, not_or] at hfree
    obtain ⟨hb, hline⟩ := hfree
    have hmore : ¬ (b = newline ∨ (front ++ [b]).length = size) := by
      simp only [List.length_append, List.length_cons, List.length_nil] at hsize ⊢
      rintro (rfl | hfull)
      · exact hb rfl
      · omega
    rw [readLines, if_neg hmore, ih hline (by simpa using hsize)]
    simp

/-- What a loop over the lines does that takes a line with and without its newline
alike, and nothing for an empty one. -/
theorem foldl_readLines {newline : α} {step : σ → List α → σ} {lines : List (List α)}
    (hlines : ∀ line ∈ lines, newline ∉ line ∧ line.length < size)
    (hstep : ∀ state, ∀ line ∈ lines, step state (line ++ [newline]) = step state line)
    (hempty : ∀ state, step state [] = state) (state : σ) :
    (readLines newline size [] ([newline].intercalate lines)).foldl step state =
      lines.foldl step state := by
  induction lines generalizing state with
  | nil => simp [readLines]
  | cons line rest ih =>
    obtain ⟨⟨hfree, hsize⟩, hrest⟩ := List.forall_mem_cons.mp hlines
    cases rest with
    | nil =>
      rw [List.intercalate_singleton, readLines_last hfree hsize]
      by_cases hline : line = []
      · simp [hline, hempty]
      · simp [hline]
    | cons next rest =>
      have htext : [newline].intercalate (line :: next :: rest) =
          line ++ newline :: [newline].intercalate (next :: rest) := by
        simp [List.intercalate]
      rw [htext, readLines_line hfree hsize, List.foldl_cons, List.foldl_cons,
        ih hrest fun state line hline => hstep state line (List.mem_cons_of_mem _ hline),
        List.nil_append, hstep state line List.mem_cons_self]

end Lines

end Text
