import Roole.Core.ConfigRendering

/-!
# Comments behind a value

The loader knows comments only as lines of their own: what stands behind the `=` up
to the end of the line is the value, also from a `#` on. For most settings it makes
a difference to the configuration unless a later line sets them again.
-/

namespace Roole

-- ----------------------------------------------------------------------------
-- What a line is about
-- ----------------------------------------------------------------------------

def settingOf (currentSection key : List UInt8) : Option Setting :=
  if sameText currentSection (chars "Cluster") then
    if sameText key (chars "name") then some .name
    else if sameText key (chars "routers") then some .routers
    else none
  else if sameText currentSection (chars "Node") then
    if sameText key (chars "id") then some .id
    else if sameText key (chars "type") then some .type
    else if sameText key (chars "gossip_addr") || sameText key (chars "gossip") then some .gossip
    else if sameText key (chars "data_addr") || sameText key (chars "data") then some .data
    else if sameText key (chars "ingress_addr") || sameText key (chars "ingress") then
      some .ingress
    else if sameText key (chars "metrics_addr") || sameText key (chars "metrics") then
      some .metrics
    else none
  else if sameText currentSection (chars "Logging") then
    if sameText key (chars "level") then some .level else none
  else none

/-- The setting that a line sets in a section. -/
def lineSetting (currentSection line : List UInt8) : Option Setting :=
  if isComment line then none
  else
    match isSection line 64 with
    | some _ => none
    | none =>
      match parseKeyValue line maxConfigString with
      | some (key, _) => settingOf currentSection key
      | none => none

def sectionAfter (currentSection line : List UInt8) : List UInt8 :=
  if isComment line then currentSection else (isSection line 64).getD currentSection

def lineOf (buffer : List UInt8) : List UInt8 :=
  let line := cString buffer
  if line.getLast? = some 10 then line.dropLast else line

def sectionAt (text : List UInt8) : List UInt8 :=
  (Text.readLines 10 1023 [] text).foldl (fun name buffer => sectionAfter name (lineOf buffer)) []

def SetLater (setting : Setting) : List UInt8 → List (List UInt8) → Prop
  | _, [] => False
  | currentSection, buffer :: rest =>
    lineSetting currentSection (lineOf buffer) = some setting ∨
      SetLater setting (sectionAfter currentSection (lineOf buffer)) rest

-- ----------------------------------------------------------------------------
-- Comments
-- ----------------------------------------------------------------------------

/-- A line with a key and a value in a file: it has a `=`, and is neither a comment
nor starts like a section. -/
structure EntryLine where
  before : List UInt8
  line : List UInt8
  behind : List UInt8
  starts : before = [] ∨ before.getLast? = some 10
  ends : behind = [] ∨ behind.head? = some 10
  plain : 10 ∉ line ∧ 0 ∉ line
  equals : UInt8.ofNat '='.toNat ∈ line
  noComment : isComment line = false
  noHeader : (line.dropWhile isSpace).head? ≠ some (.ofNat '['.toNat)

/-- A comment behind a value, with the blanks before it. -/
structure TrailingComment where
  blanks : List UInt8
  text : List UInt8
  isBlank : ∀ b ∈ blanks, isSpace b = true
  plain : 10 ∉ blanks ++ text ∧ 0 ∉ blanks ++ text

namespace EntryLine

def file (entry : EntryLine) : List UInt8 := entry.before ++ entry.line ++ entry.behind

end EntryLine

def TrailingComment.bytes (comment : TrailingComment) : List UInt8 :=
  comment.blanks ++ .ofNat '#'.toNat :: comment.text

namespace EntryLine

def commented (entry : EntryLine) (comment : TrailingComment) : List UInt8 :=
  entry.before ++ (entry.line ++ comment.bytes) ++ entry.behind

def value (entry : EntryLine) : List UInt8 :=
  (entry.line.dropWhile (· ≠ .ofNat '='.toNat)).drop 1

def setting (entry : EntryLine) : Option Setting :=
  lineSetting (sectionAt entry.before) entry.line

end EntryLine

def closedItems (value : List UInt8) : List (List UInt8) :=
  ((value.splitOn (.ofNat ';'.toNat)).dropLast.map trimWhitespace).filter (!·.isEmpty)

/-- A comment behind the value is nothing to the setting. -/
def Setting.Ignores (value : List UInt8) : Setting → Prop
  | .id => True
  | .type => parseNodeType (trimWhitespace value) = .unknown
  | .level => parseLogLevel (trimWhitespace value) = .info
  | .routers => maxConfigRouters ≤ (closedItems value).length
  | _ => False

/-- The line sets nothing, or something that a comment is nothing to, or that is
set again. -/
def EntryLine.Ignores (entry : EntryLine) : Prop :=
  ∀ setting ∈ entry.setting,
    setting.Ignores entry.value ∨
      SetLater setting (sectionAt entry.before) (Text.readLines 10 1023 [] (entry.behind.drop 1))

-- ----------------------------------------------------------------------------
-- One line
-- ----------------------------------------------------------------------------

theorem configEntry_eq (currentSection key value : List UInt8) (config : RooleConfig) :
    configEntry currentSection key value config =
      match settingOf currentSection key with
      | some setting => config.set setting (.ofValue value)
      | none => config := by
  unfold configEntry settingOf
  split_ifs <;> rfl

theorem read_section (loader : ConfigLoader) (buffer : List UInt8) :
    (loader.read buffer).currentSection = sectionAfter loader.currentSection (lineOf buffer) := by
  show (loader.line (lineOf buffer)).currentSection = _
  unfold ConfigLoader.line sectionAfter
  split_ifs
  · rfl
  · cases isSection (lineOf buffer) 64 with
    | some name => rfl
    | none =>
      cases parseKeyValue (lineOf buffer) maxConfigString <;> rfl

theorem read_get (buffer : List UInt8) :
    ∃ source : RooleConfig, ∀ (loader : ConfigLoader) setting,
      (loader.read buffer).config.get setting =
        if lineSetting loader.currentSection (lineOf buffer) = some setting then source.get setting
        else loader.config.get setting := by
  refine ⟨.ofValue (((parseKeyValue (lineOf buffer) maxConfigString).map Prod.snd).getD []),
    fun loader setting => ?_⟩
  show (loader.line (lineOf buffer)).config.get setting = _
  unfold ConfigLoader.line lineSetting
  cases isComment (lineOf buffer) with
  | true => rfl
  | false =>
    cases isSection (lineOf buffer) 64 with
    | some name => rfl
    | none =>
      cases parseKeyValue (lineOf buffer) maxConfigString with
      | none => rfl
      | some entry =>
        simp only [Bool.false_eq_true, if_false, configEntry_eq, Option.map_some, Option.getD_some]
        cases settingOf loader.currentSection entry.1 with
        | none => rfl
        | some own =>
          simp only [RooleConfig.get_set, Option.some_inj, eq_comm]

-- ----------------------------------------------------------------------------
-- The lines behind
-- ----------------------------------------------------------------------------

structure AgreeBut (setting : Setting) (loader other : ConfigLoader) : Prop where
  currentSection : loader.currentSection = other.currentSection
  config : ∀ s ≠ setting, loader.config.get s = other.config.get s

theorem AgreeBut.config_eq_iff (h : AgreeBut setting loader other) :
    loader.config = other.config ↔ loader.config.get setting = other.config.get setting := by
  refine ⟨fun heq => by rw [heq], fun heq => RooleConfig.ext_get fun s => ?_⟩
  by_cases hs : s = setting
  · rw [hs, heq]
  · exact h.config s hs

theorem AgreeBut.read (h : AgreeBut setting loader other) (buffer : List UInt8) :
    AgreeBut setting (loader.read buffer) (other.read buffer) := by
  obtain ⟨source, hget⟩ := read_get buffer
  constructor
  · rw [read_section, read_section, h.currentSection]
  · intro s hs
    rw [hget, hget, h.currentSection, h.config s hs]

theorem foldl_read_eq_iff (h : AgreeBut setting loader other) (buffers : List (List UInt8)) :
    (buffers.foldl ConfigLoader.read loader).config =
        (buffers.foldl ConfigLoader.read other).config ↔
      loader.config.get setting = other.config.get setting ∨
        SetLater setting loader.currentSection buffers := by
  induction buffers generalizing loader other with
  | nil =>
    rw [List.foldl_nil, List.foldl_nil, h.config_eq_iff]
    exact (or_iff_left id).symm
  | cons buffer rest ih =>
    obtain ⟨source, hget⟩ := read_get buffer
    rw [List.foldl_cons, List.foldl_cons, ih (h.read buffer), hget, hget, ← h.currentSection,
      read_section, SetLater]
    by_cases hsets : lineSetting loader.currentSection (lineOf buffer) = some setting
    · simp [hsets]
    · simp [hsets]

theorem foldl_read_section (buffers : List (List UInt8)) (loader : ConfigLoader) :
    (buffers.foldl ConfigLoader.read loader).currentSection =
      buffers.foldl (fun name buffer => sectionAfter name (lineOf buffer))
        loader.currentSection := by
  induction buffers generalizing loader with
  | nil => rfl
  | cons buffer rest ih => rw [List.foldl_cons, List.foldl_cons, ih, read_section]

-- ----------------------------------------------------------------------------
-- The loader's result
-- ----------------------------------------------------------------------------

def loaded (text : List UInt8) : ConfigLoader :=
  (Text.readLines 10 1023 [] text).foldl ConfigLoader.read ⟨[], .zero⟩

theorem configLoad_eq_iff (text text' : List UInt8) (config : RooleConfig) :
    configLoadFromFile (some text) config = configLoadFromFile (some text') config ↔
      (loaded text).config = (loaded text').config := by
  have hconfig : ∀ text, (configLoadFromFile (some text) config).2 = (loaded text).config := by
    intro text
    unfold configLoadFromFile loaded
    dsimp only
    split_ifs <;> rfl
  constructor
  · intro h
    rw [← hconfig text, ← hconfig text', h]
  · intro h
    unfold loaded at h
    unfold configLoadFromFile
    dsimp only
    rw [h]

theorem loaded_section (text : List UInt8) : (loaded text).currentSection = sectionAt text :=
  foldl_read_section _ _

theorem loaded_line {before line behind : List UInt8}
    (hstarts : before = [] ∨ before.getLast? = some 10)
    (hends : behind = [] ∨ behind.head? = some 10) (hplain : 10 ∉ line ∧ 0 ∉ line)
    (hne : line ≠ []) (hshort : line.length < 256) :
    loaded (before ++ line ++ behind) =
      (Text.readLines 10 1023 [] (behind.drop 1)).foldl ConfigLoader.read
        ((loaded before).line line) := by
  have hfits : ([] ++ line).length < 1023 := by
    rw [List.nil_append]
    omega
  have hlines : (Text.readLines 10 1023 [] (line ++ behind)).foldl ConfigLoader.read
      (loaded before) = (Text.readLines 10 1023 [] (behind.drop 1)).foldl ConfigLoader.read
        ((loaded before).line line) := by
    rcases hends with rfl | hhead
    · rw [List.append_nil, Text.readLines_last hplain.1 hfits, List.nil_append, if_neg hne,
        List.foldl_cons, read_last _ hplain.2 hplain.1]
      rfl
    · obtain ⟨rest, rfl⟩ := List.head?_eq_some_iff.mp hhead
      rw [Text.readLines_line hplain.1 hfits, List.foldl_cons, List.nil_append,
        read_line _ hplain.2]
      rfl
  rw [← hlines]
  rcases hstarts with rfl | hlast
  · rfl
  · obtain ⟨front, rfl⟩ := List.getLast?_eq_some_iff.mp hlast
    unfold loaded
    rw [List.append_assoc, List.append_assoc, List.singleton_append, Text.readLines_append,
      List.foldl_append]

-- ----------------------------------------------------------------------------
-- The value with the comment
-- ----------------------------------------------------------------------------

def hash : UInt8 := .ofNat '#'.toNat

theorem trim_comment (value : List UInt8) (comment : TrailingComment) :
    ∃ mid text, (∀ b ∈ mid, isSpace b = true) ∧
      trimWhitespace (value ++ comment.bytes) = trimWhitespace value ++ (mid ++ hash :: text) := by
  have hmark : isSpace hash = false := by decide
  obtain ⟨mid, hmid, htrim⟩ := Text.trim_mark value comment.isBlank hmark comment.text
  exact ⟨mid, _, hmid, htrim⟩

theorem hash_mem_comment (value : List UInt8) (comment : TrailingComment) :
    hash ∈ trimWhitespace (value ++ comment.bytes) := by
  obtain ⟨mid, text, -, htrim⟩ := trim_comment value comment
  rw [htrim]
  simp

theorem trim_comment_ne (value : List UInt8) (comment : TrailingComment) :
    trimWhitespace (value ++ comment.bytes) ≠ trimWhitespace value := by
  obtain ⟨mid, text, -, htrim⟩ := trim_comment value comment
  intro heq
  rw [htrim] at heq
  have hnil := List.append_right_eq_self.mp heq
  cases mid <;> cases hnil

theorem not_sameText_of_mem (name : List UInt8) (hmem : b ∈ word)
    (hname : toLower b ∉ name.map toLower) : sameText word name = false := by
  rw [← Bool.not_eq_true, sameText_iff]
  intro hsame
  exact hname (hsame ▸ List.mem_map_of_mem hmem)

theorem parseNodeType_comment (value : List UInt8) (comment : TrailingComment) :
    parseNodeType (trimWhitespace (value ++ comment.bytes)) = .unknown := by
  have hmem := hash_mem_comment value comment
  have hrouter := not_sameText_of_mem (chars "ROUTER") hmem (by decide)
  have hworker := not_sameText_of_mem (chars "WORKER") hmem (by decide)
  rw [parseNodeType, hrouter, hworker]
  rfl

theorem parseLogLevel_comment (value : List UInt8) (comment : TrailingComment) :
    parseLogLevel (trimWhitespace (value ++ comment.bytes)) = .info := by
  have hmem := hash_mem_comment value comment
  have hdebug := not_sameText_of_mem (chars "DEBUG") hmem (by decide)
  have hinfo := not_sameText_of_mem (chars "INFO") hmem (by decide)
  have hwarn := not_sameText_of_mem (chars "WARN") hmem (by decide)
  have herror := not_sameText_of_mem (chars "ERROR") hmem (by decide)
  rw [parseLogLevel, hdebug, hinfo, hwarn, herror]
  rfl

theorem not_digit_of_space (h : isSpace b = true) : ¬Decimal.IsDigit b := by
  rintro ⟨hlow, -⟩
  rcases of_decide_eq_true h with rfl | ⟨-, hhigh⟩
  · exact absurd hlow (by decide)
  · exact absurd (UInt8.le_trans hlow hhigh) (by decide)

theorem leadingNumber_comment (value : List UInt8) (comment : TrailingComment) :
    leadingNumber (trimWhitespace (value ++ comment.bytes)) =
      leadingNumber (trimWhitespace value) := by
  obtain ⟨mid, text, hmid, htrim⟩ := trim_comment value comment
  have hrest : ∀ b ∈ (mid ++ hash :: text).head?, ¬Decimal.IsDigit b := by
    cases mid with
    | nil =>
      rintro b ⟨⟩
      decide
    | cons first mid =>
      rintro b ⟨⟩
      exact not_digit_of_space (hmid _ List.mem_cons_self)
  rw [htrim]
  cases hvalue : trimWhitespace value with
  | nil =>
    have hdrop : (mid ++ hash :: text).dropWhile (fun b => decide (IsSpace b)) = hash :: text := by
      rw [List.dropWhile_append_of_pos (p := fun b => decide (IsSpace b)) hmid]
      exact List.dropWhile_cons_of_neg (by decide)
    have hhash : ∀ b ∈ (hash :: text).head?, ¬Decimal.IsDigit b := by
      rintro b ⟨⟩
      decide
    have hread := Decimal.read_append hhash []
    rw [List.nil_append] at hread ⊢
    unfold leadingNumber
    rw [hdrop]
    simp only [if_neg (show ¬hash = .ofNat '-'.toNat by decide),
      if_neg (show ¬hash = .ofNat '+'.toNat by decide), hread]
    rfl
  | cons b word =>
    have hb : isSpace b = false := Text.head_trim hvalue
    have hself : ∀ more, (b :: more).dropWhile (fun b => decide (IsSpace b)) = b :: more :=
      fun more => List.dropWhile_cons_of_neg (by simpa [isSpace] using hb)
    have hword := Decimal.read_append hrest word
    have hall := Decimal.read_append hrest (b :: word)
    unfold leadingNumber
    rw [List.cons_append] at hall ⊢
    rw [hself, hself]
    simp only [hword, hall]

theorem atoi_comment (value : List UInt8) (comment : TrailingComment) :
    atoi (trimWhitespace (value ++ comment.bytes)) = atoi (trimWhitespace value) := by
  rw [atoi, strtol, leadingNumber_comment]
  rfl

theorem copy_text_eq (hzero : 0 ∉ value) (hshort : value.length < 256) :
    (ConfigString.copy value).text = value :=
  (safeStrncpy_eq_cString hshort).trans (cString_eq_self hzero)

theorem trim_sublist (value : List UInt8) : (trimWhitespace value).Sublist value :=
  (List.rdropWhile_prefix _ _).sublist.trans (List.dropWhile_suffix _).sublist

theorem copy_trim_text {text : List UInt8} (hpart : part.Sublist text) (hzero : 0 ∉ text)
    (hshort : text.length < 256) :
    (ConfigString.copy (trimWhitespace part)).text = trimWhitespace part :=
  have hsub := (trim_sublist part).trans hpart
  copy_text_eq (fun hmem => hzero (hsub.subset hmem)) (hsub.length_le.trans_lt hshort)

theorem copy_comment_ne {comment : TrailingComment} {text : List UInt8}
    (hpart : (part ++ comment.bytes).Sublist text)
    (hzero : 0 ∉ text) (hshort : text.length < 256) :
    ConfigString.copy (trimWhitespace (part ++ comment.bytes)) ≠
      ConfigString.copy (trimWhitespace part) := by
  intro heq
  have hpart' : part.Sublist text := (List.sublist_append_left _ _).trans hpart
  have htext := congrArg ConfigString.text heq
  rw [copy_trim_text hpart hzero hshort, copy_trim_text hpart' hzero hshort] at htext
  exact trim_comment_ne part comment htext

theorem splitOn_comment (value : List UInt8) (comment : TrailingComment) :
    ∃ (front : List (List UInt8)) (last : List UInt8) (part : TrailingComment)
      (others : List (List UInt8)),
      value.splitOn (.ofNat ';'.toNat) = front ++ [last] ∧
      (value ++ comment.bytes).splitOn (.ofNat ';'.toNat) =
        front ++ (last ++ part.bytes) :: others := by
  obtain ⟨first, others, hsplit⟩ := List.exists_cons_of_ne_nil
    (List.splitOn_ne_nil (UInt8.ofNat ';'.toNat) comment.text)
  have hsub : first.Sublist comment.text :=
    Text.sublist_of_mem_splitOn first (hsplit ▸ List.mem_cons_self)
  have hall := (List.Sublist.refl comment.blanks).append hsub
  let part : TrailingComment :=
    { blanks := comment.blanks
      text := first
      isBlank := comment.isBlank
      plain := ⟨fun h => comment.plain.1 (hall.subset h),
        fun h => comment.plain.2 (hall.subset h)⟩ }
  have hfree : UInt8.ofNat ';'.toNat ∉ comment.blanks ++ [hash] := by
    rw [List.mem_append, not_or]
    refine ⟨fun h => ?_, by decide⟩
    exact absurd (comment.isBlank _ h) (by decide)
  have hpieces : comment.bytes.splitOn (.ofNat ';'.toNat) = part.bytes :: others := by
    have hprepend := Text.splitOn_prepend comment.text hfree
    rw [hsplit, List.append_assoc, List.modifyHead_cons, List.append_assoc] at hprepend
    exact hprepend
  obtain ⟨front, last, hvalue, hboth⟩ := Text.splitOn_append_cons value hpieces
  exact ⟨front, last, part, others, hvalue, hboth⟩

theorem parseList_trim (hshort : value.length < 256) :
    parseList (trimWhitespace value) maxConfigRouters =
      ((Text.fields (.ofNat ';'.toNat) isSpace value).take maxConfigRouters).map .copy := by
  have hlength := (trim_sublist value).length_le
  rw [parseList_eq (by omega), trimWhitespace, Text.fields_trim _ (by decide)]

theorem fields_comment (value : List UInt8) (comment : TrailingComment) :
    ∃ (last : List UInt8) (part : TrailingComment) (more : List (List UInt8)),
      (last ++ part.bytes).Sublist (value ++ comment.bytes) ∧
      Text.fields (.ofNat ';'.toNat) isSpace value =
        closedItems value ++ [trimWhitespace last].filter (!·.isEmpty) ∧
      Text.fields (.ofNat ';'.toNat) isSpace (value ++ comment.bytes) =
        closedItems value ++ trimWhitespace (last ++ part.bytes) :: more := by
  obtain ⟨front, last, part, others, hvalue, hboth⟩ := splitOn_comment value comment
  have hclosed : closedItems value = (front.map trimWhitespace).filter (!·.isEmpty) := by
    rw [closedItems, hvalue, List.dropLast_concat]
  have hkept : trimWhitespace (last ++ part.bytes) ≠ [] :=
    List.ne_nil_of_mem (hash_mem_comment last part)
  refine ⟨last, part, (others.map trimWhitespace).filter (!·.isEmpty), ?_, ?_, ?_⟩
  · exact Text.sublist_of_mem_splitOn _ (hboth ▸ List.mem_append_right _ List.mem_cons_self)
  · rw [hclosed, Text.fields, hvalue, List.map_append, List.filter_append]
    rfl
  · rw [hclosed, Text.fields, hboth, List.map_append, List.filter_append, List.map_cons,
      List.filter_cons_of_pos (by simpa [trimWhitespace] using hkept)]
    rfl

theorem parseList_comment_iff (value : List UInt8) (comment : TrailingComment)
    (hzero : 0 ∉ value ++ comment.bytes) (hshort : (value ++ comment.bytes).length < 256) :
    parseList (trimWhitespace (value ++ comment.bytes)) maxConfigRouters =
        parseList (trimWhitespace value) maxConfigRouters ↔
      maxConfigRouters ≤ (closedItems value).length := by
  obtain ⟨last, part, more, hpart, hfields, hfields'⟩ := fields_comment value comment
  have hcopies := copy_comment_ne hpart hzero hshort
  have hvalueShort : value.length < 256 := by
    rw [List.length_append] at hshort
    omega
  rw [parseList_trim hshort, parseList_trim hvalueShort, hfields, hfields']
  constructor
  · intro heq
    by_contra hroom
    rw [Nat.not_le] at hroom
    have hat := congrArg (·[(closedItems value).length]?) heq
    simp only [List.getElem?_map, List.getElem?_take_of_lt hroom, List.getElem?_append_right,
      Nat.le_refl, Nat.sub_self, List.getElem?_cons_zero, Option.map_some] at hat
    cases hlast : (trimWhitespace last).isEmpty with
    | true => simp [hlast] at hat
    | false =>
      simp only [hlast, Bool.not_false, List.filter_cons_of_pos, List.getElem?_cons_zero,
        Option.map_some, Option.some_inj] at hat
      exact hcopies hat
  · intro hfull
    rw [List.take_append_of_le_length hfull, List.take_append_of_le_length hfull]

theorem get_comment_iff (setting : Setting) (value : List UInt8) (comment : TrailingComment)
    (hzero : 0 ∉ value ++ comment.bytes) (hshort : (value ++ comment.bytes).length < 256) :
    (RooleConfig.ofValue (trimWhitespace (value ++ comment.bytes))).get setting =
        (RooleConfig.ofValue (trimWhitespace value)).get setting ↔ setting.Ignores value := by
  have hcopy := copy_comment_ne (List.Sublist.refl (value ++ comment.bytes)) hzero hshort
  cases setting with
  | name | gossip | data | ingress | metrics =>
    exact iff_of_false (fun h => hcopy (ConfigValue.text.inj h)) id
  | routers =>
    refine Iff.trans ?_ (parseList_comment_iff value comment hzero hshort)
    exact ⟨ConfigValue.texts.inj, congrArg ConfigValue.texts⟩
  | id =>
    refine iff_of_true (congrArg ConfigValue.nodeId ?_) trivial
    exact congrArg (fun n : Int32 => UInt16.ofInt n.toInt) (atoi_comment value comment)
  | type =>
    refine Iff.trans ⟨ConfigValue.nodeType.inj, congrArg ConfigValue.nodeType⟩ ?_
    show parseNodeType _ = parseNodeType _ ↔ _
    rw [parseNodeType_comment]
    exact eq_comm
  | level =>
    refine Iff.trans ⟨ConfigValue.logLevel.inj, congrArg ConfigValue.logLevel⟩ ?_
    show parseLogLevel _ = parseLogLevel _ ↔ _
    rw [parseLogLevel_comment]
    exact eq_comm

-- ----------------------------------------------------------------------------
-- The line with the comment
-- ----------------------------------------------------------------------------

theorem line_append (hcomment : isComment line = false)
    (hheader : (line.dropWhile isSpace).head? ≠ some (.ofNat '['.toNat)) (more : List UInt8) :
    isComment (line ++ more) = false ∧ isSection (line ++ more) 64 = none := by
  unfold isComment isSection at *
  rw [List.dropWhile_append]
  cases hfront : line.dropWhile isSpace with
  | nil => simp [hfront] at hcomment
  | cons b rest =>
    rw [hfront] at hcomment hheader
    have hb : b ≠ .ofNat '['.toNat := fun h => hheader (congrArg some h)
    simp only [List.isEmpty_cons, Bool.false_eq_true, if_false, List.cons_append]
    exact ⟨hcomment, if_pos hb⟩

namespace EntryLine

variable (entry : EntryLine)

def key : List UInt8 := entry.line.takeWhile (· ≠ .ofNat '='.toNat)

theorem line_eq : entry.line = entry.key ++ .ofNat '='.toNat :: entry.value := by
  have hsplit := List.takeWhile_append_dropWhile (p := (· ≠ UInt8.ofNat '='.toNat))
    (l := entry.line)
  cases hdrop : entry.line.dropWhile (· ≠ .ofNat '='.toNat) with
  | nil =>
    have hall := List.dropWhile_eq_nil_iff.mp hdrop _ entry.equals
    simp at hall
  | cons b rest =>
    have hhead := List.head?_dropWhile_not (· ≠ UInt8.ofNat '='.toNat) entry.line
    rw [hdrop] at hhead
    have hb : b = .ofNat '='.toNat := by simpa using hhead
    have hvalue : entry.value = rest := by rw [value, hdrop, List.drop_one, List.tail_cons]
    rw [hb] at hdrop
    rw [hvalue, key, ← hdrop, hsplit]

theorem parse_append (more : List UInt8) (hshort : (entry.line ++ more).length < 256) :
    parseKeyValue (entry.line ++ more) maxConfigString =
      some (trimWhitespace entry.key, trimWhitespace (entry.value ++ more)) := by
  have hkey : UInt8.ofNat '='.toNat ∉ entry.key := by
    intro hmem
    simpa using List.mem_takeWhile_imp hmem
  have hlength := congrArg List.length entry.line_eq
  rw [List.length_append] at hshort
  rw [List.length_append, List.length_cons] at hlength
  rw [entry.line_eq, List.append_assoc, List.cons_append,
    parseKeyValue_entry hkey (by omega),
    List.take_of_length_le (by rw [List.length_append]; omega)]

theorem setting_eq (hshort : entry.line.length < 256) :
    entry.setting = settingOf (sectionAt entry.before) (trimWhitespace entry.key) := by
  obtain ⟨hcomment, hsection⟩ := line_append entry.noComment entry.noHeader []
  have hparse := entry.parse_append [] (by rwa [List.append_nil])
  rw [List.append_nil] at hcomment hsection hparse
  simp only [setting, lineSetting, hcomment, hsection, hparse, Bool.false_eq_true, if_false]

theorem loader_line (more : List UInt8) (hshort : (entry.line ++ more).length < 256) :
    (loaded entry.before).line (entry.line ++ more) =
      { loaded entry.before with
        config :=
          match entry.setting with
          | some setting => (loaded entry.before).config.set setting
              (.ofValue (trimWhitespace (entry.value ++ more)))
          | none => (loaded entry.before).config } := by
  obtain ⟨hcomment, hsection⟩ := line_append entry.noComment entry.noHeader more
  have hline : entry.line.length < 256 := by
    rw [List.length_append] at hshort
    omega
  simp only [ConfigLoader.line, hcomment, hsection, entry.parse_append more hshort,
    Bool.false_eq_true, if_false, configEntry_eq, loaded_section, entry.setting_eq hline]

theorem line_ne_nil : entry.line ≠ [] := List.ne_nil_of_mem entry.equals

theorem loaded_file (hshort : entry.line.length < 256) :
    loaded entry.file =
      (Text.readLines 10 1023 [] (entry.behind.drop 1)).foldl ConfigLoader.read
        ((loaded entry.before).line (entry.line ++ [])) := by
  rw [List.append_nil]
  exact loaded_line entry.starts entry.ends entry.plain entry.line_ne_nil hshort

theorem plain_commented (comment : TrailingComment) :
    10 ∉ entry.line ++ comment.bytes ∧ 0 ∉ entry.line ++ comment.bytes := by
  have hline := entry.plain
  have hcomment := comment.plain
  simp only [TrailingComment.bytes, List.mem_append, List.mem_cons, not_or] at hcomment ⊢
  exact ⟨⟨hline.1, hcomment.1.1, by decide, hcomment.1.2⟩,
    ⟨hline.2, hcomment.2.1, by decide, hcomment.2.2⟩⟩

theorem loaded_commented (comment : TrailingComment)
    (hshort : (entry.line ++ comment.bytes).length < 256) :
    loaded (entry.commented comment) =
      (Text.readLines 10 1023 [] (entry.behind.drop 1)).foldl ConfigLoader.read
        ((loaded entry.before).line (entry.line ++ comment.bytes)) :=
  loaded_line entry.starts entry.ends (entry.plain_commented comment)
    (List.append_ne_nil_of_left_ne_nil entry.line_ne_nil _) hshort

theorem value_sublist (more : List UInt8) : (entry.value ++ more).Sublist (entry.line ++ more) := by
  have hdrop : (entry.line.dropWhile (· ≠ .ofNat '='.toNat)).Sublist entry.line :=
    (List.dropWhile_suffix _).sublist
  exact ((List.drop_sublist _ _).trans hdrop).append (List.Sublist.refl more)

end EntryLine

/-- A comment behind a value makes no difference exactly if the line sets nothing,
if the setting is one that a comment is nothing to, or if it is set again. -/
theorem configLoad_comment_iff (entry : EntryLine) (comment : TrailingComment)
    (hshort : (entry.line ++ comment.bytes).length < 256) (config : RooleConfig) :
    configLoadFromFile (some (entry.commented comment)) config =
        configLoadFromFile (some entry.file) config ↔ entry.Ignores := by
  have hline : entry.line.length < 256 := by
    rw [List.length_append] at hshort
    omega
  rw [configLoad_eq_iff, entry.loaded_file hline, entry.loaded_commented comment hshort,
    entry.loader_line _ hshort, entry.loader_line [] (by rwa [List.append_nil]),
    List.append_nil]
  unfold EntryLine.Ignores
  cases hsetting : entry.setting with
  | none => exact iff_of_true rfl (fun _ h => nomatch h)
  | some setting =>
    have hsub := entry.value_sublist comment.bytes
    have hvalue := get_comment_iff setting entry.value comment
      (fun h => (entry.plain_commented comment).2 (hsub.subset h))
      (hsub.length_le.trans_lt hshort)
    have hagree : AgreeBut setting
        { loaded entry.before with
          config := (loaded entry.before).config.set setting
            (.ofValue (trimWhitespace (entry.value ++ comment.bytes))) }
        { loaded entry.before with
          config := (loaded entry.before).config.set setting
            (.ofValue (trimWhitespace entry.value)) } :=
      ⟨rfl, fun s hs => by simp only [RooleConfig.get_set, if_neg hs]⟩
    refine (foldl_read_eq_iff hagree _).trans ?_
    simp only [RooleConfig.get_set, if_true, hvalue, loaded_section]
    constructor
    · rintro h _ ⟨⟩
      exact h
    · intro h
      exact h setting rfl

def documentedLine : EntryLine where
  before := chars "[Cluster]\nname = production_cluster\n"
  line := chars "routers = 10.0.1.10:7000;10.0.1.11:7000"
  behind := chars "\n\n[Node]\nid = 1\ntype = ROUTER\n" ++
    chars "gossip_addr = 0.0.0.0:7000\ndata_addr = 0.0.0.0:7001\n"
  starts := .inr (by decide)
  ends := .inr (by decide)
  plain := by decide
  equals := by decide
  noComment := by decide
  noHeader := by decide

def documentedComment : TrailingComment where
  blanks := chars "  "
  text := chars " Seeds for bootstrap"
  isBlank := List.all_eq_true.mp (by decide)
  plain := by decide

/-- The comment is taken for a part of the second router. -/
theorem documentedLine_commented_ne :
    configLoadFromFile (some (documentedLine.commented documentedComment)) .zero ≠
      configLoadFromFile (some documentedLine.file) .zero := by
  decide +kernel

def numberLine : EntryLine where
  before := chars "[Node]\n"
  line := chars "id = 7"
  behind := chars "\ntype = WORKER\n"
  starts := .inr (by decide)
  ends := .inr (by decide)
  plain := by decide
  equals := by decide
  noComment := by decide
  noHeader := by decide

theorem numberLine_commented :
    configLoadFromFile (some (numberLine.commented documentedComment)) .zero =
      configLoadFromFile (some numberLine.file) .zero := by
  refine (configLoad_comment_iff numberLine documentedComment (by decide) .zero).mpr ?_
  intro setting hsetting
  have hid : numberLine.setting = some .id := by decide +kernel
  rw [hid] at hsetting
  cases hsetting
  exact .inl trivial

end Roole
