import Roole.Core.ConfigFile

/-!
# Configurations written as files

A configuration can be written down in many ways: the sections and their keys in
any order, blanks around what is written, empty lines and comments in between. The
loader reads each of them back, but for a list of routers that is cut in its
buffer.
-/

namespace Roole

-- ----------------------------------------------------------------------------
-- Settings
-- ----------------------------------------------------------------------------

inductive Setting
  | name
  | routers
  | id
  | type
  | gossip
  | data
  | ingress
  | metrics
  | level
  deriving DecidableEq

def Setting.section : Setting → List UInt8
  | .name | .routers => chars "Cluster"
  | .id | .type | .gossip | .data | .ingress | .metrics => chars "Node"
  | .level => chars "Logging"

def Setting.keys : Setting → List (List UInt8)
  | .name => [chars "name"]
  | .routers => [chars "routers"]
  | .id => [chars "id"]
  | .type => [chars "type"]
  | .gossip => [chars "gossip_addr", chars "gossip"]
  | .data => [chars "data_addr", chars "data"]
  | .ingress => [chars "ingress_addr", chars "ingress"]
  | .metrics => [chars "metrics_addr", chars "metrics"]
  | .level => [chars "level"]

inductive ConfigValue
  | text (value : ConfigString)
  | texts (values : List ConfigString)
  | nodeId (value : NodeId)
  | nodeType (value : NodeType)
  | logLevel (value : LogLevel)

namespace RooleConfig

def get (config : RooleConfig) : Setting → ConfigValue
  | .name => .text config.clusterName
  | .routers => .texts config.routers
  | .id => .nodeId config.nodeId
  | .type => .nodeType config.nodeType
  | .gossip => .text config.ports.gossipAddr
  | .data => .text config.ports.dataAddr
  | .ingress => .text config.ports.ingressAddr
  | .metrics => .text config.ports.metricsAddr
  | .level => .logLevel config.logLevel

def set (config : RooleConfig) : Setting → RooleConfig → RooleConfig
  | .name, source => { config with clusterName := source.clusterName }
  | .routers, source =>
    { config with routers := source.routers, routers_le := source.routers_le }
  | .id, source => { config with nodeId := source.nodeId }
  | .type, source => { config with nodeType := source.nodeType }
  | .gossip, source =>
    { config with ports := { config.ports with gossipAddr := source.ports.gossipAddr } }
  | .data, source =>
    { config with ports := { config.ports with dataAddr := source.ports.dataAddr } }
  | .ingress, source =>
    { config with ports := { config.ports with ingressAddr := source.ports.ingressAddr } }
  | .metrics, source =>
    { config with ports := { config.ports with metricsAddr := source.ports.metricsAddr } }
  | .level, source => { config with logLevel := source.logLevel }

theorem get_set (config : RooleConfig) (setting other : Setting) (source : RooleConfig) :
    (config.set setting source).get other =
      if other = setting then source.get other else config.get other := by
  cases setting <;> cases other <;> rfl

theorem ext_get {config config' : RooleConfig}
    (h : ∀ setting, config.get setting = config'.get setting) : config = config' := by
  obtain ⟨name, id, type, ⟨gossip, data, ingress, metrics⟩, routers, _, level⟩ := config
  obtain ⟨name', id', type', ⟨gossip', data', ingress', metrics'⟩, routers', _, level'⟩ := config'
  have hname := h .name
  have hrouters := h .routers
  have hid := h .id
  have htype := h .type
  have hgossip := h .gossip
  have hdata := h .data
  have hingress := h .ingress
  have hmetrics := h .metrics
  have hlevel := h .level
  simp only [get, ConfigValue.text.injEq, ConfigValue.texts.injEq, ConfigValue.nodeId.injEq,
    ConfigValue.nodeType.injEq, ConfigValue.logLevel.injEq] at *
  subst hname hrouters hid htype hgossip hdata hingress hmetrics hlevel
  rfl

theorem set_congr (config : RooleConfig) (h : source.get setting = source'.get setting) :
    config.set setting source = config.set setting source' := by
  refine ext_get fun other => ?_
  rw [get_set, get_set]
  split_ifs with hother
  · rw [hother, h]
  · rfl

end RooleConfig

-- ----------------------------------------------------------------------------
-- What may be written
-- ----------------------------------------------------------------------------

def Blanks (text : List UInt8) : Prop := text.length ≤ 20 ∧ ∀ b ∈ text, b = 32 ∨ b = 9

def Spaced (value text : List UInt8) : Prop :=
  ∃ pre post, Blanks pre ∧ Blanks post ∧ text = pre ++ value ++ post

def typeName : NodeType → List UInt8
  | .router => chars "ROUTER"
  | _ => chars "WORKER"

def levelName : LogLevel → List UInt8
  | .debug => chars "DEBUG"
  | .info => chars "INFO"
  | .warn => chars "WARN"
  | .error => chars "ERROR"

def SpacedList (routers : List ConfigString) (text : List UInt8) : Prop :=
  ∃ pieces, List.Forall₂ (fun router piece => Spaced router.text piece) routers pieces ∧
    Spaced ([.ofNat ';'.toNat].intercalate pieces) text

/-- What may stand behind the `=` for a setting of the configuration. -/
def Setting.Written (config : RooleConfig) : Setting → List UInt8 → Prop
  | .name, text => Spaced config.clusterName.text text
  | .routers, text => SpacedList config.routers text
  | .id, text => Spaced (Decimal.print config.nodeId.toNat) text
  | .type, text => ∃ word, sameText word (typeName config.nodeType) ∧ Spaced word text
  | .gossip, text => Spaced config.ports.gossipAddr.text text
  | .data, text => Spaced config.ports.dataAddr.text text
  | .ingress, text => Spaced config.ports.ingressAddr.text text
  | .metrics, text => Spaced config.ports.metricsAddr.text text
  | .level, text => ∃ word, sameText word (levelName config.logLevel) ∧ Spaced word text

/-- The lines of a file from a place in some section on, and the settings in them
with what stands behind their `=`. Section names and keys may be in any case. -/
inductive RendersLines (config : RooleConfig) :
    List UInt8 → List (List UInt8) → List (Setting × List UInt8) → Prop
  | done : RendersLines config current [] []
  | blank : (∀ b ∈ line, b = 32 ∨ b = 9) → RendersLines config current rest entries →
      RendersLines config current (line :: rest) entries
  | comment : (∀ b ∈ indent, b = 32 ∨ b = 9) → mark = .ofNat ';'.toNat ∨ mark = .ofNat '#'.toNat →
      RendersLines config current rest entries →
      RendersLines config current ((indent ++ mark :: text) :: rest) entries
  | header (setting : Setting) : sameText name setting.section → Blanks indent →
      RendersLines config name rest entries →
      RendersLines config current
        ((indent ++ .ofNat '['.toNat :: name ++ .ofNat ']'.toNat :: behind) :: rest) entries
  | entry (setting : Setting) : sameText current setting.section →
      (∃ name ∈ setting.keys, sameText key name) → Spaced key before →
      setting.Written config value → RendersLines config current rest entries →
      RendersLines config current ((before ++ .ofNat '='.toNat :: value) :: rest)
        ((setting, value) :: entries)

/-- A setting that need not be written: an address or a list that is empty. -/
def Setting.Omissible (config : RooleConfig) : Setting → Prop
  | .ingress => config.ports.ingressAddr.text = []
  | .metrics => config.ports.metricsAddr.text = []
  | .routers => config.routers = []
  | _ => False

/-- A text file with every setting of the configuration in it once, in lines that
fit the buffer. -/
structure Renders (config : RooleConfig) (file : List UInt8)
    (entries : List (Setting × List UInt8)) : Prop where
  lines : ∃ lines, file = [10].intercalate lines ∧
    (∀ line ∈ lines, line.length < 1023 ∧ 10 ∉ line ∧ 0 ∉ line) ∧
    RendersLines config [] lines entries
  once : (entries.map Prod.fst).Nodup
  complete : ∀ setting, setting ∈ entries.map Prod.fst ∨ setting.Omissible config

structure Plain (value : ConfigString) : Prop where
  nonempty : value.text ≠ []
  trimmed : trimWhitespace value.text = value.text
  short : value.text.length ≤ 200

/-- A configuration that can be written as a file. -/
structure Writable (config : RooleConfig) : Prop where
  name : Plain config.clusterName
  gossip : Plain config.ports.gossipAddr
  data : Plain config.ports.dataAddr
  ingress : config.ports.ingressAddr.text ≠ [] → Plain config.ports.ingressAddr
  metrics : config.ports.metricsAddr.text ≠ [] → Plain config.ports.metricsAddr
  nodeId : config.nodeId ≠ 0
  nodeType : config.nodeType = .router ∨ config.nodeType = .worker
  routers : ∀ router ∈ config.routers, Plain router ∧ UInt8.ofNat ';'.toNat ∉ router.text

-- ----------------------------------------------------------------------------
-- Names
-- ----------------------------------------------------------------------------

def IsNamePart (b : UInt8) : Prop :=
  isSpace b = false ∧ b ∉ [UInt8.ofNat ';'.toNat, .ofNat '#'.toNat, .ofNat '['.toNat,
    .ofNat ']'.toNat, .ofNat '='.toNat]

instance (b : UInt8) : Decidable (IsNamePart b) := inferInstanceAs (Decidable (_ ∧ _))

theorem IsNamePart.of_toLower (h : IsNamePart (toLower b)) : IsNamePart b := by
  unfold toLower at h
  split_ifs at h with hupper
  · obtain ⟨hlow, hhigh⟩ := hupper
    rw [UInt8.le_iff_toNat_le] at hlow hhigh
    have hne : ∀ other : UInt8, other.toNat < 65 ∨ 90 < other.toNat → b ≠ other := by
      rintro _ hother rfl
      change 65 ≤ b.toNat at hlow
      change b.toNat ≤ 90 at hhigh
      omega
    refine ⟨?_, ?_⟩
    · simp only [isSpace, decide_eq_false_iff_not]
      rintro (rfl | ⟨-, hspace⟩)
      · exact absurd hlow (by decide)
      · rw [UInt8.le_iff_toNat_le] at hspace
        change 65 ≤ b.toNat at hlow
        change b.toNat ≤ 13 at hspace
        omega
    · simp only [List.mem_cons, List.not_mem_nil, or_false, not_or]
      exact ⟨hne _ (.inl (by decide)), hne _ (.inl (by decide)), hne _ (.inr (by decide)),
        hne _ (.inr (by decide)), hne _ (.inl (by decide))⟩
  · exact h

theorem sameText_iff : sameText a b = true ↔ a.map toLower = b.map toLower := by
  simp [sameText]

theorem sameText_congr (h : sameText a b = true) (c : List UInt8) :
    sameText a c = sameText b c := by
  rw [sameText_iff] at h
  simp only [sameText, h]

theorem sameText_length (h : sameText a b = true) : a.length = b.length := by
  have hlength := congrArg List.length (sameText_iff.mp h)
  simpa using hlength

theorem nameParts_of_all {name : List UInt8}
    (h : (name.map toLower).all (fun b => decide (IsNamePart b)) = true) :
    ∀ x ∈ name.map toLower, IsNamePart x :=
  fun x hx => of_decide_eq_true (List.all_eq_true.mp h x hx)

theorem sameText_nameParts (h : sameText a b = true) (hb : ∀ x ∈ b.map toLower, IsNamePart x) :
    ∀ x ∈ a, IsNamePart x := by
  intro x hx
  refine .of_toLower (hb _ ?_)
  rw [← sameText_iff.mp h]
  exact List.mem_map_of_mem hx

theorem trim_nameParts (h : ∀ x ∈ word, IsNamePart x) : trimWhitespace word = word :=
  Text.trim_eq_self fun b hb => (h b hb).1

theorem Blanks.isSpace (h : Blanks text) : ∀ b ∈ text, isSpace b = true := fun b hb => by
  rcases h.2 b hb with rfl | rfl <;> decide

theorem Spaced.cut (h : Spaced value text) (htrim : trimWhitespace value = value)
    (hshort : value.length ≤ 200) : trimWhitespace (text.take 255) = value := by
  obtain ⟨pre, post, hpre, hpost, rfl⟩ := h
  have hfits : (pre ++ value).length ≤ 255 := by
    rw [List.length_append]
    have hpreLength := hpre.1
    omega
  rw [List.take_append, List.take_of_length_le hfits]
  exact Text.trim_padded htrim hpre.isSpace fun b hb => hpost.isSpace b (List.mem_of_mem_take hb)

theorem copy_text (value : ConfigString) : ConfigString.copy value.text = value := by
  obtain ⟨text, hterminated, hlength⟩ := value
  simp only [ConfigString.copy, ConfigString.mk.injEq]
  rw [safeStrncpy_eq_cString hlength, cString_eq_self hterminated]

-- ----------------------------------------------------------------------------
-- One line
-- ----------------------------------------------------------------------------

theorem Setting.section_nameParts (setting : Setting) :
    ∀ x ∈ setting.section.map toLower, IsNamePart x := by
  apply nameParts_of_all
  cases setting <;> decide

theorem Setting.section_length (setting : Setting) : setting.section.length ≤ 63 := by
  cases setting <;> decide

theorem Setting.key_nameParts (setting : Setting) :
    ∀ name ∈ setting.keys, ∀ x ∈ name.map toLower, IsNamePart x := by
  intro name hname
  apply nameParts_of_all
  revert name
  cases setting <;> decide

theorem Setting.key_length (setting : Setting) :
    ∀ name ∈ setting.keys, 0 < name.length ∧ name.length ≤ 12 := by
  cases setting <;> decide

theorem isSpace_of_blank (h : b = 32 ∨ b = 9) : isSpace b = true := by
  rcases h with rfl | rfl <;> decide

theorem isComment_blank (h : ∀ b ∈ line, b = 32 ∨ b = 9) : isComment line = true := by
  have hall : line.dropWhile isSpace = [] :=
    List.dropWhile_eq_nil_iff.mpr fun b hb => isSpace_of_blank (h b hb)
  simp [isComment, hall]

theorem dropWhile_indent (hindent : ∀ b ∈ indent, b = 32 ∨ b = 9) (hmark : isSpace mark = false)
    (rest : List UInt8) : (indent ++ mark :: rest).dropWhile isSpace = mark :: rest := by
  rw [List.dropWhile_append_of_pos fun b hb => isSpace_of_blank (hindent b hb),
    List.dropWhile_cons_of_neg (by simp [hmark])]

theorem isComment_mark (hindent : ∀ b ∈ indent, b = 32 ∨ b = 9)
    (hmark : mark = .ofNat ';'.toNat ∨ mark = .ofNat '#'.toNat) (text : List UInt8) :
    isComment (indent ++ mark :: text) = true := by
  have hspace : isSpace mark = false := by rcases hmark with rfl | rfl <;> decide
  rw [isComment, dropWhile_indent hindent hspace]
  rcases hmark with rfl | rfl <;> rfl

theorem line_header (loader : ConfigLoader) {setting : Setting}
    (hname : sameText name setting.section) (hindent : Blanks indent) (behind : List UInt8) :
    loader.line (indent ++ .ofNat '['.toNat :: name ++ .ofNat ']'.toNat :: behind) =
      { loader with currentSection := name } := by
  have hopen : isSpace (.ofNat '['.toNat) = false := by decide
  have hdrop := dropWhile_indent hindent.2 hopen (name ++ .ofNat ']'.toNat :: behind)
  have hparts := sameText_nameParts hname setting.section_nameParts
  have htake : (name ++ .ofNat ']'.toNat :: behind).takeWhile (· ≠ .ofNat ']'.toNat) = name := by
    rw [List.takeWhile_append_of_pos fun b hb => ?_, List.takeWhile_cons_of_neg (by simp),
      List.append_nil]
    have hb' := (hparts b hb).2
    simp only [List.mem_cons, not_or] at hb'
    simpa using hb'.2.2.2.1
  have hlength : name.length ≤ 63 := (sameText_length hname).trans_le setting.section_length
  have hcomment : isComment (indent ++ .ofNat '['.toNat :: (name ++ .ofNat ']'.toNat :: behind)) =
      false := by
    rw [isComment, hdrop]
    rfl
  have hsection :
      isSection (indent ++ .ofNat '['.toNat :: (name ++ .ofNat ']'.toNat :: behind)) 64 =
        some name := by
    simp only [isSection, hdrop, htake]
    simp [List.take_of_length_le hlength]
  rw [List.append_assoc, List.cons_append, ConfigLoader.line, hcomment, hsection]
  rfl

theorem parseKeyValue_entry (hbefore : .ofNat '='.toNat ∉ before) (hlength : before.length ≤ 255)
    (value : List UInt8) : parseKeyValue (before ++ .ofNat '='.toNat :: value) maxConfigString =
      some (trimWhitespace before, trimWhitespace (value.take 255)) := by
  have hkeep : ∀ b ∈ before, decide (b ≠ UInt8.ofNat '='.toNat) = true := fun b hb =>
    decide_eq_true fun heq => hbefore (heq ▸ hb)
  have htake : (before ++ .ofNat '='.toNat :: value).takeWhile (· ≠ .ofNat '='.toNat) = before := by
    rw [List.takeWhile_append_of_pos hkeep, List.takeWhile_cons_of_neg (by simp), List.append_nil]
  have hdrop : (before ++ .ofNat '='.toNat :: value).dropWhile (· ≠ .ofNat '='.toNat) =
      .ofNat '='.toNat :: value := by
    rw [List.dropWhile_append_of_pos hkeep, List.dropWhile_cons_of_neg (by simp)]
  simp only [parseKeyValue, htake, hdrop, maxConfigString]
  rw [List.take_of_length_le hlength]

theorem line_key (hfirst : IsNamePart first) (hindent : Blanks indent) (rest : List UInt8) :
    isComment (indent ++ first :: rest) = false ∧
      isSection (indent ++ first :: rest) 64 = none := by
  obtain ⟨hspace, hspecial⟩ := hfirst
  simp only [List.mem_cons, List.not_mem_nil, or_false, not_or] at hspecial
  obtain ⟨hsemicolon, hhash, hbracket, -, -⟩ := hspecial
  rw [isComment, isSection, dropWhile_indent hindent.2 hspace]
  dsimp only
  rw [if_pos hbracket]
  exact ⟨by rw [beq_false_of_ne hsemicolon, beq_false_of_ne hhash]; rfl, rfl⟩

theorem line_entry (loader : ConfigLoader) {setting : Setting}
    (hkey : ∃ name ∈ setting.keys, sameText key name) (hbefore : Spaced key before)
    (value : List UInt8) :
    loader.line (before ++ .ofNat '='.toNat :: value) =
      { loader with
        config := configEntry loader.currentSection key (trimWhitespace (value.take 255))
          loader.config } := by
  obtain ⟨name, hname, hsame⟩ := hkey
  obtain ⟨pre, post, hpre, hpost, rfl⟩ := hbefore
  have hparts := sameText_nameParts hsame (setting.key_nameParts name hname)
  have hlength := sameText_length hsame
  obtain ⟨hpos, hshort⟩ := setting.key_length name hname
  have hequals : UInt8.ofNat '='.toNat ∉ pre ++ key ++ post := by
    simp only [List.mem_append, not_or]
    refine ⟨⟨fun hmem => ?_, fun hmem => ?_⟩, fun hmem => ?_⟩
    · exact absurd (hpre.isSpace _ hmem) (by decide)
    · exact absurd (hparts _ hmem) (by decide)
    · exact absurd (hpost.isSpace _ hmem) (by decide)
  have hfits : (pre ++ key ++ post).length ≤ 255 := by
    have hpreLength := hpre.1
    have hpostLength := hpost.1
    simp only [List.length_append]
    omega
  have htrim : trimWhitespace (pre ++ key ++ post) = key :=
    Text.trim_padded (trim_nameParts hparts) hpre.isSpace hpost.isSpace
  have hparsed := parseKeyValue_entry hequals hfits value
  rw [htrim] at hparsed
  cases key with
  | nil => exact absurd hpos (by rw [← hlength]; exact Nat.lt_irrefl 0)
  | cons first rest =>
    obtain ⟨hcomment, hsection⟩ := line_key (hparts first List.mem_cons_self) hpre
      (rest ++ post ++ .ofNat '='.toNat :: value)
    have hline : pre ++ (first :: rest) ++ post ++ .ofNat '='.toNat :: value =
        pre ++ first :: (rest ++ post ++ .ofNat '='.toNat :: value) := by simp
    rw [hline] at hparsed ⊢
    rw [ConfigLoader.line, hcomment, hsection, hparsed]
    rfl

-- ----------------------------------------------------------------------------
-- One entry
-- ----------------------------------------------------------------------------

def RooleConfig.heard (config : RooleConfig) (value : List UInt8) : RooleConfig :=
  { config with
    routers := parseList (trimWhitespace (value.take 255)) maxConfigRouters
    routers_le := by
      rw [parseList, List.length_map]
      exact List.length_take_le .. }

theorem configEntry_congr (hsection : sameText current section' = true)
    (hkey : sameText key name = true) (value : List UInt8) (config : RooleConfig) :
    configEntry current key value config = configEntry section' name value config := by
  simp only [configEntry, sameText_congr hsection, sameText_congr hkey]

theorem Plain.cut {config : ConfigString} (h : Plain config) (hspaced : Spaced config.text text) :
    ConfigString.copy (trimWhitespace (text.take 255)) = config := by
  rw [hspaced.cut h.trimmed h.short, copy_text]

theorem optional_cut {config : ConfigString} (h : config.text ≠ [] → Plain config)
    (hspaced : Spaced config.text text) :
    ConfigString.copy (trimWhitespace (text.take 255)) = config := by
  by_cases hempty : config.text = []
  · rw [hspaced.cut (by rw [hempty]; exact Text.trim_nil _) (by rw [hempty]; decide), copy_text]
  · exact (h hempty).cut hspaced

theorem nodeId_cut {nodeId : NodeId} (hspaced : Spaced (Decimal.print nodeId.toNat) text) :
    UInt16.ofInt (atoi (trimWhitespace (text.take 255))).toInt = nodeId := by
  have hdigits := Decimal.isDigit_of_mem nodeId.toNat
  have htrim : trimWhitespace (Decimal.print nodeId.toNat) = Decimal.print nodeId.toNat := by
    refine Text.trim_eq_self fun b hb => ?_
    obtain ⟨hlow, hhigh⟩ := hdigits b hb
    simp only [isSpace, decide_eq_false_iff_not]
    rintro (rfl | ⟨-, hle⟩)
    · exact absurd hlow (by decide)
    · exact absurd (UInt8.le_trans hlow hle) (by decide)
  have hlength : (Decimal.print nodeId.toNat).length ≤ 5 :=
    Decimal.print_length_le (by decide) (nodeId.toNat_lt.trans (by decide))
  rw [hspaced.cut htrim (by omega), ofInt_atoi_print]

theorem word_cut (hword : sameText word name = true) (hname : ∀ x ∈ name.map toLower, IsNamePart x)
    (hlength : name.length ≤ 200) (hspaced : Spaced word text) :
    trimWhitespace (text.take 255) = word :=
  hspaced.cut (trim_nameParts (sameText_nameParts hword hname))
    ((sameText_length hword).trans_le hlength)

theorem nodeType_cut (htype : nodeType = .router ∨ nodeType = .worker)
    (hword : sameText word (typeName nodeType) = true) (hspaced : Spaced word text) :
    parseNodeType (trimWhitespace (text.take 255)) = nodeType := by
  have hparts : ∀ x ∈ (typeName nodeType).map toLower, IsNamePart x :=
    nameParts_of_all (by rcases htype with rfl | rfl <;> decide)
  have hlength : (typeName nodeType).length ≤ 200 := by rcases htype with rfl | rfl <;> decide
  rw [word_cut hword hparts hlength hspaced]
  simp only [parseNodeType, sameText_congr hword]
  rcases htype with rfl | rfl <;> decide

theorem logLevel_cut {level : LogLevel} (hword : sameText word (levelName level) = true)
    (hspaced : Spaced word text) : parseLogLevel (trimWhitespace (text.take 255)) = level := by
  have hparts : ∀ x ∈ (levelName level).map toLower, IsNamePart x :=
    nameParts_of_all (by cases level <;> decide)
  have hlength : (levelName level).length ≤ 200 := by cases level <;> decide
  rw [word_cut hword hparts hlength hspaced]
  simp only [parseLogLevel, sameText_congr hword]
  cases level <;> decide

theorem parseList_length_le (value : List UInt8) (maxItems : Nat) :
    (parseList value maxItems).length ≤ maxItems := by
  rw [parseList, List.length_map]
  exact List.length_take_le ..

def RooleConfig.ofValue (value : List UInt8) : RooleConfig where
  clusterName := .copy value
  nodeId := .ofInt (atoi value).toInt
  nodeType := parseNodeType value
  ports := ⟨.copy value, .copy value, .copy value, .copy value⟩
  routers := parseList value maxConfigRouters
  routers_le := parseList_length_le value maxConfigRouters
  logLevel := parseLogLevel value

theorem configEntry_key {setting : Setting} (hname : name ∈ setting.keys) (value : List UInt8)
    (state : RooleConfig) :
    configEntry setting.section name value state = state.set setting (.ofValue value) := by
  cases setting with
  | name | routers | id | type | level =>
    cases List.mem_singleton.mp hname
    rfl
  | gossip | data | ingress | metrics => rcases List.mem_pair.mp hname with rfl | rfl <;> rfl

theorem get_ofValue {config : RooleConfig} (h : Writable config) {setting : Setting}
    (hvalue : setting.Written config value) :
    (RooleConfig.ofValue (trimWhitespace (value.take 255))).get setting =
      (config.heard value).get setting := by
  cases setting with
  | name => exact congrArg ConfigValue.text (h.name.cut hvalue)
  | routers => rfl
  | id => exact congrArg ConfigValue.nodeId (nodeId_cut hvalue)
  | type =>
    obtain ⟨word, hword, hspaced⟩ := hvalue
    exact congrArg ConfigValue.nodeType (nodeType_cut h.nodeType hword hspaced)
  | gossip => exact congrArg ConfigValue.text (h.gossip.cut hvalue)
  | data => exact congrArg ConfigValue.text (h.data.cut hvalue)
  | ingress => exact congrArg ConfigValue.text (optional_cut h.ingress hvalue)
  | metrics => exact congrArg ConfigValue.text (optional_cut h.metrics hvalue)
  | level =>
    obtain ⟨word, hword, hspaced⟩ := hvalue
    exact congrArg ConfigValue.logLevel (logLevel_cut hword hspaced)

theorem configEntry_written {config : RooleConfig} (h : Writable config) {setting : Setting}
    (hsection : sameText current setting.section = true)
    (hkey : ∃ name ∈ setting.keys, sameText key name)
    (hvalue : setting.Written config value) (state : RooleConfig) :
    configEntry current key (trimWhitespace (value.take 255)) state =
      state.set setting (config.heard value) := by
  obtain ⟨name, hname, hsame⟩ := hkey
  rw [configEntry_congr hsection hsame, configEntry_key hname]
  exact RooleConfig.set_congr state (get_ofValue h hvalue)

-- ----------------------------------------------------------------------------
-- A whole file
-- ----------------------------------------------------------------------------

def RooleConfig.setAll (config : RooleConfig) (entries : List (Setting × List UInt8))
    (state : RooleConfig) : RooleConfig :=
  entries.foldl (fun state entry => state.set entry.1 (config.heard entry.2)) state

theorem foldl_line (h : Writable config) (hlines : RendersLines config current lines entries)
    (state : RooleConfig) :
    (lines.foldl ConfigLoader.line ⟨current, state⟩).config = config.setAll entries state := by
  induction hlines generalizing state with
  | done => rfl
  | blank hblank _ ih =>
    rw [List.foldl_cons, ConfigLoader.line, isComment_blank hblank]
    exact ih state
  | comment hindent hmark _ ih =>
    rw [List.foldl_cons, ConfigLoader.line, isComment_mark hindent hmark]
    exact ih state
  | header setting hname hindent _ ih =>
    rw [List.foldl_cons, line_header _ hname hindent]
    exact ih state
  | entry setting hsection hkey hbefore hvalue _ ih =>
    rw [List.foldl_cons, line_entry _ hkey hbefore,
      configEntry_written h hsection hkey hvalue]
    exact ih _

theorem read_line (loader : ConfigLoader) (hzero : 0 ∉ line) :
    loader.read (line ++ [10]) = loader.line line := by
  have hstring : cString (line ++ [10]) = line ++ [10] := by
    refine cString_eq_self fun hmem => ?_
    rcases List.mem_append.mp hmem with hin | hin
    · exact hzero hin
    · exact absurd hin (by decide)
  simp [ConfigLoader.read, hstring]

theorem read_last (loader : ConfigLoader) (hzero : 0 ∉ line) (hnewline : 10 ∉ line) :
    loader.read line = loader.line line := by
  have hlast : line.getLast? ≠ some 10 := fun hlast => hnewline (List.mem_of_getLast? hlast)
  simp only [ConfigLoader.read, cString_eq_self hzero, if_neg hlast]

theorem foldl_read (h : Writable config) (hrenders : Renders config file entries) :
    ((Text.readLines 10 1023 [] file).foldl ConfigLoader.read ⟨[], .zero⟩).config =
      config.setAll entries .zero := by
  obtain ⟨lines, rfl, hlines, hrendered⟩ := hrenders.lines
  have hsteps : (Text.readLines 10 1023 [] ([10].intercalate lines)).foldl ConfigLoader.read
      ⟨[], .zero⟩ = lines.foldl ConfigLoader.read ⟨[], .zero⟩ := by
    refine Text.foldl_readLines (fun line hline => ⟨(hlines line hline).2.1, (hlines line hline).1⟩)
      (fun loader line hline => ?_) (fun _ => rfl) _
    obtain ⟨-, hnewline, hzero⟩ := hlines line hline
    rw [read_line loader hzero, read_last loader hzero hnewline]
  have hread : lines.foldl ConfigLoader.read ⟨[], .zero⟩ =
      lines.foldl ConfigLoader.line ⟨[], .zero⟩ := by
    refine List.foldl_ext _ _ _ fun loader line hline => ?_
    obtain ⟨-, hnewline, hzero⟩ := hlines line hline
    exact read_last loader hzero hnewline
  rw [hsteps, hread, foldl_line h hrendered]

theorem get_setAll_of_not_mem {entries : List (Setting × List UInt8)}
    (hsetting : setting ∉ entries.map Prod.fst) (config state : RooleConfig) :
    (config.setAll entries state).get setting = state.get setting := by
  induction entries generalizing state with
  | nil => rfl
  | cons entry rest ih =>
    rw [List.map_cons, List.mem_cons, not_or] at hsetting
    have hrest := ih hsetting.2 (state.set entry.1 (config.heard entry.2))
    rw [RooleConfig.get_set, if_neg hsetting.1] at hrest
    exact hrest

theorem get_setAll {entries : List (Setting × List UInt8)}
    (hentry : (setting, value) ∈ entries) (honce : (entries.map Prod.fst).Nodup)
    (config state : RooleConfig) :
    (config.setAll entries state).get setting = (config.heard value).get setting := by
  induction entries generalizing state with
  | nil => cases hentry
  | cons entry rest ih =>
    obtain ⟨hnew, hrest⟩ := List.nodup_cons.mp honce
    rcases List.mem_cons.mp hentry with rfl | hin
    · have hlater := get_setAll_of_not_mem hnew config (state.set setting (config.heard value))
      rw [RooleConfig.get_set, if_pos rfl] at hlater
      exact hlater
    · exact ih hin hrest _

-- ----------------------------------------------------------------------------
-- The list of routers
-- ----------------------------------------------------------------------------

def isSolid (b : UInt8) : Bool := !isSpace b && b != .ofNat ';'.toNat

theorem isSolid_of_space : ∀ b, isSpace b = true → isSolid b = false := fun b hb => by
  simp [isSolid, hb]

theorem parseList_eq (hlength : value.length ≤ 255) :
    parseList value maxConfigRouters =
      ((Text.fields (.ofNat ';'.toNat) isSpace value).take maxConfigRouters).map .copy := by
  have hbuffer : value.take (maxConfigString * maxConfigRouters - 1) = value :=
    List.take_of_length_le (hlength.trans (by decide))
  have htokens : ∀ pieces : List (List UInt8),
      ((pieces.filter (!·.isEmpty)).map trimWhitespace).filter (!·.isEmpty) =
        (pieces.map trimWhitespace).filter (!·.isEmpty) := by
    intro pieces
    induction pieces with
    | nil => rfl
    | cons piece rest ih =>
      cases piece with
      | nil => simpa [trimWhitespace] using ih
      | cons b piece => simp [List.filter_cons, ih]
  rw [parseList, hbuffer, strtok, htokens]
  rfl

theorem Spaced.padded (h : Spaced value text) : Text.Padded isSpace value text := by
  obtain ⟨pre, post, hpre, hpost, htext⟩ := h
  exact ⟨pre, post, hpre.isSpace, hpost.isSpace, htext⟩

theorem fields_written {config : RooleConfig} (h : Writable config)
    (hlist : SpacedList config.routers text) :
    Text.fields (.ofNat ';'.toNat) isSpace text = config.routers.map ConfigString.text := by
  obtain ⟨pieces, hpieces, pre, post, hpre, hpost, rfl⟩ := hlist
  rw [Text.fields_pad _ hpre.isSpace hpost.isSpace (by decide)]
  refine Text.fields_intercalate ?_ (fun item hitem => ?_) (by decide)
  · rw [List.forall₂_map_left_iff]
    exact hpieces.imp fun _ _ hspaced => hspaced.padded
  · obtain ⟨router, hrouter, rfl⟩ := List.mem_map.mp hitem
    obtain ⟨hplain, hfree⟩ := h.routers router hrouter
    exact ⟨hplain.nonempty, hplain.trimmed, hfree⟩

/-- What the buffer of a value has no room for is blank. -/
def FitsBuffer (text : List UInt8) : Prop := ∀ b ∈ text.drop 255, isSpace b = true

theorem lastSolid {config : RooleConfig} (h : Writable config)
    (hlist : SpacedList config.routers text) : (∀ b ∈ text, isSpace b = true) ∨
      ∃ front b post, text = front ++ b :: post ∧ isSolid b = true ∧
        ∀ b ∈ post, isSpace b = true := by
  obtain ⟨pieces, hpieces, pre, post, hpre, hpost, rfl⟩ := hlist
  by_cases hnil : pieces = []
  · left
    subst hnil
    intro b hb
    rw [List.intercalate_nil, List.append_nil] at hb
    exact (List.mem_append.mp hb).elim (hpre.isSpace b) (hpost.isSpace b)
  · right
    obtain ⟨front, hfront⟩ := Text.intercalate_getLast [.ofNat ';'.toNat] hnil
    obtain ⟨router, hrouter, pre', post', hpre', hpost', hlast⟩ :=
      Text.exists_of_forall₂ hpieces _ (List.getLast_mem hnil)
    obtain ⟨hplain, hfree⟩ := h.routers router hrouter
    obtain ⟨init, b, hinit⟩ := (List.eq_nil_or_concat' router.text).resolve_left hplain.nonempty
    have htrimmed := hplain.trimmed
    rw [hinit] at htrimmed hfree
    refine ⟨pre ++ front ++ pre' ++ init, b, post' ++ post, ?_, ?_, ?_⟩
    · rw [hfront, hlast, hinit]
      simp
    · have hspace := Text.not_blank_of_trim htrimmed
      have hne : b ≠ .ofNat ';'.toNat := fun heq => hfree (by simp [heq])
      rw [isSolid, hspace]
      exact bne_iff_ne.mpr hne
    · exact fun x hx => (List.mem_append.mp hx).elim (hpost'.isSpace x) (hpost.isSpace x)

theorem copies_sublist (items : List (List UInt8)) :
    ((items.map ConfigString.copy).map ConfigString.text).flatten.Sublist items.flatten := by
  induction items with
  | nil => exact .refl _
  | cons item rest ih =>
    refine List.Sublist.append ?_ ih
    exact (List.take_sublist _ _).trans (List.takeWhile_sublist _)

theorem solid_of_same {config : RooleConfig} (h : Writable config)
    (hlist : SpacedList config.routers text)
    (hsame : ((Text.fields (.ofNat ';'.toNat) isSpace (text.take 255)).take maxConfigRouters).map
      .copy = config.routers) : ∀ b ∈ text.drop 255, isSolid b = false := by
  have hsemicolon : isSolid (.ofNat ';'.toNat) = false := by decide
  have hcountOf := Text.countP_fields isSolid_of_space hsemicolon
  have hsub : (config.routers.map ConfigString.text).flatten.Sublist
      (Text.fields (.ofNat ';'.toNat) isSpace (text.take 255)).flatten := by
    rw [← hsame]
    exact (copies_sublist _).trans (List.take_sublist _ _).flatten
  have hcount := hsub.countP_le (p := isSolid)
  rw [← fields_written h hlist, hcountOf, hcountOf] at hcount
  have hsplit := congrArg (List.countP isSolid) (List.take_append_drop 255 text)
  rw [List.countP_append] at hsplit
  have hnone : (text.drop 255).countP isSolid = 0 := by omega
  intro b hb
  simpa using List.countP_eq_zero.mp hnone b hb

theorem heard_iff {config : RooleConfig} (h : Writable config)
    (hlist : SpacedList config.routers text) :
    parseList (trimWhitespace (text.take 255)) maxConfigRouters = config.routers ↔
      FitsBuffer text := by
  have hlength : (trimWhitespace (text.take 255)).length ≤ 255 :=
    (Text.trim_length_le _ _).trans (List.length_take_le ..)
  rw [parseList_eq hlength, trimWhitespace, Text.fields_trim _ (by decide)]
  constructor
  · intro hsame
    have hsolid := solid_of_same h hlist hsame
    rcases lastSolid h hlist with hblank | ⟨front, b, post, rfl, hb, hpost⟩
    · exact fun b hb => hblank b (List.mem_of_mem_drop hb)
    · intro x hx
      have hfront : front.length < 255 := by
        by_contra hlong
        refine absurd (hsolid b ?_) (by simp [hb])
        rw [List.drop_append_of_le_length (Nat.not_lt.mp hlong)]
        simp
      rw [List.drop_append, List.drop_of_length_le (Nat.le_of_lt hfront), List.nil_append] at hx
      obtain ⟨n, hn⟩ := Nat.exists_eq_succ_of_ne_zero (Nat.sub_ne_zero_of_lt hfront)
      rw [hn, List.drop_succ_cons] at hx
      exact hpost x (List.mem_of_mem_drop hx)
  · intro hfits
    have hfields := fields_written h hlist
    rw [← List.take_append_drop 255 text, Text.fields_append _ hfits (by decide)] at hfields
    rw [hfields, List.take_of_length_le (by rw [List.length_map]; exact config.routers_le),
      List.map_map]
    exact (List.map_congr_left fun router _ => copy_text router).trans (List.map_id _)

theorem RendersLines.written (h : RendersLines config current lines entries) :
    ∀ entry ∈ entries, entry.1.Written config entry.2 := by
  induction h with
  | done => exact fun _ hmem => nomatch hmem
  | blank _ _ ih => exact ih
  | comment _ _ _ ih => exact ih
  | header _ _ _ _ ih => exact ih
  | entry _ _ _ _ hvalue _ ih => exact List.forall_mem_cons.mpr ⟨hvalue, ih⟩

theorem get_heard (hne : setting ≠ .routers) (config : RooleConfig) (value : List UInt8) :
    (config.heard value).get setting = config.get setting := by
  cases setting <;> first | rfl | exact absurd rfl hne

theorem Setting.Omissible.get_zero {config : RooleConfig} {setting : Setting}
    (h : setting.Omissible config) : RooleConfig.zero.get setting = config.get setting := by
  have hempty : ∀ value : ConfigString, value.text = [] → ConfigString.copy [] = value :=
    fun value hvalue => (congrArg _ hvalue.symm).trans (copy_text value)
  cases setting with
  | ingress => exact congrArg ConfigValue.text (hempty _ h)
  | metrics => exact congrArg ConfigValue.text (hempty _ h)
  | routers => exact congrArg ConfigValue.texts (Eq.symm h)
  | _ => exact h.elim

theorem get_loaded {config : RooleConfig} {entries : List (Setting × List UInt8)}
    (honce : (entries.map Prod.fst).Nodup)
    (hcomplete : ∀ setting, setting ∈ entries.map Prod.fst ∨ setting.Omissible config)
    (hne : setting ≠ .routers) :
    (config.setAll entries .zero).get setting = config.get setting := by
  by_cases hmem : setting ∈ entries.map Prod.fst
  · obtain ⟨⟨_, value⟩, hentry, rfl⟩ := List.mem_map.mp hmem
    rw [get_setAll hentry honce, get_heard hne]
  · rw [get_setAll_of_not_mem hmem]
    exact ((hcomplete setting).resolve_left hmem).get_zero

theorem configLoad_code {config loaded : RooleConfig} (h : Writable config)
    (hfile : ((Text.readLines 10 1023 [] file).foldl ConfigLoader.read ⟨[], .zero⟩).config = loaded)
    (hget : ∀ setting ≠ Setting.routers, loaded.get setting = config.get setting)
    (before : RooleConfig) : configLoadFromFile (some file) before = (0, loaded) := by
  have hname : loaded.clusterName = config.clusterName :=
    ConfigValue.text.inj (hget .name (by decide))
  have hid : loaded.nodeId = config.nodeId := ConfigValue.nodeId.inj (hget .id (by decide))
  have htype : loaded.nodeType = config.nodeType :=
    ConfigValue.nodeType.inj (hget .type (by decide))
  have hgossip : loaded.ports.gossipAddr = config.ports.gossipAddr :=
    ConfigValue.text.inj (hget .gossip (by decide))
  have hdata : loaded.ports.dataAddr = config.ports.dataAddr :=
    ConfigValue.text.inj (hget .data (by decide))
  have hknown : config.nodeType ≠ .unknown := by
    rcases h.nodeType with hrouter | hworker
    · simp [hrouter]
    · simp [hworker]
  simp only [configLoadFromFile, hfile, hname, hid, htype, hgossip, hdata, List.length_eq_zero_iff,
    h.name.nonempty, h.nodeId, hknown, h.gossip.nonempty, h.data.nonempty, if_false]

/-- The loader takes back the configuration from any file it was written to,
exactly if the list of routers fits its buffer. -/
theorem configLoad_renders_iff {config : RooleConfig} (h : Writable config)
    (hrenders : Renders config file entries) (before : RooleConfig) :
    configLoadFromFile (some file) before = (0, config) ↔
      ∀ value, (Setting.routers, value) ∈ entries → FitsBuffer value := by
  have hget := fun setting hne =>
    @get_loaded setting config entries hrenders.once hrenders.complete hne
  rw [configLoad_code h (foldl_read h hrenders) hget before, Prod.mk.injEq, eq_self_iff_true,
    true_and]
  obtain ⟨lines, -, -, hlines⟩ := hrenders.lines
  have hwritten : ∀ value, (Setting.routers, value) ∈ entries → SpacedList config.routers value :=
    fun value hvalue => hlines.written _ hvalue
  have hrouters : ∀ value, (Setting.routers, value) ∈ entries →
      (config.setAll entries .zero).routers =
        parseList (trimWhitespace (value.take 255)) maxConfigRouters := fun value hvalue =>
    ConfigValue.texts.inj (get_setAll hvalue hrenders.once config .zero)
  constructor
  · intro hsame value hvalue
    rw [← heard_iff h (hwritten value hvalue), ← hrouters value hvalue, hsame]
  · intro hfits
    refine RooleConfig.ext_get fun setting => ?_
    by_cases hne : setting = .routers
    · subst hne
      by_cases hmem : Setting.routers ∈ entries.map Prod.fst
      · obtain ⟨⟨_, value⟩, hentry, rfl⟩ := List.mem_map.mp hmem
        refine congrArg ConfigValue.texts ((hrouters value hentry).trans ?_)
        exact (heard_iff h (hwritten value hentry)).mpr (hfits value hentry)
      · rw [get_setAll_of_not_mem hmem]
        exact ((hrenders.complete _).resolve_left hmem).get_zero
    · exact hget setting hne

-- ----------------------------------------------------------------------------
-- Two lists of routers
-- ----------------------------------------------------------------------------

def seedAddress : ConfigString := .copy (chars "192.168.100.101:7000")

def seedConfig (count : Nat) (h : count ≤ maxConfigRouters) : RooleConfig where
  clusterName := .copy (chars "demo")
  nodeId := 1
  nodeType := .router
  ports := ⟨.copy (chars "0.0.0.0:7000"), .copy (chars "0.0.0.0:7001"), .copy [], .copy []⟩
  routers := List.replicate count seedAddress
  routers_le := by rwa [List.length_replicate]
  logLevel := .info

def seedList (count : Nat) : List UInt8 :=
  [.ofNat ';'.toNat].intercalate (List.replicate count seedAddress.text)

def writtenEntry (key : String) (value : List UInt8) : List UInt8 :=
  chars key ++ .ofNat '='.toNat :: value

def seedLines (count : Nat) : List (List UInt8) :=
  [.ofNat '#'.toNat :: chars " seeds",
    .ofNat '['.toNat :: chars "Cluster" ++ .ofNat ']'.toNat :: [], [],
    writtenEntry "routers" (seedList count), writtenEntry "name" (chars "demo"),
    .ofNat '['.toNat :: chars "Node" ++ .ofNat ']'.toNat :: [],
    writtenEntry "id" (chars "1"), writtenEntry "type" (chars "ROUTER"),
    writtenEntry "gossip" (chars "0.0.0.0:7000"), writtenEntry "data_addr" (chars "0.0.0.0:7001"),
    .ofNat '['.toNat :: chars "Logging" ++ .ofNat ']'.toNat :: [],
    writtenEntry "level" (chars "INFO")]

def seedEntries (count : Nat) : List (Setting × List UInt8) :=
  [(.routers, seedList count), (.name, chars "demo"), (.id, chars "1"), (.type, chars "ROUTER"),
    (.gossip, chars "0.0.0.0:7000"), (.data, chars "0.0.0.0:7001"), (.level, chars "INFO")]

theorem spaced_self (value : List UInt8) : Spaced value value :=
  ⟨[], [], by simp [Blanks], by simp [Blanks], by simp⟩

theorem seedConfig_writable (count : Nat) (h : count ≤ maxConfigRouters) :
    Writable (seedConfig count h) where
  name := show Plain (.copy (chars "demo")) from ⟨by decide, by decide, by decide⟩
  gossip := show Plain (.copy (chars "0.0.0.0:7000")) from ⟨by decide, by decide, by decide⟩
  data := show Plain (.copy (chars "0.0.0.0:7001")) from ⟨by decide, by decide, by decide⟩
  ingress := fun hne => absurd rfl hne
  metrics := fun hne => absurd rfl hne
  nodeId := show (1 : UInt16) ≠ 0 by decide
  nodeType := .inl rfl
  routers := fun router hrouter => by
    obtain rfl := List.eq_of_mem_replicate hrouter
    exact ⟨⟨by decide, by decide, by decide⟩, by decide⟩

theorem seedList_written (count : Nat) :
    SpacedList (List.replicate count seedAddress) (seedList count) := by
  refine ⟨List.replicate count seedAddress.text, ?_, spaced_self _⟩
  induction count with
  | zero => exact .nil
  | succ count ih => exact .cons (spaced_self _) ih

theorem RendersLines.plainHeader (setting : Setting)
    (h : RendersLines config setting.section rest entries) : RendersLines config current
      ((.ofNat '['.toNat :: setting.section ++ .ofNat ']'.toNat :: []) :: rest) entries :=
  @header _ _ [] _ _ _ _ setting (by simp [sameText]) (by simp [Blanks]) h

theorem RendersLines.plainEntry (setting : Setting)
    (hkey : chars key ∈ setting.keys) (hvalue : setting.Written config value)
    (h : RendersLines config setting.section rest entries) :
    RendersLines config setting.section (writtenEntry key value :: rest)
      ((setting, value) :: entries) :=
  .entry setting (by simp [sameText]) ⟨chars key, hkey, by simp [sameText]⟩ (spaced_self _) hvalue h

theorem seedConfig_renders (count : Nat) (h : count ≤ maxConfigRouters)
    (hlines : ∀ line ∈ seedLines count, line.length < 1023 ∧ 10 ∉ line ∧ 0 ∉ line) :
    Renders (seedConfig count h) ([10].intercalate (seedLines count)) (seedEntries count) where
  lines := by
    refine ⟨_, rfl, hlines, ?_⟩
    refine @RendersLines.comment _ [] _ _ _ _ _ (fun _ hb => nomatch hb) (.inr rfl) ?_
    refine .plainHeader .name (.blank (fun _ hb => nomatch hb) ?_)
    refine .plainEntry .routers (by decide) (seedList_written count) ?_
    refine .plainEntry .name (by decide) (spaced_self _) ?_
    refine .plainHeader .id (.plainEntry .id (by decide) ?_ ?_)
    · rw [show chars "1" = Decimal.print 1 by decide]
      exact spaced_self _
    refine .plainEntry .type (by decide) ⟨chars "ROUTER", ?_, spaced_self _⟩ ?_
    · exact show sameText (chars "ROUTER") (chars "ROUTER") = true by decide
    refine .plainEntry .gossip (by decide) (spaced_self _) ?_
    refine .plainEntry .data (by decide) (spaced_self _) ?_
    refine .plainHeader .level (.plainEntry .level (by decide) ?_ .done)
    exact ⟨chars "INFO", show sameText (chars "INFO") (chars "INFO") = true by decide,
      spaced_self _⟩
  once := by simp [seedEntries]
  complete := by
    intro setting
    cases setting <;> first | exact .inr rfl | exact .inl (by simp [seedEntries])

theorem configLoad_renders_iff_two :
    configLoadFromFile (some ([10].intercalate (seedLines 2))) .zero =
        (0, seedConfig 2 (by decide)) ↔
      ∀ value, (Setting.routers, value) ∈ seedEntries 2 → FitsBuffer value :=
  configLoad_renders_iff (seedConfig_writable 2 _) (seedConfig_renders 2 _ (by decide)) .zero

/-- Sixteen do not. -/
theorem configLoad_cut :
    (Writable (seedConfig 16 (by decide)) ∧
      Renders (seedConfig 16 (by decide)) ([10].intercalate (seedLines 16)) (seedEntries 16)) ∧
    configLoadFromFile (some ([10].intercalate (seedLines 16))) .zero ≠
      (0, seedConfig 16 (by decide)) :=
  ⟨⟨seedConfig_writable 16 _, seedConfig_renders 16 _ (by decide +kernel)⟩,
    by decide +kernel⟩

end Roole
