import Roole.Core.Logger
import Roole.Lib.Json

/-!
# The log lines in JSON format

What a log call emits in JSON format is one line with one JSON object, and the
message in it, unless a component is named in a context that is set: that line
has no colon behind its first name.
-/

namespace Roole

def LogEffect.written : LogEffect → List UInt8
  | .format _ => []
  | .write _ data count => data.take count

def emitted (result : List LogEffect × LogBuffer) : List UInt8 :=
  result.1.flatMap LogEffect.written ++ result.2.data

def IsLogged (c : UInt8) : Prop := (32 ≤ c ∧ c ≤ 126) ∨ c = 10 ∨ c = 13 ∨ c = 9

instance (c : UInt8) : Decidable (IsLogged c) := inferInstanceAs (Decidable (_ ∨ _))

/-- What is to be read of a message: of its first 1023 bytes those that are logged. -/
def loggedMessage (message : List UInt8) : List Nat :=
  (((cString message).take 1023).filter IsLogged).map UInt8.toNat

def units (text : String) : List Nat := (chars text).map UInt8.toNat

/-- One line is emitted behind what the buffer had: a JSON object with one member
`message`, which is the message. -/
def EmitsMessage (buf : LogBuffer) (call : LogCall) (result : List LogEffect × LogBuffer) : Prop :=
  ∃ line members, emitted result = buf.data ++ line ∧ Json.IsText line (.object members) ∧
    members.filter (fun member => member.1 = units "message") =
      [(units "message", .string (loggedMessage call.message))]

-- ----------------------------------------------------------------------------
-- The escaped message
-- ----------------------------------------------------------------------------

def jsonEscapeByte (c : UInt8) : List UInt8 :=
  if c = quote ∨ c = backslash then [backslash, c]
  else if c = 10 then [backslash, .ofNat 'n'.toNat]
  else if c = 13 then [backslash, .ofNat 'r'.toNat]
  else if c = 9 then [backslash, .ofNat 't'.toNat]
  else if 32 ≤ c ∧ c ≤ 126 then [c]
  else []

theorem jsonEscapeByte_length_le (c : UInt8) : (jsonEscapeByte c).length ≤ 2 := by
  unfold jsonEscapeByte
  split_ifs <;> simp

theorem jsonEscapeLoop_eq (input output : List UInt8)
    (h : output.length + 2 * input.length + 2 ≤ size) :
    jsonEscapeLoop size input output = output ++ input.flatMap jsonEscapeByte := by
  induction input generalizing output with
  | nil => simp [jsonEscapeLoop]
  | cons c input ih =>
    rw [List.length_cons] at h
    have hroom : output.length < size - 2 := by omega
    have hescape : output.length < size - 3 := by omega
    have hbyte := jsonEscapeByte_length_le c
    have hnext : jsonEscapeLoop size (c :: input) output =
        jsonEscapeLoop size input (output ++ jsonEscapeByte c) := by
      rw [jsonEscapeLoop, if_pos hroom]
      simp only [if_pos hescape]
      unfold jsonEscapeByte
      split_ifs <;> simp
    rw [hnext, ih, List.flatMap_cons, List.append_assoc]
    rw [List.length_append]
    omega

theorem jsonEscapeByte_body (c : UInt8) :
    Json.StringBody (jsonEscapeByte c) (([c].filter IsLogged).map UInt8.toNat) := by
  unfold jsonEscapeByte
  split_ifs with hspecial hnewline hreturn htab hprinted
  · rcases hspecial with rfl | rfl
    · exact .escape (by decide)
    · exact .escape (by decide)
  · subst hnewline
    exact .escape (by decide)
  · subst hreturn
    exact .escape (by decide)
  · subst htab
    exact .escape (by decide)
  · have hlogged : IsLogged c := .inl hprinted
    have hkept : [c].filter IsLogged = [c] := by simp [hlogged]
    rw [hkept]
    refine .plain ⟨hprinted.1, UInt8.le_trans hprinted.2 (by decide), ?_, ?_⟩
    · exact fun h => hspecial (.inl h)
    · exact fun h => hspecial (.inr h)
  · have hdropped : ¬IsLogged c := by
      rintro (h | h | h | h)
      · exact hprinted h
      · exact hnewline h
      · exact hreturn h
      · exact htab h
    have hnone : [c].filter IsLogged = [] := by simp [hdropped]
    rw [hnone]
    exact .nil

theorem escapedMessage_body (message : List UInt8) :
    Json.StringBody (jsonEscapeString (safeStrncpy message 1024) 2048) (loggedMessage message) := by
  have hlength : (safeStrncpy message 1024).length ≤ 1023 := List.length_take_le _ _
  have hbytes : ∀ bytes : List UInt8, Json.StringBody (bytes.flatMap jsonEscapeByte)
      ((bytes.filter IsLogged).map UInt8.toNat) := by
    intro bytes
    induction bytes with
    | nil => exact .nil
    | cons c bytes ih =>
      rw [List.flatMap_cons, ← List.singleton_append, List.filter_append, List.map_append]
      exact (jsonEscapeByte_body c).append ih
  rw [jsonEscapeString, cString_safeStrncpy, jsonEscapeLoop_eq _ _ (by simp; omega)]
  exact hbytes (safeStrncpy message 1024)

-- ----------------------------------------------------------------------------
-- The members of a line
-- ----------------------------------------------------------------------------

def lineFields (call : LogCall) : List (List UInt8 × List UInt8) :=
  [(chars "timestamp", Json.printString (getTimestamp call.time)),
    (chars "level", Json.printString (levelToString call.level))] ++
  (match call.context with
    | some context =>
      [(chars "node_id", printInt context.nodeId.toNat),
        (chars "cluster", Json.printString context.clusterName)]
    | none => []) ++
  [(chars "thread_id", printInt call.threadId.toNat),
    (chars "file", Json.printString call.file),
    (chars "line", printInt call.line),
    (chars "message", Json.printString
      (jsonEscapeString (safeStrncpy call.message 1024) 2048))]

def lineMembers (call : LogCall) : List (List Nat × Json.Value) :=
  [(units "timestamp", .string ((getTimestamp call.time).map UInt8.toNat)),
    (units "level", .string ((levelToString call.level).map UInt8.toNat))] ++
  (match call.context with
    | some context =>
      [(units "node_id", .number (printInt context.nodeId.toNat)),
        (units "cluster", .string (context.clusterName.map UInt8.toNat))]
    | none => []) ++
  [(units "thread_id", .number (printInt call.threadId.toNat)),
    (units "file", .string (call.file.map UInt8.toNat)),
    (units "line", .number (printInt call.line)),
    (units "message", .string (loggedMessage call.message))]

theorem jsonLine_eq (h : call.context = none ∨ getComponentPath call.stack = []) :
    jsonLine call = Json.printObject (lineFields call) ++ [10] := by
  unfold jsonLine lineFields
  cases hcontext : call.context with
  | none => simp [Json.printObject, Json.printMembers, Json.printString, chars]
  | some context =>
    have hpath : getComponentPath call.stack = [] := by
      rcases h with h | h
      · rw [hcontext] at h
        cases h
      · exact h
    simp [hpath, Json.printObject, Json.printMembers, Json.printString, chars]

theorem plain_of_all {text : List UInt8}
    (h : text.all (fun b => decide (Json.IsPlain b)) = true) : ∀ b ∈ text, Json.IsPlain b :=
  fun b hb => of_decide_eq_true (List.all_eq_true.mp h b hb)

theorem plain_take {text : List UInt8} (h : ∀ b ∈ text, Json.IsPlain b) :
    ∀ b ∈ text.take n, Json.IsPlain b :=
  fun b hb => h b (List.mem_of_mem_take hb)

theorem isPlain_of_le (hlow : lo ≤ b) (hhigh : b ≤ hi)
    (hrange : 92 < lo ∧ hi ≤ 127 ∨ 34 < lo ∧ hi < 92) : Json.IsPlain b := by
  simp only [UInt8.le_iff_toNat_le, UInt8.lt_iff_toNat_lt] at hlow hhigh hrange
  unfold Json.IsPlain
  simp only [UInt8.le_iff_toNat_le, ne_eq, ← UInt8.toNat_inj]
  simp only [UInt8.toNat_ofNat] at hrange ⊢
  omega

theorem isPlain_digit (h : Decimal.IsDigit b) : Json.IsPlain b :=
  isPlain_of_le h.1 h.2 (by decide)

theorem isPlain_nameByte (h : IsNameByte b) : Json.IsPlain b := by
  rcases h with hdigit | hupper | hlower | rfl | rfl
  · exact isPlain_digit hdigit
  · exact isPlain_of_le hupper.1 hupper.2 (by decide)
  · exact isPlain_of_le hlower.1 hlower.2 (by decide)
  · decide
  · decide

theorem printPadded_plain (width : Nat) (n : Int) : ∀ b ∈ printPadded width n, Json.IsPlain b := by
  have hdigits : ∀ b ∈ Decimal.print n.natAbs, Json.IsPlain b :=
    fun b hb => isPlain_digit (Decimal.isDigit_of_mem _ b hb)
  have hzeros : ∀ k, ∀ b ∈ List.replicate k (UInt8.ofNat '0'.toNat), Json.IsPlain b := by
    intro k b hb
    rw [List.eq_of_mem_replicate hb]
    decide
  unfold printPadded
  split_ifs
  · exact List.forall_mem_cons.mpr
      ⟨by decide, List.forall_mem_append.mpr ⟨hzeros _, hdigits⟩⟩
  · exact List.forall_mem_append.mpr ⟨hzeros _, hdigits⟩

theorem getTimestamp_plain (time : LocalTime) : ∀ b ∈ getTimestamp time, Json.IsPlain b := by
  have hdash : ∀ b ∈ chars "-", Json.IsPlain b := plain_of_all (by decide)
  have hletter : ∀ b ∈ chars "T", Json.IsPlain b := plain_of_all (by decide)
  have hcolon : ∀ b ∈ chars ":", Json.IsPlain b := plain_of_all (by decide)
  have hdot : ∀ b ∈ chars ".", Json.IsPlain b := plain_of_all (by decide)
  have hzone : ∀ b ∈ chars "Z", Json.IsPlain b := plain_of_all (by decide)
  have hnumber := printPadded_plain
  refine plain_take ?_
  simp only [List.forall_mem_append]
  exact ⟨⟨⟨⟨⟨⟨⟨⟨⟨⟨⟨⟨⟨hnumber _ _, hdash⟩, hnumber _ _⟩, hdash⟩, hnumber _ _⟩, hletter⟩,
    hnumber _ _⟩, hcolon⟩, hnumber _ _⟩, hcolon⟩, hnumber _ _⟩, hdot⟩, hnumber _ _⟩, hzone⟩

theorem levelToString_plain (level : LogLevel) : ∀ b ∈ levelToString level, Json.IsPlain b := by
  apply plain_of_all
  cases level <;> decide

theorem printInt_isNumber (n : Int) : Json.IsNumber (printInt n) := by
  unfold printInt
  split_ifs
  · exact Json.isNumber_neg_of_isNatural (Json.isNatural_print _)
  · exact Json.isNumber_of_isNatural (Json.isNatural_print _)

/-- The name is one that `validate_cluster_name` accepts. -/
def FromClusterName (context : LogContext) : Prop :=
  ∃ nodeId name, (validateClusterName name validationResultInit).1 = 0 ∧
    context = loggerSetContext nodeId (some name)

theorem FromClusterName.plain (h : FromClusterName context) :
    ∀ b ∈ context.clusterName, Json.IsPlain b := by
  obtain ⟨nodeId, name, haccepted, rfl⟩ := h
  intro b hb
  have hmem : b ∈ name := (List.takeWhile_prefix _).subset (List.mem_of_mem_take hb)
  unfold validateClusterName at haccepted
  split_ifs at haccepted with hempty hlong
  · cases haccepted
  · cases haccepted
  · split at haccepted
    · cases haccepted
    · rename_i hfind
      have hname := List.find?_eq_none.mp hfind b hmem
      exact isPlain_nameByte (by simpa using hname)

theorem printsString (name : String)
    (hname : (chars name).all (fun b => decide (Json.IsPlain b)) = true)
    (hbody : Json.StringBody text value) :
    Json.PrintsMember (chars name, Json.printString text) (units name, .string value) where
  name := .of_plain _ (plain_of_all hname)
  value := hbody.prints

theorem printsNumber (name : String)
    (hname : (chars name).all (fun b => decide (Json.IsPlain b)) = true) (n : Int) :
    Json.PrintsMember (chars name, printInt n) (units name, .number (printInt n)) where
  name := .of_plain _ (plain_of_all hname)
  value := (printInt_isNumber n).prints

theorem lineFields_print (hfile : ∀ b ∈ call.file, Json.IsPlain b)
    (hcontext : ∀ context ∈ call.context, FromClusterName context) :
    List.Forall₂ Json.PrintsMember (lineFields call) (lineMembers call) := by
  have htimestamp := printsString "timestamp" (by decide)
    (.of_plain _ (getTimestamp_plain call.time))
  have hlevel := printsString "level" (by decide) (.of_plain _ (levelToString_plain call.level))
  have hthread := printsNumber "thread_id" (by decide) call.threadId.toNat
  have hfileName := printsString "file" (by decide) (.of_plain _ hfile)
  have hline := printsNumber "line" (by decide) call.line
  have hmessage := printsString "message" (by decide) (escapedMessage_body call.message)
  have hend := List.Forall₂.cons hthread (.cons hfileName (.cons hline (.cons hmessage .nil)))
  unfold lineFields lineMembers
  cases hset : call.context with
  | none => exact .cons htimestamp (.cons hlevel hend)
  | some context =>
    have hnode := printsNumber "node_id" (by decide) context.nodeId.toNat
    have hcluster := printsString "cluster" (by decide)
      (.of_plain _ (hcontext context hset).plain)
    exact .cons htimestamp (.cons hlevel (.cons hnode (.cons hcluster hend)))

theorem lineMembers_message (call : LogCall) :
    (lineMembers call).filter (fun member => member.1 = units "message") =
      [(units "message", .string (loggedMessage call.message))] := by
  unfold lineMembers
  cases call.context <;> simp [units, chars]

-- ----------------------------------------------------------------------------
-- What is emitted
-- ----------------------------------------------------------------------------

def LogBuffer.Filled (buf : LogBuffer) : Prop := buf.data.length = buf.used

theorem jsonLine_ne_nil (call : LogCall) : jsonLine call ≠ [] := by
  unfold jsonLine
  cases call.context with
  | none => simp [chars]
  | some context =>
    dsimp only
    split_ifs <;> simp [chars]

theorem LogBuffer.append_of_fits (buf : LogBuffer) (hne : text ≠ [])
    (hfits : buf.used + text.length < logBufferSize) :
    buf.append text = ⟨buf.data ++ text, buf.used + text.length⟩ := by
  have hpos := List.length_pos_iff.mpr hne
  have hsize : logBufferSize ≤ intMax := by decide
  have hresult : snprintfResult text = text.length := if_pos (by omega)
  have hall : text.take (logBufferSize - buf.used - 1) = text :=
    List.take_of_length_le (by omega)
  unfold append
  dsimp only
  rw [hresult, if_pos (by omega), Int.toNat_natCast, hall, Nat.min_eq_right (by omega),
    List.take_left]

theorem LogBuffer.append_filled {buf : LogBuffer} (h : buf.Filled) (text : List UInt8)
    (hfits : buf.used + advance text ≤ logBufferSize) : (buf.append text).Filled := by
  unfold Filled at h ⊢
  unfold advance at hfits
  unfold append
  dsimp only
  split_ifs with hpos
  · have hresult : (snprintfResult text).toNat = text.length := by
      unfold snprintfResult at hpos ⊢
      split_ifs at hpos ⊢ with hle
      · exact Int.toNat_natCast _
      · exact absurd hpos (by decide)
    dsimp only
    rw [List.length_append, List.length_take, List.length_append, List.length_take,
      List.length_singleton, h, hresult]
    omega
  · exact h

theorem LogBuffer.endLine_filled {buf : LogBuffer} (h : buf.Filled) : buf.endLine.Filled := by
  unfold Filled at h ⊢
  unfold endLine
  split_ifs
  · rw [List.length_append, h, List.length_singleton]
  · exact h

theorem LogBuffer.finish_filled {buf : LogBuffer} (h : buf.Filled) (level : LogLevel) :
    (buf.finish level).2.Filled := by
  unfold finish
  split_ifs
  · rfl
  · exact h

theorem LogBuffer.makeRoom_filled {buf : LogBuffer} (h : buf.Filled) : buf.makeRoom.2.Filled := by
  unfold makeRoom
  split_ifs
  · rfl
  · exact h

theorem LogBuffer.emitted_makeRoom {buf : LogBuffer} (h : buf.Filled) :
    emitted buf.makeRoom = buf.data := by
  unfold makeRoom
  split_ifs
  · have hall : buf.data.take buf.used = buf.data := List.take_of_length_le h.le
    simp [emitted, writeOut, empty, LogEffect.written, hall]
  · rfl

theorem LogBuffer.emitted_finish {buf : LogBuffer} (h : buf.Filled) (level : LogLevel) :
    emitted (buf.finish level) = buf.data := by
  unfold finish
  split_ifs
  · have hall : buf.data.take buf.used = buf.data := List.take_of_length_le h.le
    simp [emitted, writeOut, empty, LogEffect.written, hall]
  · rfl

theorem loggerLogJson_emitted (call : LogCall) {buf : LogBuffer} (h : buf.Filled)
    (hfits : buf.kept + (jsonLine call).length < logBufferSize) :
    emitted (loggerLogJson call buf) = buf.data ++ jsonLine call := by
  have happend : buf.makeRoom.2.append (jsonLine call) =
      ⟨buf.makeRoom.2.data ++ jsonLine call, buf.makeRoom.2.used + (jsonLine call).length⟩ := by
    refine LogBuffer.append_of_fits _ (jsonLine_ne_nil call) ?_
    rwa [LogBuffer.makeRoom_used]
  have hfilled : (buf.makeRoom.2.append (jsonLine call)).Filled := by
    have hroom := LogBuffer.makeRoom_filled h
    unfold LogBuffer.Filled at hroom ⊢
    rw [happend, List.length_append, hroom]
  have hlate := LogBuffer.emitted_finish hfilled call.level
  have hearly := LogBuffer.emitted_makeRoom h
  unfold emitted at hlate hearly ⊢
  unfold loggerLogJson
  simp only [List.flatMap_append, List.flatMap_cons, List.flatMap_nil, LogEffect.written,
    List.append_nil, List.append_assoc]
  rw [hlate, happend, ← hearly]
  simp

theorem LogRun.step_filled (r : LogRun) (action : LogAction) (h : r.buf.Filled)
    (hfits : LineFits r action) : (r.step action).buf.Filled := by
  cases action with
  | flush =>
    show (flushBuffer r.buf).2.Filled
    unfold flushBuffer
    split_ifs
    · exact h
    · rfl
  | log format minimum call =>
    show (loggerLog format minimum call r.buf).2.Filled
    have hroom := LogBuffer.makeRoom_filled h
    have hused := r.buf.makeRoom_used
    unfold loggerLog
    split_ifs with hquiet
    · exact h
    · have hline := hfits.resolve_left hquiet
      cases format with
      | json =>
        have hfilled := LogBuffer.append_filled hroom (jsonLine call) (hused ▸ hline)
        exact LogBuffer.finish_filled hfilled call.level
      | text =>
        have hprefix := LogBuffer.append_filled hroom (textPrefix call)
          (hused ▸ (Nat.le_add_right _ _).trans hline)
        have hmessage := LogBuffer.append_filled hprefix call.message (by
          rw [LogBuffer.append_used, hused]
          exact hline)
        exact LogBuffer.finish_filled (LogBuffer.endLine_filled hmessage) call.level

theorem LogRun.run_filled {actions : List LogAction}
    (h : Runs.Meets LogRun.step LineFits .start actions) :
    (Runs.run LogRun.step .start actions).buf.Filled := by
  have hrun := Runs.invariant (P := fun r => r.buf.Filled) LogRun.step_filled rfl h actions.length
  rwa [List.take_length] at hrun

-- ----------------------------------------------------------------------------
-- The name without a colon
-- ----------------------------------------------------------------------------

theorem printPadded_head (width : Nat) (n : Int) :
    ∃ b rest, printPadded width n = b :: rest ∧ (b = 45 ∨ Decimal.IsDigit b) := by
  unfold printPadded
  dsimp only
  split_ifs
  · exact ⟨45, _, rfl, .inl rfl⟩
  · cases width - (Decimal.print n.natAbs).length with
    | succ zeros => exact ⟨48, _, rfl, .inr (by decide)⟩
    | zero =>
      obtain ⟨b, rest, hprint⟩ := List.exists_cons_of_ne_nil (Decimal.print_ne_nil n.natAbs)
      have hdigit := Decimal.isDigit_of_mem n.natAbs b (hprint ▸ List.mem_cons_self)
      exact ⟨b, rest, hprint, .inr hdigit⟩

theorem getTimestamp_head (time : LocalTime) :
    ∃ b rest, getTimestamp time = b :: rest ∧ (b = 45 ∨ Decimal.IsDigit b) := by
  obtain ⟨b, rest, hyear, hb⟩ := printPadded_head 4 time.year
  unfold getTimestamp
  rw [hyear]
  exact ⟨b, _, rfl, hb⟩

theorem jsonLine_component_not_isText (hcontext : call.context = some context)
    (hpath : getComponentPath call.stack ≠ []) (value : Json.Value) :
    ¬Json.IsText (jsonLine call) value := by
  obtain ⟨b, rest, htime, hb⟩ := getTimestamp_head call.time
  have hline : ∃ after, jsonLine call =
      123 :: 34 :: (chars "timestamp" ++ 34 :: b :: after) := by
    unfold jsonLine
    simp only [hcontext, if_pos hpath, htime]
    exact ⟨_, rfl⟩
  obtain ⟨after, hline⟩ := hline
  rw [hline]
  intro htext
  have hname : ∀ b ∈ chars "timestamp", Json.IsPlain b := plain_of_all (by decide)
  rcases Json.isText_object_name hname htext with rfl | hspace
  · exact absurd hb (by decide)
  · rcases hspace with rfl | rfl | rfl | rfl <;> exact absurd hb (by decide)

theorem loggerLog_json (hlevel : ¬call.level.rank < minimum.rank) :
    loggerLog .json minimum call buf = loggerLogJson call buf := if_neg hlevel

theorem not_emitsMessage_component {buf : LogBuffer} (h : buf.Filled)
    (hfits : buf.kept + (jsonLine call).length < logBufferSize)
    (hcontext : call.context = some context) (hpath : getComponentPath call.stack ≠ []) :
    ¬EmitsMessage buf call (loggerLogJson call buf) := by
  rintro ⟨line, members, hemitted, htext, -⟩
  rw [loggerLogJson_emitted call h hfits] at hemitted
  rw [← List.append_cancel_left hemitted] at htext
  exact jsonLine_component_not_isText hcontext hpath _ htext

/-- Behind lines that all fit, a call whose line fits emits one object with its
message, unless it names a component in a context that is set. -/
theorem loggerLog_emitsMessage_iff (actions : List LogAction)
    (hactions : Runs.Meets LogRun.step LineFits .start actions) (minimum : LogLevel)
    (call : LogCall) (hlevel : ¬call.level.rank < minimum.rank)
    (hfile : ∀ b ∈ call.file, Json.IsPlain b)
    (hcontext : ∀ context ∈ call.context, FromClusterName context)
    (hfits : (Runs.run LogRun.step .start actions).buf.kept + (jsonLine call).length <
      logBufferSize) :
    EmitsMessage (Runs.run LogRun.step .start actions).buf call
        (loggerLog .json minimum call (Runs.run LogRun.step .start actions).buf) ↔
      call.context = none ∨ getComponentPath call.stack = [] := by
  have hfilled := LogRun.run_filled hactions
  rw [loggerLog_json hlevel]
  constructor
  · intro hemits
    by_contra hbroken
    rw [not_or] at hbroken
    obtain ⟨context, hset⟩ := Option.ne_none_iff_exists'.mp hbroken.1
    exact not_emitsMessage_component hfilled hfits hset hbroken.2 hemits
  · intro hcolon
    refine ⟨jsonLine call, lineMembers call, loggerLogJson_emitted call hfilled hfits, ?_,
      lineMembers_message call⟩
    rw [jsonLine_eq hcolon]
    exact (Json.prints_object (lineFields_print hfile hcontext)).isText_line

def quietLogCall : LogCall where
  level := .warn
  file := chars "src/node/node.c"
  line := 12
  message := chars "Peer \"b\" lost"
  time := ⟨2024, 1, 31, 23, 59, 0, 7⟩
  threadId := 140737
  context := some (loggerSetContext 7 (some (chars "edge-1")))
  stack := .empty

theorem quietLogCall_emitsMessage :
    EmitsMessage (Runs.run LogRun.step .start []).buf quietLogCall
      (loggerLog .json .info quietLogCall (Runs.run LogRun.step .start []).buf) := by
  refine (loggerLog_emitsMessage_iff [] trivial .info quietLogCall (by decide) ?_ ?_ ?_).mpr
    (.inr rfl)
  · exact plain_of_all (by decide)
  · rintro context hcontext
    cases hcontext
    exact ⟨7, chars "edge-1", by decide, rfl⟩
  · decide +kernel

def componentLogCall : LogCall where
  level := .warn
  file := chars "src/node/node.c"
  line := 12
  message := chars "Peer lost"
  time := ⟨2024, 1, 31, 23, 59, 0, 7⟩
  threadId := 140737
  context := some (loggerSetContext 7 (some (chars "edge-1")))
  stack := loggerPushComponent .empty (some (chars "gossip"))

theorem componentLogCall_not_emitsMessage :
    ¬EmitsMessage LogRun.start.buf componentLogCall
      (loggerLog .json .info componentLogCall LogRun.start.buf) := by
  rw [loggerLog_json (by decide)]
  exact not_emitsMessage_component rfl (by decide +kernel) rfl (by decide)

end Roole
