import Roole.Core.Config
import Roole.Lib.Runs

/-!
# The logger

`logger.c`: a log line in text or JSON format is formatted into the buffer of the
thread, which is written out when it is filled beyond a threshold, when it is
flushed and behind an error. The number of bytes used grows by what `snprintf`
returns, which is the length of the text whether or not it fits.
-/

namespace Roole

def logBufferSize : Nat := 4096
def criticalBufferThreshold : Nat := 3072
def maxComponentStack : Nat := 4
def intMax : Nat := 2 ^ 31 - 1

-- ----------------------------------------------------------------------------
-- Formatting
-- ----------------------------------------------------------------------------

def printPadded (width : Nat) (n : Int) : List UInt8 :=
  let digits := Decimal.print n.natAbs
  let zero := UInt8.ofNat '0'.toNat
  if n < 0 then .ofNat '-'.toNat :: (List.replicate (width - 1 - digits.length) zero ++ digits)
  else List.replicate (width - digits.length) zero ++ digits

def printHex (n : Nat) : List UInt8 :=
  let digits := (Nat.toDigits 16 n).map fun c => UInt8.ofNat c.toNat
  List.replicate (4 - digits.length) (.ofNat '0'.toNat) ++ digits

/-- What `snprintf` returns for a text. -/
def snprintfResult (text : List UInt8) : Int := if text.length ≤ intMax then text.length else -1

def LogLevel.rank : LogLevel → Nat
  | .debug => 0
  | .info => 1
  | .warn => 2
  | .error => 3

def levelToString : LogLevel → List UInt8
  | .debug => chars "DEBUG"
  | .info => chars "INFO"
  | .warn => chars "WARN"
  | .error => chars "ERROR"

structure LocalTime where
  year : Int
  month : Int
  day : Int
  hour : Int
  minute : Int
  second : Int
  millisecond : Int
  deriving DecidableEq, Repr

def getTimestamp (time : LocalTime) : List UInt8 :=
  (printPadded 4 time.year ++ chars "-" ++ printPadded 2 time.month ++ chars "-" ++
    printPadded 2 time.day ++ chars "T" ++ printPadded 2 time.hour ++ chars ":" ++
    printPadded 2 time.minute ++ chars ":" ++ printPadded 2 time.second ++ chars "." ++
    printPadded 3 time.millisecond ++ chars "Z").take 31

-- ----------------------------------------------------------------------------
-- Components and context
-- ----------------------------------------------------------------------------

structure ComponentStack where
  components : List (List UInt8)
  depth_le : components.length ≤ maxComponentStack
  deriving DecidableEq

def ComponentStack.empty : ComponentStack := ⟨[], Nat.zero_le _⟩

def loggerPushComponent (stack : ComponentStack) (componentName : Option (List UInt8)) :
    ComponentStack :=
  match componentName with
  | none => stack
  | some name =>
    if h : stack.components.length < maxComponentStack then
      { components := stack.components ++ [safeStrncpy name 32]
        depth_le := by
          rw [List.length_append, List.length_singleton]
          exact h }
    else stack

def loggerPopComponent (stack : ComponentStack) : ComponentStack where
  components := stack.components.dropLast
  depth_le := by
    rw [List.length_dropLast]
    exact (Nat.sub_le _ _).trans stack.depth_le

theorem loggerPopComponent_push_iff (stack : ComponentStack) (name : List UInt8) :
    loggerPopComponent (loggerPushComponent stack (some name)) = stack ↔
      stack.components.length < maxComponentStack := by
  unfold loggerPushComponent
  dsimp only
  split_ifs with hroom
  · refine iff_of_true ?_ hroom
    simp [loggerPopComponent]
  · refine iff_of_false (fun heq => hroom ?_) hroom
    have hlength := congrArg (fun stack => stack.components.length) heq
    simp only [loggerPopComponent, List.length_dropLast] at hlength
    have hempty : stack.components.length = 0 := by omega
    rw [hempty]
    decide

/-- The loop of `get_component_path`; `path` is what the buffer of `size` bytes
holds so far. -/
def componentPathLoop (size : Nat) (separator : List UInt8) :
    List (List UInt8) → List UInt8 → List UInt8
  | [], path => path
  | component :: rest, path =>
    if path.length < size - 1 then
      componentPathLoop size (chars ":") rest ((path ++ separator ++ component).take (size - 1))
    else path

def getComponentPath (stack : ComponentStack) : List UInt8 :=
  componentPathLoop 128 [] stack.components []

structure LogContext where
  nodeId : NodeId
  clusterName : List UInt8
  deriving DecidableEq, Repr

def loggerSetContext (nodeId : NodeId) (clusterName : Option (List UInt8)) : LogContext where
  nodeId := nodeId
  clusterName := safeStrncpy (clusterName.getD (chars "unknown")) 64

-- ----------------------------------------------------------------------------
-- Lines
-- ----------------------------------------------------------------------------

/-- A call of `logger_log`, with what the thread and the process have at the
time. `message` is the text that the format and its arguments stand for. -/
structure LogCall where
  level : LogLevel
  file : List UInt8
  line : Int
  message : List UInt8
  time : LocalTime
  threadId : UInt64
  context : Option LogContext
  stack : ComponentStack
  deriving DecidableEq

def textPrefix (call : LogCall) : List UInt8 :=
  let path := getComponentPath call.stack
  let tid := printHex (call.threadId.toNat % 0xFFFF)
  let start := chars "[" ++ getTimestamp call.time ++ chars "][" ++ levelToString call.level ++
    chars "]"
  let finish := chars "[tid:" ++ tid ++ chars "][" ++ call.file ++ chars ":" ++
    printInt call.line ++ chars "] "
  match call.context with
  | some context =>
    let node := chars "[node:" ++ printInt context.nodeId.toNat ++ chars "][" ++
      context.clusterName ++ chars "]"
    if path ≠ [] then start ++ node ++ chars "[" ++ path ++ chars "]" ++ finish
    else start ++ node ++ finish
  | none => start ++ finish

def quote : UInt8 := 34
def backslash : UInt8 := 92

/-- The loop of `json_escape_string` with `output` written so far. -/
def jsonEscapeLoop (outputSize : Nat) : List UInt8 → List UInt8 → List UInt8
  | [], output => output
  | c :: input, output =>
    if output.length < outputSize - 2 then
      let escaped (e : UInt8) : List UInt8 :=
        if output.length < outputSize - 3 then output ++ [backslash, e] else output
      jsonEscapeLoop outputSize input
        (if c = quote ∨ c = backslash then escaped c
        else if c = 10 then escaped (.ofNat 'n'.toNat)
        else if c = 13 then escaped (.ofNat 'r'.toNat)
        else if c = 9 then escaped (.ofNat 't'.toNat)
        else if 32 ≤ c ∧ c ≤ 126 then output ++ [c]
        else output)
    else output

def jsonEscapeString (input : List UInt8) (outputSize : Nat) : List UInt8 :=
  jsonEscapeLoop outputSize (cString input) []

def jsonLine (call : LogCall) : List UInt8 :=
  let path := getComponentPath call.stack
  let message := safeStrncpy call.message 1024
  let escapedMessage := jsonEscapeString message 2048
  let finish := chars "\"thread_id\":" ++ printInt call.threadId.toNat ++ chars ",\"file\":\"" ++
    call.file ++ chars "\",\"line\":" ++ printInt call.line ++ chars ",\"message\":\"" ++
    escapedMessage ++ chars "\"\x7d\n"
  match call.context with
  | some context =>
    if path ≠ [] then
      chars "\x7b\"timestamp\"" ++ getTimestamp call.time ++ chars ",\"level\":\"" ++
        levelToString call.level ++ chars "\",\"node_id\":" ++ printInt context.nodeId.toNat ++
        chars ",\"cluster\":\"" ++ context.clusterName ++ chars "\",\"component\":\"" ++ path ++
        chars "\"," ++ finish
    else
      chars "\x7b\"timestamp\":\"" ++ getTimestamp call.time ++ chars "\",\"level\":\"" ++
        levelToString call.level ++ chars "\",\"node_id\":" ++ printInt context.nodeId.toNat ++
        chars ",\"cluster\":\"" ++ context.clusterName ++ chars "\"," ++ finish
  | none =>
    chars "\x7b\"timestamp\":\"" ++ getTimestamp call.time ++ chars "\",\"level\":\"" ++
      levelToString call.level ++ chars "\"," ++ finish

-- ----------------------------------------------------------------------------
-- The buffer of a thread
-- ----------------------------------------------------------------------------

inductive LogStream
  | stdout
  | stderr
  deriving DecidableEq, Repr

inductive LogEffect
  /-- A text is formatted to what follows the bytes used, with
  `LOG_BUFFER_SIZE - used` as the size. -/
  | format (used : Nat)
  /-- `count` bytes from the buffer's start on are written; the first of them
  are `data`. -/
  | write (stream : LogStream) (data : List UInt8) (count : Nat)
  deriving DecidableEq, Repr

structure LogBuffer where
  data : List UInt8
  used : Nat
  deriving DecidableEq, Repr

namespace LogBuffer

def empty : LogBuffer := ⟨[], 0⟩

/-- `snprintf` behind the bytes used; a text that does not fit is cut and ends
with a NUL. -/
def append (buf : LogBuffer) (text : List UInt8) : LogBuffer :=
  let room := logBufferSize - buf.used
  if snprintfResult text > 0 then
    { data := buf.data ++ (text.take (room - 1) ++ [0]).take (min room text.length)
      used := buf.used + (snprintfResult text).toNat }
  else buf

def writeOut (buf : LogBuffer) (stream : LogStream) : List LogEffect × LogBuffer :=
  ([.write stream buf.data buf.used], empty)

def makeRoom (buf : LogBuffer) : List LogEffect × LogBuffer :=
  if buf.used > criticalBufferThreshold then buf.writeOut .stdout else ([], buf)

def endLine (buf : LogBuffer) : LogBuffer :=
  if buf.used < logBufferSize - 1 then ⟨buf.data ++ [10], buf.used + 1⟩ else buf

def finish (buf : LogBuffer) (level : LogLevel) : List LogEffect × LogBuffer :=
  if level = .error then buf.writeOut .stderr else ([], buf)

end LogBuffer

def flushBuffer (buf : LogBuffer) : List LogEffect × LogBuffer :=
  if buf.used = 0 then ([], buf) else buf.writeOut .stdout

def loggerLogText (call : LogCall) (buf : LogBuffer) : List LogEffect × LogBuffer :=
  let (early, start) := buf.makeRoom
  let prefixed := start.append (textPrefix call)
  let (late, after) := ((prefixed.append call.message).endLine).finish call.level
  (early ++ [.format start.used, .format prefixed.used] ++ late, after)

def loggerLogJson (call : LogCall) (buf : LogBuffer) : List LogEffect × LogBuffer :=
  let (early, start) := buf.makeRoom
  let (late, after) := (start.append (jsonLine call)).finish call.level
  (early ++ [.format start.used] ++ late, after)

inductive LogFormat
  | text
  | json
  deriving DecidableEq, Repr

/-- A call below the level that is set does nothing. -/
def loggerLog (format : LogFormat) (minimum : LogLevel) (call : LogCall) (buf : LogBuffer) :
    List LogEffect × LogBuffer :=
  if call.level.rank < minimum.rank then ([], buf)
  else
    match format with
    | .json => loggerLogJson call buf
    | .text => loggerLogText call buf

-- ----------------------------------------------------------------------------
-- Bounds
-- ----------------------------------------------------------------------------

/-- The size given does not wrap, and no more is written than the array holds. -/
def LogEffect.InBounds : LogEffect → Prop
  | .format used => used ≤ logBufferSize
  | .write _ _ count => count ≤ logBufferSize

instance (effect : LogEffect) : Decidable effect.InBounds :=
  match effect with
  | .format used => inferInstanceAs (Decidable (used ≤ logBufferSize))
  | .write _ _ count => inferInstanceAs (Decidable (count ≤ logBufferSize))

inductive LogAction
  | log (format : LogFormat) (minimum : LogLevel) (call : LogCall)
  | flush
  deriving DecidableEq

structure LogRun where
  buf : LogBuffer
  effects : List LogEffect
  deriving DecidableEq

namespace LogRun

def start : LogRun := ⟨.empty, []⟩

def step (r : LogRun) (action : LogAction) : LogRun :=
  let (effects, buf) :=
    match action with
    | .log format minimum call => loggerLog format minimum call r.buf
    | .flush => flushBuffer r.buf
  ⟨buf, r.effects ++ effects⟩

structure InBounds (r : LogRun) : Prop where
  used : r.buf.used ≤ logBufferSize
  effects : ∀ effect ∈ r.effects, effect.InBounds

end LogRun

def advance (text : List UInt8) : Nat := (snprintfResult text).toNat

def LogBuffer.kept (buf : LogBuffer) : Nat :=
  if buf.used > criticalBufferThreshold then 0 else buf.used

/-- What the call formats fits into the buffer behind what is kept. -/
def LineFits (r : LogRun) : LogAction → Prop
  | .log format minimum call =>
    call.level.rank < minimum.rank ∨
      match format with
      | .text => r.buf.kept + advance (textPrefix call) + advance call.message ≤ logBufferSize
      | .json => r.buf.kept + advance (jsonLine call) ≤ logBufferSize
  | .flush => True

theorem LogBuffer.append_used (buf : LogBuffer) (text : List UInt8) :
    (buf.append text).used = buf.used + advance text := by
  unfold append advance
  dsimp only
  split_ifs with hpos
  · rfl
  · rw [Int.toNat_of_nonpos (Int.not_lt.mp hpos), Nat.add_zero]

theorem LogBuffer.makeRoom_used (buf : LogBuffer) : buf.makeRoom.2.used = buf.kept := by
  unfold makeRoom kept
  split_ifs <;> rfl

theorem LogBuffer.makeRoom_inBounds {buf : LogBuffer} (h : buf.used ≤ logBufferSize) :
    ∀ effect ∈ buf.makeRoom.1, effect.InBounds := by
  unfold makeRoom
  split_ifs
  · intro effect heffect
    rw [List.mem_singleton.mp heffect]
    exact h
  · exact fun _ heffect => nomatch heffect

theorem LogBuffer.endLine_used_le_iff (buf : LogBuffer) :
    buf.endLine.used ≤ logBufferSize ↔ buf.used ≤ logBufferSize := by
  unfold endLine
  split_ifs with hroom
  · have hnext : buf.used + 1 ≤ logBufferSize := by omega
    exact iff_of_true hnext (Nat.le_of_succ_le hnext)
  · rfl

theorem LogBuffer.finish_inBounds_iff (buf : LogBuffer) (level : LogLevel) :
    ((buf.finish level).2.used ≤ logBufferSize ∧
        ∀ effect ∈ (buf.finish level).1, effect.InBounds) ↔ buf.used ≤ logBufferSize := by
  unfold finish
  split_ifs
  · simp [writeOut, empty, LogEffect.InBounds]
  · simp

theorem LogBuffer.kept_le {buf : LogBuffer} (h : buf.used ≤ logBufferSize) :
    buf.kept ≤ logBufferSize := by
  unfold kept
  split_ifs
  · exact Nat.zero_le _
  · exact h

theorem loggerLogText_inBounds_iff (call : LogCall) {buf : LogBuffer}
    (h : buf.used ≤ logBufferSize) :
    ((loggerLogText call buf).2.used ≤ logBufferSize ∧
        ∀ effect ∈ (loggerLogText call buf).1, effect.InBounds) ↔
      buf.kept + advance (textPrefix call) + advance call.message ≤ logBufferSize := by
  have hearly := LogBuffer.makeRoom_inBounds h
  have hkept := LogBuffer.kept_le h
  have hfull : ((buf.makeRoom.2.append (textPrefix call)).append call.message).used =
      buf.kept + advance (textPrefix call) + advance call.message := by
    rw [LogBuffer.append_used, LogBuffer.append_used, LogBuffer.makeRoom_used]
  have hlate := ((buf.makeRoom.2.append (textPrefix call)).append
    call.message).endLine.finish_inBounds_iff call.level
  rw [LogBuffer.endLine_used_le_iff, hfull] at hlate
  unfold loggerLogText
  simp only [List.forall_mem_append, List.forall_mem_cons, LogEffect.InBounds,
    LogBuffer.append_used, LogBuffer.makeRoom_used, List.not_mem_nil, false_imp_iff, implies_true,
    and_true, ← hlate]
  constructor
  · rintro ⟨hused, -, hrest⟩
    exact ⟨hused, hrest⟩
  · rintro ⟨hused, hrest⟩
    have hall := hlate.mp ⟨hused, hrest⟩
    exact ⟨hused, ⟨hearly, hkept, by omega⟩, hrest⟩

theorem loggerLogJson_inBounds_iff (call : LogCall) {buf : LogBuffer}
    (h : buf.used ≤ logBufferSize) :
    ((loggerLogJson call buf).2.used ≤ logBufferSize ∧
        ∀ effect ∈ (loggerLogJson call buf).1, effect.InBounds) ↔
      buf.kept + advance (jsonLine call) ≤ logBufferSize := by
  have hearly := LogBuffer.makeRoom_inBounds h
  have hkept := LogBuffer.kept_le h
  have hlate := (buf.makeRoom.2.append (jsonLine call)).finish_inBounds_iff call.level
  rw [LogBuffer.append_used, LogBuffer.makeRoom_used] at hlate
  unfold loggerLogJson
  simp only [List.forall_mem_append, List.forall_mem_cons, LogEffect.InBounds,
    LogBuffer.makeRoom_used, List.not_mem_nil, false_imp_iff, implies_true, and_true, ← hlate]
  constructor
  · rintro ⟨hused, -, hrest⟩
    exact ⟨hused, hrest⟩
  · rintro ⟨hused, hrest⟩
    exact ⟨hused, ⟨hearly, hkept⟩, hrest⟩

theorem LogRun.step_inBounds_iff (r : LogRun) (action : LogAction) (h : r.InBounds) :
    (r.step action).InBounds ↔ LineFits r action := by
  have hsplit : ∀ result : List LogEffect × LogBuffer,
      (⟨result.2, r.effects ++ result.1⟩ : LogRun).InBounds ↔
        result.2.used ≤ logBufferSize ∧ ∀ effect ∈ result.1, effect.InBounds := by
    intro result
    constructor
    · intro hnext
      exact ⟨hnext.used, fun effect heffect =>
        hnext.effects effect (List.mem_append_right _ heffect)⟩
    · rintro ⟨hused, heffects⟩
      exact ⟨hused, List.forall_mem_append.mpr ⟨h.effects, heffects⟩⟩
  cases action with
  | flush =>
    refine iff_of_true ((hsplit (flushBuffer r.buf)).mpr ?_) trivial
    unfold flushBuffer
    split_ifs
    · exact ⟨h.used, fun _ heffect => nomatch heffect⟩
    · refine ⟨Nat.zero_le _, fun effect heffect => ?_⟩
      rw [List.mem_singleton.mp heffect]
      exact h.used
  | log format minimum call =>
    refine (hsplit (loggerLog format minimum call r.buf)).trans ?_
    unfold loggerLog LineFits
    split_ifs with hquiet
    · simp [hquiet, h.used]
    · dsimp only
      rw [or_iff_right hquiet]
      cases format with
      | text => exact loggerLogText_inBounds_iff call h.used
      | json => exact loggerLogJson_inBounds_iff call h.used

/-- The buffer stays within bounds as long as every line fits behind what is kept
of the earlier ones. -/
theorem loggerBuffer_inBounds_iff (actions : List LogAction) :
    (∀ i, (Runs.run LogRun.step .start (actions.take i)).InBounds) ↔
      Runs.Meets LogRun.step LineFits .start actions :=
  Runs.invariant_iff_meets LogRun.step_inBounds_iff ⟨Nat.zero_le _, List.forall_mem_nil _⟩ actions

def longLogCall : LogCall where
  level := .info
  file := chars "main.c"
  line := 1
  message := List.replicate 4096 97
  time := ⟨2024, 1, 1, 0, 0, 0, 0⟩
  threadId := 1
  context := none
  stack := .empty

theorem longLogCall_overruns :
    ¬(Runs.run LogRun.step .start [.log .text .info longLogCall]).InBounds := by
  intro h
  exact absurd h.used (by decide +kernel)

end Roole
