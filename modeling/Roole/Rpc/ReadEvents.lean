import Roole.Rpc.Redispatch

/-!
# Draining a readable connection

The handling of one `EPOLLIN` event of `rpc_multi_channel_event_loop`. Events are
edge-triggered: bytes that are still in the socket afterwards announce themselves
no more. The loop reads until a read would block, but no further than the receive
buffer goes; the buffer is processed behind the loop.
-/

namespace Roole

open Framing

inductive ReadOutcome
  /-- The read gives at most `n + 1` of the bytes received. -/
  | atMost (n : Nat)
  /-- The read fails, and not with `EAGAIN` or `EWOULDBLOCK`. -/
  | failed
  deriving DecidableEq, Repr

inductive ReadResult
  | bytes (n : Nat)
  | closed
  | wouldBlock
  | failed
  deriving DecidableEq, Repr

structure RpcSocket where
  pending : List UInt8
  ended : Bool
  deriving DecidableEq, Repr

/-- A call of `read` with this much room: its result, the bytes read, and the
socket behind it. -/
def RpcSocket.read (socket : RpcSocket) (room : Nat) :
    ReadOutcome → ReadResult × List UInt8 × RpcSocket
  | .failed => (.failed, [], socket)
  | .atMost n =>
    if socket.pending = [] then (if socket.ended then .closed else .wouldBlock, [], socket)
    else
      let taken := socket.pending.take (min (n + 1) room)
      (.bytes taken.length, taken, { socket with pending := socket.pending.drop taken.length })

/-- Where the loop has got to; nothing has been read yet before its first read. -/
structure ReadState where
  rxData : List UInt8
  socket : RpcSocket
  last : Option ReadResult
  deriving DecidableEq, Repr

/-- The loop around `read`. The first argument bounds the rounds; the kernel's
answers to the reads to come are `reads`. -/
def readLoop (rxBufferSize : Nat) : Nat → (Nat → ReadOutcome) → ReadState → ReadState
  | 0, _, state => state
  | fuel + 1, reads, state =>
    if state.rxData.length < rxBufferSize then
      match state.socket.read (rxBufferSize - state.rxData.length) (reads 0) with
      | (.bytes n, taken, socket) =>
        readLoop rxBufferSize fuel (fun i => reads (i + 1))
          ⟨state.rxData ++ taken, socket, some (.bytes n)⟩
      | (result, _, socket) => ⟨state.rxData, socket, some result⟩
    else state

structure ReadHandled (N : Type) where
  session : RpcSession N
  socket : RpcSocket
  last : Option ReadResult

section
variable {N : Type} (contextMemory : Nat → Option NodeId) (channel : RpcChannel)
  (table : Option (List (RpcServiceEntry N)))

/-- The handling of an event with `EPOLLIN`; `hangup` says whether `EPOLLRDHUP`,
`EPOLLERR` or `EPOLLHUP` is set as well. -/
def handleReadEvent (hangup : Bool) (reads : Nat → ReadOutcome) (session : RpcSession N)
    (socket : RpcSocket) : ReadHandled N :=
  let state := readLoop channel.rxBufferSize channel.rxBufferSize reads
    ⟨session.rxData, socket, none⟩
  let closeConnection :=
    hangup || state.last == some .closed || state.last == some .failed
  if closeConnection then
    ⟨{ session with rxData := state.rxData, closed := true }, state.socket, state.last⟩
  else
    let (rest, dispatches, server) :=
      if state.rxData.length > 0 then
        processBufferedData contextMemory channel table state.rxData session.server
      else (state.rxData, [], session.server)
    ⟨{ rxData := rest
       closed := rest.length == channel.rxBufferSize
       dispatched := session.dispatched ++ dispatches
       server := server }, state.socket, state.last⟩

end

/-- Unless the connection is closed, the last read would have blocked, and
nothing is left in the socket. -/
def ReadHandled.Drained {N : Type} (handled : ReadHandled N) : Prop :=
  handled.session.closed = true ∨
    handled.last = some .wouldBlock ∧ handled.socket.pending = []

-- ----------------------------------------------------------------------------
-- The loop
-- ----------------------------------------------------------------------------

def ReadOutcome.most : ReadOutcome → Nat
  | .atMost n => n + 1
  | .failed => 0

/-- A read fails before the reads have given as much as there is room for. -/
def FailsWithin (room : Nat) (reads : Nat → ReadOutcome) : Prop :=
  ∃ j, reads j = .failed ∧ ((List.range j).map fun i => (reads i).most).sum < room

def StopsReading (room pending : Nat) (reads : Nat → ReadOutcome) : Prop :=
  pending < room ∨ FailsWithin room reads

theorem failsWithin_failed (h : reads 0 = .failed) : FailsWithin room reads ↔ 0 < room := by
  constructor
  · rintro ⟨j, -, hsum⟩
    exact Nat.zero_lt_of_lt hsum
  · exact fun hroom => ⟨0, h, hroom⟩

theorem failsWithin_atMost (h : reads 0 = .atMost n) :
    FailsWithin room reads ↔ FailsWithin (room - (n + 1)) fun i => reads (i + 1) := by
  have hsum : ∀ j, ((List.range (j + 1)).map fun i => (reads i).most).sum =
      n + 1 + ((List.range j).map fun i => (reads (i + 1)).most).sum := by
    intro j
    rw [List.range_succ_eq_map, List.map_cons, List.sum_cons, List.map_map, h]
    rfl
  constructor
  · rintro ⟨j, hfailed, hlt⟩
    cases j with
    | zero => cases h.symm.trans hfailed
    | succ j =>
      rw [hsum] at hlt
      exact ⟨j, hfailed, Nat.lt_sub_iff_add_lt'.mpr hlt⟩
  · rintro ⟨j, hfailed, hlt⟩
    refine ⟨j + 1, hfailed, ?_⟩
    rw [hsum]
    exact Nat.lt_sub_iff_add_lt'.mp hlt

theorem stopsReading_read (h : reads 0 = .atMost n) (room pending : Nat) :
    let taken := min (min (n + 1) room) pending
    StopsReading room pending reads ↔
      StopsReading (room - taken) (pending - taken) fun i => reads (i + 1) := by
  intro taken
  unfold StopsReading
  rw [failsWithin_atMost h]
  by_cases hshort : pending < room
  · exact iff_of_true (.inl hshort) (.inl (by omega))
  · have hall : room - taken = room - (n + 1) := by omega
    rw [hall]
    have hrest : ¬pending - taken < room - (n + 1) := by omega
    simp only [hshort, hrest, false_or]

theorem not_stopsReading_zero : ¬StopsReading 0 pending reads := by
  rintro (hlt | ⟨j, -, hlt⟩)
  · cases hlt
  · cases hlt

theorem RpcSocket.read_bytes (socket : RpcSocket) (hpending : socket.pending ≠ []) (room n : Nat) :
    let taken := min (min (n + 1) room) socket.pending.length
    socket.read room (.atMost n) =
      (.bytes taken, socket.pending.take taken,
        { socket with pending := socket.pending.drop taken }) := by
  intro taken
  have htaken : socket.pending.take (min (n + 1) room) = socket.pending.take taken := by
    rw [List.take_eq_take_min]
  unfold RpcSocket.read
  dsimp only
  rw [if_neg hpending, htaken, List.length_take_of_le (Nat.min_le_right _ _)]

def ReadState.received (state : ReadState) (taken : Nat) : ReadState where
  rxData := state.rxData ++ state.socket.pending.take taken
  socket := { state.socket with pending := state.socket.pending.drop taken }
  last := some (.bytes taken)

section
variable {state : ReadState} {reads : Nat → ReadOutcome} {size fuel n : Nat}

theorem readLoop_noRoom (hroom : ¬state.rxData.length < size) :
    readLoop size fuel reads state = state := by
  cases fuel with
  | zero => rfl
  | succ fuel => rw [readLoop, if_neg hroom]

theorem readLoop_failed (hroom : state.rxData.length < size) (hread : reads 0 = .failed) :
    readLoop size (fuel + 1) reads state = { state with last := some .failed } := by
  rw [readLoop, if_pos hroom, hread]
  rfl

theorem readLoop_empty (hroom : state.rxData.length < size) (hread : reads 0 = .atMost n)
    (hempty : state.socket.pending = []) :
    readLoop size (fuel + 1) reads state =
      { state with last := some (if state.socket.ended then .closed else .wouldBlock) } := by
  rw [readLoop, if_pos hroom, hread, RpcSocket.read, if_pos hempty]
  cases state.socket.ended <;> rfl

theorem readLoop_bytes (hroom : state.rxData.length < size) (hread : reads 0 = .atMost n)
    (hpending : state.socket.pending ≠ []) :
    readLoop size (fuel + 1) reads state =
      readLoop size fuel (fun i => reads (i + 1))
        (state.received
          (min (min (n + 1) (size - state.rxData.length)) state.socket.pending.length)) := by
  rw [readLoop, if_pos hroom, hread, RpcSocket.read_bytes state.socket hpending]
  rfl

def ReadState.Stopped (after : ReadState) : Prop :=
  after.last = some .closed ∨ after.last = some .failed ∨
    after.last = some .wouldBlock ∧ after.socket.pending = []

def ReadState.Filled (size : Nat) (before after : ReadState) : Prop :=
  (after.last = before.last ∨ ∃ n, after.last = some (.bytes n)) ∧
    after.rxData =
      before.rxData ++ before.socket.pending.take (size - before.rxData.length)

def ReadState.Ends (size : Nat) (reads : Nat → ReadOutcome) (before after : ReadState) : Prop :=
  (StopsReading (size - before.rxData.length) before.socket.pending.length reads →
    after.Stopped) ∧
  (¬StopsReading (size - before.rxData.length) before.socket.pending.length reads →
    before.Filled size after)

theorem ReadState.ends_noRoom (hroom : ¬state.rxData.length < size) :
    state.Ends size reads state := by
  have hnone : size - state.rxData.length = 0 := Nat.sub_eq_zero_of_le (Nat.not_lt.mp hroom)
  unfold ReadState.Ends ReadState.Filled
  rw [hnone]
  refine ⟨fun hstops => absurd hstops not_stopsReading_zero, fun _ => ⟨.inl rfl, ?_⟩⟩
  rw [List.take_zero, List.append_nil]

theorem ReadState.Ends.of_read (hread : reads 0 = .atMost n)
    (h : ReadState.Ends size (fun i => reads (i + 1)) (state.received taken) after)
    (htaken : taken = min (min (n + 1) (size - state.rxData.length)) state.socket.pending.length) :
    state.Ends size reads after := by
  have hroom : taken ≤ size - state.rxData.length := by omega
  have hpending : taken ≤ state.socket.pending.length := by omega
  have hlength : (state.rxData ++ state.socket.pending.take taken).length =
      state.rxData.length + taken := by
    rw [List.length_append, List.length_take_of_le hpending]
  have hstops := stopsReading_read hread (size - state.rxData.length) state.socket.pending.length
  dsimp only at hstops
  rw [← htaken] at hstops
  unfold ReadState.Ends ReadState.Filled ReadState.received at h
  dsimp only at h
  rw [hlength, List.length_drop, ← Nat.sub_sub, ← hstops] at h
  refine ⟨h.1, fun hgoes => ?_⟩
  obtain ⟨hlast, hrx⟩ := h.2 hgoes
  constructor
  · rcases hlast with hlast | hlast
    · exact .inr ⟨_, hlast⟩
    · exact .inr hlast
  · rw [hrx, List.append_assoc, ← List.take_add, Nat.add_sub_cancel' hroom]

theorem readLoop_ends (reads : Nat → ReadOutcome) (state : ReadState)
    (hfuel : size - state.rxData.length ≤ fuel) :
    state.Ends size reads (readLoop size fuel reads state) := by
  induction fuel generalizing reads state with
  | zero => exact ReadState.ends_noRoom (by omega)
  | succ fuel ih =>
    by_cases hroom : state.rxData.length < size
    case neg =>
      rw [readLoop_noRoom hroom]
      exact ReadState.ends_noRoom hroom
    cases hread : reads 0 with
    | failed =>
      have hstops := (failsWithin_failed hread).mpr (Nat.sub_pos_of_lt hroom)
      rw [readLoop_failed hroom hread]
      exact ⟨fun _ => .inr (.inl rfl), fun hgoes => absurd (.inr hstops) hgoes⟩
    | atMost n =>
      by_cases hempty : state.socket.pending = []
      · have hstops : state.socket.pending.length < size - state.rxData.length := by
          rw [hempty]
          exact Nat.sub_pos_of_lt hroom
        rw [readLoop_empty hroom hread hempty]
        refine ⟨fun _ => ?_, fun hgoes => absurd (.inl hstops) hgoes⟩
        cases hended : state.socket.ended with
        | true => exact .inl rfl
        | false => exact .inr (.inr ⟨rfl, hempty⟩)
      · have hpending := List.length_pos_of_ne_nil hempty
        rw [readLoop_bytes hroom hread hempty]
        refine ReadState.Ends.of_read hread (ih _ _ ?_) rfl
        rw [ReadState.received, List.length_append, List.length_take]
        omega

end

-- ----------------------------------------------------------------------------
-- The buffer
-- ----------------------------------------------------------------------------

section
variable {N : Type} {contextMemory : Nat → Option NodeId} {channel : RpcChannel}

/-- When the requests at the front of the buffer are served one after the other,
there is no memory for the context of one of them. -/
inductive ContextMissing (contextMemory : Nat → Option NodeId) (channel : RpcChannel)
    (table : List (RpcServiceEntry N)) : List UInt8 → RpcServer N → Prop
  | here : rpcFront bytes = .frame frame size → contextMemory server.allocated = none →
      ContextMissing contextMemory channel table bytes server
  | later : rpcFront bytes = .frame frame size → contextMemory server.allocated = some senderId →
      ContextMissing contextMemory channel table (bytes.drop size)
        (dispatchRequest table
          ⟨server.allocated, channel, frame.header.requestId, frame.header.funcId, senderId⟩
          frame.payload { server with allocated := server.allocated + 1 }).2 →
      ContextMissing contextMemory channel table bytes server

/-- Nothing of a full buffer can be given to the handlers, or it is left as it
is because memory runs out. -/
def StaysFull (contextMemory : Nat → Option NodeId) (channel : RpcChannel)
    (table : Option (List (RpcServiceEntry N))) (bytes : List UInt8) (server : RpcServer N) :
    Prop :=
  match table with
  | none => False
  | some table =>
    rpcFront bytes = .incomplete ∨ ContextMissing contextMemory channel table bytes server

theorem not_contextMissing {table : List (RpcServiceEntry N)} {server : RpcServer N}
    (hfront : ∀ frame size, rpcFront bytes ≠ .frame frame size) :
    ¬ContextMissing contextMemory channel table bytes server := by
  intro hmissing
  cases hmissing with
  | here hframe | later hframe => exact hfront _ _ hframe

theorem contextMissing_frame_iff {table : List (RpcServiceEntry N)} {server : RpcServer N}
    (hfront : rpcFront bytes = .frame frame size)
    (hmemory : contextMemory server.allocated = some senderId) :
    ContextMissing contextMemory channel table bytes server ↔
      ContextMissing contextMemory channel table (bytes.drop size)
        (dispatchRequest table
          ⟨server.allocated, channel, frame.header.requestId, frame.header.funcId, senderId⟩
          frame.payload { server with allocated := server.allocated + 1 }).2 := by
  refine ⟨fun h => ?_, .later hfront hmemory⟩
  cases h with
  | here _ hnone => cases hmemory.symm.trans hnone
  | later hframe hsome hlater =>
    cases hfront.symm.trans hframe
    cases hmemory.symm.trans hsome
    exact hlater

def ProcessExit.Leaves (missing : Prop) (bytes : List UInt8) : ProcessExit → Prop
  | .partialMessage rest => ¬missing ∧
      (rpcFront bytes = .incomplete ∧ rest = bytes ∨
        rpcFront bytes ≠ .incomplete ∧ rest.length < bytes.length)
  | .invalidHeader => ¬missing ∧ rpcFront bytes ≠ .incomplete
  | .outOfMemory => missing

theorem ProcessExit.Leaves.of_frame {exit : ProcessExit}
    (hfront : rpcFront bytes = .frame frame size) (h : exit.Leaves missing (bytes.drop size)) :
    exit.Leaves missing bytes := by
  obtain ⟨hsize, hpos⟩ := rpcFront_size hfront
  have hle := rpcReader.size_le hfront
  cases exit with
  | partialMessage rest =>
    have hshorter : rest.length ≤ (bytes.drop size).length := by
      rcases h.2 with ⟨-, rfl⟩ | ⟨-, hlt⟩
      · exact Nat.le_refl _
      · exact Nat.le_of_lt hlt
    rw [List.length_drop] at hshorter
    exact ⟨h.1, .inr ⟨by simp [hfront], by omega⟩⟩
  | invalidHeader => exact ⟨h.1, by simp [hfront]⟩
  | outOfMemory => exact h

theorem processLoop_leaves (contextMemory : Nat → Option NodeId) (channel : RpcChannel)
    (table : List (RpcServiceEntry N)) (hfuel : bytes.length < fuel) (server : RpcServer N) :
    (processLoop contextMemory table channel fuel bytes server).1.Leaves
      (ContextMissing contextMemory channel table bytes server) bytes := by
  induction fuel generalizing bytes server with
  | zero => cases hfuel
  | succ fuel ih =>
    cases hfront : rpcFront bytes with
    | incomplete =>
      rw [processLoop_wait hfront]
      exact ⟨not_contextMissing (by simp [hfront]), .inl ⟨hfront, rfl⟩⟩
    | malformed =>
      rw [processLoop_malformed hfront]
      exact ⟨not_contextMissing (by simp [hfront]), by simp [hfront]⟩
    | frame frame size =>
      cases hmemory : contextMemory server.allocated with
      | none =>
        rw [processLoop_full hfront hmemory]
        exact .here hfront hmemory
      | some senderId =>
        obtain ⟨hsize, hpos⟩ := rpcFront_size hfront
        have hle := rpcReader.size_le hfront
        have hless : (bytes.drop size).length < fuel := by
          rw [List.length_drop]
          omega
        rw [processLoop_frame hfront hmemory, contextMissing_frame_iff hfront hmemory]
        exact .of_frame hfront (ih hless _)

variable (contextMemory) (channel)

theorem processBufferedData_length_iff (table : Option (List (RpcServiceEntry N)))
    (hbytes : 0 < rxData.length) (server : RpcServer N) :
    (processBufferedData contextMemory channel table rxData server).1.length = rxData.length ↔
      StaysFull contextMemory channel table rxData server := by
  unfold processBufferedData StaysFull
  cases table with
  | none => simpa using Nat.ne_of_lt hbytes
  | some table =>
    have hleaves := processLoop_leaves contextMemory channel table (Nat.lt_succ_self rxData.length)
      server
    rw [Nat.succ_eq_add_one] at hleaves
    dsimp only
    rcases hloop : processLoop contextMemory table channel (rxData.length + 1) rxData server with
      ⟨rest | _ | _, dispatches, after⟩
    · rw [hloop] at hleaves
      obtain ⟨hmemory, ⟨hwaits, rfl⟩ | ⟨hfront, hlt⟩⟩ := hleaves
      · simp [hwaits]
      · simp [hmemory, hfront, Nat.ne_of_lt hlt]
    · rw [hloop] at hleaves
      simp [hleaves.1, hleaves.2, Nat.ne_of_lt hbytes]
    · rw [hloop] at hleaves
      exact iff_of_true rfl (.inr hleaves)

/-- An event that leaves the connection open drains the socket exactly when
fewer bytes have come than the buffer has room for; otherwise the connection must
be closed, by a hangup, by a read that fails before the buffer is full, or because
the full buffer stays full. -/
theorem handleReadEvent_drained_iff (table : Option (List (RpcServiceEntry N)))
    (hsize : channel.rxBufferSize = maxBufferSize) (hangup : Bool) (reads : Nat → ReadOutcome)
    (session : RpcSession N) (hfit : session.rxData.length ≤ channel.rxBufferSize)
    (socket : RpcSocket) :
    let room := channel.rxBufferSize - session.rxData.length
    (handleReadEvent contextMemory channel table hangup reads session socket).Drained ↔
      hangup = true ∨ socket.pending.length < room ∨ FailsWithin room reads ∨
        StaysFull contextMemory channel table (session.rxData ++ socket.pending.take room)
          session.server := by
  intro room
  have hpositive : 0 < channel.rxBufferSize := hsize ▸ by decide
  have hends := readLoop_ends reads ⟨session.rxData, socket, none⟩
    (Nat.sub_le channel.rxBufferSize session.rxData.length)
  unfold handleReadEvent ReadHandled.Drained
  generalize hstate : readLoop channel.rxBufferSize channel.rxBufferSize reads
    ⟨session.rxData, socket, none⟩ = state at *
  dsimp only
  cases hangup with
  | true => simp
  | false =>
    rw [← or_assoc (a := socket.pending.length < room)]
    change _ ↔ _ ∨ StopsReading room socket.pending.length reads ∨ _
    by_cases hstops : StopsReading room socket.pending.length reads
    · refine iff_of_true ?_ (.inr (.inl hstops))
      rcases hends.1 hstops with hlast | hlast | ⟨hlast, hempty⟩
      · simp [hlast]
      · simp [hlast]
      · exact .inr (by simp [hlast, hempty])
    · obtain ⟨hlast, hrx⟩ := hends.2 hstops
      have hlen : state.rxData.length = channel.rxBufferSize := by
        have hroom : room ≤ socket.pending.length := Nat.not_lt.mp fun hlt => hstops (.inl hlt)
        rw [hrx, List.length_append, List.length_take_of_le hroom]
        exact Nat.add_sub_cancel' hfit
      have hgoes : (false || state.last == some .closed || state.last == some .failed) = false ∧
          state.last ≠ some .wouldBlock := by
        rcases hlast with hlast | ⟨n, hlast⟩ <;> simp [hlast]
      have hfull := processBufferedData_length_iff contextMemory channel table (hlen ▸ hpositive)
        session.server
      rw [if_neg (by rw [hgoes.1]; decide), if_pos (hlen ▸ hpositive), ← hrx]
      simp [hgoes.2, hstops, ← hfull, hlen]

end

def fillingRequest : RpcRequest where
  nodeId := 0
  requestId := 1
  type := RpcType.request.toByte
  status := 0
  funcId := 0x01
  payload := List.replicate (maxBufferSize - rpcHeaderSize) 0
  fits := by decide +kernel

def handledBurst : ReadHandled Unit :=
  handleReadEvent (fun _ => some 0) (.init 5 maxBufferSize) (some echoTable) false
    (fun _ => .atMost maxBufferSize) (.accepted (.start () [] []))
    ⟨fillingRequest.pack ++ (echoRequest 2 0x01).pack, false⟩

theorem handledBurst_not_drained :
    handledBurst.socket.pending = (echoRequest 2 0x01).pack ∧ ¬handledBurst.Drained := by
  obtain ⟨hpending, hopen, hlast⟩ : handledBurst.socket.pending = (echoRequest 2 0x01).pack ∧
      handledBurst.session.closed = false ∧
      handledBurst.last = some (.bytes maxBufferSize) := by decide +kernel
  refine ⟨hpending, ?_⟩
  rintro (hclosed | ⟨hblocked, -⟩)
  · cases hopen.symm.trans hclosed
  · cases hlast.symm.trans hblocked

theorem handleReadEvent_drained_small :
    (handleReadEvent (fun _ => some 0) (.init 5 maxBufferSize) (some echoTable) false
      (fun _ => .atMost 9) (.accepted (.start () [] []))
      ⟨(echoRequest 2 0x01).pack, false⟩).Drained :=
  (handleReadEvent_drained_iff (fun _ => some 0) (.init 5 maxBufferSize) (some echoTable) rfl false
    (fun _ => .atMost 9) (.accepted (.start () [] [])) (by decide)
    ⟨(echoRequest 2 0x01).pack, false⟩).mpr (.inr (.inl (by decide)))

end Roole
