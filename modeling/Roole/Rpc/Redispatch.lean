import Roole.Lib.Runs
import Roole.Rpc.Contexts
import Roole.Rpc.Stream

/-!
# Requests dispatched twice

A connection whose contexts may not find memory. `process_buffered_data` takes
the requests that it has dispatched out of the receive buffer at its end, but
not where it runs out of memory, so these requests are dispatched again at the
next read. A request is told from the others by the place in the stream where it
begins.
-/

namespace Roole

open Framing

variable {N : Type}

def KeepsAllocated (handler : RpcHandler N) : Prop :=
  ∀ context payload server, (handler context payload server).2.allocated = server.allocated

theorem RespondsOnce.keepsAllocated {handler : RpcHandler N} (h : RespondsOnce handler) :
    KeepsAllocated handler := by
  intro context payload server
  obtain ⟨_, _, -, status, reply, quiet, hresult, hquiet, -⟩ := h context payload server
  rw [hresult]
  exact hquiet.allocated

def handledAt (start : Nat) (dispatches : List (RpcDispatch N)) : List Nat :=
  ((places start (dispatches.map fun dispatch =>
    (dispatch, rpcHeaderSize + dispatch.payload.length))).filter
      fun place => place.2.entry.isSome).map Prod.fst

/-- A connection and the stream behind it. -/
structure StreamReader (N : Type) where
  session : RpcSession N
  unread : List UInt8
  received : Nat
  /-- The places of the requests for which a handler was called. -/
  handled : List Nat

/-- A read event: how many bytes have arrived at most, and which contexts find
memory in the call that follows. -/
structure StreamRead where
  arrived : Nat
  contextMemory : Nat → Option NodeId

namespace StreamReader

def accepted (server : RpcServer N) (stream : List UInt8) : StreamReader N where
  session := .accepted server
  unread := stream
  received := 0
  handled := []

def front (reader : StreamReader N) : Nat := reader.received - reader.session.rxData.length

def chunk (channel : RpcChannel) (reader : StreamReader N) (read : StreamRead) : List UInt8 :=
  reader.unread.take (min read.arrived (channel.rxBufferSize - reader.session.rxData.length))

def step (channel : RpcChannel) (table : List (RpcServiceEntry N)) (reader : StreamReader N)
    (read : StreamRead) : StreamReader N :=
  if reader.session.closed then reader
  else
    let chunk := reader.chunk channel read
    let session := rpcReceive read.contextMemory channel (some table) reader.session chunk
    { session := session
      unread := reader.unread.drop chunk.length
      received := reader.received + chunk.length
      handled := reader.handled ++ handledAt reader.front
        (session.dispatched.drop reader.session.dispatched.length) }

def AtMostOnce (reader : StreamReader N) : Prop := reader.handled.Nodup

end StreamReader

-- ----------------------------------------------------------------------------
-- One call
-- ----------------------------------------------------------------------------

def RpcFrame.hasHandler (table : List (RpcServiceEntry N)) (frame : RpcFrame) : Bool :=
  (table.find? fun entry => entry.funcId == frame.header.funcId).isSome

def handledPlaces (table : List (RpcServiceEntry N)) (start : Nat)
    (items : List (RpcFrame × Nat)) : List Nat :=
  ((places start items).filter fun place => place.2.hasHandler table).map Prod.fst

/-- The allocation of a context fails behind a request for which the same call
has called a handler. -/
def FailsBehind (contextMemory : Nat → Option NodeId) (table : List (RpcServiceEntry N))
    (allocated : Nat) (rxData : List UInt8) : Prop :=
  ∃ items rest frame size, Reads rpcReader rxData items rest ∧
    rpcFront rest = .frame frame size ∧
    (∀ i < items.length, (contextMemory (allocated + i)).isSome) ∧
    contextMemory (allocated + items.length) = none ∧
    ∃ item ∈ items, item.1.hasHandler table = true

def StopsAt (contextMemory : Nat → Option NodeId) (address : Nat) (rest : List UInt8) :
    ProcessExit → Prop
  | .partialMessage kept => rpcFront rest = .incomplete ∧ kept = rest
  | .invalidHeader => rpcFront rest = .malformed
  | .outOfMemory => (∃ frame size, rpcFront rest = .frame frame size) ∧ contextMemory address = none

structure LoopReads (contextMemory : Nat → Option NodeId) (table : List (RpcServiceEntry N))
    (channel : RpcChannel) (bytes : List UInt8) (server : RpcServer N)
    (after : ProcessExit × List (RpcDispatch N) × RpcServer N) (items : List (RpcFrame × Nat))
    (rest : List UInt8) : Prop where
  reads : Reads rpcReader bytes items rest
  memory : ∀ i < items.length, (contextMemory (server.allocated + i)).isSome
  handled : ∀ start, handledAt start after.2.1 = handledPlaces table start items
  serves : TableServesAll contextMemory table channel server (items.map Prod.fst) after.2.2
  stops : StopsAt contextMemory (server.allocated + items.length) rest after.1

section

variable {contextMemory : Nat → Option NodeId} {table : List (RpcServiceEntry N)}

theorem rpcFront_size (h : rpcFront bytes = .frame frame size) :
    size = rpcHeaderSize + frame.payload.length ∧ 0 < size := by
  obtain ⟨hlen, hheader, htotal, hsize, hpayload⟩ := rpcFront_frame.mp h
  have hpos : 0 < size := htotal ▸ rpcUnpackHeader_pos hheader
  have hle : rpcHeaderSize ≤ size := by
    unfold rpcUnpackHeader at hheader
    dsimp only at hheader
    split_ifs at hheader with hshort
    rw [← htotal, ← Option.some.inj hheader]
    exact Nat.not_lt.mp hshort
  rw [hpayload, List.length_drop, List.length_take]
  omega

theorem rpcReads_pos (h : Reads rpcReader bytes items rest) : ∀ item ∈ items, 0 < item.2 := by
  induction h with
  | nil => simp
  | frame hfront _ ih => exact List.forall_mem_cons.mpr ⟨(rpcFront_size hfront).2, ih⟩

theorem dispatchRequest_allocated (hkeeps : ∀ entry ∈ table, KeepsAllocated entry.handler)
    (context : RpcAsyncContext) (payload : List UInt8) (server : RpcServer N) :
    (dispatchRequest table context payload server).2.allocated = server.allocated := by
  unfold dispatchRequest
  split
  · rename_i entry hfind
    have hhandler := hkeeps entry (List.mem_of_find?_eq_some hfind) context payload
      { server with pendingContexts := context :: server.pendingContexts }
    dsimp only
    split_ifs
    · exact hhandler
    · exact hhandler
  · rfl

theorem handledAt_cons {dispatch : RpcDispatch N} {frame : RpcFrame}
    (hrequest : dispatch.request = frame.request table)
    (hsize : size = rpcHeaderSize + frame.payload.length)
    (hrest : ∀ start, handledAt start dispatches = handledPlaces table start items) (start : Nat) :
    handledAt start (dispatch :: dispatches) =
      handledPlaces table start ((frame, size) :: items) := by
  have hpayload : dispatch.payload = frame.payload :=
    congrArg (fun request => request.2.2.1) hrequest
  have hentry : dispatch.entry.isSome = frame.hasHandler table :=
    congrArg (fun request => request.2.2.2.isSome) hrequest
  have htail := hrest (start + size)
  unfold handledAt handledPlaces at htail ⊢
  simp only [List.map_cons, places, List.filter_cons, hpayload, ← hsize, hentry]
  split_ifs
  · rw [List.map_cons, List.map_cons, htail]
  · exact htail

theorem processLoop_malformed (hfront : rpcFront bytes = .malformed) (channel : RpcChannel)
    (fuel : Nat) (server : RpcServer N) :
    processLoop contextMemory table channel (fuel + 1) bytes server =
      (.invalidHeader, [], server) := by
  obtain ⟨hlen, hheader⟩ := rpcFront_malformed.mp hfront
  rw [processLoop, if_neg (Nat.not_lt.mpr hlen)]
  simp only [hheader]

theorem processLoop_full (hfront : rpcFront bytes = .frame frame size) {server : RpcServer N}
    (hmemory : contextMemory server.allocated = none) (channel : RpcChannel) (fuel : Nat) :
    processLoop contextMemory table channel (fuel + 1) bytes server =
      (.outOfMemory, [], server) := by
  obtain ⟨hlen, hheader, rfl, hsize, -⟩ := rpcFront_frame.mp hfront
  rw [processLoop, if_neg (Nat.not_lt.mpr hlen)]
  simp [hheader, Nat.not_lt.mpr hsize, hmemory]

theorem StopsAt.stuck {exit : ProcessExit} (h : StopsAt contextMemory address rest exit)
    (hmemory : (contextMemory address).isSome = true) : rpcReader.Stuck rest := by
  intro item size hitem
  cases exit with
  | partialMessage kept => cases hitem.symm.trans h.1
  | invalidHeader => cases hitem.symm.trans h
  | outOfMemory => simp [h.2] at hmemory

theorem StopsAt.outOfMemory {exit : ProcessExit} (h : StopsAt contextMemory address rest exit)
    (hfront : rpcFront rest = .frame frame size) : exit = .outOfMemory := by
  cases exit with
  | partialMessage kept => cases hfront.symm.trans h.1
  | invalidHeader => cases hfront.symm.trans h
  | outOfMemory => rfl

theorem LoopReads.nil {server : RpcServer N} {exit : ProcessExit} (channel : RpcChannel)
    (hstops : StopsAt contextMemory server.allocated bytes exit) :
    LoopReads contextMemory table channel bytes server (exit, [], server) [] bytes :=
  ⟨.nil, by simp, fun _ => rfl, .nil, hstops⟩

theorem processLoop_reads (contextMemory : Nat → Option NodeId)
    (hkeeps : ∀ entry ∈ table, KeepsAllocated entry.handler) (channel : RpcChannel)
    (hfuel : bytes.length < fuel) (server : RpcServer N) :
    ∃ items rest, LoopReads contextMemory table channel bytes server
      (processLoop contextMemory table channel fuel bytes server) items rest := by
  induction fuel generalizing bytes server with
  | zero => cases hfuel
  | succ fuel ih =>
    cases hfront : rpcFront bytes with
    | incomplete =>
      rw [processLoop_wait hfront]
      exact ⟨[], bytes, .nil channel ⟨hfront, rfl⟩⟩
    | malformed =>
      rw [processLoop_malformed hfront]
      exact ⟨[], bytes, .nil channel hfront⟩
    | frame frame size =>
      cases hmemory : contextMemory server.allocated with
      | none =>
        rw [processLoop_full hfront hmemory]
        exact ⟨[], bytes, .nil channel ⟨⟨frame, size, hfront⟩, hmemory⟩⟩
      | some senderId =>
        obtain ⟨hsize, hpos⟩ := rpcFront_size hfront
        have hle := rpcReader.size_le hfront
        have hless : (bytes.drop size).length < fuel := by
          rw [List.length_drop]
          omega
        rw [processLoop_frame hfront hmemory]
        obtain ⟨items, rest, hlater⟩ := ih hless (dispatchRequest table ⟨server.allocated, channel,
          frame.header.requestId, frame.header.funcId, senderId⟩ frame.payload
          { server with allocated := server.allocated + 1 }).2
        have hreads := hlater.memory
        have hstops := hlater.stops
        rw [dispatchRequest_allocated hkeeps] at hreads hstops
        have hnext : ∀ i, server.allocated + 1 + i = server.allocated + (i + 1) := by
          intro i
          omega
        refine ⟨(frame, size) :: items, rest, .frame hfront hlater.reads, ?_, ?_,
          .cons hmemory (dispatchRequest_tableServes ..) hlater.serves, ?_⟩
        · intro i hi
          cases i with
          | zero => simp [hmemory]
          | succ i =>
            rw [← hnext]
            exact hreads i (Nat.lt_of_succ_lt_succ hi)
        · exact handledAt_cons (dispatchRequest_request ..) hsize hlater.handled
        · rwa [hnext] at hstops

end

-- ----------------------------------------------------------------------------
-- One read
-- ----------------------------------------------------------------------------

def ProcessExit.keeps (rxData : List UInt8) : ProcessExit → List UInt8
  | .partialMessage rest => rest
  | .invalidHeader => []
  | .outOfMemory => rxData

namespace StreamReader

variable {table : List (RpcServiceEntry N)} {channel : RpcChannel}

def buffer (channel : RpcChannel) (reader : StreamReader N) (read : StreamRead) : List UInt8 :=
  reader.session.rxData ++ reader.chunk channel read

/-- What a read does to an open connection: the requests in the buffer are served
in order, and their places are listed where there is a handler for them. -/
structure StepReads (channel : RpcChannel) (table : List (RpcServiceEntry N))
    (reader : StreamReader N) (read : StreamRead) (items : List (RpcFrame × Nat))
    (rest : List UInt8) (exit : ProcessExit) : Prop where
  reads : Reads rpcReader (reader.buffer channel read) items rest
  memory : ∀ i < items.length,
    (read.contextMemory (reader.session.server.allocated + i)).isSome
  stops : StopsAt read.contextMemory (reader.session.server.allocated + items.length) rest exit
  handled : (reader.step channel table read).handled =
    reader.handled ++ handledPlaces table reader.front items
  serves : TableServesAll read.contextMemory table channel reader.session.server
    (items.map Prod.fst) (reader.step channel table read).session.server
  rxData : (reader.step channel table read).session.rxData =
    exit.keeps (reader.buffer channel read)
  closed : (reader.step channel table read).session.closed =
    ((exit.keeps (reader.buffer channel read)).length == channel.rxBufferSize)
  received : (reader.step channel table read).received =
    reader.received + (reader.chunk channel read).length
  unread : (reader.step channel table read).unread =
    reader.unread.drop (reader.chunk channel read).length

theorem step_closed {reader : StreamReader N} (hclosed : reader.session.closed = true)
    (read : StreamRead) : reader.step channel table read = reader := if_pos hclosed

theorem chunk_take (channel : RpcChannel) (reader : StreamReader N) (read : StreamRead) :
    (reader.chunk channel read).take (channel.rxBufferSize - reader.session.rxData.length) =
      reader.chunk channel read := by
  refine List.take_of_length_le ?_
  rw [chunk, List.length_take]
  omega

theorem processBufferedData_keeps (contextMemory : Nat → Option NodeId)
    (table : List (RpcServiceEntry N)) (channel : RpcChannel) (rxData : List UInt8)
    (server : RpcServer N) :
    let loop := processLoop contextMemory table channel (rxData.length + 1) rxData server
    let after := processBufferedData contextMemory channel (some table) rxData server
    after.1 = loop.1.keeps rxData ∧ after.2 = loop.2 := by
  intro loop after
  simp only [after, processBufferedData]
  generalize hloop : processLoop contextMemory table channel (rxData.length + 1) rxData server = l
  have hsame : loop = l := hloop
  obtain ⟨exit, dispatches, server⟩ := l
  rw [hsame]
  cases exit <;> exact ⟨rfl, rfl⟩

theorem step_reads (channel : RpcChannel)
    (hkeeps : ∀ entry ∈ table, KeepsAllocated entry.handler) {reader : StreamReader N}
    (hopen : reader.session.closed = false) (read : StreamRead) :
    ∃ items rest exit, StepReads channel table reader read items rest exit := by
  obtain ⟨hkept, hsame⟩ := processBufferedData_keeps read.contextMemory table channel
    (reader.buffer channel read) reader.session.server
  obtain ⟨items, rest, hloop⟩ := processLoop_reads read.contextMemory hkeeps channel
    (Nat.lt_succ_self (reader.buffer channel read).length) reader.session.server
  have hreceive : rpcReceive read.contextMemory channel (some table) reader.session
      (reader.chunk channel read) =
        let after := processBufferedData read.contextMemory channel (some table)
          (reader.buffer channel read) reader.session.server
        ⟨after.1, after.1.length == channel.rxBufferSize, reader.session.dispatched ++ after.2.1,
          after.2.2⟩ := by
    rw [rpcReceive, hopen, chunk_take]
    rfl
  have hstep : reader.step channel table read = ⟨_, _, _, _⟩ := if_neg (by simp [hopen])
  rw [hreceive] at hstep
  refine ⟨items, rest, _, hloop.reads, hloop.memory, hloop.stops, ?_, ?_, ?_, ?_, ?_, ?_⟩
  · rw [hstep, ← hloop.handled, ← hsame]
    simp only [List.drop_left]
  · have hserves := hloop.serves
    rw [← hsame] at hserves
    rw [hstep]
    exact hserves
  · rw [hstep, ← hkept]
  · rw [hstep, ← hkept]
  · rw [hstep]
  · rw [hstep]

variable {reader : StreamReader N} {read : StreamRead} {exit : ProcessExit}

/-- What the allocations say is what happens. -/
theorem StepReads.failsBehind_iff (h : StepReads channel table reader read items rest exit) :
    FailsBehind read.contextMemory table reader.session.server.allocated
        (reader.buffer channel read) ↔
      exit = .outOfMemory ∧ ∃ item ∈ items, item.1.hasHandler table = true := by
  constructor
  · rintro ⟨items', rest', frame, size, hreads, hfront, hmemory, hfails, hhandler⟩
    -- Both readings stop behind the same frame, where the allocation fails.
    have hge : items'.length ≤ items.length := by
      by_contra hlt
      have hstuck := h.stops.stuck (hmemory _ (Nat.not_le.mp hlt))
      exact hlt (hreads.length_le_of_stuck h.reads hstuck)
    have hle : items.length ≤ items'.length := by
      by_contra hlt
      have hsome := h.memory _ (Nat.not_le.mp hlt)
      simp [hfails] at hsome
    have hsame : items' = items :=
      (hreads.prefix_of_le h.reads hge).eq_of_length (Nat.le_antisymm hge hle)
    subst hsame
    have hrest : rest' = rest := hreads.drop_eq.2.trans h.reads.drop_eq.2.symm
    subst hrest
    exact ⟨h.stops.outOfMemory hfront, hhandler⟩
  · rintro ⟨rfl, hhandler⟩
    obtain ⟨⟨frame, size, hfront⟩, hfails⟩ := h.stops
    exact ⟨items, rest, frame, size, h.reads, hfront, h.memory, hfails, hhandler⟩

theorem StepReads.front_buffer (h : StepReads channel table reader read items rest exit)
    (hreceived : reader.session.rxData.length ≤ reader.received) :
    (reader.step channel table read).received =
      reader.front + (reader.buffer channel read).length := by
  rw [h.received, front, buffer, List.length_append]
  omega

theorem StepReads.keeps_length (h : StepReads channel table reader read items rest exit) :
    (exit.keeps (reader.buffer channel read)).length ≤ (reader.buffer channel read).length := by
  cases exit with
  | partialMessage kept =>
    rw [ProcessExit.keeps, h.stops.2, h.reads.drop_eq.2, List.length_drop]
    exact Nat.sub_le _ _
  | invalidHeader => exact Nat.zero_le _
  | outOfMemory => exact Nat.le_refl _

theorem StepReads.received_ge (h : StepReads channel table reader read items rest exit)
    (hreceived : reader.session.rxData.length ≤ reader.received) :
    (reader.step channel table read).session.rxData.length ≤
      (reader.step channel table read).received := by
  rw [h.front_buffer hreceived, h.rxData]
  exact h.keeps_length.trans (Nat.le_add_left _ _)

/-- Where the buffer begins after the read. -/
theorem StepReads.front_eq (h : StepReads channel table reader read items rest exit)
    (hreceived : reader.session.rxData.length ≤ reader.received) :
    match exit with
    | .partialMessage _ => (reader.step channel table read).front = placesEnd reader.front items
    | .invalidHeader => placesEnd reader.front items ≤ (reader.step channel table read).front
    | .outOfMemory => (reader.step channel table read).front = reader.front := by
  obtain ⟨hle, hrest⟩ := h.reads.drop_eq
  have hend := placesEnd_eq reader.front items
  rw [front, h.front_buffer hreceived, h.rxData]
  cases exit with
  | partialMessage kept =>
    have hkept : kept.length = (reader.buffer channel read).length - placesEnd 0 items := by
      rw [h.stops.2, hrest, List.length_drop]
    simp only [ProcessExit.keeps, hkept, hend]
    omega
  | invalidHeader =>
    simp only [ProcessExit.keeps, List.length_nil, hend]
    omega
  | outOfMemory =>
    simp only [ProcessExit.keeps]
    omega

theorem handledPlaces_mem (hplace : place ∈ handledPlaces table start items) :
    ∃ frame, (place, frame) ∈ places start items ∧ frame.hasHandler table = true := by
  obtain ⟨⟨at', frame⟩, hmem, rfl⟩ := List.mem_map.mp hplace
  obtain ⟨hmem, hhandler⟩ := List.mem_filter.mp hmem
  exact ⟨frame, hmem, hhandler⟩

theorem handledPlaces_append (start : Nat) (items more : List (RpcFrame × Nat)) :
    handledPlaces table start (items ++ more) =
      handledPlaces table start items ++ handledPlaces table (placesEnd start items) more := by
  rw [handledPlaces, places_append, List.filter_append, List.map_append]
  rfl

theorem exists_handledPlace (hitem : item ∈ items) (hhandler : item.1.hasHandler table = true)
    (start : Nat) : ∃ place, place ∈ handledPlaces table start items := by
  obtain ⟨place, hplace⟩ := exists_place hitem start
  exact ⟨place, List.mem_map.mpr ⟨_, List.mem_filter.mpr ⟨hplace, hhandler⟩, rfl⟩⟩

theorem handledPlaces_nodup {items : List (RpcFrame × Nat)}
    (hpos : ∀ item ∈ items, 0 < item.2) (start : Nat) :
    (handledPlaces table start items).Nodup := by
  have hpairwise := (places_pairwise hpos start).filter fun place => place.2.hasHandler table
  exact hpairwise.map Prod.fst fun a b hlt => Nat.ne_of_lt hlt

/-- No request for which a handler was called is dispatched again: its place is
before the buffer, or the connection is closed. -/
structure Clean (reader : StreamReader N) : Prop where
  received_ge : reader.session.rxData.length ≤ reader.received
  once : reader.AtMostOnce
  past : reader.session.closed = true ∨ ∀ place ∈ reader.handled, place < reader.front

theorem accepted_clean (server : RpcServer N) (stream : List UInt8) :
    (accepted server stream).Clean :=
  ⟨Nat.le_refl 0, List.nodup_nil, .inr (by simp [accepted])⟩

theorem Clean.step_once (h : Clean reader)
    (hkeeps : ∀ entry ∈ table, KeepsAllocated entry.handler) (read : StreamRead) :
    (reader.step channel table read).AtMostOnce := by
  cases hopen : reader.session.closed with
  | true =>
    rw [step_closed hopen]
    exact h.once
  | false =>
    obtain ⟨items, rest, exit, hreads⟩ := step_reads channel hkeeps hopen read
    have hpast := h.past.resolve_left (by simp [hopen])
    unfold AtMostOnce
    rw [hreads.handled]
    refine List.nodup_append.mpr ⟨h.once, handledPlaces_nodup (rpcReads_pos hreads.reads) _, ?_⟩
    rintro place hold other hnew rfl
    obtain ⟨frame, hmem, -⟩ := handledPlaces_mem hnew
    exact Nat.not_lt.mpr (places_ge _ _ _ hmem) (hpast place hold)

def KeepsProgress (channel : RpcChannel) (table : List (RpcServiceEntry N))
    (reader : StreamReader N) (read : StreamRead) : Prop :=
  reader.session.closed = true ∨ (reader.buffer channel read).length = channel.rxBufferSize ∨
    ¬ FailsBehind read.contextMemory table reader.session.server.allocated
      (reader.buffer channel read)

/-- What was left in the buffer is dispatched again by a read that brings nothing
new. -/
theorem step_repeats (hkeeps : ∀ entry ∈ table, KeepsAllocated entry.handler)
    (h : ¬ KeepsProgress channel table reader read) :
    ∃ next, ¬ ((reader.step channel table read).step channel table next).AtMostOnce := by
  unfold KeepsProgress at h
  rw [not_or, not_or, not_not] at h
  obtain ⟨hopen, hroom, hfails⟩ := h
  obtain ⟨items, rest, exit, hreads⟩ :=
    step_reads channel hkeeps (Bool.eq_false_of_not_eq_true hopen) read
  obtain ⟨rfl, item, hitem, hhandler⟩ := hreads.failsBehind_iff.mp hfails
  have hopen' : (reader.step channel table read).session.closed = false := by
    rw [hreads.closed]
    exact beq_eq_false_iff_ne.mpr hroom
  have hfront : (reader.step channel table read).front = reader.front := by
    rw [front, hreads.received, hreads.rxData, ProcessExit.keeps, buffer, List.length_append,
      Nat.add_sub_add_right]
    rfl
  refine ⟨⟨0, fun _ => some 0⟩, ?_⟩
  obtain ⟨items', rest', exit', hreads'⟩ := step_reads channel hkeeps hopen' ⟨0, fun _ => some 0⟩
  have hbuffer : (reader.step channel table read).buffer channel ⟨0, fun _ => some 0⟩ =
      reader.buffer channel read := by
    rw [buffer, chunk, hreads.rxData]
    simp [ProcessExit.keeps]
  have hagain := hreads'.reads
  rw [hbuffer] at hagain
  obtain ⟨more, rfl⟩ := hreads.reads.prefix_of_le hagain
    (hreads.reads.length_le_of_stuck hagain (hreads'.stops.stuck rfl))
  obtain ⟨place, hfirst⟩ := exists_handledPlace hitem hhandler reader.front
  intro honce
  unfold AtMostOnce at honce
  rw [hreads'.handled, hfront, hreads.handled, handledPlaces_append] at honce
  exact (List.nodup_append.mp honce).2.2 place (List.mem_append_right _ hfirst) place
    (List.mem_append_left _ hfirst) rfl

theorem Clean.step (h : Clean reader) (hkeeps : ∀ entry ∈ table, KeepsAllocated entry.handler)
    (hprogress : KeepsProgress channel table reader read) :
    Clean (reader.step channel table read) := by
  cases hopen : reader.session.closed with
  | true =>
    rw [step_closed hopen]
    exact h
  | false =>
    obtain ⟨items, rest, exit, hreads⟩ := step_reads channel hkeeps hopen read
    have hpast := h.past.resolve_left (by simp [hopen])
    have hfront := hreads.front_eq h.received_ge
    have hbefore : ∀ place ∈ (reader.step channel table read).handled,
        place < placesEnd reader.front items := by
      intro place hplace
      rw [hreads.handled] at hplace
      obtain hold | hnew := List.mem_append.mp hplace
      · exact (hpast place hold).trans_le (placesEnd_ge _ _)
      · obtain ⟨frame, hmem, -⟩ := handledPlaces_mem hnew
        exact places_lt (rpcReads_pos hreads.reads) _ _ hmem
    refine ⟨hreads.received_ge h.received_ge, h.step_once hkeeps read, ?_⟩
    cases exit with
    | partialMessage kept => exact .inr fun place hplace => hfront ▸ hbefore place hplace
    | invalidHeader => exact .inr fun place hplace => (hbefore place hplace).trans_le hfront
    | outOfMemory =>
      obtain hclosed | hfull | hkept := hprogress
      · rw [hopen] at hclosed
        cases hclosed
      · exact .inl (by rw [hreads.closed, ProcessExit.keeps, hfull, beq_self_eq_true])
      · refine .inr fun place hplace => ?_
        have hnone : handledPlaces table reader.front items = [] := by
          refine List.eq_nil_iff_forall_not_mem.mpr fun place hplace => ?_
          obtain ⟨frame, hmem, hhandler⟩ := handledPlaces_mem hplace
          obtain ⟨item, hitem, rfl⟩ := mem_of_place hmem
          exact hkept (hreads.failsBehind_iff.mpr ⟨rfl, item, hitem, hhandler⟩)
        rw [hreads.handled, hnone, List.append_nil] at hplace
        rw [hfront]
        exact hpast place hplace

-- ----------------------------------------------------------------------------
-- The whole connection
-- ----------------------------------------------------------------------------

def RequestAt (table : List (RpcServiceEntry N)) (stream : List UInt8) (place : Nat) : Prop :=
  ∃ frame size, rpcFront (stream.drop place) = .frame frame size ∧ frame.hasHandler table = true

/-- What is in the buffer and what is not read yet make up the stream from the
front on, and the places in the list are those of its requests. -/
structure Follows (table : List (RpcServiceEntry N)) (stream : List UInt8)
    (reader : StreamReader N) : Prop where
  received_ge : reader.session.rxData.length ≤ reader.received
  ahead : reader.session.rxData ++ reader.unread = stream.drop reader.front
  requests : ∀ place ∈ reader.handled, RequestAt table stream place

theorem accepted_follows (server : RpcServer N) (stream : List UInt8) :
    (accepted server stream).Follows table stream :=
  ⟨Nat.le_refl 0, rfl, by simp [accepted]⟩

variable {stream : List UInt8}

theorem StepReads.buffer_append (h : StepReads channel table reader read items rest exit)
    (hahead : reader.session.rxData ++ reader.unread = stream.drop reader.front) :
    reader.buffer channel read ++ (reader.step channel table read).unread =
      stream.drop reader.front := by
  have hchunk : reader.chunk channel read ++
      reader.unread.drop (reader.chunk channel read).length = reader.unread :=
    List.prefix_iff_eq_append.mp (List.take_prefix _ _)
  rw [h.unread, buffer, List.append_assoc, hchunk]
  exact hahead

theorem StepReads.ahead (h : StepReads channel table reader read items rest exit)
    (hfollows : reader.Follows table stream) :
    (reader.step channel table read).session.rxData ++ (reader.step channel table read).unread =
      stream.drop (reader.step channel table read).front := by
  obtain ⟨hle, hrest⟩ := h.reads.drop_eq
  have hahead := h.buffer_append hfollows.ahead
  have hfront := h.front_eq hfollows.received_ge
  rw [h.rxData]
  cases exit with
  | partialMessage kept =>
    rw [hfront, placesEnd_eq, ← List.drop_drop, ← hahead, List.drop_append_of_le_length hle,
      ← hrest, ProcessExit.keeps, h.stops.2]
  | invalidHeader =>
    have hreceived : (reader.step channel table read).front =
        reader.front + (reader.buffer channel read).length := by
      rw [front, h.rxData, ← h.front_buffer hfollows.received_ge]
      rfl
    rw [hreceived, ← List.drop_drop, ← hahead, List.drop_left]
    rfl
  | outOfMemory => rw [hfront, ← hahead, ProcessExit.keeps]

theorem StepReads.requestAt (h : StepReads channel table reader read items rest exit)
    (hfollows : reader.Follows table stream) :
    ∀ place ∈ handledPlaces table reader.front items, RequestAt table stream place := by
  intro place hplace
  obtain ⟨frame, hmem, hhandler⟩ := handledPlaces_mem hplace
  obtain ⟨size, hfront⟩ := h.reads.front_place reader.front _ hmem
  have hge := places_ge _ _ _ hmem
  have hwithin : place - reader.front ≤ (reader.buffer channel read).length := by
    have hlt := places_lt (rpcReads_pos h.reads) _ _ hmem
    have hle := h.reads.drop_eq.1
    rw [placesEnd_eq] at hlt
    omega
  have hdrop : stream.drop place = (reader.buffer channel read).drop (place - reader.front) ++
      (reader.step channel table read).unread := by
    rw [← List.drop_append_of_le_length hwithin, h.buffer_append hfollows.ahead, List.drop_drop,
      Nat.add_sub_cancel' hge]
  refine ⟨frame, size, ?_, hhandler⟩
  rw [hdrop]
  exact rpcReader.frame_append hfront

theorem Follows.step (h : reader.Follows table stream)
    (hkeeps : ∀ entry ∈ table, KeepsAllocated entry.handler) (read : StreamRead) :
    (reader.step channel table read).Follows table stream := by
  cases hopen : reader.session.closed with
  | true =>
    rw [step_closed hopen]
    exact h
  | false =>
    obtain ⟨items, rest, exit, hreads⟩ := step_reads channel hkeeps hopen read
    refine ⟨hreads.received_ge h.received_ge, hreads.ahead h, ?_⟩
    rw [hreads.handled]
    exact List.forall_mem_append.mpr ⟨h.requests, hreads.requestAt h⟩

theorem run_follows (channel : RpcChannel)
    (hkeeps : ∀ entry ∈ table, KeepsAllocated entry.handler) (server : RpcServer N)
    (stream : List UInt8) (reads : List StreamRead) (i : Nat) :
    (Runs.run (step channel table) (accepted server stream) (reads.take i)).Follows table
      stream := by
  have hstep : ∀ (reader : StreamReader N) (read : StreamRead), reader.Follows table stream →
      True → (reader.step channel table read).Follows table stream :=
    fun reader read h _ => h.step hkeeps read
  exact Runs.invariant hstep (accepted_follows server stream)
    (Runs.Meets.of_forall (fun _ _ => trivial) _ reads) i

/-- At every point of the run, and whatever is read next, no handler has been
called twice for one request, exactly if no call that runs out of memory leaves
behind what it dispatched. -/
theorem streamReads_once_iff (channel : RpcChannel)
    (hkeeps : ∀ entry ∈ table, KeepsAllocated entry.handler) (server : RpcServer N)
    (stream : List UInt8) (reads : List StreamRead) :
    (∀ i next, (step channel table (Runs.run (step channel table) (accepted server stream)
        (reads.take i)) next).AtMostOnce) ↔
      Runs.Meets (step channel table) (KeepsProgress channel table) (accepted server stream)
        reads := by
  constructor
  · intro honce
    refine Runs.meets_of_steps (Q := fun _ after => ∀ next,
      (after.step channel table next).AtMostOnce) (fun read _ reader hnext => ?_) fun i =>
        honce (i + 1)
    by_contra hlost
    obtain ⟨next, htwice⟩ := step_repeats hkeeps hlost
    exact htwice (hnext next)
  · intro hmeets i next
    have hclean := Runs.invariant (P := Clean) (fun _ _ h hprogress => h.step hkeeps hprogress)
      (accepted_clean server stream) hmeets i
    exact hclean.step_once hkeeps next

theorem echoTable_keeps : ∀ entry ∈ echoTable, KeepsAllocated entry.handler := by
  simp [echoTable, KeepsAllocated, rpcSendAsyncResponse]

end StreamReader

open StreamReader

def echoStream : List UInt8 :=
  [echoRequest 1 0x01, echoRequest 2 0x01, echoRequest 3 0x01].flatMap RpcRequest.pack

def tightReads : List StreamRead :=
  [⟨30, fun n => if n = 0 then some 0 else none⟩, ⟨15, fun _ => some 0⟩]

theorem streamReads_once_iff_echo :
    (∀ i next, (step (.init 5 maxBufferSize) echoTable (Runs.run
        (step (.init 5 maxBufferSize) echoTable) (accepted (.start () [] []) echoStream)
          (tightReads.take i)) next).AtMostOnce) ↔
      Runs.Meets (step (.init 5 maxBufferSize) echoTable)
        (KeepsProgress (.init 5 maxBufferSize) echoTable) (accepted (.start () [] []) echoStream)
          tightReads :=
  streamReads_once_iff (.init 5 maxBufferSize) echoTable_keeps (.start () [] []) echoStream
    tightReads

/-- The second request finds no memory for its context, and the next read
dispatches the first one again. -/
theorem streamReads_twice :
    (Runs.run (step (.init 5 maxBufferSize) echoTable) (accepted (.start () [] []) echoStream)
      tightReads).handled = [0, 0, 15, 30] ∧
    ¬ (Runs.run (step (.init 5 maxBufferSize) echoTable) (accepted (.start () [] []) echoStream)
      tightReads).AtMostOnce := by
  have hhandled : (Runs.run (step (.init 5 maxBufferSize) echoTable)
      (accepted (.start () [] []) echoStream) tightReads).handled = [0, 0, 15, 30] := by
    decide +kernel
  refine ⟨hhandled, ?_⟩
  unfold AtMostOnce
  rw [hhandled]
  decide

end Roole
