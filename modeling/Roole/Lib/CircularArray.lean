import Roole.Lib.BoundedFifo
import Roole.Lib.RingBuffer

/-!
# Circular arrays

The bare record of a queue in a fixed array: nothing but its indices says which
slots are in use. Where the indices agree it is a ring buffer, and storing at the
tail and stepping past the head are the ring buffer's operations.
-/

structure CircularArray (α : Type*) where
  slots : Nat → α
  head : Nat
  tail : Nat
  count : Nat
  capacity : Nat

namespace CircularArray

variable {α : Type*} {queue : CircularArray α} {size : Nat}

def init (zero : α) (capacity : Nat) : CircularArray α where
  slots := fun _ => zero
  head := 0
  tail := 0
  count := 0
  capacity := capacity

/-- Stores at the tail, whether or not there is room. -/
def enqueue (queue : CircularArray α) (item : α) : CircularArray α :=
  { queue with
    slots := Function.update queue.slots queue.tail item
    tail := (queue.tail + 1) % queue.capacity
    count := queue.count + 1 }

def front (queue : CircularArray α) : α := queue.slots queue.head

def advance (queue : CircularArray α) : CircularArray α :=
  { queue with
    head := (queue.head + 1) % queue.capacity
    count := queue.count - 1 }

def toList (queue : CircularArray α) : List α :=
  (List.range queue.count).map fun i => queue.slots ((queue.head + i) % queue.capacity)

structure WellFormed (queue : CircularArray α) : Prop where
  head_lt : queue.head < queue.capacity
  count_le : queue.count ≤ queue.capacity
  tail_eq : queue.tail = (queue.head + queue.count) % queue.capacity

theorem WellFormed.capacity_pos (h : queue.WellFormed) : 0 < queue.capacity :=
  Nat.zero_lt_of_lt h.head_lt

theorem WellFormed.tail_lt (h : queue.WellFormed) : queue.tail < queue.capacity := by
  rw [h.tail_eq]
  exact Nat.mod_lt _ h.capacity_pos

def ring (queue : CircularArray α) (h : queue.WellFormed) : RingBuffer α queue.capacity where
  slots := queue.slots
  head := queue.head
  tail := queue.tail
  count := queue.count
  count_le := h.count_le
  tail_eq := by rw [h.tail_eq, Nat.mod_mod]

@[simp] theorem ring_toList (h : queue.WellFormed) : (queue.ring h).toList = queue.toList := rfl

@[simp] theorem toList_length (queue : CircularArray α) : queue.toList.length = queue.count := by
  simp [toList]

@[simp] theorem toList_init (zero : α) (size : Nat) : (init zero size).toList = [] := rfl

theorem init_wellFormed (zero : α) (h : 0 < size) : (init zero size).WellFormed where
  head_lt := h
  count_le := Nat.zero_le size
  tail_eq := (Nat.zero_mod size).symm

theorem enqueue_wellFormed (h : queue.WellFormed) (hroom : queue.count < queue.capacity)
    (item : α) : (queue.enqueue item).WellFormed where
  head_lt := h.head_lt
  count_le := hroom
  tail_eq := by
    simp only [enqueue, h.tail_eq, Nat.mod_add_mod]
    rfl

theorem advance_wellFormed (h : queue.WellFormed) (hitem : 0 < queue.count) :
    queue.advance.WellFormed where
  head_lt := Nat.mod_lt _ h.capacity_pos
  count_le := Nat.le_trans (Nat.sub_le _ _) h.count_le
  tail_eq := by
    have hcount : queue.head + 1 + (queue.count - 1) = queue.head + queue.count := by omega
    simp only [advance, Nat.mod_add_mod, hcount, h.tail_eq]

theorem ring_enqueue (h : queue.WellFormed) (hroom : queue.count < queue.capacity) (item : α) :
    (queue.ring h).push item =
      some ((queue.enqueue item).ring (enqueue_wellFormed h hroom item)) := by
  simp [RingBuffer.push, ring, enqueue, hroom, Nat.mod_eq_of_lt h.tail_lt]

theorem ring_advance (h : queue.WellFormed) (hitem : 0 < queue.count) :
    (queue.ring h).pop = some (queue.front, queue.advance.ring (advance_wellFormed h hitem)) := by
  simp [RingBuffer.pop, ring, advance, front, hitem, Nat.mod_eq_of_lt h.head_lt]

theorem toList_enqueue (h : queue.WellFormed) (hroom : queue.count < queue.capacity) (item : α) :
    (queue.enqueue item).toList = queue.toList ++ [item] :=
  RingBuffer.toList_push (ring_enqueue h hroom item)

theorem toList_advance (h : queue.WellFormed) (hitem : 0 < queue.count) :
    queue.toList = queue.front :: queue.advance.toList :=
  RingBuffer.toList_pop (ring_advance h hitem)

-- ----------------------------------------------------------------------------
-- The queue it stands for
-- ----------------------------------------------------------------------------

def Sound (size : Nat) (queue : CircularArray α) : Prop :=
  queue.WellFormed ∧ queue.capacity = size

def Served (size : Nat) (queue : CircularArray α) :
    FifoRequest α → FifoReply α × CircularArray α → Prop :=
  BoundedFifo.ServedAs size toList (Sound size) queue

theorem served_push_room (h : queue.Sound size) (hroom : queue.count < queue.capacity)
    (item : α) : Served size queue (.push item) (.accepted item, queue.enqueue item) := by
  obtain ⟨hsound, rfl⟩ := h
  refine ⟨⟨enqueue_wellFormed hsound hroom item, rfl⟩, ?_⟩
  simp [BoundedFifo.serve, hroom, toList_enqueue hsound hroom]

theorem served_push_full (h : queue.Sound size) (hfull : queue.capacity ≤ queue.count)
    (item : α) : Served size queue (.push item) (.full, queue) := by
  refine ⟨h, ?_⟩
  simp [BoundedFifo.serve, ← h.2, Nat.not_lt.mpr hfull]

theorem served_take_one (h : queue.Sound size) (hitem : 0 < queue.count) :
    Served size queue (.take 1) (.taken [queue.front], queue.advance) := by
  refine ⟨⟨advance_wellFormed h.1 hitem, h.2⟩, ?_⟩
  rw [BoundedFifo.serve, toList_advance h.1 hitem]
  simp

theorem served_take_empty (h : queue.Sound size) (hempty : queue.count = 0) (n : Nat) :
    Served size queue (.take n) (.taken [], queue) := by
  refine ⟨h, ?_⟩
  simp [BoundedFifo.serve, toList, hempty]

theorem served_take_succ (h : queue.Sound size) (hitem : 0 < queue.count)
    (hrest : Served size queue.advance (.take n) (.taken items, after)) :
    Served size queue (.take (n + 1)) (.taken (queue.front :: items), after) := by
  obtain ⟨hsound, hanswer⟩ := hrest
  refine ⟨hsound, ?_⟩
  simp only [BoundedFifo.serve, Prod.mk.injEq, FifoReply.taken.injEq] at hanswer ⊢
  simp [toList_advance h.1 hitem, hanswer]

variable {ρ : Type*} {serveCall : CircularArray α → ρ → FifoReply α × CircularArray α}
  {request : ρ → FifoRequest α}

/-- After these calls from the start on, the queue is a bounded first-in
first-out one: its indices agree, what was taken is a prefix of what was
accepted and the rest is in the queue, and the next call is served as such a
queue serves it. -/
structure RefinesFifo (start : CircularArray α)
    (serveCall : CircularArray α → ρ → FifoReply α × CircularArray α)
    (request : ρ → FifoRequest α) (calls : List ρ) (replies : List (FifoReply α))
    (queue : CircularArray α) : Prop where
  reached : BoundedFifo.serveAll serveCall start calls = (replies, queue)
  capacity_eq : queue.capacity = start.capacity
  head_lt : queue.head < queue.capacity
  tail_eq : queue.tail = (queue.head + queue.count) % queue.capacity
  count_le : queue.count ≤ queue.capacity
  count_eq : queue.toList.length = queue.count
  taken_prefix : BoundedFifo.taken replies <+: BoundedFifo.accepted replies
  conserves : BoundedFifo.accepted replies = BoundedFifo.taken replies ++ queue.toList
  same_replies : (replies, queue.toList) =
    BoundedFifo.serveAll (BoundedFifo.serve start.capacity) start.toList (calls.map request)
  push_reply : ∀ call item, request call = .push item →
    (serveCall queue call).1 = if queue.count = queue.capacity then .full else .accepted item
  take_reply : ∀ call n, request call = .take n →
    (serveCall queue call).1 = .taken (queue.toList.take (min queue.count n))

theorem RefinesFifo.full_iff {start : CircularArray α}
    (h : RefinesFifo start serveCall request calls replies queue) :
    start.capacity ≤ queue.count ↔ queue.count = start.capacity := by
  have hle := h.count_le
  rw [h.capacity_eq] at hle
  omega

theorem RefinesFifo.of_implements {start : CircularArray α} (hempty : start.toList = [])
    (hstart : start.WellFormed)
    (h : BoundedFifo.Implements start.capacity serveCall request toList (Sound start.capacity))
    (calls : List ρ) :
    ∃ replies queue, RefinesFifo start serveCall request calls replies queue := by
  have hsound := h.serveAll_sound ⟨hstart, rfl⟩ calls
  have hconserves := h.conserves ⟨hstart, rfl⟩ calls
  have hsame := h.serveAll_eq ⟨hstart, rfl⟩ calls
  rw [hempty, List.nil_append] at hconserves
  obtain ⟨hwell, hcapacity⟩ := hsound
  have hnext := fun call => congrArg Prod.fst (h _ call ⟨hwell, hcapacity⟩).2
  refine ⟨_, _, rfl, hcapacity, hwell.head_lt, hwell.tail_eq, hwell.count_le, toList_length _,
    ?_, hconserves, hsame, ?_, ?_⟩
  · rw [hconserves]
    exact List.prefix_append _ _
  · intro call item hrequest
    have hle := hwell.count_le
    have hreply := hnext call
    simp only [hrequest, BoundedFifo.serve, toList_length, ← hcapacity] at hreply
    rw [hreply]
    split_ifs with hroom hfull <;> first | rfl | omega
  · intro call n hrequest
    have hreply := hnext call
    simp only [hrequest, BoundedFifo.serve] at hreply
    rw [hreply]
    congr 1
    rw [List.take_eq_take_iff, toList_length, Nat.min_assoc, Nat.min_comm n, ← Nat.min_assoc,
      Nat.min_self]

end CircularArray
