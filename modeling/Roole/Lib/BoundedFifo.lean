import Mathlib.Data.List.Basic

/-!
# Bounded first-in first-out queues

A queue is the list of its items, oldest first, with a bound on their number.
Each request is served in one step. What was accepted is what was taken followed
by what is still queued, and an implementation that serves every request as this
queue does has the same history.
-/

inductive FifoRequest (α : Type*)
  | push (item : α)
  | take (n : Nat)

inductive FifoReply (α : Type*)
  | accepted (item : α)
  | full
  | taken (items : List α)
  deriving DecidableEq, Repr

def FifoReply.acceptedItems : FifoReply α → List α
  | .accepted item => [item]
  | .full => []
  | .taken _ => []

def FifoReply.takenItems : FifoReply α → List α
  | .accepted _ => []
  | .full => []
  | .taken items => items

namespace BoundedFifo

variable {α ρ σ β : Type*} {capacity : Nat}

def serve (capacity : Nat) (items : List α) : FifoRequest α → FifoReply α × List α
  | .push item =>
    if items.length < capacity then (.accepted item, items ++ [item]) else (.full, items)
  | .take n => (.taken (items.take n), items.drop n)

def serveAll (serve : σ → ρ → β × σ) (s : σ) : List ρ → List β × σ
  | [] => ([], s)
  | call :: rest =>
    let (reply, s) := serve s call
    let (replies, s) := serveAll serve s rest
    (reply :: replies, s)

def accepted (replies : List (FifoReply α)) : List α := replies.flatMap FifoReply.acceptedItems

def taken (replies : List (FifoReply α)) : List α := replies.flatMap FifoReply.takenItems

@[simp] theorem accepted_cons (reply : FifoReply α) (replies : List (FifoReply α)) :
    accepted (reply :: replies) = reply.acceptedItems ++ accepted replies := rfl

@[simp] theorem taken_cons (reply : FifoReply α) (replies : List (FifoReply α)) :
    taken (reply :: replies) = reply.takenItems ++ taken replies := rfl

-- ----------------------------------------------------------------------------
-- History
-- ----------------------------------------------------------------------------

theorem serve_conserves (capacity : Nat) (items : List α) (request : FifoRequest α) :
    items ++ (serve capacity items request).1.acceptedItems =
      (serve capacity items request).1.takenItems ++ (serve capacity items request).2 := by
  cases request with
  | push item =>
    unfold serve
    split_ifs <;> simp [FifoReply.acceptedItems, FifoReply.takenItems]
  | take n => simp [serve, FifoReply.acceptedItems, FifoReply.takenItems]

theorem serveAll_conserves (items : List α) (requests : List (FifoRequest α)) :
    items ++ accepted (serveAll (serve capacity) items requests).1 =
      taken (serveAll (serve capacity) items requests).1 ++
        (serveAll (serve capacity) items requests).2 := by
  induction requests generalizing items with
  | nil => simp [serveAll, accepted, taken]
  | cons request rest ih =>
    have hfirst := serve_conserves capacity items request
    have hrest := ih (serve capacity items request).2
    simp only [serveAll, accepted_cons, taken_cons, List.append_assoc]
    rw [← List.append_assoc, hfirst, List.append_assoc, hrest]

-- ----------------------------------------------------------------------------
-- Implementations
-- ----------------------------------------------------------------------------

/-- The answer to a request in state `s` is that of the queue of its contents,
and the state behind it is sound. -/
def ServedAs (capacity : Nat) (contents : σ → List α) (sound : σ → Prop) (s : σ)
    (request : FifoRequest α) (answer : FifoReply α × σ) : Prop :=
  sound answer.2 ∧ (answer.1, contents answer.2) = serve capacity (contents s) request

/-- Every call on a sound state is served as the queue serves the request that
the call stands for. -/
def Implements (capacity : Nat) (serveCall : σ → ρ → FifoReply α × σ)
    (request : ρ → FifoRequest α) (contents : σ → List α) (sound : σ → Prop) : Prop :=
  ∀ s call, sound s → ServedAs capacity contents sound s (request call) (serveCall s call)

variable {serveCall : σ → ρ → FifoReply α × σ} {request : ρ → FifoRequest α}
  {contents : σ → List α} {sound : σ → Prop}

theorem Implements.serveAll_sound (h : Implements capacity serveCall request contents sound)
    (hsound : sound s) (calls : List ρ) : sound (serveAll serveCall s calls).2 := by
  induction calls generalizing s with
  | nil => exact hsound
  | cons call rest ih => exact ih (h s call hsound).1

theorem Implements.serveAll_eq (h : Implements capacity serveCall request contents sound)
    (hsound : sound s) (calls : List ρ) :
    ((serveAll serveCall s calls).1, contents (serveAll serveCall s calls).2) =
      serveAll (serve capacity) (contents s) (calls.map request) := by
  induction calls generalizing s with
  | nil => rfl
  | cons call rest ih =>
    obtain ⟨hnext, hfirst⟩ := h s call hsound
    have hrest := ih hnext
    rw [Prod.ext_iff] at hfirst hrest
    obtain ⟨hreply, hcontents⟩ := hfirst
    obtain ⟨hreplies, hend⟩ := hrest
    simp only [List.map_cons, serveAll, ← hreply, ← hcontents, ← hreplies, ← hend]

theorem Implements.conserves (h : Implements capacity serveCall request contents sound)
    (hsound : sound s) (calls : List ρ) :
    contents s ++ accepted (serveAll serveCall s calls).1 =
      taken (serveAll serveCall s calls).1 ++ contents (serveAll serveCall s calls).2 := by
  have hall := h.serveAll_eq hsound calls
  rw [Prod.ext_iff] at hall
  obtain ⟨hreplies, hcontents⟩ := hall
  simp only at hreplies hcontents
  rw [hreplies, hcontents]
  exact serveAll_conserves _ _

end BoundedFifo
