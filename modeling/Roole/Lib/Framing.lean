import Mathlib.Algebra.Ring.Nat
import Mathlib.Data.List.Basic

/-!
# Cutting a stream into frames

A reader looks at the front of a buffer and finds a whole frame there, or too
little, or garbage. Bytes that arrive later never change a verdict it has
given, so what is read off a stream of encoded frames does not depend on how
the stream is cut into chunks.
-/

namespace Framing

inductive Front (ι : Type*)
  | incomplete
  | malformed
  | frame (item : ι) (size : Nat)

structure Reader (α ι : Type*) where
  front : List α → Front ι
  front_nil : front [] = .incomplete
  size_le : front bytes = .frame item size → size ≤ bytes.length
  frame_append : front bytes = .frame item size → front (bytes ++ more) = .frame item size
  malformed_append : front bytes = .malformed → front (bytes ++ more) = .malformed

variable {α ι ρ : Type*}

/-- The buffer gives these items and keeps the rest for later. -/
inductive Drains (reader : Reader α ι) : List α → List ι → List α → Prop
  | wait : reader.front bytes = .incomplete → Drains reader bytes [] bytes
  | frame : reader.front bytes = .frame item size → Drains reader (bytes.drop size) items rest →
      Drains reader bytes (item :: items) rest

/-- The same for chunks that arrive one after the other, the buffer drained
after each. `P` holds of what every drain keeps. -/
inductive Feeds (reader : Reader α ι) (P : List α → Prop) :
    List α → List (List α) → List ι → List α → Prop
  | done : Feeds reader P buffer [] [] buffer
  | chunk : Drains reader (buffer ++ chunk) items rest → P rest →
      Feeds reader P rest chunks later last →
      Feeds reader P buffer (chunk :: chunks) (items ++ later) last

-- ----------------------------------------------------------------------------
-- Whole frames
-- ----------------------------------------------------------------------------

section Complete

variable {reader : Reader α ι}

theorem Reader.front_prefix (hwhole : reader.front whole = .frame item whole.length)
    (hsplit : bytes ++ missing = whole) (hmissing : missing ≠ []) :
    reader.front bytes = .incomplete := by
  rw [← hsplit] at hwhole
  cases hfront : reader.front bytes with
  | incomplete => rfl
  | malformed => cases hwhole.symm.trans (reader.malformed_append hfront)
  | frame item size =>
    have hsize := reader.size_le hfront
    cases hwhole.symm.trans (reader.frame_append hfront)
    rw [List.length_append] at hsize
    have hlen := List.length_pos_of_ne_nil hmissing
    omega

theorem drains_incomplete (hfront : reader.front bytes = .incomplete) :
    Drains reader bytes items rest ↔ items = [] ∧ rest = bytes := by
  constructor
  · intro h
    cases h with
    | wait _ => exact ⟨rfl, rfl⟩
    | frame hframe _ => cases hfront.symm.trans hframe
  · rintro ⟨rfl, rfl⟩
    exact .wait hfront

theorem drains_frame (hfront : reader.front bytes = .frame item size) :
    Drains reader bytes items rest ↔
      ∃ later, items = item :: later ∧ Drains reader (bytes.drop size) later rest := by
  constructor
  · intro h
    cases h with
    | wait hwait => cases hfront.symm.trans hwait
    | frame hframe hlater =>
      cases hfront.symm.trans hframe
      exact ⟨_, rfl, hlater⟩
  · rintro ⟨later, rfl, hlater⟩
    exact .frame hfront hlater

def Complete (reader : Reader α ι) (bytes : List α) : Prop :=
  ∃ items, Drains reader bytes items []

theorem Complete.nil : Complete reader [] := ⟨[], .wait reader.front_nil⟩

theorem complete_frame (hfront : reader.front bytes = .frame item size) :
    Complete reader bytes ↔ Complete reader (bytes.drop size) := by
  simp [Complete, drains_frame hfront]

theorem Drains.complete_append (h : Drains reader bytes items rest) (hrest : rest = [])
    (more : List α) : Complete reader (bytes ++ more) ↔ Complete reader more := by
  induction h with
  | wait hfront =>
    subst hrest
    exact Iff.rfl
  | @frame bytes item size items rest hfront hdrains ih =>
    have hmore : reader.front (bytes ++ more) = .frame item size := reader.frame_append hfront
    rw [complete_frame hmore, List.drop_append_of_le_length (reader.size_le hfront)]
    exact ih hrest

theorem Complete.append_iff (h : Complete reader bytes) (more : List α) :
    Complete reader (bytes ++ more) ↔ Complete reader more := by
  obtain ⟨items, hitems⟩ := h
  exact hitems.complete_append rfl more

theorem Complete.eq_nil (h : Complete reader bytes) (hfront : reader.front bytes = .incomplete) :
    bytes = [] := by
  obtain ⟨items, hitems⟩ := h
  exact ((drains_incomplete hfront).mp hitems).2.symm

theorem complete_take_iff (hwhole : reader.front whole = .frame item whole.length) (n : Nat) :
    Complete reader (whole.take n) ↔ n = 0 ∨ whole.length ≤ n := by
  constructor
  · intro h
    by_contra hpart
    obtain ⟨hpos, hlt⟩ := not_or.mp hpart
    have hfront := reader.front_prefix hwhole (List.take_append_drop n whole)
      (by simpa using Nat.not_le.mp hlt)
    have hnone := congrArg List.length (h.eq_nil hfront)
    rw [List.length_take_of_le (Nat.le_of_not_le hlt), List.length_nil] at hnone
    exact hpos hnone
  · rintro (rfl | hle)
    · exact .nil
    · rw [List.take_of_length_le hle]
      refine ⟨[item], .frame hwhole ?_⟩
      rw [List.drop_length]
      exact .wait reader.front_nil

end Complete

-- ----------------------------------------------------------------------------
-- Frames and where they begin
-- ----------------------------------------------------------------------------

section Places

variable {reader : Reader α ι}

inductive Reads (reader : Reader α ι) : List α → List (ι × Nat) → List α → Prop
  | nil : Reads reader bytes [] bytes
  | frame : reader.front bytes = .frame item size → Reads reader (bytes.drop size) items rest →
      Reads reader bytes ((item, size) :: items) rest

def Reader.Stuck (reader : Reader α ι) (bytes : List α) : Prop :=
  ∀ item size, reader.front bytes ≠ .frame item size

def places : Nat → List (ι × Nat) → List (Nat × ι)
  | _, [] => []
  | start, (item, size) :: items => (start, item) :: places (start + size) items

def placesEnd (start : Nat) (items : List (ι × Nat)) : Nat := start + (items.map Prod.snd).sum

@[simp] theorem placesEnd_nil (start : Nat) : placesEnd start ([] : List (ι × Nat)) = start := rfl

@[simp] theorem placesEnd_cons (start : Nat) (entry : ι × Nat) (items : List (ι × Nat)) :
    placesEnd start (entry :: items) = placesEnd (start + entry.2) items := by
  simp [placesEnd, Nat.add_assoc]

theorem placesEnd_eq (start : Nat) (items : List (ι × Nat)) :
    placesEnd start items = start + placesEnd 0 items := by
  simp [placesEnd]

theorem Reads.drop_eq (h : Reads reader bytes items rest) :
    placesEnd 0 items ≤ bytes.length ∧ rest = bytes.drop (placesEnd 0 items) := by
  induction h with
  | nil => exact ⟨Nat.zero_le _, rfl⟩
  | @frame bytes item size items rest hfront hreads ih =>
    have hsize := reader.size_le hfront
    have hend : placesEnd 0 ((item, size) :: items) = size + placesEnd 0 items := by
      rw [placesEnd_cons, placesEnd_eq, Nat.zero_add]
    obtain ⟨hle, hrest⟩ := ih
    rw [List.length_drop] at hle
    rw [hend, hrest, List.drop_drop]
    exact ⟨by omega, rfl⟩

theorem Reads.append (h : Reads reader bytes items rest) (more : List α) :
    Reads reader (bytes ++ more) items (rest ++ more) := by
  induction h with
  | nil => exact .nil
  | frame hfront _ ih =>
    refine .frame (reader.frame_append hfront) ?_
    rwa [List.drop_append_of_le_length (reader.size_le hfront)]

theorem Reads.prefix_of_le (h : Reads reader bytes items rest)
    (h' : Reads reader bytes items' rest') (hle : items.length ≤ items'.length) :
    items <+: items' := by
  induction h generalizing items' with
  | nil => exact List.nil_prefix
  | frame hfront _ ih =>
    cases h' with
    | nil => cases hle
    | frame hfront' hreads' =>
      cases hfront.symm.trans hfront'
      exact List.cons_prefix_cons.mpr ⟨rfl, ih hreads' (Nat.le_of_succ_le_succ hle)⟩

theorem Reads.length_le_of_stuck (h : Reads reader bytes items rest)
    (h' : Reads reader bytes items' rest') (hstuck : reader.Stuck rest') :
    items.length ≤ items'.length := by
  induction h generalizing items' with
  | nil => exact Nat.zero_le _
  | frame hfront _ ih =>
    cases h' with
    | nil => exact absurd hfront (hstuck _ _)
    | frame hfront' hreads' =>
      cases hfront.symm.trans hfront'
      exact Nat.succ_le_succ (ih hreads')

theorem places_append (start : Nat) (items more : List (ι × Nat)) :
    places start (items ++ more) = places start items ++ places (placesEnd start items) more := by
  induction items generalizing start with
  | nil => rfl
  | cons entry items ih => simp [places, ih]

theorem exists_place {entry : ι × Nat} {items : List (ι × Nat)} (h : entry ∈ items) (start : Nat) :
    ∃ place, (place, entry.1) ∈ places start items := by
  induction items generalizing start with
  | nil => cases h
  | cons first items ih =>
    cases h with
    | head => exact ⟨start, List.mem_cons_self⟩
    | tail _ h =>
      obtain ⟨place, hplace⟩ := ih h (start + first.2)
      exact ⟨place, List.mem_cons_of_mem _ hplace⟩

theorem mem_of_place {items : List (ι × Nat)} (h : (place, item) ∈ places start items) :
    ∃ entry ∈ items, entry.1 = item := by
  induction items generalizing start with
  | nil => cases h
  | cons first items ih =>
    cases h with
    | head => exact ⟨first, List.mem_cons_self, rfl⟩
    | tail _ h =>
      obtain ⟨entry, hentry, hitem⟩ := ih h
      exact ⟨entry, List.mem_cons_of_mem _ hentry, hitem⟩

theorem placesEnd_ge (start : Nat) (items : List (ι × Nat)) : start ≤ placesEnd start items :=
  Nat.le_add_right _ _

theorem places_ge (start : Nat) (items : List (ι × Nat)) :
    ∀ place ∈ places start items, start ≤ place.1 := by
  induction items generalizing start with
  | nil => simp [places]
  | cons entry items ih =>
    refine List.forall_mem_cons.mpr ⟨Nat.le_refl start, fun place hplace => ?_⟩
    exact Nat.le_trans (Nat.le_add_right _ _) (ih (start + entry.2) place hplace)

theorem places_lt {items : List (ι × Nat)} (hpos : ∀ entry ∈ items, 0 < entry.2) (start : Nat) :
    ∀ place ∈ places start items, place.1 < placesEnd start items := by
  induction items generalizing start with
  | nil => simp [places]
  | cons entry items ih =>
    obtain ⟨hsize, hrest⟩ := List.forall_mem_cons.mp hpos
    rw [placesEnd_cons]
    refine List.forall_mem_cons.mpr ⟨?_, ih hrest (start + entry.2)⟩
    exact Nat.lt_of_lt_of_le (Nat.lt_add_of_pos_right hsize) (placesEnd_ge _ items)

theorem places_pairwise {items : List (ι × Nat)} (hpos : ∀ entry ∈ items, 0 < entry.2)
    (start : Nat) : (places start items).Pairwise fun a b => a.1 < b.1 := by
  induction items generalizing start with
  | nil => exact .nil
  | cons entry items ih =>
    obtain ⟨hsize, hrest⟩ := List.forall_mem_cons.mp hpos
    refine .cons (fun place hplace => ?_) (ih hrest _)
    exact Nat.lt_of_lt_of_le (Nat.lt_add_of_pos_right hsize) (places_ge _ items place hplace)

theorem Reads.front_place (h : Reads reader bytes items rest) (start : Nat) :
    ∀ place ∈ places start items, ∃ size,
      reader.front (bytes.drop (place.1 - start)) = .frame place.2 size := by
  induction h generalizing start with
  | nil => simp [places]
  | @frame bytes item size items rest hfront hreads ih =>
    refine List.forall_mem_cons.mpr ⟨⟨size, ?_⟩, fun place hplace => ?_⟩
    · rwa [Nat.sub_self, List.drop_zero]
    · obtain ⟨size', hplaced⟩ := ih (start + size) place hplace
      have hle := places_ge (start + size) items place hplace
      refine ⟨size', ?_⟩
      rw [List.drop_drop] at hplaced
      rwa [show place.1 - start = size + (place.1 - (start + size)) by omega]

end Places

structure Encoder (reader : Reader α ι) (ρ : Type*) where
  encode : ρ → List α
  item : ρ → ι
  front_encode : reader.front (encode r ++ more) = .frame (item r) (encode r).length

namespace Encoder

variable {reader : Reader α ι} (enc : Encoder reader ρ)

def stream (rs : List ρ) : List α := rs.flatMap enc.encode

@[simp] theorem stream_cons (r : ρ) (rs : List ρ) :
    enc.stream (r :: rs) = enc.encode r ++ enc.stream rs := rfl

theorem front_prefix {missing : List α} (h : bytes ++ missing = enc.encode r)
    (hmissing : missing ≠ []) : reader.front bytes = .incomplete := by
  have hwhole : reader.front (enc.encode r ++ []) = _ := enc.front_encode
  rw [List.append_nil] at hwhole
  exact reader.front_prefix hwhole h hmissing

/-- What is kept is a proper part of the next frame. -/
def Awaits (rest : List α) : List ρ → Prop
  | [] => rest = []
  | r :: _ => rest.length < (enc.encode r).length

theorem encode_ne_nil (r : ρ) : enc.encode r ≠ [] := by
  intro h
  have hwhole : reader.front (enc.encode r ++ []) = _ := enc.front_encode
  rw [h, List.append_nil, reader.front_nil] at hwhole
  cases hwhole

theorem drains_cons {bytes : List α} (h : Drains reader bytes items rest) :
    Drains reader (enc.encode r ++ bytes) (enc.item r :: items) rest := by
  refine .frame enc.front_encode ?_
  rwa [List.drop_left]

/-- Draining the first part of a stream gives the frames that are complete in
it. What is kept and what is still to come are again a stream of frames. -/
theorem drains_prefix (rs : List ρ) (hstream : bytes ++ coming = enc.stream rs) :
    ∃ done todo rest, rs = done ++ todo ∧ Drains reader bytes (done.map enc.item) rest ∧
      rest ++ coming = enc.stream todo ∧ enc.Awaits rest todo := by
  induction rs generalizing bytes with
  | nil =>
    obtain ⟨rfl, rfl⟩ := List.append_eq_nil_iff.mp hstream
    exact ⟨[], [], [], rfl, .wait reader.front_nil, rfl, rfl⟩
  | cons r rs ih =>
    rw [stream_cons, List.append_eq_append_iff] at hstream
    rcases hstream with ⟨missing, hframe, hcoming⟩ | ⟨more, rfl, hmore⟩
    · cases missing with
      | nil =>
        obtain rfl : enc.encode r = bytes := by simpa using hframe
        have hnext : [] ++ coming = enc.stream rs := hcoming
        obtain ⟨done, todo, rest, rfl, hdrains, hrest⟩ := ih hnext
        refine ⟨r :: done, todo, rest, rfl, ?_, hrest⟩
        simpa using enc.drains_cons (r := r) hdrains
      | cons a missing =>
        have hfront := enc.front_prefix hframe.symm (List.cons_ne_nil a missing)
        refine ⟨[], r :: rs, bytes, rfl, .wait hfront, ?_, ?_⟩
        · rw [stream_cons, hframe, hcoming, List.append_assoc]
        · simp [Awaits, hframe]
    · obtain ⟨done, todo, rest, rfl, hdrains, hrest⟩ := ih hmore.symm
      exact ⟨r :: done, todo, rest, rfl, enc.drains_cons hdrains, hrest⟩

/-- However a stream is cut into chunks, feeding them gives all its frames in
order and keeps nothing. -/
theorem feeds_stream {P : List α → Prop} (hnil : P [])
    (hshort : ∀ rest r, rest.length < (enc.encode r).length → P rest)
    (chunks : List (List α)) (rs : List ρ) (hawaits : enc.Awaits buffer rs)
    (hstream : buffer ++ chunks.flatten = enc.stream rs) :
    Feeds reader P buffer chunks (rs.map enc.item) [] := by
  induction chunks generalizing buffer rs with
  | nil =>
    rw [List.flatten_nil, List.append_nil] at hstream
    cases rs with
    | nil =>
      cases hawaits
      exact .done
    | cons r rs =>
      rw [Awaits, hstream, stream_cons, List.length_append] at hawaits
      omega
  | cons chunk chunks ih =>
    rw [List.flatten_cons, ← List.append_assoc] at hstream
    obtain ⟨done, todo, rest, rfl, hdrains, hrest, hawaits⟩ := enc.drains_prefix rs hstream
    rw [List.map_append]
    refine .chunk hdrains ?_ (ih todo hawaits hrest)
    cases todo with
    | nil => rwa [show rest = [] from hawaits]
    | cons r todo => exact hshort rest r hawaits

end Encoder
end Framing
