import Mathlib.Logic.Basic
import Mathlib.Tactic.SplitIfs
import Mathlib.Tactic.TypeStar

/-!
# Tables that give requests their entries

A request is given the index of the first entry that it hits, or else a new entry
at the end. Requests come in groups, and each has a key; the question is when the
requests of a group are given one index exactly if they have one key.
-/

namespace Interning

variable {ε κ γ ι : Type*} {size : Nat} {store : κ → ε} {hit : ε → κ → Bool}

def intern (size : Nat) (store : κ → ε) (hit : ε → κ → Bool) (entries : List ε) (request : κ) :
    Option Nat × List ε :=
  match entries.findIdx? (hit · request) with
  | some i => (some i, entries)
  | none =>
    if entries.length < size then (some entries.length, entries ++ [store request])
    else (none, entries)

/-- The entries, and all requests with what they were given. -/
structure Log (ε κ : Type*) where
  entries : List ε
  past : List (κ × Option Nat)

namespace Log

def empty : Log ε κ := ⟨[], []⟩

def ask (size : Nat) (store : κ → ε) (hit : ε → κ → Bool) (log : Log ε κ) (request : κ) :
    Log ε κ :=
  let (given, entries) := intern size store hit log.entries request
  ⟨entries, log.past ++ [(request, given)]⟩

def maker (log : Log ε κ) (i : Nat) : Option κ :=
  (log.past.find? fun x => decide (x.2 = some i)).map Prod.fst

def found (hit : ε → κ → Bool) (log : Log ε κ) (request : κ) : Option Nat :=
  log.entries.findIdx? (hit · request)

theorem mem_past_of_maker {log : Log ε κ} (h : log.maker i = some request) :
    (request, some i) ∈ log.past := by
  obtain ⟨x, hfind, rfl⟩ := Option.map_eq_some_iff.mp h
  have hgiven : x.2 = some i := by simpa using List.find?_some hfind
  rw [← hgiven]
  exact List.mem_of_find?_eq_some hfind

theorem maker_append {log : Log ε κ} (h : log.maker i = some request) (entries : List ε)
    (x : κ × Option Nat) : (⟨entries, log.past ++ [x]⟩ : Log ε κ).maker i = some request := by
  obtain ⟨first, hfind, rfl⟩ := Option.map_eq_some_iff.mp h
  unfold maker
  rw [List.find?_append, hfind]
  rfl

end Log

/-- Each entry is what its first request stores, and each request was given the
first entry that it hits, or one that was made for it. -/
structure WellMade (store : κ → ε) (hit : ε → κ → Bool) (log : Log ε κ) : Prop where
  made : ∀ i e, log.entries[i]? = some e → ∃ first, log.maker i = some first ∧ e = store first
  given : ∀ x ∈ log.past, ∃ i e, x.2 = some i ∧ log.entries[i]? = some e ∧
    (∀ j < i, ∀ e', log.entries[j]? = some e' → hit e' x.1 = false) ∧
    (hit e x.1 = true ∨ log.maker i = some x.1)

theorem WellMade.empty : WellMade store hit .empty where
  made := by simp [Log.empty]
  given := by simp [Log.empty]

theorem found_some {log : Log ε κ} (h : log.found hit request = some i) :
    ∃ e, log.entries[i]? = some e ∧ hit e request = true ∧
      ∀ j < i, ∀ e', log.entries[j]? = some e' → hit e' request = false := by
  obtain ⟨hi, hhit, hbefore⟩ := List.findIdx?_eq_some_iff_getElem.mp h
  refine ⟨log.entries[i], List.getElem?_eq_getElem hi, hhit, fun j hj e' he' => ?_⟩
  obtain ⟨hlt, rfl⟩ := List.getElem?_eq_some_iff.mp he'
  simpa using hbefore j hj

theorem ask_of_found {log : Log ε κ} (h : log.found hit request = some i) :
    log.ask size store hit request = ⟨log.entries, log.past ++ [(request, some i)]⟩ := by
  unfold Log.found at h
  simp only [Log.ask, intern, h]

theorem ask_of_not_found {log : Log ε κ} (h : log.found hit request = none)
    (hroom : log.entries.length < size) :
    log.ask size store hit request =
      ⟨log.entries ++ [store request],
        log.past ++ [(request, some log.entries.length)]⟩ := by
  unfold Log.found at h
  simp only [Log.ask, intern, h, if_pos hroom]

theorem WellMade.lt_length {log : Log ε κ} (h : WellMade store hit log) (hx : x ∈ log.past) :
    ∃ i < log.entries.length, x.2 = some i := by
  obtain ⟨i, e, hgiven, hentry, -⟩ := h.given x hx
  exact ⟨i, (List.getElem?_eq_some_iff.mp hentry).1, hgiven⟩

theorem WellMade.given_append {log : Log ε κ} (h : WellMade store hit log) (hx : x ∈ log.past)
    (more : List ε) (y : κ × Option Nat) :
    let later : Log ε κ := ⟨log.entries ++ more, log.past ++ [y]⟩
    ∃ i e, x.2 = some i ∧ later.entries[i]? = some e ∧
      (∀ j < i, ∀ e', later.entries[j]? = some e' → hit e' x.1 = false) ∧
      (hit e x.1 = true ∨ later.maker i = some x.1) := by
  obtain ⟨i, e, hgiven, hentry, hbefore, hends⟩ := h.given x hx
  have hi := (List.getElem?_eq_some_iff.mp hentry).1
  refine ⟨i, e, hgiven, ?_, fun j hj e' he' => hbefore j hj e' ?_,
    hends.imp_right fun hmaker => Log.maker_append hmaker _ _⟩
  · rw [List.getElem?_append_left hi, hentry]
  · rwa [List.getElem?_append_left (Nat.lt_trans hj hi)] at he'

theorem WellMade.maker_new {log : Log ε κ} (h : WellMade store hit log) (entries : List ε)
    (request : κ) :
    (⟨entries, log.past ++ [(request, some log.entries.length)]⟩ : Log ε κ).maker
      log.entries.length = some request := by
  have hnone : log.past.find? (fun x => decide (x.2 = some log.entries.length)) = none := by
    refine List.find?_eq_none.mpr fun x hx => ?_
    obtain ⟨j, hj, hgiven⟩ := h.lt_length hx
    simp only [hgiven, decide_eq_true_eq, Option.some_inj]
    omega
  unfold Log.maker
  rw [List.find?_append, hnone]
  simp

theorem WellMade.ask_found {log : Log ε κ} (h : WellMade store hit log)
    (hfound : log.found hit request = some i) :
    WellMade store hit ⟨log.entries, log.past ++ [(request, some i)]⟩ := by
  obtain ⟨e, hentry, hhit, hbefore⟩ := found_some hfound
  constructor
  case made =>
    intro j e' he'
    obtain ⟨first, hfirst, hstore⟩ := h.made j e' he'
    exact ⟨first, Log.maker_append hfirst _ _, hstore⟩
  case given =>
    intro x hx
    rcases List.mem_append.mp hx with hold | hnew
    · have hgiven := h.given_append hold [] (request, some i)
      rwa [List.append_nil] at hgiven
    · cases List.mem_singleton.mp hnew
      exact ⟨i, e, rfl, hentry, hbefore, .inl hhit⟩

theorem WellMade.ask_not_found {log : Log ε κ} (h : WellMade store hit log)
    (hfound : log.found hit request = none) :
    WellMade store hit
      ⟨log.entries ++ [store request], log.past ++ [(request, some log.entries.length)]⟩ := by
  have hmiss := List.findIdx?_eq_none_iff.mp hfound
  have hfirst := h.maker_new (log.entries ++ [store request]) request
  constructor
  case made =>
    intro j e he
    rw [List.getElem?_append] at he
    split_ifs at he with hj
    · obtain ⟨first, hmaker, hstore⟩ := h.made j e he
      exact ⟨first, Log.maker_append hmaker _ _, hstore⟩
    · obtain ⟨hlt, hlast⟩ := List.getElem?_eq_some_iff.mp he
      rw [List.length_singleton] at hlt
      have hj' : j = log.entries.length := by omega
      subst hj'
      exact ⟨request, hfirst, by simpa using hlast.symm⟩
  case given =>
    intro x hx
    rcases List.mem_append.mp hx with hold | hnew
    · exact h.given_append hold _ _
    · cases List.mem_singleton.mp hnew
      refine ⟨log.entries.length, store request, rfl, by simp, fun k hk e' he' => ?_, .inr hfirst⟩
      rw [List.getElem?_append_left hk] at he'
      exact hmiss e' (List.mem_of_getElem? he')

theorem WellMade.ask {log : Log ε κ} (h : WellMade store hit log)
    (hroom : log.entries.length < size) (request : κ) :
    WellMade store hit (log.ask size store hit request) := by
  cases hfound : log.found hit request with
  | some i =>
    rw [ask_of_found hfound]
    exact h.ask_found hfound
  | none =>
    rw [ask_of_not_found hfound hroom]
    exact h.ask_not_found hfound

-- ----------------------------------------------------------------------------
-- Keys
-- ----------------------------------------------------------------------------

variable {group : κ → γ} {key : κ → ι}

/-- Requests of a group were given one index exactly if they have one key. -/
def Distinguishes (group : κ → γ) (key : κ → ι) (past : List (κ × Option Nat)) : Prop :=
  ∀ x ∈ past, ∀ y ∈ past, group x.1 = group y.1 → (x.2 = y.2 ↔ key x.1 = key y.1)

/-- An entry that is found was made for the same key, if for the group at all, and
where none is found the key is new to the group. -/
def Fits (hit : ε → κ → Bool) (group : κ → γ) (key : κ → ι) (log : Log ε κ) (request : κ) : Prop :=
  match log.found hit request with
  | some i => ∀ first ∈ log.maker i, group first = group request → key first = key request
  | none => ∀ x ∈ log.past, group x.1 = group request → key x.1 ≠ key request

theorem distinguishes_append_iff (h : Distinguishes group key past) (request : κ)
    (given : Option Nat) :
    Distinguishes group key (past ++ [(request, given)]) ↔
      ∀ x ∈ past, group x.1 = group request → (x.2 = given ↔ key x.1 = key request) := by
  unfold Distinguishes
  simp only [List.forall_mem_append, List.forall_mem_singleton]
  constructor
  · intro hall x hx
    exact (hall.1 x hx).2
  · intro hnew
    refine ⟨fun x hx => ⟨h x hx, hnew x hx⟩, fun y hy hgroup => ?_, fun _ => trivial⟩
    rw [eq_comm, hnew y hy hgroup.symm]
    exact eq_comm

theorem WellMade.hit_given (hself : ∀ e a, hit e a = true → hit (store a) a = true)
    {log : Log ε κ} (h : WellMade store hit log) (hentry : log.entries[i]? = some e)
    (hends : hit e a = true ∨ log.maker i = some a) (hsome : hit e' a = true) :
    hit e a = true := by
  rcases hends with hhit | hmaker
  · exact hhit
  · obtain ⟨_, hmaker', rfl⟩ := h.made i e hentry
    rw [hmaker', Option.some_inj] at hmaker
    rw [hmaker]
    exact hself _ _ hsome

section Keys

variable (hkey : ∀ e a b, key a = key b → hit e a = hit e b)
  (hself : ∀ e a, hit e a = true → hit (store a) a = true)
include hkey hself

theorem key_new {log : Log ε κ} (h : WellMade store hit log)
    (hfound : log.found hit request = none) (hfresh : hit (store request) request = true) :
    ∀ x ∈ log.past, key x.1 ≠ key request := by
  intro x hx hsame
  obtain ⟨i, e, -, hentry, -, hends⟩ := h.given x hx
  have hx' : hit e x.1 = true :=
    h.hit_given hself hentry hends ((hkey _ _ _ hsame).trans hfresh)
  have hmiss := List.findIdx?_eq_none_iff.mp hfound e (List.mem_of_getElem? hentry)
  rw [← hkey e _ _ hsame, hx'] at hmiss
  cases hmiss

/-- A request that can be found fits if it has the key of what it finds; any other
fits if its key is new. -/
theorem fits_iff {log : Log ε κ} (h : WellMade store hit log) (request : κ) (short : Prop)
    [Decidable short] (hshort : ∀ e, hit e request = true → short)
    (hfresh : short → hit (store request) request = true) (same : κ → Prop)
    (hsame : ∀ first, hit (store first) request = true →
      (key first = key request ↔ same first)) :
    Fits hit group key log request ↔
      if short then
        ∀ first ∈ (log.found hit request).bind log.maker,
          group first = group request → same first
      else ∀ x ∈ log.past, group x.1 = group request → key x.1 ≠ key request := by
  unfold Fits
  cases hfound : log.found hit request with
  | some i =>
    obtain ⟨e, hentry, hhit, -⟩ := found_some hfound
    obtain ⟨first, hmaker, rfl⟩ := h.made i e hentry
    rw [if_pos (hshort _ hhit)]
    simp [hmaker, hsame first hhit]
  | none =>
    split_ifs with hname
    · have hnew := key_new hkey hself h hfound (hfresh hname)
      exact iff_of_true (fun x hx _ => hnew x hx) (fun _ hfirst => nomatch hfirst)
    · rfl

theorem given_eq_of_key {log : Log ε κ} (h : WellMade store hit log)
    (hfound : log.found hit request = some i) (hx : x ∈ log.past)
    (hsame : key x.1 = key request) : x.2 = some i := by
  obtain ⟨e, hentry, hhit, hbefore⟩ := found_some hfound
  obtain ⟨j, e', hgiven, hentry', hbefore', hends⟩ := h.given x hx
  have hhits : ∀ e, hit e x.1 = hit e request := fun e => hkey e _ _ hsame
  have hhit' : hit e' x.1 = true := h.hit_given hself hentry' hends ((hhits e).trans hhit)
  have hle : ¬i < j := fun hlt => by
    have hmiss := hbefore' i hlt _ hentry
    rw [hhits, hhit] at hmiss
    cases hmiss
  have hge : ¬j < i := fun hlt => by
    have hmiss := hbefore j hlt e' hentry'
    rw [← hhits, hhit'] at hmiss
    cases hmiss
  rw [hgiven, show j = i by omega]

variable (hshared : ∀ c a b, hit (store c) a = true → hit (store c) b = true → group a = group b →
  group a ≠ group c → key a = key b)
include hshared

/-- One more request leaves the group's indices and keys in step exactly if it
fits. -/
theorem distinguishes_ask_iff {log : Log ε κ} (h : WellMade store hit log)
    (hd : Distinguishes group key log.past) (hroom : log.entries.length < size) (request : κ) :
    Distinguishes group key (log.ask size store hit request).past ↔
      Fits hit group key log request := by
  unfold Fits
  cases hfound : log.found hit request with
  | none =>
    rw [ask_of_not_found hfound hroom, distinguishes_append_iff hd]
    refine forall₃_congr fun x hx _ => ?_
    obtain ⟨i, hi, hgiven⟩ := h.lt_length hx
    have hne : ¬x.2 = some log.entries.length := by
      rw [hgiven, Option.some_inj]
      omega
    exact iff_false_left hne
  | some i =>
    obtain ⟨e, hentry, hhit, -⟩ := found_some hfound
    obtain ⟨first, hmaker, rfl⟩ := h.made i e hentry
    have hfirst := Log.mem_past_of_maker hmaker
    rw [ask_of_found hfound, distinguishes_append_iff hd]
    dsimp only
    rw [hmaker]
    constructor
    · rintro hall _ ⟨⟩ hgroup
      exact (hall _ hfirst hgroup).mp rfl
    · intro hfits x hx hgroup
      refine ⟨fun hsame => ?_, given_eq_of_key hkey hself h hfound hx⟩
      by_cases hown : group first = group request
      · rw [← hfits first rfl hown]
        exact (hd x hx _ hfirst (hgroup.trans hown.symm)).mp hsame
      -- The entry was made for another group: it was hit both times.
      · obtain ⟨j, e, hgiven, hentry', -, hends⟩ := h.given x hx
        rw [hsame, Option.some_inj] at hgiven
        subst hgiven
        rw [hentry, Option.some_inj] at hentry'
        subst hentry'
        rcases hends with hhit' | hmaker'
        · exact hshared first _ _ hhit' hhit hgroup fun heq => hown (heq.symm.trans hgroup)
        · rw [hmaker, Option.some_inj] at hmaker'
          exact absurd (hmaker' ▸ hgroup) hown

end Keys

end Interning
