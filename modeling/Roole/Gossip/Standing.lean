import Mathlib.Data.List.Count
import Mathlib.Data.List.Perm.Subperm
import Roole.Cluster.View

/-!
# When reports about a member commute

The rule by which the PING handler takes a report about one member, over
incarnations up to `limit`, and the exact condition on an entry and a list of
reports under which every order of delivery leaves the same standing.
-/

namespace Roole

/-- The part of a view entry that the PING handler compares and changes. -/
structure Standing where
  status : NodeStatus
  incarnation : Nat
  deriving DecidableEq, Repr

namespace Standing

variable {limit k : Nat} {entry : Option Standing} {report : Standing}
  {reports rest : List Standing}

/-- The standing after a DEAD member was reported ALIVE: the next incarnation,
which is zero after the greatest one. -/
def rejoin (limit : Nat) (report : Standing) : Standing :=
  ⟨.alive, if report.incarnation = limit then 0 else report.incarnation + 1⟩

def accept (limit : Nat) : Option Standing → Standing → Standing
  | none, report => report
  | some held, report =>
    if (held.status = .dead ∧ report.status = .alive) ∧ held.incarnation < report.incarnation then
      rejoin limit report
    else if held.incarnation < report.incarnation then report
    else held

def acceptAll (limit : Nat) (entry : Option Standing) (reports : List Standing) :
    Option Standing :=
  reports.foldl (fun entry report => some (accept limit entry report)) entry

def Fresh (entry : Option Standing) (report : Standing) : Prop :=
  ∀ held ∈ entry, held.incarnation < report.incarnation

def IsDead (entry : Option Standing) : Prop := ∃ held ∈ entry, held.status = .dead

instance (entry : Option Standing) : Decidable (IsDead entry) := by
  unfold IsDead
  infer_instance

instance (entry : Option Standing) (report : Standing) : Decidable (Fresh entry report) := by
  unfold Fresh
  infer_instance

@[simp] theorem fresh_none : Fresh none report := by simp [Fresh]

@[simp] theorem fresh_some : Fresh (some held) report ↔
    held.incarnation < report.incarnation := by simp [Fresh]

@[simp] theorem not_isDead_none : ¬ IsDead none := by simp [IsDead]

@[simp] theorem isDead_some : IsDead (some held) ↔ held.status = .dead := by simp [IsDead]

theorem accept_cases (limit : Nat) (entry : Option Standing) (report : Standing) :
    (¬ Fresh entry report ∧ entry = some (accept limit entry report)) ∨
    (Fresh entry report ∧ IsDead entry ∧ report.status = .alive ∧
      accept limit entry report = rejoin limit report) ∨
    (Fresh entry report ∧ ¬ (IsDead entry ∧ report.status = .alive) ∧
      accept limit entry report = report) := by
  cases entry with
  | none => simp [accept]
  | some held =>
    by_cases hfresh : held.incarnation < report.incarnation
    · by_cases hrejoin : held.status = .dead ∧ report.status = .alive
      · simp [accept, hfresh, hrejoin]
      · simp [accept, hfresh, hrejoin]
    · simp [accept, hfresh]

@[simp] theorem acceptAll_nil : acceptAll limit entry [] = entry := rfl

@[simp] theorem acceptAll_cons : acceptAll limit entry (report :: reports) =
    acceptAll limit (some (accept limit entry report)) reports := rfl

theorem acceptAll_append : acceptAll limit entry (first ++ second) =
    acceptAll limit (acceptAll limit entry first) second := by
  simp [acceptAll]

theorem Fresh.of_accept (hlimit : report.incarnation < limit ∨ ¬ IsDead entry ∨
    report.status ≠ .alive) (h : Fresh (some (accept limit entry report)) other) :
    Fresh entry other := by
  intro held hheld
  obtain rfl : entry = some held := hheld
  rw [fresh_some] at h
  obtain ⟨_, heq⟩ | ⟨hnew, hdead, halive, heq⟩ | ⟨hnew, _, heq⟩ :=
    accept_cases limit (some held) report
  · rwa [← Option.some.inj heq] at h
  · rw [heq] at h
    have hlt : report.incarnation < limit := by simpa [hdead, halive] using hlimit
    rw [fresh_some] at hnew
    simp only [rejoin, if_neg hlt.ne] at h
    omega
  · rw [heq] at h
    rw [fresh_some] at hnew
    omega

theorem acceptAll_stale (h : ∀ report ∈ reports, report.incarnation ≤ held.incarnation) :
    acceptAll limit (some held) reports = some held := by
  induction reports with
  | nil => rfl
  | cons report rest ih =>
    have hstale : ¬ held.incarnation < report.incarnation :=
      Nat.not_lt.mpr (h report List.mem_cons_self)
    simp only [acceptAll_cons, accept, hstale, and_false, if_false]
    exact ih fun other hother => h other (List.mem_cons_of_mem _ hother)

theorem acceptAll_eq {P : Option Standing → List Standing → Prop}
    (hend : ∀ entry, ¬ P entry [])
    (hstep : ∀ entry report rest, P entry (report :: rest) →
      P (some (accept limit entry report)) rest ∨ accept limit entry report = final)
    (hle : ∀ report ∈ reports, report.incarnation ≤ final.incarnation) (h : P entry reports) :
    acceptAll limit entry reports = some final := by
  induction reports generalizing entry with
  | nil => exact absurd h (hend entry)
  | cons report rest ih =>
    have hle' : ∀ other ∈ rest, other.incarnation ≤ final.incarnation := fun other hother =>
      hle other (List.mem_cons_of_mem _ hother)
    rw [acceptAll_cons]
    obtain hnext | hfinal := hstep entry report rest h
    · exact ih hle' hnext
    · rw [hfinal]
      exact acceptAll_stale hle'

-- -----------------------------------------------------------------------------
-- Entries and reports that commute

/-- No ALIVE report of the incarnation just below `k` can bring a DEAD member
back at `k`. -/
def NoRejoinAt (k : Nat) (entry : Option Standing) (reports : List Standing) : Prop :=
  ∀ back ∈ reports, back.status = .alive → back.incarnation + 1 = k → Fresh entry back →
    ¬ IsDead entry ∧ ∀ dead ∈ reports, dead.status = .dead → Fresh entry dead →
      back.incarnation ≤ dead.incarnation

theorem NoRejoinAt.next (h : NoRejoinAt k entry (report :: rest)) (hk : k ≤ limit)
    (hlt : report.incarnation < k) : NoRejoinAt k (some (accept limit entry report)) rest := by
  intro back hback halive hbelow hfresh
  have hmono := fun other (hother : Fresh (some (accept limit entry report)) other) =>
    Fresh.of_accept (.inl (by omega)) hother
  obtain ⟨hentry, hdead⟩ := h back (List.mem_cons_of_mem _ hback) halive hbelow (hmono _ hfresh)
  refine ⟨fun hnow => ?_, fun dead hmem hstatus hnew =>
    hdead dead (List.mem_cons_of_mem _ hmem) hstatus (hmono _ hnew)⟩
  obtain ⟨_, heq⟩ | ⟨_, _, _, heq⟩ | ⟨hnew, _, heq⟩ := accept_cases limit entry report
  · rw [← heq] at hnow
    exact hentry hnow
  · rw [heq, isDead_some] at hnow
    cases hnow
  · -- the report itself made the entry DEAD, below `back`
    rw [heq] at hnow hfresh
    have hle := hdead report List.mem_cons_self (isDead_some.mp hnow) hnew
    have hlt := fresh_some.mp hfresh
    omega

theorem NoRejoinAt.tail (h : NoRejoinAt k entry (report :: rest)) : NoRejoinAt k entry rest := by
  intro back hback halive hbelow hfresh
  obtain ⟨hentry, hdead⟩ := h back (List.mem_cons_of_mem _ hback) halive hbelow hfresh
  exact ⟨hentry, fun dead hmem => hdead dead (List.mem_cons_of_mem _ hmem)⟩

theorem accept_lt (hentry : Fresh entry ⟨t, k⟩) (hk : k ≤ limit) (hlt : report.incarnation < k)
    (hnot : report.status = .alive → report.incarnation + 1 = k → Fresh entry report →
      ¬ IsDead entry) : Fresh (some (accept limit entry report)) ⟨t, k⟩ := by
  rw [fresh_some]
  obtain ⟨_, heq⟩ | ⟨hnew, hdead, halive, heq⟩ | ⟨_, _, heq⟩ := accept_cases limit entry report
  · exact hentry _ heq
  · have hne : report.incarnation + 1 ≠ k := fun h => hnot halive h hnew hdead
    simp only [heq, rejoin, if_neg (by omega : report.incarnation ≠ limit)]
    omega
  · rw [heq]
    exact hlt

theorem mem_of_ne {target : Standing} (h : target ∈ report :: rest)
    (hne : report.incarnation ≠ target.incarnation) : target ∈ rest := by
  rcases List.mem_cons.mp h with rfl | h
  · exact absurd rfl hne
  · exact h

/-- The newest reports carry one status other than ALIVE. -/
structure Overruled (t : NodeStatus) (k : Nat) (entry : Option Standing)
    (reports : List Standing) : Prop where
  mem : ⟨t, k⟩ ∈ reports
  fresh : Fresh entry ⟨t, k⟩
  le : ∀ report ∈ reports, report.incarnation ≤ k
  same : ∀ report ∈ reports, report.incarnation = k → report.status = t
  noRejoin : NoRejoinAt k entry reports

theorem Overruled.step (h : Overruled t k entry (report :: rest)) (hne : t ≠ .alive)
    (hk : k ≤ limit) : Overruled t k (some (accept limit entry report)) rest ∨
      accept limit entry report = ⟨t, k⟩ := by
  obtain ⟨hmem, hfresh, hle, hsame, hrejoin⟩ := h
  by_cases hat : report.incarnation = k
  · have hreport : report = ⟨t, k⟩ := by
      rw [← hat, ← hsame report List.mem_cons_self hat]
    subst hreport
    obtain ⟨hstale, _⟩ | ⟨_, _, halive, _⟩ | ⟨_, _, heq⟩ := accept_cases limit entry ⟨t, k⟩
    · exact absurd hfresh hstale
    · exact absurd halive hne
    · exact .inr heq
  · have hlt : report.incarnation < k := by
      have := hle report List.mem_cons_self
      omega
    refine .inl ⟨?_, ?_, ?_, ?_, hrejoin.next hk hlt⟩
    · exact mem_of_ne hmem hat
    · exact accept_lt hfresh hk hlt fun halive hbelow hnew =>
        (hrejoin report List.mem_cons_self halive hbelow hnew).1
    · exact fun other hother => hle other (List.mem_cons_of_mem _ hother)
    · exact fun other hother => hsame other (List.mem_cons_of_mem _ hother)

theorem acceptAll_overruled (h : Overruled t k entry reports) (hne : t ≠ .alive)
    (hk : k ≤ limit) : acceptAll limit entry reports = some ⟨t, k⟩ :=
  acceptAll_eq (P := Overruled t k) (fun _ h => by cases h.mem) (fun _ _ _ h => h.step hne hk)
    h.le h

structure Alive (k : Nat) (entry : Option Standing) (reports : List Standing) : Prop where
  mem : ⟨.alive, k⟩ ∈ reports
  fresh : Fresh entry ⟨.alive, k⟩
  le : ∀ report ∈ reports, report.incarnation ≤ k
  same : ∀ report ∈ reports, report.incarnation = k → report.status = .alive
  notDead : ¬ IsDead entry
  noDead : ∀ report ∈ reports, Fresh entry report → report.status ≠ .dead

theorem Alive.step (h : Alive k entry (report :: rest)) (hk : k ≤ limit) :
    Alive k (some (accept limit entry report)) rest ∨
      accept limit entry report = ⟨.alive, k⟩ := by
  obtain ⟨hmem, hfresh, hle, hsame, hentry, hdead⟩ := h
  by_cases hat : report.incarnation = k
  · have hreport : report = ⟨.alive, k⟩ := by
      rw [← hat, ← hsame report List.mem_cons_self hat]
    subst hreport
    obtain ⟨hstale, _⟩ | ⟨_, hdead', _⟩ | ⟨_, _, heq⟩ := accept_cases limit entry ⟨.alive, k⟩
    · exact absurd hfresh hstale
    · exact absurd hdead' hentry
    · exact .inr heq
  · have hlt : report.incarnation < k := by
      have := hle report List.mem_cons_self
      omega
    refine .inl ⟨mem_of_ne hmem hat, accept_lt hfresh hk hlt fun _ _ _ => hentry,
      fun other hother => hle other (List.mem_cons_of_mem _ hother),
      fun other hother => hsame other (List.mem_cons_of_mem _ hother), ?_, ?_⟩
    · obtain ⟨_, heq⟩ | ⟨_, hdead', _⟩ | ⟨hnew, _, heq⟩ := accept_cases limit entry report
      · rwa [← heq]
      · exact absurd hdead' hentry
      · rw [heq, isDead_some]
        exact hdead report List.mem_cons_self hnew
    · exact fun other hother hnew => hdead other (List.mem_cons_of_mem _ hother)
        (hnew.of_accept (.inr (.inl hentry)))

theorem acceptAll_alive (h : Alive k entry reports) (hk : k ≤ limit) :
    acceptAll limit entry reports = some ⟨.alive, k⟩ :=
  acceptAll_eq (P := Alive k) (fun _ h => by cases h.mem) (fun _ _ _ h => h.step hk) h.le h

def LowerDead (k : Nat) (entry : Option Standing) (reports : List Standing) : Prop :=
  ∀ report ∈ reports, Fresh entry report → report.incarnation < k → report.status = .dead

theorem LowerDead.next (limit : Nat) (h : LowerDead k entry (report :: rest)) (hentry : IsDead entry)
    (hlt : report.incarnation < k) : IsDead (some (accept limit entry report)) ∧
      LowerDead k (some (accept limit entry report)) rest := by
  have hnot : Fresh entry report → report.status = .dead := fun hnew =>
    h report List.mem_cons_self hnew hlt
  obtain ⟨_, heq⟩ | ⟨hnew, _, halive, _⟩ | ⟨hnew, _, heq⟩ := accept_cases limit entry report
  · rw [← heq]
    exact ⟨hentry, fun other hother => h other (List.mem_cons_of_mem _ hother)⟩
  · rw [hnot hnew] at halive
    cases halive
  · refine ⟨by rw [heq, isDead_some]; exact hnot hnew, fun other hother hfresh => ?_⟩
    refine h other (List.mem_cons_of_mem _ hother) (hfresh.of_accept (.inr (.inr ?_)))
    rw [hnot hnew]
    simp

/-- A DEAD member whose newest reports all say ALIVE. -/
structure Rejoined (k : Nat) (entry : Option Standing) (reports : List Standing) : Prop where
  mem : ⟨.alive, k⟩ ∈ reports
  fresh : Fresh entry ⟨.alive, k⟩
  le : ∀ report ∈ reports, report.incarnation ≤ k
  same : ∀ report ∈ reports, report.incarnation = k → report.status = .alive
  dead : IsDead entry
  lower : LowerDead k entry reports

theorem accept_rejoin (hentry : IsDead entry) (hfresh : Fresh entry ⟨.alive, k⟩) :
    accept limit entry ⟨.alive, k⟩ = rejoin limit ⟨.alive, k⟩ := by
  obtain ⟨hstale, _⟩ | ⟨_, _, _, heq⟩ | ⟨_, hnot, _⟩ := accept_cases limit entry ⟨.alive, k⟩
  · exact absurd hfresh hstale
  · exact heq
  · exact absurd ⟨hentry, rfl⟩ hnot

theorem Rejoined.step (h : Rejoined k entry (report :: rest)) (hk : k ≤ limit) :
    Rejoined k (some (accept limit entry report)) rest ∨
      accept limit entry report = rejoin limit ⟨.alive, k⟩ := by
  obtain ⟨hmem, hfresh, hle, hsame, hentry, hlower⟩ := h
  by_cases hat : report.incarnation = k
  · have hreport : report = ⟨.alive, k⟩ := by
      rw [← hat, ← hsame report List.mem_cons_self hat]
    subst hreport
    exact .inr (accept_rejoin hentry hfresh)
  · have hlt : report.incarnation < k := by
      have := hle report List.mem_cons_self
      omega
    obtain ⟨hentry', hlower'⟩ := hlower.next limit hentry hlt
    refine .inl ⟨mem_of_ne hmem hat, accept_lt hfresh hk hlt ?_,
      fun other hother => hle other (List.mem_cons_of_mem _ hother),
      fun other hother => hsame other (List.mem_cons_of_mem _ hother), hentry', hlower'⟩
    intro halive _ hnew
    rw [hlower report List.mem_cons_self hnew hlt] at halive
    cases halive

theorem acceptAll_rejoined (h : Rejoined k entry reports) (hk : k < limit) :
    acceptAll limit entry reports = some ⟨.alive, k + 1⟩ := by
  refine acceptAll_eq (P := Rejoined k) (fun _ h => by cases h.mem) (fun entry report rest h => ?_)
    (fun report hreport => Nat.le_succ_of_le (h.le report hreport)) h
  have hstep := h.step hk.le
  simpa only [rejoin, if_neg hk.ne] using hstep

-- -----------------------------------------------------------------------------
-- The greatest incarnation

structure Wrapped (limit : Nat) (entry : Option Standing) (reports : List Standing) : Prop where
  once : reports.count ⟨.alive, limit⟩ = 1
  fresh : Fresh entry ⟨.alive, limit⟩
  zero : ∀ report ∈ reports, report = ⟨.alive, limit⟩ ∨ report.incarnation = 0
  dead : IsDead entry

theorem acceptAll_wrapped (h : Wrapped limit entry reports) :
    acceptAll limit entry reports = some ⟨.alive, 0⟩ := by
  obtain ⟨honce, hfresh, hzero, hdead⟩ := h
  obtain ⟨held, rfl, _⟩ := hdead.imp fun _ h => h
  have hmem : ⟨.alive, limit⟩ ∈ reports := List.count_pos_iff.mp (by omega)
  obtain ⟨before, after, rfl⟩ := List.append_of_mem hmem
  rw [List.count_append, List.count_cons_self] at honce
  have hbefore : ∀ report ∈ before, report.incarnation ≤ held.incarnation := by
    intro report hmem
    obtain rfl | hreport := hzero report (List.mem_append_left _ hmem)
    · have := List.count_pos_iff.mpr hmem
      omega
    · omega
  have hafter : ∀ report ∈ after, report.incarnation ≤ 0 := by
    intro report hmem
    obtain rfl | hreport := hzero report (List.mem_append_right _ (List.mem_cons_of_mem _ hmem))
    · have := List.count_pos_iff.mpr hmem
      omega
    · omega
  rw [acceptAll_append, acceptAll_stale hbefore, acceptAll_cons, accept_rejoin hdead hfresh]
  simp only [rejoin, if_true]
  exact acceptAll_stale hafter

/-- A DEAD report that is fresh again after the incarnation wrapped around. -/
def IsTurn (report : Standing) : Bool := report.status = .dead ∧ 0 < report.incarnation

/-- How often, at most, an ALIVE report of the greatest incarnation can meet a
DEAD entry. -/
def deadTurns (entry : Option Standing) (reports : List Standing) : Nat :=
  reports.countP IsTurn + if IsDead entry ∨ (entry = none ∧ ⟨.dead, 0⟩ ∈ reports) then 1 else 0

/-- More ALIVE reports of the greatest incarnation than a delivery can use up. -/
structure Outnumbered (limit : Nat) (entry : Option Standing) (reports : List Standing) :
    Prop where
  fresh : Fresh entry ⟨.alive, limit⟩
  le : ∀ report ∈ reports, report.incarnation ≤ limit
  same : ∀ report ∈ reports, report.incarnation = limit → report.status = .alive
  more : deadTurns entry reports < reports.count ⟨.alive, limit⟩

theorem deadTurns_some : deadTurns (some held) reports =
    reports.countP IsTurn + if held.status = .dead then 1 else 0 := by
  simp [deadTurns]

theorem countP_le_deadTurns : reports.countP IsTurn ≤ deadTurns entry reports :=
  Nat.le_add_right _ _

/-- A report spends a turn at most when it makes the entry DEAD. -/
theorem deadTurns_next : deadTurns (some (accept limit entry report)) rest ≤
    deadTurns entry (report :: rest) := by
  have hcons : rest.countP IsTurn ≤ (report :: rest).countP IsTurn := by
    rw [List.countP_cons]
    exact Nat.le_add_right _ _
  obtain ⟨_, heq⟩ | ⟨_, _, _, heq⟩ | ⟨hnew, _, heq⟩ := accept_cases limit entry report
  · rw [← heq]
    cases entry with
    | none => simp at heq
    | some held =>
      rw [deadTurns_some, deadTurns_some]
      omega
  · rw [heq, deadTurns_some, if_neg (by simp [rejoin])]
    exact hcons.trans countP_le_deadTurns
  · rw [heq, deadTurns_some]
    split_ifs with hdead
    · by_cases hpos : 0 < report.incarnation
      · refine Nat.le_trans ?_ countP_le_deadTurns
        rw [List.countP_cons, if_pos (by simp [IsTurn, hdead, hpos])]
      · -- a fresh report of incarnation zero: the member was absent
        have hreport : report = ⟨.dead, 0⟩ := by
          rw [← hdead, ← Nat.eq_zero_of_not_pos hpos]
        cases entry with
        | none => simp [deadTurns, hreport, IsTurn]
        | some held =>
          rw [fresh_some] at hnew
          omega
    · exact hcons.trans countP_le_deadTurns

theorem Outnumbered.step (h : Outnumbered limit entry (report :: rest)) :
    Outnumbered limit (some (accept limit entry report)) rest ∨
      accept limit entry report = ⟨.alive, limit⟩ := by
  obtain ⟨hfresh, hle, hsame, hmore⟩ := h
  have hle' : ∀ other ∈ rest, other.incarnation ≤ limit := fun other hother =>
    hle other (List.mem_cons_of_mem _ hother)
  have hsame' : ∀ other ∈ rest, other.incarnation = limit → other.status = .alive :=
    fun other hother => hsame other (List.mem_cons_of_mem _ hother)
  by_cases hat : report.incarnation = limit
  · have hreport : report = ⟨.alive, limit⟩ := by
      rw [← hat, ← hsame report List.mem_cons_self hat]
    subst hreport
    rw [List.count_cons_self] at hmore
    obtain ⟨hstale, _⟩ | ⟨_, hdead, _, heq⟩ | ⟨_, _, heq⟩ :=
      accept_cases limit entry ⟨.alive, limit⟩
    · exact absurd hfresh hstale
    · have hpos : 0 < limit := by
        obtain ⟨held, hheld, _⟩ := hdead
        exact Nat.zero_lt_of_lt (hfresh held hheld)
      have hturns : deadTurns entry (⟨.alive, limit⟩ :: rest) =
          deadTurns (some ⟨.alive, 0⟩) rest + 1 := by
        simp [deadTurns, hdead, IsTurn]
      rw [heq, rejoin, if_pos rfl]
      exact .inl ⟨by simpa using hpos, hle', hsame', by omega⟩
    · exact .inr heq
  · have hlt : report.incarnation < limit := by
      have := hle report List.mem_cons_self
      omega
    have hcount : rest.count ⟨.alive, limit⟩ = (report :: rest).count ⟨.alive, limit⟩ := by
      rw [List.count_cons_of_ne]
      rintro rfl
      exact hat rfl
    by_cases hfinal : accept limit entry report = ⟨.alive, limit⟩
    · exact .inr hfinal
    · refine .inl ⟨?_, hle', hsame', by have := @deadTurns_next limit entry report rest; omega⟩
      refine accept_lt hfresh (Nat.le_refl _) hlt fun halive hbelow hnew hdead => hfinal ?_
      have hreport : report = ⟨.alive, report.incarnation⟩ := by rw [← halive]
      rw [hreport, accept_rejoin hdead (by rwa [← hreport]), rejoin, if_neg hat, hbelow]

theorem acceptAll_outnumbered (h : Outnumbered limit entry reports) :
    acceptAll limit entry reports = some ⟨.alive, limit⟩ :=
  acceptAll_eq (P := Outnumbered limit) (fun _ h => by simpa using h.more)
    (fun _ _ _ h => h.step) h.le h

structure Overridden (t : NodeStatus) (limit : Nat) (entry : Option Standing)
    (reports : List Standing) : Prop where
  mem : ⟨t, limit⟩ ∈ reports
  once : reports.count ⟨.alive, limit⟩ = 1
  fresh : Fresh entry ⟨t, limit⟩
  le : ∀ report ∈ reports, report.incarnation ≤ limit
  same : ∀ report ∈ reports, report.incarnation = limit →
    report.status = t ∨ report.status = .alive
  dead : IsDead entry
  lower : LowerDead limit entry reports
  noRejoin : NoRejoinAt limit (some ⟨.alive, 0⟩) reports

theorem Overridden.step (h : Overridden t limit entry (report :: rest)) (hne : t ≠ .alive) :
    Overridden t limit (some (accept limit entry report)) rest ∨
      Overruled t limit (some (accept limit entry report)) rest ∨
      accept limit entry report = ⟨t, limit⟩ := by
  obtain ⟨hmem, honce, hfresh, hle, hsame, hdead, hlower, hrejoin⟩ := h
  have hle' : ∀ other ∈ rest, other.incarnation ≤ limit := fun other hother =>
    hle other (List.mem_cons_of_mem _ hother)
  have hsame' : ∀ other ∈ rest, other.incarnation = limit →
      other.status = t ∨ other.status = .alive := fun other hother =>
    hsame other (List.mem_cons_of_mem _ hother)
  by_cases hat : report.incarnation = limit
  · obtain hstatus | hstatus := hsame report List.mem_cons_self hat
    · have hreport : report = ⟨t, limit⟩ := by rw [← hstatus, ← hat]
      subst hreport
      obtain ⟨hstale, _⟩ | ⟨_, _, halive, _⟩ | ⟨_, _, heq⟩ :=
        accept_cases limit entry ⟨t, limit⟩
      · exact absurd hfresh hstale
      · exact absurd halive hne
      · exact .inr (.inr heq)
    · -- the ALIVE report wraps around to zero, and is not there a second time
      have hreport : report = ⟨.alive, limit⟩ := by rw [← hstatus, ← hat]
      subst hreport
      have hpos : 0 < limit := by
        obtain ⟨held, hheld, _⟩ := hdead
        exact Nat.zero_lt_of_lt (hfresh held hheld)
      rw [List.count_cons_self, Nat.add_eq_right, List.count_eq_zero] at honce
      rw [accept_rejoin hdead hfresh, rejoin, if_pos rfl]
      refine .inr (.inl ⟨?_, by simpa using hpos, hle', ?_, hrejoin.tail⟩)
      · rcases List.mem_cons.mp hmem with heq | hmem
        · cases heq
          exact absurd rfl hne
        · exact hmem
      · intro other hother hlimit
        obtain hother' | halive := hsame' other hother hlimit
        · exact hother'
        · have heq : other = ⟨.alive, limit⟩ := by rw [← halive, ← hlimit]
          exact absurd (heq ▸ hother) honce
  · have hlt : report.incarnation < limit := by
      have := hle report List.mem_cons_self
      omega
    obtain ⟨hdead', hlower'⟩ := hlower.next limit hdead hlt
    refine .inl ⟨mem_of_ne hmem hat, ?_, accept_lt hfresh (Nat.le_refl _) hlt ?_, hle', hsame',
      hdead', hlower', hrejoin.tail⟩
    · rw [← honce, List.count_cons_of_ne]
      rintro rfl
      exact hat rfl
    · intro halive _ hnew
      rw [hlower report List.mem_cons_self hnew hlt] at halive
      cases halive

theorem acceptAll_overridden (h : Overridden t limit entry reports) (hne : t ≠ .alive) :
    acceptAll limit entry reports = some ⟨t, limit⟩ := by
  refine acceptAll_eq (P := fun entry reports =>
    Overridden t limit entry reports ∨ Overruled t limit entry reports) ?_ ?_ h.le (.inl h)
  · rintro entry (h | h)
    · cases h.mem
    · cases h.mem
  · rintro entry report rest (h | h)
    · obtain hnext | hnext | hfinal := h.step hne
      · exact .inl (.inl hnext)
      · exact .inl (.inr hnext)
      · exact .inr hfinal
    · obtain hnext | hfinal := h.step hne (Nat.le_refl _)
      · exact .inl (.inr hnext)
      · exact .inr hfinal

-- -----------------------------------------------------------------------------
-- The condition

/-- The reports leave one standing in whichever order they come. The last
three cases need reports of the greatest incarnation. -/
inductive Settles (limit : Nat) (entry : Option Standing) (reports : List Standing) : Prop
  | stale (h : ∀ report ∈ reports, ¬ Fresh entry report)
  | overruled {t : NodeStatus} {k : Nat} (hne : t ≠ .alive) (h : Overruled t k entry reports)
  | alive {k : Nat} (h : Alive k entry reports)
  | rejoined {k : Nat} (hk : k < limit) (h : Rejoined k entry reports)
  | wrapped (h : Wrapped limit entry reports)
  | outnumbered (h : Outnumbered limit entry reports)
  | overridden {t : NodeStatus} (hne : t ≠ .alive) (h : Overridden t limit entry reports)

def Confluent (limit : Nat) (entry : Option Standing) (reports : List Standing) : Prop :=
  ∀ first second, first.Perm reports → second.Perm reports →
    acceptAll limit entry first = acceptAll limit entry second

theorem Confluent.of_final (h : ∀ order, order.Perm reports →
    acceptAll limit entry order = final) : Confluent limit entry reports :=
  fun first second hfirst hsecond => (h first hfirst).trans (h second hsecond).symm

theorem NoRejoinAt.perm (hperm : order.Perm reports) (h : NoRejoinAt k entry reports) :
    NoRejoinAt k entry order := by
  intro back hback halive hbelow hfresh
  obtain ⟨hentry, hdead⟩ := h back (hperm.mem_iff.mp hback) halive hbelow hfresh
  exact ⟨hentry, fun dead hmem => hdead dead (hperm.mem_iff.mp hmem)⟩

theorem deadTurns_perm (hperm : order.Perm reports) :
    deadTurns entry order = deadTurns entry reports := by
  simp only [deadTurns, hperm.countP_eq, hperm.mem_iff]

theorem Settles.confluent (h : Settles limit entry reports)
    (hlimit : ∀ report ∈ reports, report.incarnation ≤ limit) :
    Confluent limit entry reports := by
  have hmem (order : List Standing) (hperm : order.Perm reports) {P : Standing → Prop}
      (h : ∀ report ∈ reports, P report) : ∀ report ∈ order, P report := fun report hreport =>
    h report (hperm.mem_iff.mp hreport)
  cases h with
  | stale h =>
    refine Confluent.of_final (show ∀ order, order.Perm reports →
      acceptAll limit entry order = entry from fun order hperm => ?_)
    cases entry with
    | none =>
      have hnil : order = [] := List.eq_nil_iff_forall_not_mem.mpr fun report hreport =>
        h report (hperm.mem_iff.mp hreport) fresh_none
      rw [hnil, acceptAll_nil]
    | some held =>
      exact acceptAll_stale (hmem order hperm fun report hreport => by
        simpa using h report hreport)
  | overruled hne h =>
    refine .of_final fun order hperm => acceptAll_overruled ?_ hne (hlimit _ h.mem)
    exact ⟨hperm.mem_iff.mpr h.mem, h.fresh, hmem order hperm h.le, hmem order hperm h.same,
      h.noRejoin.perm hperm⟩
  | alive h =>
    refine .of_final fun order hperm => acceptAll_alive ?_ (hlimit _ h.mem)
    exact ⟨hperm.mem_iff.mpr h.mem, h.fresh, hmem order hperm h.le, hmem order hperm h.same,
      h.notDead, hmem order hperm h.noDead⟩
  | rejoined hk h =>
    refine .of_final fun order hperm => acceptAll_rejoined ?_ hk
    exact ⟨hperm.mem_iff.mpr h.mem, h.fresh, hmem order hperm h.le, hmem order hperm h.same,
      h.dead, hmem order hperm h.lower⟩
  | wrapped h =>
    refine .of_final fun order hperm => acceptAll_wrapped ?_
    exact ⟨(hperm.count_eq _).trans h.once, h.fresh, hmem order hperm h.zero, h.dead⟩
  | outnumbered h =>
    refine .of_final fun order hperm => acceptAll_outnumbered ?_
    refine ⟨h.fresh, hmem order hperm h.le, hmem order hperm h.same, ?_⟩
    rw [deadTurns_perm hperm, hperm.count_eq]
    exact h.more
  | overridden hne h =>
    refine .of_final fun order hperm => acceptAll_overridden ?_ hne
    exact ⟨hperm.mem_iff.mpr h.mem, (hperm.count_eq _).trans h.once, h.fresh,
      hmem order hperm h.le, hmem order hperm h.same, h.dead, hmem order hperm h.lower,
      h.noRejoin.perm hperm⟩

-- -----------------------------------------------------------------------------
-- Orders that disagree

def Reaches (limit : Nat) (entry : Option Standing) (reports : List Standing)
    (final : Standing) : Prop :=
  ∃ order, order.Perm reports ∧ acceptAll limit entry order = some final

theorem Confluent.unique (h : Confluent limit entry reports)
    (hfirst : Reaches limit entry reports first) (hsecond : Reaches limit entry reports second) :
    first = second := by
  obtain ⟨order, hperm, hend⟩ := hfirst
  obtain ⟨order', hperm', hend'⟩ := hsecond
  exact Option.some.inj (hend.symm.trans ((h order order' hperm hperm').trans hend'))

theorem exists_append_of_subperm {first : List Standing} (hsub : first.Subperm reports) :
    ∃ rest, (first ++ rest).Perm reports := by
  obtain ⟨middle, hmiddle, hsublist⟩ := hsub
  obtain ⟨rest, hrest⟩ := hsublist.exists_perm_append
  exact ⟨rest, (hmiddle.symm.append_right rest).trans hrest.symm⟩

theorem reaches_of_subperm (hsub : first.Subperm reports)
    (hend : acceptAll limit entry first = some final)
    (hle : ∀ report ∈ reports, report.incarnation ≤ final.incarnation) :
    Reaches limit entry reports final := by
  obtain ⟨rest, hperm⟩ := exists_append_of_subperm hsub
  refine ⟨first ++ rest, hperm, ?_⟩
  rw [acceptAll_append, hend]
  exact acceptAll_stale fun report hmem =>
    hle report (hperm.mem_iff.mp (List.mem_append_right _ hmem))

theorem reaches_of_mem (hmem : report ∈ reports) (heq : accept limit entry report = final)
    (hle : ∀ report ∈ reports, report.incarnation ≤ final.incarnation) :
    Reaches limit entry reports final :=
  reaches_of_subperm (List.singleton_subperm_iff.mpr hmem) (by rw [← heq]; rfl) hle

theorem reaches_of_pair (hfirst : first ∈ reports) (hsecond : second ∈ reports)
    (hne : first ≠ second) (hend : acceptAll limit entry [first, second] = some final)
    (hle : ∀ report ∈ reports, report.incarnation ≤ final.incarnation) :
    Reaches limit entry reports final := by
  have hnodup : [first, second].Nodup := by simpa using hne
  exact reaches_of_subperm (hnodup.subperm (by simp [hfirst, hsecond])) hend hle

theorem accept_fresh (hfresh : Fresh entry report)
    (hnot : ¬ (IsDead entry ∧ report.status = .alive)) : accept limit entry report = report := by
  obtain ⟨hstale, _⟩ | ⟨_, hdead, halive, _⟩ | ⟨_, _, heq⟩ := accept_cases limit entry report
  · exact absurd hfresh hstale
  · exact absurd ⟨hdead, halive⟩ hnot
  · exact heq

theorem acceptAll_dead_alive (hstatus : dead.status = .dead) (hfresh : Fresh entry dead)
    (hlt : dead.incarnation < k) :
    acceptAll limit entry [dead, ⟨.alive, k⟩] = some (rejoin limit ⟨.alive, k⟩) := by
  have hdead : accept limit entry dead = dead := accept_fresh hfresh (by simp [hstatus])
  have hback : accept limit (some dead) ⟨.alive, k⟩ = rejoin limit ⟨.alive, k⟩ :=
    accept_rejoin (isDead_some.mpr hstatus) (fresh_some.mpr hlt)
  simp [hdead, hback]

theorem acceptAll_alive_after (hk : k ≤ limit) (hfresh : Fresh entry report)
    (hlt : report.incarnation < k) (hnot : report.status ≠ .dead) :
    acceptAll limit entry [report, ⟨.alive, k⟩] = some ⟨.alive, k⟩ := by
  have hplain (held : Standing) (hstatus : held.status ≠ .dead) (hle : held.incarnation < k) :
      accept limit (some held) ⟨.alive, k⟩ = ⟨.alive, k⟩ :=
    accept_fresh (fresh_some.mpr hle) (by simp [hstatus])
  obtain ⟨hstale, _⟩ | ⟨_, _, _, heq⟩ | ⟨_, _, heq⟩ := accept_cases limit entry report
  · exact absurd hfresh hstale
  · simp only [acceptAll_cons, acceptAll_nil, heq, rejoin, if_neg (by omega :
      report.incarnation ≠ limit)]
    by_cases hat : report.incarnation + 1 = k
    · simp [accept, hat]
    · rw [hplain _ (by simp) (by simp only; omega)]
  · rw [acceptAll_cons, heq, acceptAll_cons, hplain report hnot hlt, acceptAll_nil]

theorem exists_greatest (hne : reports ≠ []) :
    ∃ newest ∈ reports, ∀ report ∈ reports, report.incarnation ≤ newest.incarnation := by
  induction reports with
  | nil => exact absurd rfl hne
  | cons report rest ih =>
    by_cases hrest : rest = []
    · exact ⟨report, List.mem_cons_self, by simp [hrest]⟩
    · obtain ⟨newest, hmem, hle⟩ := ih hrest
      by_cases hlt : newest.incarnation ≤ report.incarnation
      · refine ⟨report, List.mem_cons_self, List.forall_mem_cons.mpr ⟨Nat.le_refl _, ?_⟩⟩
        exact fun other hother => (hle other hother).trans hlt
      · refine ⟨newest, List.mem_cons_of_mem _ hmem, List.forall_mem_cons.mpr ⟨by omega, hle⟩⟩

-- -----------------------------------------------------------------------------
-- Using up the ALIVE reports of the greatest incarnation

theorem acceptAll_turns {deads : List Standing}
    (hdeads : ∀ dead ∈ deads, dead.status = .dead ∧ 0 < dead.incarnation ∧
      dead.incarnation < limit) :
    acceptAll limit (some ⟨.alive, 0⟩) (deads.flatMap fun dead => [dead, ⟨.alive, limit⟩]) =
      some ⟨.alive, 0⟩ := by
  induction deads with
  | nil => rfl
  | cons dead rest ih =>
    obtain ⟨⟨hstatus, hpos, hlt⟩, hrest⟩ := List.forall_mem_cons.mp hdeads
    rw [List.flatMap_cons, acceptAll_append,
      acceptAll_dead_alive hstatus (fresh_some.mpr hpos) hlt, rejoin, if_pos rfl]
    exact ih hrest

theorem flatMap_pair_perm (deads : List Standing) (a : Standing) :
    (deads.flatMap fun dead => [dead, a]).Perm (deads ++ List.replicate deads.length a) := by
  induction deads with
  | nil => simp
  | cons dead rest ih =>
    rw [List.flatMap_cons, List.length_cons, List.replicate_succ, List.cons_append]
    refine List.Perm.cons dead ?_
    exact (List.Perm.cons a ih).trans List.perm_middle.symm

theorem exists_low_order (hpos : 0 < limit)
    (hlt : ∀ report ∈ reports, report.incarnation < limit) :
    ∃ order final, order.Perm reports ∧
      acceptAll limit (some ⟨.alive, 0⟩) order = some final ∧ final.incarnation < limit := by
  by_cases hnil : reports = []
  · exact ⟨[], ⟨.alive, 0⟩, by simp [hnil], rfl, hpos⟩
  · obtain ⟨newest, hmem, hle⟩ := exists_greatest hnil
    have hstart : (accept limit (some ⟨.alive, 0⟩) newest).incarnation = newest.incarnation := by
      simp only [accept, reduceCtorEq, false_and, if_false]
      split
      · rfl
      · simp only
        omega
    refine ⟨newest :: reports.erase newest, accept limit (some ⟨.alive, 0⟩) newest,
      (List.perm_cons_erase hmem).symm, ?_, by rw [hstart]; exact hlt newest hmem⟩
    rw [acceptAll_cons]
    refine acceptAll_stale fun report hreport => ?_
    rw [hstart]
    exact hle report (List.mem_of_mem_erase hreport)

theorem pairs_perm {deads plain others tail : List Standing} {n : Nat} {newest : Standing}
    (hn : n ≤ deads.length) (htail : tail.Perm (deads.drop n ++ plain))
    (hothers : (deads ++ plain).Perm others)
    (hreports : (List.replicate n newest ++ others).Perm reports) :
    ((deads.take n).flatMap (fun dead => [dead, newest]) ++ tail).Perm reports := by
  have hlength : (deads.take n).length = n := by simp [hn]
  calc (deads.take n).flatMap (fun dead => [dead, newest]) ++ tail
    List.Perm _ ((deads.take n ++ List.replicate n newest) ++ (deads.drop n ++ plain)) := by
      have hpair := flatMap_pair_perm (deads.take n) newest
      rw [hlength] at hpair
      exact hpair.append htail
    List.Perm _ (List.replicate n newest ++ (deads ++ plain)) := by
      conv_rhs => rw [← List.take_append_drop n deads]
      grind
    List.Perm _ (List.replicate n newest ++ others) := hothers.append_left _
    List.Perm _ reports := hreports

/-- With at most as many ALIVE reports of the greatest incarnation as turns,
none of them need be the last word. -/
theorem exists_low_of_count_le (hpos : 0 < limit)
    (hle : ∀ report ∈ reports, report.incarnation ≤ limit)
    (hsame : ∀ report ∈ reports, report.incarnation = limit → report.status = .alive)
    (hcount : reports.count ⟨.alive, limit⟩ ≤ reports.countP IsTurn) :
    ∃ order final, order.Perm reports ∧
      acceptAll limit (some ⟨.alive, 0⟩) order = some final ∧ final.incarnation < limit := by
  let newest : Standing := ⟨.alive, limit⟩
  let others := reports.filter fun report => !decide (report = newest)
  let deads := others.filter IsTurn
  let plain := others.filter fun report => !IsTurn report
  have hother : ∀ report ∈ others, report ∈ reports ∧ report ≠ newest := by
    simp [others]
  have hlt : ∀ report ∈ others, report.incarnation < limit := by
    intro report hreport
    obtain ⟨hmem, hne⟩ := hother report hreport
    refine Nat.lt_of_le_of_ne (hle report hmem) fun hat => hne ?_
    rw [show newest = ⟨.alive, limit⟩ from rfl, ← hat, ← hsame report hmem hat]
  have hturns : reports.countP IsTurn = deads.length := by
    rw [← List.countP_eq_length_filter, List.countP_filter]
    refine List.countP_congr fun report _ => ?_
    have hnot : IsTurn report = true → report ≠ newest := by
      rintro h rfl
      simp [IsTurn, newest] at h
    simpa using hnot
  let n := reports.count newest
  have hn : n ≤ deads.length := by rw [← hturns]; exact hcount
  have hremaining : ∀ report ∈ deads.drop n ++ plain, report.incarnation < limit := by
    intro report hreport
    rcases List.mem_append.mp hreport with hmem | hmem
    · exact hlt report (List.mem_of_mem_filter (List.mem_of_mem_drop hmem))
    · exact hlt report (List.mem_of_mem_filter hmem)
  obtain ⟨tail, final, htail, hend, hfinal⟩ := exists_low_order hpos hremaining
  refine ⟨(deads.take n).flatMap (fun dead => [dead, newest]) ++ tail, final, ?_, ?_, hfinal⟩
  · refine pairs_perm hn htail (List.filter_append_perm IsTurn others) ?_
    rw [← List.filter_eq]
    exact List.filter_append_perm _ reports
  · rw [acceptAll_append, acceptAll_turns, hend]
    intro dead hdead
    have hmem := List.mem_of_mem_take hdead
    have hturn : IsTurn dead = true := List.of_mem_filter hmem
    simp only [IsTurn, Bool.decide_and, Bool.and_eq_true, decide_eq_true_eq] at hturn
    exact ⟨hturn.1, hturn.2, hlt dead (List.mem_of_mem_filter hmem)⟩

-- -----------------------------------------------------------------------------
-- The condition is necessary

theorem lowerDead_of_not_reaches (hmem : ⟨.alive, k⟩ ∈ reports) (hk : k ≤ limit)
    (hle : ∀ report ∈ reports, report.incarnation ≤ k)
    (hclash : ¬ Reaches limit entry reports ⟨.alive, k⟩) : LowerDead k entry reports := by
  intro report hreport hnew hlt
  by_contra hnot
  refine hclash (reaches_of_pair hreport hmem ?_ (acceptAll_alive_after hk hnew hlt hnot) hle)
  rintro rfl
  exact Nat.lt_irrefl _ hlt

theorem accept_wrapped (hpos : 0 < limit) :
    accept limit (some ⟨.alive, 0⟩) ⟨.alive, limit⟩ = ⟨.alive, limit⟩ :=
  accept_fresh (fresh_some.mpr hpos) (by simp)

theorem count_le_one_of_not_reaches (hdead : IsDead entry) (hfresh : Fresh entry ⟨.alive, limit⟩)
    (hle : ∀ report ∈ reports, report.incarnation ≤ limit)
    (hclash : ¬ Reaches limit entry reports ⟨.alive, limit⟩) :
    reports.count ⟨.alive, limit⟩ ≤ 1 := by
  have hpos : 0 < limit := by
    obtain ⟨held, hheld, _⟩ := hdead
    exact Nat.zero_lt_of_lt (hfresh held hheld)
  by_contra htwo
  have hsub : (List.replicate 2 (⟨.alive, limit⟩ : Standing)).Sublist reports :=
    List.replicate_sublist_iff.mpr (by omega)
  refine hclash (reaches_of_subperm hsub.subperm ?_ hle)
  rw [List.replicate_succ, List.replicate_one, acceptAll_cons, accept_rejoin hdead hfresh, rejoin,
    if_pos rfl, acceptAll_cons, accept_wrapped hpos, acceptAll_nil]

/-- An ALIVE report that wraps around, a DEAD one and an ALIVE one just below
the greatest incarnation end at the greatest incarnation. -/
theorem noRejoinAt_of_not_reaches (hdead : IsDead entry) (hfresh : Fresh entry ⟨.alive, limit⟩)
    (hmem : ⟨.alive, limit⟩ ∈ reports) (hle : ∀ report ∈ reports, report.incarnation ≤ limit)
    (hclash : ¬ Reaches limit entry reports ⟨.alive, limit⟩) :
    NoRejoinAt limit (some ⟨.alive, 0⟩) reports := by
  rintro ⟨_, i⟩ hback rfl hbelow _
  refine ⟨by simp, fun dead hmem' hstatus hnew => ?_⟩
  by_contra hlt
  have hlt : dead.incarnation < i := Nat.lt_of_not_le hlt
  have hi : i ≠ limit := by
    simp only at hbelow
    omega
  have hsub : List.Subperm [⟨.alive, limit⟩, dead, ⟨.alive, i⟩] reports := by
    refine List.Nodup.subperm ?_ (by simp [hmem, hmem', hback])
    have hne : (⟨.alive, limit⟩ : Standing) ≠ dead := by
      rintro rfl
      cases hstatus
    have hne' : dead ≠ ⟨.alive, i⟩ := by
      rintro rfl
      cases hstatus
    simp [hne, hne', hi.symm]
  refine hclash (reaches_of_subperm hsub ?_ hle)
  rw [acceptAll_cons, accept_rejoin hdead hfresh, rejoin, if_pos rfl,
    acceptAll_dead_alive hstatus hnew hlt, rejoin, if_neg hi]
  rw [← hbelow]

theorem exists_low_of_lead {lead : List Standing} (hsub : lead.Subperm reports)
    (hlead : acceptAll limit entry lead = some ⟨.alive, 0⟩) (hpos : 0 < limit)
    (hle : ∀ report ∈ reports, report.incarnation ≤ limit)
    (hsame : ∀ report ∈ reports, report.incarnation = limit → report.status = .alive)
    (hturns : reports.count ⟨.alive, limit⟩ + lead.countP IsTurn ≤
      reports.countP IsTurn + lead.count ⟨.alive, limit⟩) :
    ∃ final, Reaches limit entry reports final ∧ final.incarnation < limit := by
  obtain ⟨rest, hperm⟩ := exists_append_of_subperm hsub
  have hmem : ∀ report ∈ rest, report ∈ reports := fun report hreport =>
    hperm.mem_iff.mp (List.mem_append_right _ hreport)
  rw [← hperm.count_eq, ← hperm.countP_eq, List.count_append, List.countP_append] at hturns
  obtain ⟨order, final, horder, hend, hlt⟩ := exists_low_of_count_le hpos
    (fun report hreport => hle report (hmem report hreport))
    (fun report hreport => hsame report (hmem report hreport))
    (by omega : rest.count ⟨.alive, limit⟩ ≤ rest.countP IsTurn)
  refine ⟨final, ⟨lead ++ order, (horder.append_left lead).trans hperm, ?_⟩, hlt⟩
  rw [acceptAll_append, hlead, hend]

theorem exists_low_of_dead (hdead : IsDead entry) (hfresh : Fresh entry ⟨.alive, limit⟩)
    (hmem : ⟨.alive, limit⟩ ∈ reports) (hle : ∀ report ∈ reports, report.incarnation ≤ limit)
    (hsame : ∀ report ∈ reports, report.incarnation = limit → report.status = .alive)
    (hturns : reports.count ⟨.alive, limit⟩ ≤ deadTurns entry reports) :
    ∃ final, Reaches limit entry reports final ∧ final.incarnation < limit := by
  have hpos : 0 < limit := by
    obtain ⟨held, hheld, _⟩ := hdead
    exact Nat.zero_lt_of_lt (hfresh held hheld)
  rw [deadTurns, if_pos (.inl hdead)] at hturns
  refine exists_low_of_lead (List.singleton_subperm_iff.mpr hmem) ?_ hpos hle hsame ?_
  · rw [acceptAll_cons, accept_rejoin hdead hfresh, rejoin, if_pos rfl, acceptAll_nil]
  · simpa [IsTurn] using hturns

theorem exists_low_of_not_dead (hnot : ¬ IsDead entry) (hmem : ⟨.alive, limit⟩ ∈ reports)
    (hle : ∀ report ∈ reports, report.incarnation ≤ limit)
    (hsame : ∀ report ∈ reports, report.incarnation = limit → report.status = .alive)
    (hdead : dead ∈ reports) (hnew : Fresh entry dead) (hstatus : dead.status = .dead)
    (hlt : dead.incarnation < limit)
    (hturns : reports.count ⟨.alive, limit⟩ ≤ deadTurns entry reports) :
    ∃ final, Reaches limit entry reports final ∧ final.incarnation < limit := by
  have hlow (lead : Standing) (hmem' : lead ∈ reports) (hnew' : Fresh entry lead)
      (hstatus' : lead.status = .dead) (hlt' : lead.incarnation < limit)
      (hturns' : reports.count ⟨.alive, limit⟩ + [lead].countP IsTurn ≤
        reports.countP IsTurn + 1) :
      ∃ final, Reaches limit entry reports final ∧ final.incarnation < limit := by
    have hne : lead ≠ ⟨.alive, limit⟩ := by
      rintro rfl
      cases hstatus'
    have hnodup : [lead, ⟨.alive, limit⟩].Nodup := by simpa using hne
    refine exists_low_of_lead (hnodup.subperm (by simp [hmem, hmem'])) ?_ (by omega) hle hsame ?_
    · rw [acceptAll_dead_alive hstatus' hnew' hlt', rejoin, if_pos rfl]
    · simpa [List.countP_cons, List.count_cons, hne, IsTurn] using hturns'
  by_cases habsent : entry = none ∧ ⟨.dead, 0⟩ ∈ reports
  · rw [deadTurns, if_pos (.inr habsent)] at hturns
    refine hlow ⟨.dead, 0⟩ habsent.2 (by simp [habsent.1]) rfl (Nat.zero_lt_of_lt hlt) ?_
    simpa [IsTurn] using hturns
  · rw [deadTurns, if_neg (by simp only [hnot, habsent, or_self, not_false_iff])] at hturns
    refine hlow dead hdead hnew hstatus hlt ?_
    have hone : [dead].countP IsTurn ≤ 1 := List.countP_le_length
    omega

theorem acceptAll_lower (hdead : IsDead entry) (hfresh : Fresh entry ⟨.alive, limit⟩)
    (hlower : LowerDead limit entry reports)
    (hlt : ∀ report ∈ reports, report.incarnation < limit) :
    IsDead (acceptAll limit entry reports) ∧
      Fresh (acceptAll limit entry reports) ⟨.alive, limit⟩ := by
  induction reports generalizing entry with
  | nil => exact ⟨hdead, hfresh⟩
  | cons report rest ih =>
    obtain ⟨hreport, hrest⟩ := List.forall_mem_cons.mp hlt
    obtain ⟨hdead', hlower'⟩ := hlower.next limit hdead hreport
    refine ih hdead' (accept_lt hfresh (Nat.le_refl _) hreport fun halive _ hnew => ?_) hlower'
      hrest
    rw [hlower report List.mem_cons_self hnew hreport] at halive
    cases halive

theorem le_acceptAll (held : Standing)
    (hlt : ∀ report ∈ reports, report.incarnation < limit) :
    ∃ final, acceptAll limit (some held) reports = some final ∧
      held.incarnation ≤ final.incarnation := by
  induction reports generalizing held with
  | nil => exact ⟨held, rfl, Nat.le_refl _⟩
  | cons report rest ih =>
    obtain ⟨hreport, hrest⟩ := List.forall_mem_cons.mp hlt
    obtain ⟨final, hend, hle⟩ := ih (accept limit (some held) report) hrest
    refine ⟨final, hend, Nat.le_trans ?_ hle⟩
    obtain ⟨_, heq⟩ | ⟨hnew, _, _, heq⟩ | ⟨hnew, _, heq⟩ := accept_cases limit (some held) report
    · rw [← Option.some.inj heq]
    · rw [fresh_some] at hnew
      simp only [heq, rejoin, if_neg hreport.ne]
      omega
    · rw [fresh_some] at hnew
      rw [heq]
      exact hnew.le

section Necessity

variable (h : Confluent limit entry reports)
include h

theorem Confluent.noRejoinAt (hne : t ≠ .alive) (hmem : ⟨t, k⟩ ∈ reports)
    (hfresh : Fresh entry ⟨t, k⟩) (hle : ∀ report ∈ reports, report.incarnation ≤ k)
    (hk : k ≤ limit) : NoRejoinAt k entry reports := by
  have hfinal : Reaches limit entry reports ⟨t, k⟩ :=
    reaches_of_mem hmem (accept_fresh hfresh fun hboth => hne hboth.2) hle
  have hclash : ¬ Reaches limit entry reports ⟨.alive, k⟩ := fun hother => by
    cases h.unique hfinal hother
    exact hne rfl
  intro back hback halive hbelow hnew
  obtain ⟨_, i⟩ := back
  obtain rfl : _ = NodeStatus.alive := halive
  have hrejoin : rejoin limit ⟨.alive, i⟩ = ⟨.alive, k⟩ := by
    have hlt : i ≠ limit := by
      simp only at hbelow
      omega
    simp only [rejoin, if_neg hlt]
    rw [← hbelow]
  refine ⟨fun hdead => hclash ?_, fun dead hmem' hstatus hnew' => ?_⟩
  · exact reaches_of_mem hback ((accept_rejoin hdead hnew).trans hrejoin) hle
  · by_contra hlt
    refine hclash (reaches_of_pair hmem' hback ?_ ?_ hle)
    · rintro rfl
      exact hlt (Nat.le_refl _)
    · rw [acceptAll_dead_alive hstatus hnew' (Nat.lt_of_not_le hlt), hrejoin]

theorem Confluent.same_status (hne : t ≠ .alive) (hmem : ⟨t, k⟩ ∈ reports)
    (hfresh : Fresh entry ⟨t, k⟩) (hle : ∀ report ∈ reports, report.incarnation ≤ k) :
    ∀ report ∈ reports, report.incarnation = k → report.status = t ∨ report.status = .alive := by
  rintro ⟨s, _⟩ hreport rfl
  by_cases hs : s = .alive
  · exact .inr hs
  · have hfinal : Reaches limit entry reports ⟨t, _⟩ :=
      reaches_of_mem hmem (accept_fresh hfresh fun hboth => hne hboth.2) hle
    have hother : Reaches limit entry reports ⟨s, _⟩ :=
      reaches_of_mem hreport (accept_fresh hfresh fun hboth => hs hboth.2) hle
    cases h.unique hfinal hother
    exact .inl rfl

theorem Confluent.settles_of_ne (hne : t ≠ .alive) (hmem : ⟨t, k⟩ ∈ reports)
    (hfresh : Fresh entry ⟨t, k⟩) (hle : ∀ report ∈ reports, report.incarnation ≤ k)
    (hk : k ≤ limit) : Settles limit entry reports := by
  have hfinal : Reaches limit entry reports ⟨t, k⟩ :=
    reaches_of_mem hmem (accept_fresh hfresh fun hboth => hne hboth.2) hle
  have hsame := h.same_status hne hmem hfresh hle
  have hclash : ¬ Reaches limit entry reports ⟨.alive, k⟩ := fun hother => by
    cases h.unique hfinal hother
    exact hne rfl
  by_cases halive : ⟨.alive, k⟩ ∈ reports
  · have hdead : IsDead entry := by
      by_contra hnot
      exact hclash (reaches_of_mem halive (accept_fresh hfresh fun hboth => hnot hboth.1) hle)
    have hlimit : k = limit := by
      by_contra hlt
      have hrejoin : accept limit entry ⟨.alive, k⟩ = ⟨.alive, k + 1⟩ := by
        rw [accept_rejoin hdead hfresh, rejoin, if_neg hlt]
      have hother := reaches_of_mem halive hrejoin fun report hreport =>
        Nat.le_succ_of_le (hle report hreport)
      cases h.unique hfinal hother
    subst hlimit
    have honce := count_le_one_of_not_reaches hdead hfresh hle hclash
    have hsome := List.count_pos_iff.mpr halive
    exact .overridden hne ⟨hmem, by omega, hfresh, hle, hsame, hdead,
      lowerDead_of_not_reaches halive hk hle hclash,
      noRejoinAt_of_not_reaches hdead hfresh halive hle hclash⟩
  · refine .overruled hne ⟨hmem, hfresh, hle, fun report hreport hat => ?_,
      h.noRejoinAt hne hmem hfresh hle hk⟩
    obtain hstatus | hstatus := hsame report hreport hat
    · exact hstatus
    · have heq : report = ⟨.alive, k⟩ := by rw [← hstatus, ← hat]
      exact absurd (heq ▸ hreport) halive

theorem Confluent.settles_of_not_dead (hmem : ⟨.alive, k⟩ ∈ reports)
    (hfresh : Fresh entry ⟨.alive, k⟩) (hle : ∀ report ∈ reports, report.incarnation ≤ k)
    (hsame : ∀ report ∈ reports, report.incarnation = k → report.status = .alive)
    (hk : k ≤ limit) (hnot : ¬ IsDead entry) : Settles limit entry reports := by
  have hfinal : Reaches limit entry reports ⟨.alive, k⟩ :=
    reaches_of_mem hmem (accept_fresh hfresh fun hboth => hnot hboth.1) hle
  by_cases hnone : ∀ report ∈ reports, Fresh entry report → report.status ≠ .dead
  · exact .alive ⟨hmem, hfresh, hle, hsame, hnot, hnone⟩
  obtain ⟨dead, hdead, hnew, hstatus⟩ : ∃ dead ∈ reports, Fresh entry dead ∧
      dead.status = .dead := by
    by_contra hall
    exact hnone fun report hreport hnew hstatus => hall ⟨report, hreport, hnew, hstatus⟩
  have hlt : dead.incarnation < k := by
    refine Nat.lt_of_le_of_ne (hle dead hdead) fun hat => ?_
    rw [hsame dead hdead hat] at hstatus
    cases hstatus
  have hlimit : k = limit := by
    by_contra hne
    have hend : acceptAll limit entry [dead, ⟨.alive, k⟩] = some (rejoin limit ⟨.alive, k⟩) :=
      acceptAll_dead_alive hstatus hnew hlt
    rw [rejoin, if_neg hne] at hend
    have hpair : dead ≠ ⟨.alive, k⟩ := by
      rintro rfl
      cases hstatus
    have hother := reaches_of_pair hdead hmem hpair hend fun report hreport =>
      Nat.le_succ_of_le (hle report hreport)
    cases h.unique hfinal hother
  subst hlimit
  refine .outnumbered ⟨hfresh, hle, hsame, ?_⟩
  by_contra hturns
  obtain ⟨low, hlow, hbelow⟩ := exists_low_of_not_dead hnot hmem hle hsame hdead hnew hstatus hlt
    (Nat.le_of_not_lt hturns)
  cases h.unique hfinal hlow
  exact Nat.lt_irrefl _ hbelow

/-- One ALIVE report of the greatest incarnation: as the last report it ends at
zero, so nothing that comes after it in another order may be above zero. -/
theorem Confluent.zero_of_once (hdead : IsDead entry) (hfresh : Fresh entry ⟨.alive, limit⟩)
    (hmem : ⟨.alive, limit⟩ ∈ reports) (hle : ∀ report ∈ reports, report.incarnation ≤ limit)
    (hsame : ∀ report ∈ reports, report.incarnation = limit → report.status = .alive)
    (honce : reports.count ⟨.alive, limit⟩ = 1) (hlower : LowerDead limit entry reports) :
    ∀ report ∈ reports, report = ⟨.alive, limit⟩ ∨ report.incarnation = 0 := by
  intro report hreport
  obtain ⟨rest, hperm⟩ := exists_append_of_subperm (List.singleton_subperm_iff.mpr hmem)
  have hsub : ∀ other ∈ rest, other ∈ reports := fun other hother =>
    hperm.mem_iff.mp (List.mem_append_right _ hother)
  have hnone : ⟨.alive, limit⟩ ∉ rest := by
    rw [← hperm.count_eq, List.singleton_append, List.count_cons_self, Nat.add_eq_right,
      List.count_eq_zero] at honce
    exact honce
  have hlt : ∀ other ∈ rest, other.incarnation < limit := by
    intro other hother
    refine Nat.lt_of_le_of_ne (hle other (hsub other hother)) fun hat => hnone ?_
    have heq : other = ⟨.alive, limit⟩ := by rw [← hsame other (hsub other hother) hat, ← hat]
    exact heq ▸ hother
  obtain ⟨hdead', hfresh'⟩ := acceptAll_lower hdead hfresh
    (fun other hother => hlower other (hsub other hother)) hlt
  have hlast : Reaches limit entry reports ⟨.alive, 0⟩ := by
    refine ⟨rest ++ [⟨.alive, limit⟩], List.perm_append_comm.trans hperm, ?_⟩
    rw [acceptAll_append, acceptAll_cons, accept_rejoin hdead' hfresh', rejoin, if_pos rfl,
      acceptAll_nil]
  by_cases hself : report = ⟨.alive, limit⟩
  · exact .inl hself
  right
  by_contra hpos
  have hrest : report ∈ rest := by
    rcases List.mem_append.mp (hperm.mem_iff.mpr hreport) with hmem' | hmem'
    · exact absurd (List.mem_singleton.mp hmem') hself
    · exact hmem'
  have htail : ∀ other ∈ rest.erase report, other.incarnation < limit := fun other hother =>
    hlt other (List.mem_of_mem_erase hother)
  obtain ⟨final, hend, hup⟩ := le_acceptAll report htail
  have hfirst : Reaches limit entry reports final := by
    refine ⟨[⟨.alive, limit⟩] ++ report :: rest.erase report,
      ((List.perm_cons_erase hrest).symm.append_left _).trans hperm, ?_⟩
    have hplain : accept limit (some ⟨.alive, 0⟩) report = report :=
      accept_fresh (fresh_some.mpr (Nat.pos_of_ne_zero hpos)) (by simp)
    rw [List.singleton_append, acceptAll_cons, accept_rejoin hdead hfresh, rejoin, if_pos rfl,
      acceptAll_cons, hplain, hend]
  cases h.unique hlast hfirst
  exact hpos (Nat.le_zero.mp hup)

theorem Confluent.settles_of_dead (hmem : ⟨.alive, k⟩ ∈ reports)
    (hfresh : Fresh entry ⟨.alive, k⟩) (hle : ∀ report ∈ reports, report.incarnation ≤ k)
    (hsame : ∀ report ∈ reports, report.incarnation = k → report.status = .alive)
    (hk : k ≤ limit) (hdead : IsDead entry) : Settles limit entry reports := by
  obtain hlt | rfl := Nat.lt_or_eq_of_le hk
  · have hrejoin : accept limit entry ⟨.alive, k⟩ = ⟨.alive, k + 1⟩ := by
      rw [accept_rejoin hdead hfresh, rejoin, if_neg hlt.ne]
    have hfinal := reaches_of_mem hmem hrejoin fun report hreport =>
      Nat.le_succ_of_le (hle report hreport)
    have hclash : ¬ Reaches limit entry reports ⟨.alive, k⟩ := fun hother => by
      have heq := congrArg incarnation (h.unique hfinal hother)
      simp at heq
    exact .rejoined hlt ⟨hmem, hfresh, hle, hsame, hdead,
      lowerDead_of_not_reaches hmem hk hle hclash⟩
  by_cases hturns : deadTurns entry reports < reports.count ⟨.alive, k⟩
  · exact .outnumbered ⟨hfresh, hle, hsame, hturns⟩
  obtain ⟨low, hlow, hbelow⟩ := exists_low_of_dead hdead hfresh hmem hle hsame
    (Nat.le_of_not_lt hturns)
  have hclash : ¬ Reaches k entry reports ⟨.alive, k⟩ := fun hother => by
    cases h.unique hlow hother
    exact Nat.lt_irrefl _ hbelow
  have honce := count_le_one_of_not_reaches hdead hfresh hle hclash
  have hsome := List.count_pos_iff.mpr hmem
  have hlower := lowerDead_of_not_reaches hmem hk hle hclash
  exact .wrapped ⟨by omega, hfresh, h.zero_of_once hdead hfresh hmem hle hsame (by omega) hlower,
    hdead⟩

theorem Confluent.settles (hlimit : ∀ report ∈ reports, report.incarnation ≤ limit) :
    Settles limit entry reports := by
  by_cases hstale : ∀ report ∈ reports, ¬ Fresh entry report
  · exact .stale hstale
  obtain ⟨fresh, hmem, hnew⟩ : ∃ report ∈ reports, Fresh entry report := by
    by_contra hnone
    exact hstale fun report hreport hnew => hnone ⟨report, hreport, hnew⟩
  obtain ⟨⟨t, k⟩, hnewest, hle⟩ := exists_greatest (List.ne_nil_of_mem hmem)
  have hfresh (s : NodeStatus) : Fresh entry ⟨s, k⟩ := fun held hheld =>
    (hnew held hheld).trans_le (hle fresh hmem)
  have hk : k ≤ limit := hlimit _ hnewest
  by_cases hother : ∃ s ≠ .alive, ⟨s, k⟩ ∈ reports
  · obtain ⟨s, hs, hmem'⟩ := hother
    exact h.settles_of_ne hs hmem' (hfresh s) hle hk
  have hsame : ∀ report ∈ reports, report.incarnation = k → report.status = .alive := by
    rintro ⟨s, _⟩ hreport rfl
    by_contra hs
    exact hother ⟨s, hs, hreport⟩
  obtain rfl : t = .alive := hsame _ hnewest rfl
  by_cases hdead : IsDead entry
  · exact h.settles_of_dead hnewest (hfresh _) hle hsame hk hdead
  · exact h.settles_of_not_dead hnewest (hfresh _) hle hsame hk hdead

end Necessity

theorem confluent_iff_settles (hlimit : ∀ report ∈ reports, report.incarnation ≤ limit) :
    Confluent limit entry reports ↔ Settles limit entry reports :=
  ⟨fun h => h.settles hlimit, fun h => h.confluent hlimit⟩

end Standing
end Roole
