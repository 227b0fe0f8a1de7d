import Roole.Lib.Decimal
import Roole.Lib.Scanning

/-!
# HTTP responses on a connection that is closed

A response is a status line, header fields and a body, and one of the fields tells
the length of the body. What a client makes of the bytes that have reached it when
the connection is closed: the response, or nothing where its end is missing.
-/

namespace Http

open Scanning

def cr : UInt8 := 13
def lf : UInt8 := 10
def colon : UInt8 := 58
def crlf : List UInt8 := [cr, lf]

-- ----------------------------------------------------------------------------
-- Lines
-- ----------------------------------------------------------------------------

def readLine : List UInt8 → Option (List UInt8 × List UInt8)
  | [] => none
  | b :: rest =>
    if b = cr ∧ rest.head? = some lf then some ([], rest.tail)
    else (readLine rest).map fun (line, rest) => (b :: line, rest)

theorem readLine_append (h : cr ∉ line) (rest : List UInt8) :
    readLine (line ++ (crlf ++ rest)) = some (line, rest) := by
  induction line with
  | nil => rfl
  | cons b line ih =>
    rw [List.mem_cons, not_or] at h
    rw [List.cons_append, readLine, if_neg fun heq => h.1 heq.1.symm, ih h.2]
    rfl

structure Stray (tail : List UInt8) : Prop where
  cr : cr ∉ tail
  lf : tail.head? ≠ some lf

theorem Stray.nil : Stray [] := ⟨List.not_mem_nil, (nomatch ·)⟩

theorem Stray.take (h : Stray tail) (n : Nat) : Stray (tail.take n) where
  cr := fun hmem => h.cr (List.mem_of_mem_take hmem)
  lf := by
    cases n with
    | zero => exact Stray.nil.lf
    | succ n =>
      rw [List.head?_take, if_neg (Nat.succ_ne_zero n)]
      exact h.lf

theorem readLine_eq_none (h : cr ∉ text) : readLine text = none := by
  induction text with
  | nil => rfl
  | cons b text ih =>
    rw [List.mem_cons, not_or] at h
    rw [readLine, if_neg fun heq => h.1 heq.1.symm, ih h.2]
    rfl

theorem readLine_cr (h : cr ∉ line) (htail : Stray tail) :
    readLine (line ++ cr :: tail) = none := by
  induction line with
  | nil =>
    rw [List.nil_append, readLine, if_neg fun heq => htail.lf heq.2, readLine_eq_none htail.cr]
    rfl
  | cons b line ih =>
    rw [List.mem_cons, not_or] at h
    rw [List.cons_append, readLine, if_neg fun heq => h.1 heq.1.symm, ih h.2]
    rfl

theorem readLine_cut (h : cr ∉ line) (htail : Stray tail) (hk : k < line.length + 2) :
    readLine ((line ++ crlf).take k ++ tail) = none := by
  by_cases hend : k = line.length + 1
  · have htake : (line ++ crlf).take k = line ++ [cr] := by
      rw [hend, List.take_append, List.take_of_length_le (Nat.le_succ _), Nat.add_sub_cancel_left]
      rfl
    rw [htake, List.append_assoc]
    exact readLine_cr h htail
  · have htake : (line ++ crlf).take k = line.take k :=
      List.take_append_of_le_length (by omega)
    rw [htake]
    refine readLine_eq_none fun hmem => ?_
    rcases List.mem_append.mp hmem with hfront | hback
    · exact h (List.mem_of_mem_take hfront)
    · exact htail.cr hback

-- ----------------------------------------------------------------------------
-- Fields
-- ----------------------------------------------------------------------------

abbrev Field := List UInt8 × List UInt8

def Field.line (field : Field) : List UInt8 := field.1 ++ colon :: 32 :: field.2

structure Field.WellFormed (field : Field) : Prop where
  name_colon : colon ∉ field.1
  name_cr : cr ∉ field.1
  value_cr : cr ∉ field.2

def readField (line : List UInt8) : Option Field :=
  (upTo colon line).bind fun (name, rest) => (skip [32] rest).map (name, ·)

theorem readField_line (h : Field.WellFormed field) : readField field.line = some field := by
  rw [readField, Field.line, upTo_append h.name_colon, Option.bind_some,
    ← List.singleton_append (l := field.2)]
  simp only [skip_append, Option.map_some]

theorem Field.WellFormed.line_cr (h : Field.WellFormed field) : cr ∉ field.line := by
  have hcolon : cr ≠ colon := by decide
  have hspace : cr ≠ 32 := by decide
  simp [Field.line, h.name_cr, h.value_cr, hcolon, hspace]

/-- The fields up to the empty line behind them, `fuel` lines at most. -/
def readFields : Nat → List UInt8 → Option (List Field × List UInt8)
  | 0, _ => none
  | fuel + 1, text =>
    (readLine text).bind fun (line, rest) =>
      if line = [] then some ([], rest)
      else
        (readField line).bind fun field =>
          (readFields fuel rest).map fun (fields, rest) => (field :: fields, rest)

def fieldLines (fields : List Field) : List UInt8 :=
  fields.flatMap (fun field => field.line ++ crlf) ++ crlf

theorem fieldLines_cons (field : Field) (fields : List Field) :
    fieldLines (field :: fields) = field.line ++ (crlf ++ fieldLines fields) := by
  simp [fieldLines]

theorem Field.line_ne_nil (field : Field) : field.line ≠ [] :=
  List.append_ne_nil_of_right_ne_nil _ (List.cons_ne_nil _ _)

theorem readFields_append (h : ∀ field ∈ fields, Field.WellFormed field)
    (hfuel : fields.length < fuel) (rest : List UInt8) :
    readFields fuel (fieldLines fields ++ rest) = some (fields, rest) := by
  induction fields generalizing fuel with
  | nil =>
    obtain ⟨fuel, rfl⟩ := Nat.exists_eq_add_of_lt hfuel
    rfl
  | cons field fields ih =>
    rw [List.forall_mem_cons] at h
    cases fuel with
    | zero => cases hfuel
    | succ fuel =>
      rw [fieldLines_cons, List.append_assoc, List.append_assoc, readFields,
        readLine_append h.1.line_cr, Option.bind_some]
      simp only [field.line_ne_nil, if_false, readField_line h.1, Option.bind_some,
        ih h.2 (Nat.lt_of_succ_lt_succ hfuel), Option.map_some]

/-- Fields that are cut before the end of the empty line are not read. -/
theorem readFields_cut (h : ∀ field ∈ fields, Field.WellFormed field) (htail : Stray tail)
    (hk : k < (fieldLines fields).length) (fuel : Nat) :
    readFields fuel ((fieldLines fields).take k ++ tail) = none := by
  induction fields generalizing fuel k with
  | nil =>
    cases fuel with
    | zero => rfl
    | succ fuel =>
      have hnone : readLine (([] ++ crlf).take k ++ tail) = none :=
        readLine_cut List.not_mem_nil htail hk
      rw [readFields, fieldLines, List.flatMap_nil, hnone]
      rfl
  | cons field fields ih =>
    rw [List.forall_mem_cons] at h
    cases fuel with
    | zero => rfl
    | succ fuel =>
      rw [fieldLines_cons, ← List.append_assoc] at hk ⊢
      have hlength : (field.line ++ crlf).length = field.line.length + 2 := List.length_append
      rw [readFields]
      by_cases hfirst : k < field.line.length + 2
      · rw [List.take_append_of_le_length (by omega), readLine_cut h.1.line_cr htail hfirst]
        rfl
      · rw [List.length_append, hlength] at hk
        rw [List.take_append, List.take_of_length_le (by omega), List.append_assoc,
          List.append_assoc, readLine_append h.1.line_cr, Option.bind_some]
        simp only [field.line_ne_nil, if_false, readField_line h.1, Option.bind_some,
          ih h.2 (k := k - (field.line ++ crlf).length) (by omega), Option.map_none]

-- ----------------------------------------------------------------------------
-- Responses
-- ----------------------------------------------------------------------------

structure Response where
  status : List UInt8
  fields : List Field
  body : List UInt8
  deriving DecidableEq

def version : List UInt8 := asciiBytes "HTTP/1.1 "

def readNumber (text : List UInt8) : Option Nat :=
  if text ≠ [] ∧ text.all (fun b => decide (Decimal.IsDigit b)) = true then
    some (Decimal.value text)
  else none

theorem readNumber_print (n : Nat) : readNumber (Decimal.print n) = some n := by
  have hall : (Decimal.print n).all (fun b => decide (Decimal.IsDigit b)) = true :=
    List.all_eq_true.mpr fun b hb => decide_eq_true (Decimal.isDigit_of_mem n b hb)
  rw [readNumber, if_pos ⟨Decimal.print_ne_nil n, hall⟩, Decimal.value_print]

def contentLength (fields : List Field) : Option Nat :=
  (fields.lookup (asciiBytes "Content-Length")).bind readNumber

namespace Response

def head (response : Response) : List UInt8 :=
  version ++ response.status ++ crlf ++ fieldLines response.fields

structure WellFormed (response : Response) : Prop where
  status : cr ∉ response.status
  fields : ∀ field ∈ response.fields, Field.WellFormed field
  framed : contentLength response.fields = some response.body.length

end Response

def readResponse (stream : List UInt8) : Option Response :=
  (readLine stream).bind fun (line, rest) =>
    (skip version line).bind fun status =>
      (readFields rest.length rest).bind fun (fields, rest) =>
        (contentLength fields).bind fun length =>
          if length ≤ rest.length then some ⟨status, fields, rest.take length⟩ else none

theorem version_cr : cr ∉ version := by decide

theorem length_le_fieldLines (fields : List Field) :
    fields.length < (fieldLines fields).length := by
  induction fields with
  | nil => decide
  | cons field fields ih =>
    rw [fieldLines_cons, List.length_append, List.length_append, List.length_cons]
    show _ < _ + (2 + _)
    omega

namespace Response.WellFormed

variable {response : Response} (h : response.WellFormed)
include h

theorem line_cr : cr ∉ version ++ response.status :=
  fun hmem => (List.mem_append.mp hmem).elim version_cr h.status

theorem readResponse_head (body : List UInt8) : readResponse (response.head ++ body) =
    if response.body.length ≤ body.length then
      some { response with body := body.take response.body.length } else none := by
  have hfuel : response.fields.length < (fieldLines response.fields ++ body).length := by
    rw [List.length_append]
    exact Nat.lt_add_right _ (length_le_fieldLines _)
  rw [readResponse, Response.head, List.append_assoc, List.append_assoc,
    readLine_append h.line_cr, Option.bind_some]
  simp only [skip_append, Option.bind_some, readFields_append h.fields hfuel, h.framed]

theorem readResponse_cut (htail : Stray tail) (hk : k < response.head.length) :
    readResponse (response.head.take k ++ tail) = none := by
  have hlength : (version ++ response.status ++ crlf).length =
      (version ++ response.status).length + 2 := List.length_append
  rw [Response.head, List.length_append, hlength] at hk
  rw [Response.head, readResponse]
  by_cases hfirst : k < (version ++ response.status).length + 2
  · rw [List.take_append_of_le_length (by omega), readLine_cut h.line_cr htail hfirst]
    rfl
  · rw [List.take_append, List.take_of_length_le (by omega), List.append_assoc, List.append_assoc,
      readLine_append h.line_cr, Option.bind_some]
    simp only [skip_append, Option.bind_some, readFields_cut h.fields htail
      (k := k - (version ++ response.status ++ crlf).length) (by omega), Option.bind_none]

end Response.WellFormed

end Http
