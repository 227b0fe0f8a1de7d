import Mathlib.Data.List.TakeWhile

/-!
# Shared result codes and character arrays

`result_status_t` and the string helpers of the common library. A fixed-size
character array is the list of the bytes written into it; everything after
them is zero.
-/

namespace Roole

inductive ResultStatus
  | ok
  | errNomem
  | errInvalid
  | errNotfound
  | errTimeout
  | errNetwork
  | errExists
  | errFull
  | errEmpty
  deriving DecidableEq, Repr

abbrev NodeId := UInt16
abbrev ExecutionId := UInt64
abbrev RuleId := UInt32

def maxConfigRouters : Nat := 16
def maxConfigString : Nat := 256

def cString (bytes : List UInt8) : List UInt8 := bytes.takeWhile (· ≠ 0)

def strlen (bytes : List UInt8) : Nat := (cString bytes).length

/-- `safe_strncpy` into an array of `dstSize` bytes, the terminator included. -/
def safeStrncpy (src : List UInt8) (dstSize : Nat) : List UInt8 :=
  (cString src).take (dstSize - 1)

theorem strlen_le (bytes : List UInt8) : strlen bytes ≤ bytes.length :=
  (List.takeWhile_prefix _).length_le

theorem cString_eq_self (h : (0 : UInt8) ∉ bytes) : cString bytes = bytes := by
  refine List.takeWhile_eq_self_iff.mpr fun b hb => ?_
  rw [decide_eq_true_eq]
  rintro rfl
  exact h hb

@[simp] theorem cString_cString (bytes : List UInt8) : cString (cString bytes) = cString bytes := by
  refine cString_eq_self fun h => ?_
  simpa using List.mem_takeWhile_imp h

theorem safeStrncpy_eq_cString (h : src.length < dstSize) :
    safeStrncpy src dstSize = cString src := by
  have hle := strlen_le src
  exact List.take_of_length_le (by unfold strlen at hle; omega)

theorem cString_append_zero (h : (0 : UInt8) ∉ bytes) (rest : List UInt8) :
    cString (bytes ++ 0 :: rest) = bytes := by
  have hall : ∀ b ∈ bytes, decide (b ≠ 0) = true := fun b hb =>
    decide_eq_true fun heq => h (heq ▸ hb)
  rw [cString, List.takeWhile_append_of_pos hall, List.takeWhile_cons_of_neg (by simp),
    List.append_nil]

theorem cString_append_zeros (bytes : List UInt8) (n : Nat) :
    cString (bytes ++ List.replicate n 0) = cString bytes := by
  unfold cString
  rw [List.takeWhile_append]
  split_ifs with hall
  · rw [(List.takeWhile_prefix _).eq_of_length hall]
    cases n <;> simp [List.replicate_succ]
  · rfl

theorem cString_eq_self_iff : cString bytes = bytes ↔ (0 : UInt8) ∉ bytes := by
  refine ⟨fun h hmem => ?_, cString_eq_self⟩
  rw [← h] at hmem
  simpa using List.mem_takeWhile_imp hmem

@[simp] theorem cString_safeStrncpy (src : List UInt8) (size : Nat) :
    cString (safeStrncpy src size) = safeStrncpy src size := by
  refine cString_eq_self fun h => ?_
  have hmem := List.mem_of_mem_take h
  simpa using List.mem_takeWhile_imp hmem

@[simp] theorem safeStrncpy_safeStrncpy (src : List UInt8) (size : Nat) :
    safeStrncpy (safeStrncpy src size) size = safeStrncpy src size := by
  rw [safeStrncpy, cString_safeStrncpy, safeStrncpy, List.take_take, Nat.min_self]

end Roole
