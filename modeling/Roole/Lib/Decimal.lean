import Mathlib.Algebra.Group.Nat.Defs
import Mathlib.Data.List.TakeWhile

/-!
# Numbers as ASCII text

Natural numbers printed in decimal, and read off the digits that a text starts
with.
-/

namespace Decimal

def IsDigit (b : UInt8) : Prop := 48 ≤ b ∧ b ≤ 57

instance (b : UInt8) : Decidable (IsDigit b) := inferInstanceAs (Decidable (_ ∧ _))

def print (n : Nat) : List UInt8 := (Nat.toDigits 10 n).map fun c => .ofNat c.toNat

def value (digits : List UInt8) : Nat := digits.foldl (fun n b => 10 * n + (b.toNat - 48)) 0

def read (text : List UInt8) : Nat := value (text.takeWhile IsDigit)

theorem digitChar_byte (h : n < 10) : UInt8.ofNat n.digitChar.toNat = .ofNat (48 + n) := by
  rw [Nat.toNat_digitChar_of_lt_ten h]

theorem print_eq (n : Nat) :
    print n = (if n < 10 then [] else print (n / 10)) ++ [.ofNat (48 + n % 10)] := by
  unfold print
  rw [Nat.toDigits_eq_if (by decide)]
  split_ifs with h
  · simp [digitChar_byte h, Nat.mod_eq_of_lt h]
  · simp [digitChar_byte (Nat.mod_lt n (by decide))]

theorem isDigit_last (n : Nat) : IsDigit (.ofNat (48 + n % 10)) := by
  have hmod := Nat.mod_lt n (show 0 < 10 by decide)
  constructor
  · rw [UInt8.le_iff_toNat_le, UInt8.toNat_ofNat']
    show 48 ≤ _
    omega
  · rw [UInt8.le_iff_toNat_le, UInt8.toNat_ofNat']
    show _ ≤ 57
    omega

theorem isDigit_of_mem (n : Nat) : ∀ b ∈ print n, IsDigit b := by
  induction n using Nat.strongRecOn with
  | ind n ih =>
    intro b hb
    rw [print_eq] at hb
    rcases List.mem_append.mp hb with hfront | hlast
    · split_ifs at hfront with hsmall
      · cases hfront
      · exact ih (n / 10) (Nat.div_lt_self (by omega) (by decide)) b hfront
    · rw [List.mem_singleton.mp hlast]
      exact isDigit_last n

theorem print_ne_nil (n : Nat) : print n ≠ [] := by
  rw [print_eq]
  exact List.append_ne_nil_of_right_ne_nil _ (List.cons_ne_nil _ _)

theorem head?_print (n : Nat) (h : 0 < n) : (print n).head? ≠ some 48 := by
  induction n using Nat.strongRecOn with
  | ind n ih =>
    rw [print_eq]
    split_ifs with hsmall
    · intro hhead
      have hbyte : UInt8.ofNat (48 + n % 10) = 48 := Option.some.inj hhead
      have hnat := congrArg UInt8.toNat hbyte
      rw [UInt8.toNat_ofNat', show (48 : UInt8).toNat = 48 from rfl] at hnat
      omega
    · have hrest := ih (n / 10) (Nat.div_lt_self (by omega) (by decide)) (by omega)
      obtain ⟨b, digits, hprint⟩ := List.exists_cons_of_ne_nil (print_ne_nil (n / 10))
      rw [hprint] at hrest ⊢
      exact hrest

theorem value_print (n : Nat) : value (print n) = n := by
  induction n using Nat.strongRecOn with
  | ind n ih =>
    have hlast : (UInt8.ofNat (48 + n % 10)).toNat - 48 = n % 10 := by
      rw [UInt8.toNat_ofNat']
      omega
    rw [print_eq, value, List.foldl_append]
    simp only [List.foldl_cons, List.foldl_nil, hlast]
    split_ifs with hsmall
    · rw [List.foldl_nil]
      omega
    · have hrest := ih (n / 10) (Nat.div_lt_self (by omega) (by decide))
      rw [value] at hrest
      rw [hrest]
      omega

theorem read_print (n : Nat) : read (print n) = n := by
  have hdigits : (print n).takeWhile (IsDigit ·) = print n :=
    List.takeWhile_eq_self_iff.mpr fun b hb => decide_eq_true (isDigit_of_mem n b hb)
  rw [read, hdigits, value_print]

theorem read_append {rest : List UInt8} (h : ∀ b ∈ rest.head?, ¬IsDigit b) (text : List UInt8) :
    read (text ++ rest) = read text := by
  have htake : (text ++ rest).takeWhile (IsDigit ·) = text.takeWhile (IsDigit ·) := by
    induction text with
    | nil =>
      cases rest with
      | nil => rfl
      | cons b rest => exact List.takeWhile_cons_of_neg (by simpa using h b rfl)
    | cons b text ih =>
      rw [List.cons_append, List.takeWhile_cons, List.takeWhile_cons]
      split_ifs
      · rw [ih]
      · rfl
  rw [read, htake, read]

theorem print_length_le (hk : 0 < k) (h : n < 10 ^ k) : (print n).length ≤ k := by
  rw [print, List.length_map]
  exact (Nat.length_toDigits_le_iff (by decide) hk).mpr h

end Decimal
