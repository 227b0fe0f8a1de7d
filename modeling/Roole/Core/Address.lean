import Mathlib.Algebra.Group.Int.Defs
import Roole.Common
import Roole.Lib.Decimal

/-!
# Numbers and addresses in configuration texts

`atoi` as the C library has it, and the parser of `config.c` for an IP and a port
with a colon in between.
-/

namespace Roole

def IsSpace (b : UInt8) : Prop := b = 32 ∨ (9 ≤ b ∧ b ≤ 13)

instance (b : UInt8) : Decidable (IsSpace b) := inferInstanceAs (Decidable (_ ∨ _))

/-- The decimal number that a text starts with, of whatever size; zero if there
is none. -/
def leadingNumber (text : List UInt8) : Int :=
  match text.dropWhile IsSpace with
  | [] => 0
  | b :: rest =>
    if b = .ofNat '-'.toNat then -(Decimal.read rest : Int)
    else if b = .ofNat '+'.toNat then Decimal.read rest
    else Decimal.read (b :: rest)

/-- Stops at the ends of a `long`. -/
def strtol (text : List UInt8) : Int := max (-2 ^ 63) (min (leadingNumber text) (2 ^ 63 - 1))

def atoi (text : List UInt8) : Int32 := .ofInt (strtol text)

/-- Without a colon all of the text is the IP. -/
def configParseAddress (address : List UInt8) : List UInt8 × UInt16 :=
  let buffer := safeStrncpy address maxConfigString
  let ip := safeStrncpy (buffer.takeWhile (· ≠ .ofNat ':'.toNat)) 16
  match buffer.dropWhile (· ≠ .ofNat ':'.toNat) with
  | _ :: port => (ip, .ofInt (atoi port).toInt)
  | [] => (ip, 0)

theorem leadingNumber_digit (h : Decimal.IsDigit b) (rest : List UInt8) :
    leadingNumber (b :: rest) = Decimal.read (b :: rest) := by
  obtain ⟨hlow, hhigh⟩ := h
  have hspace : ¬ IsSpace b := by
    rintro (rfl | ⟨-, hle⟩)
    · exact absurd hlow (by decide)
    · exact absurd (UInt8.le_trans hlow hle) (by decide)
  have hminus : b ≠ .ofNat '-'.toNat := by
    rintro rfl
    exact absurd hlow (by decide)
  have hplus : b ≠ .ofNat '+'.toNat := by
    rintro rfl
    exact absurd hlow (by decide)
  rw [leadingNumber, List.dropWhile_cons_of_neg (by simpa using hspace)]
  simp only [hminus, hplus, if_false]

theorem leadingNumber_print (n : Nat) : leadingNumber (Decimal.print n) = n := by
  have hdigits := Decimal.isDigit_of_mem n
  have hread := Decimal.read_print n
  cases hprint : Decimal.print n with
  | nil => simp [Decimal.print] at hprint
  | cons b rest =>
    rw [hprint] at hdigits hread
    rw [leadingNumber_digit (hdigits b List.mem_cons_self), hread]

theorem atoi_toInt (hlow : -2 ^ 31 ≤ leadingNumber text) (hhigh : leadingNumber text < 2 ^ 31) :
    (atoi text).toInt = leadingNumber text := by
  have hlong : strtol text = leadingNumber text := by
    unfold strtol
    omega
  rw [atoi, hlong, Int32.toInt_ofInt_of_le hlow hhigh]

theorem ofInt_atoi_print (n : UInt16) :
    UInt16.ofInt (atoi (Decimal.print n.toNat)).toInt = n := by
  have hlt := n.toNat_lt
  have hnumber := leadingNumber_print n.toNat
  rw [atoi_toInt (by omega) (by omega), hnumber, UInt16.ofInt, ← UInt16.toNat_inj,
    UInt16.toNat_ofNat']
  omega

end Roole
