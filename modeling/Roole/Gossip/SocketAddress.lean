import Roole.Core.Address
import Roole.Gossip.Handlers

/-!
# Addresses as text

A router prints its members as an IP and a port with a colon in between for the
workers that join. The parser of `config.c` reads them back.
-/

namespace Roole

def IsOctet (text : List UInt8) : Prop :=
  0 < text.length ∧ text.length ≤ 3 ∧ ∀ b ∈ text, Decimal.IsDigit b

instance (text : List UInt8) : Decidable (IsOctet text) := inferInstanceAs (Decidable (_ ∧ _ ∧ _))

def DottedQuad (ip : List UInt8) : Prop := ∃ a b c d, IsOctet a ∧ IsOctet b ∧ IsOctet c ∧
  IsOctet d ∧ cString ip = a ++ 46 :: b ++ 46 :: c ++ 46 :: d

theorem DottedQuad.mem (h : DottedQuad ip) (hb : b ∈ cString ip) : Decimal.IsDigit b ∨ b = 46 := by
  obtain ⟨first, second, third, fourth, hfirst, hsecond, hthird, hfourth, hip⟩ := h
  rw [hip] at hb
  simp only [List.append_assoc, List.cons_append, List.mem_append, List.mem_cons] at hb
  rcases hb with hb | hb | hb | hb | hb | hb | hb
  · exact .inl (hfirst.2.2 b hb)
  · exact .inr hb
  · exact .inl (hsecond.2.2 b hb)
  · exact .inr hb
  · exact .inl (hthird.2.2 b hb)
  · exact .inr hb
  · exact .inl (hfourth.2.2 b hb)

theorem DottedQuad.length (h : DottedQuad ip) : (cString ip).length < maxIpLen := by
  obtain ⟨first, second, third, fourth, hfirst, hsecond, hthird, hfourth, hip⟩ := h
  have hlengths := And.intro hfirst.2.1 (And.intro hsecond.2.1 (And.intro hthird.2.1 hfourth.2.1))
  rw [hip]
  simp only [List.append_assoc, List.cons_append, List.length_append, List.length_cons, maxIpLen]
  omega

theorem DottedQuad.no_colon (h : DottedQuad ip) : UInt8.ofNat ':'.toNat ∉ cString ip := by
  intro hmem
  rcases h.mem hmem with hdigit | hdot
  · exact absurd hdigit (by decide)
  · exact absurd hdot (by decide)

-- ----------------------------------------------------------------------------
-- Ports
-- ----------------------------------------------------------------------------

theorem decimal_port_length (port : UInt16) : (decimal port.toNat).length ≤ 5 :=
  Decimal.print_length_le (by decide) (port.toNat_lt.trans (by decide))

theorem ofInt_atoi_port (port : UInt16) :
    UInt16.ofInt (atoi (decimal port.toNat)).toInt = port := ofInt_atoi_print port

-- ----------------------------------------------------------------------------
-- Addresses
-- ----------------------------------------------------------------------------

section Address

variable {ip : List UInt8}

theorem zero_not_mem_decimal (n : Nat) : (0 : UInt8) ∉ decimal n := fun hmem =>
  absurd (Decimal.isDigit_of_mem n 0 hmem) (by decide)

theorem socketAddress_eq (hip : DottedQuad ip) (port : UInt16) :
    socketAddress ip port = cString ip ++ .ofNat ':'.toNat :: decimal port.toNat := by
  have hlength := hip.length
  have hport := decimal_port_length port
  refine List.take_of_length_le ?_
  simp only [List.length_append, List.length_cons, maxIpLen, maxConfigString] at *
  omega

theorem socketAddress_length (hip : DottedQuad ip) (port : UInt16) :
    (socketAddress ip port).length ≤ 21 := by
  have hlength := hip.length
  have hport := decimal_port_length port
  rw [socketAddress_eq hip]
  simp only [List.length_append, List.length_cons, maxIpLen] at *
  omega

theorem zero_not_mem_socketAddress (hip : DottedQuad ip) (port : UInt16) :
    (0 : UInt8) ∉ socketAddress ip port := by
  rw [socketAddress_eq hip]
  intro hmem
  rcases List.mem_append.mp hmem with hip' | hport
  · exact cString_eq_self_iff.mp (cString_cString ip) hip'
  · rcases List.mem_cons.mp hport with hcolon | hdigits
    · exact absurd hcolon (by decide)
    · exact zero_not_mem_decimal _ hdigits

theorem configParseAddress_socketAddress (hip : DottedQuad ip) (port : UInt16) :
    configParseAddress (socketAddress ip port) = (cString ip, port) := by
  have hbuffer : safeStrncpy (socketAddress ip port) maxConfigString = socketAddress ip port := by
    have hlength := socketAddress_length hip port
    rw [safeStrncpy_eq_cString (by simp only [maxConfigString]; omega),
      cString_eq_self (zero_not_mem_socketAddress hip port)]
  have hkeep : ∀ b ∈ cString ip, decide (b ≠ UInt8.ofNat ':'.toNat) = true := fun b hb =>
    decide_eq_true fun heq => hip.no_colon (heq ▸ hb)
  have hcopy : safeStrncpy (cString ip) 16 = cString ip := by
    rw [safeStrncpy_eq_cString (show _ < 16 from hip.length), cString_cString]
  simp only [configParseAddress, hbuffer]
  rw [socketAddress_eq hip, List.takeWhile_append_of_pos hkeep, List.dropWhile_append_of_pos hkeep]
  simp only [ne_eq, List.takeWhile_cons, List.dropWhile_cons]
  simp [hcopy, ofInt_atoi_port]

end Address

end Roole
