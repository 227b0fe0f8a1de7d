import Mathlib.Data.List.Forall2
import Roole.Lib.Decimal

/-!
# JSON texts

The grammar of JSON texts over their bytes in UTF-8, as relations between what
stands from a place on, what is read there and what stands behind it, and the
objects that are printed without white space.
-/

namespace Json

/-- A value as it is read: a string is its UTF-16 code units, a number its text. -/
inductive Value
  | null
  | bool (b : Bool)
  | number (text : List UInt8)
  | string (units : List Nat)
  | array (elements : List Value)
  | object (members : List (List Nat × Value))

-- ----------------------------------------------------------------------------
-- The grammar
-- ----------------------------------------------------------------------------

def IsSpace (b : UInt8) : Prop := b = 32 ∨ b = 9 ∨ b = 10 ∨ b = 13

instance (b : UInt8) : Decidable (IsSpace b) := inferInstanceAs (Decidable (_ ∨ _))

inductive Space : List UInt8 → List UInt8 → Prop
  | done : Space rest rest
  | more (hspace : IsSpace b) (htail : Space input rest) : Space (b :: input) rest

def utf16 (c : Char) : List Nat :=
  if c.toNat < 0x10000 then [c.toNat]
  else [0xD800 + (c.toNat - 0x10000) / 0x400, 0xDC00 + (c.toNat - 0x10000) % 0x400]

def escapes : List (UInt8 × Nat) :=
  [(34, 34), (92, 92), (47, 47), (98, 8), (102, 12), (110, 10), (114, 13), (116, 9)]

def hexDigit? (b : UInt8) : Option Nat :=
  if 48 ≤ b ∧ b ≤ 57 then some (b.toNat - 48)
  else if 65 ≤ b ∧ b ≤ 70 then some (b.toNat - 55)
  else if 97 ≤ b ∧ b ≤ 102 then some (b.toNat - 87)
  else none

inductive StringRest : List UInt8 → List Nat → List UInt8 → Prop
  | close : StringRest (34 :: rest) [] rest
  | char (hc : 32 ≤ c.toNat ∧ c ≠ '"' ∧ c ≠ '\\') (htail : StringRest input units rest) :
      StringRest (String.utf8EncodeChar c ++ input) (utf16 c ++ units) rest
  | escape (hescape : (e, unit) ∈ escapes) (htail : StringRest input units rest) :
      StringRest (92 :: e :: input) (unit :: units) rest
  | unicode (ha : hexDigit? a = some i) (hb : hexDigit? b = some j) (hc : hexDigit? c = some k)
      (hd : hexDigit? d = some l) (htail : StringRest input units rest) :
      StringRest (92 :: 117 :: a :: b :: c :: d :: input)
        ((((16 * i + j) * 16 + k) * 16 + l) :: units) rest

def Digits (text : List UInt8) : Prop := text ≠ [] ∧ ∀ b ∈ text, Decimal.IsDigit b

def IsNatural (text : List UInt8) : Prop := Digits text ∧ (text.head? = some 48 → text = [48])

def IsFraction (text : List UInt8) : Prop :=
  text = [] ∨ ∃ digits, Digits digits ∧ text = 46 :: digits

def IsExponent (text : List UInt8) : Prop :=
  text = [] ∨ ∃ e sign digits, (e = 69 ∨ e = 101) ∧ (sign = [] ∨ sign = [43] ∨ sign = [45]) ∧
    Digits digits ∧ text = e :: (sign ++ digits)

def IsNumber (text : List UInt8) : Prop :=
  ∃ sign natural fraction exponent, (sign = [] ∨ sign = [45]) ∧ IsNatural natural ∧
    IsFraction fraction ∧ IsExponent exponent ∧ text = sign ++ natural ++ fraction ++ exponent

mutual

inductive Reads : List UInt8 → Value → List UInt8 → Prop
  | null : Reads (110 :: 117 :: 108 :: 108 :: rest) .null rest
  | true : Reads (116 :: 114 :: 117 :: 101 :: rest) (.bool true) rest
  | false : Reads (102 :: 97 :: 108 :: 115 :: 101 :: rest) (.bool false) rest
  | number (htext : IsNumber text) : Reads (text ++ rest) (.number text) rest
  | string (hstring : StringRest input units rest) : Reads (34 :: input) (.string units) rest
  | emptyArray (hspace : Space input (93 :: rest)) : Reads (91 :: input) (.array []) rest
  | array (helements : Elements input elements rest) : Reads (91 :: input) (.array elements) rest
  | emptyObject (hspace : Space input (125 :: rest)) : Reads (123 :: input) (.object []) rest
  | object (hmembers : Members input members rest) : Reads (123 :: input) (.object members) rest

inductive Elements : List UInt8 → List Value → List UInt8 → Prop
  | last (hbefore : Space input start) (hvalue : Reads start value stop)
      (hafter : Space stop (93 :: rest)) : Elements input [value] rest
  | next (hbefore : Space input start) (hvalue : Reads start value stop)
      (hafter : Space stop (44 :: more)) (hmore : Elements more values rest) :
      Elements input (value :: values) rest

inductive Members : List UInt8 → List (List Nat × Value) → List UInt8 → Prop
  | last (hmember : Member input member stop) (hafter : Space stop (125 :: rest)) :
      Members input [member] rest
  | next (hmember : Member input member stop) (hafter : Space stop (44 :: more))
      (hmore : Members more members rest) : Members input (member :: members) rest

inductive Member : List UInt8 → List Nat × Value → List UInt8 → Prop
  | mk (hbefore : Space input (34 :: name)) (hname : StringRest name units gap)
      (hcolon : Space gap (58 :: start)) (hspace : Space start valueStart)
      (hvalue : Reads valueStart value rest) : Member input (units, value) rest

end

def IsText (text : List UInt8) (value : Value) : Prop :=
  ∃ start stop, Space text start ∧ Reads start value stop ∧ Space stop []

-- ----------------------------------------------------------------------------
-- Strings
-- ----------------------------------------------------------------------------

def IsPlain (b : UInt8) : Prop := 32 ≤ b ∧ b ≤ 127 ∧ b ≠ 34 ∧ b ≠ 92

instance (b : UInt8) : Decidable (IsPlain b) := inferInstanceAs (Decidable (_ ∧ _))

def StringBody (text : List UInt8) (units : List Nat) : Prop :=
  ∀ rest tail after, StringRest rest tail after → StringRest (text ++ rest) (units ++ tail) after

theorem StringBody.nil : StringBody [] [] := fun _ _ _ htail => htail

theorem StringBody.append (h₁ : StringBody text₁ units₁) (h₂ : StringBody text₂ units₂) :
    StringBody (text₁ ++ text₂) (units₁ ++ units₂) := by
  intro rest tail after htail
  rw [List.append_assoc, List.append_assoc]
  exact h₁ _ _ _ (h₂ _ _ _ htail)

theorem StringBody.flatMap {texts : α → List UInt8} {units : α → List Nat} (xs : List α)
    (h : ∀ x ∈ xs, StringBody (texts x) (units x)) :
    StringBody (xs.flatMap texts) (xs.flatMap units) := by
  induction xs with
  | nil => exact .nil
  | cons x xs ih =>
    rw [List.flatMap_cons, List.flatMap_cons]
    exact (h x List.mem_cons_self).append (ih fun y hy => h y (List.mem_cons_of_mem _ hy))

theorem StringBody.escape (h : (e, unit) ∈ escapes) : StringBody [92, e] [unit] :=
  fun _ _ _ htail => .escape h htail

theorem ofNat_high_not_lt (h : n < 64) : ¬UInt8.ofNat (n + 192) < 128 := by
  rw [UInt8.lt_iff_toNat_lt, UInt8.toNat_ofNat']
  show ¬_ < 128
  omega

theorem utf8EncodeChar_ascii (hb : b < 128) (h : (String.utf8EncodeChar c).head? = some b) :
    String.utf8EncodeChar c = [b] ∧ c.toNat = b.toNat := by
  have hlong : ∀ n, n < 64 → UInt8.ofNat (n + 192) ≠ b :=
    fun n hn heq => ofNat_high_not_lt hn (heq ▸ hb)
  unfold String.utf8EncodeChar at h ⊢
  dsimp only at h ⊢
  split_ifs at h ⊢ with h₁ h₂ h₃
  · have hbyte : UInt8.ofNat c.val.toNat = b := Option.some.inj h
    refine ⟨by rw [hbyte], ?_⟩
    rw [← hbyte, UInt8.toNat_ofNat']
    exact (Nat.mod_eq_of_lt (Nat.lt_of_le_of_lt h₁ (by decide))).symm
  · exact absurd (Option.some.inj h) (hlong _ (by omega))
  · exact absurd (Option.some.inj h) (hlong (c.val.toNat / 4096 % 16 + 32) (by omega))
  · exact absurd (Option.some.inj h) (hlong (c.val.toNat / 262144 % 8 + 48) (by omega))

theorem toNat_charOfNat : ∀ n < 128, (Char.ofNat n).toNat = n := by decide

theorem utf8EncodeChar_of_lt (hb : b < 128) : String.utf8EncodeChar (Char.ofNat b.toNat) = [b] := by
  have hlt : b.toNat < 128 := hb
  have hval : (Char.ofNat b.toNat).val.toNat = b.toNat := toNat_charOfNat _ hlt
  unfold String.utf8EncodeChar
  dsimp only
  rw [hval, if_pos (by omega), UInt8.ofNat_toNat]

theorem StringBody.plain (hb : IsPlain b) : StringBody [b] [b.toNat] := by
  obtain ⟨hlow, hhigh, hquote, hslash⟩ := hb
  have hlt : b < 128 := UInt8.lt_of_le_of_lt hhigh (by decide)
  have hsmall : b.toNat < 128 := hlt
  have hvalue := toNat_charOfNat b.toNat hsmall
  have hne : ∀ c : Char, b ≠ UInt8.ofNat c.toNat → Char.ofNat b.toNat ≠ c := by
    rintro c hc rfl
    rw [hvalue, UInt8.ofNat_toNat] at hc
    exact hc rfl
  have hunits : utf16 (Char.ofNat b.toNat) = [b.toNat] := by
    rw [utf16, if_pos (by omega), hvalue]
  intro rest tail after htail
  have hchar : StringRest (String.utf8EncodeChar (Char.ofNat b.toNat) ++ rest)
      (utf16 (Char.ofNat b.toNat) ++ tail) after := by
    refine .char ⟨?_, hne '"' hquote, hne '\\' hslash⟩ htail
    rw [hvalue]
    exact hlow
  rwa [utf8EncodeChar_of_lt hlt, hunits] at hchar

theorem StringBody.of_plain (text : List UInt8) (h : ∀ b ∈ text, IsPlain b) :
    StringBody text (text.map UInt8.toNat) := by
  have hall := StringBody.flatMap text fun b hb => StringBody.plain (h b hb)
  rwa [List.flatMap_singleton', ← List.map_eq_flatMap] at hall

theorem StringRest.tail_of_plain (hb : IsPlain b) (h : StringRest (b :: input) units rest) :
    ∃ tail, StringRest input tail rest := by
  generalize hwhole : b :: input = whole at h
  cases h with
  | close =>
    cases hwhole
    exact absurd rfl hb.2.2.1
  | @char c input' units' _ hc htail =>
    have hhead : (String.utf8EncodeChar c).head? = some b := by
      cases hencode : String.utf8EncodeChar c with
      | nil => exact absurd hencode String.utf8EncodeChar_ne_nil
      | cons first others =>
        rw [hencode] at hwhole
        rw [(List.cons.inj hwhole).1]
        rfl
    rw [(utf8EncodeChar_ascii (UInt8.lt_of_le_of_lt hb.2.1 (by decide)) hhead).1] at hwhole
    rw [(List.cons.inj hwhole).2]
    exact ⟨units', htail⟩
  | escape _ _ =>
    cases hwhole
    exact absurd rfl hb.2.2.2
  | unicode _ _ _ _ _ =>
    cases hwhole
    exact absurd rfl hb.2.2.2

theorem StringRest.close_eq (h : StringRest (34 :: input) units rest) : input = rest := by
  generalize hwhole : 34 :: input = whole at h
  cases h with
  | close => exact (List.cons.inj hwhole).2
  | @char c input' units' _ hc htail =>
    have hhead : (String.utf8EncodeChar c).head? = some 34 := by
      cases hencode : String.utf8EncodeChar c with
      | nil => exact absurd hencode String.utf8EncodeChar_ne_nil
      | cons first others =>
        rw [hencode] at hwhole
        rw [(List.cons.inj hwhole).1]
        rfl
    have hvalue := (utf8EncodeChar_ascii (by decide) hhead).2
    exact absurd (Char.toNat_inj.mp hvalue) hc.2.1
  | escape _ _ => cases hwhole
  | unicode _ _ _ _ _ => cases hwhole

theorem StringRest.eq_of_plain (text : List UInt8) (hplain : ∀ b ∈ text, IsPlain b)
    (h : StringRest (text ++ 34 :: input) units rest) : input = rest := by
  induction text generalizing units with
  | nil => exact h.close_eq
  | cons b text ih =>
    obtain ⟨tail, htail⟩ := StringRest.tail_of_plain (hplain b List.mem_cons_self) h
    exact ih (fun x hx => hplain x (List.mem_cons_of_mem _ hx)) htail

-- ----------------------------------------------------------------------------
-- What an object starts with
-- ----------------------------------------------------------------------------

theorem Space.eq_of_head (hb : ¬IsSpace b) (h : Space (b :: input) rest) : rest = b :: input := by
  cases h with
  | done => rfl
  | more hspace _ => exact absurd hspace hb

theorem IsNumber.head (h : IsNumber text) :
    ∃ b rest, text = b :: rest ∧ (b = 45 ∨ Decimal.IsDigit b) := by
  obtain ⟨sign, natural, fraction, exponent, hsign, ⟨⟨hne, hdigits⟩, -⟩, -, -, rfl⟩ := h
  obtain ⟨b, natural, rfl⟩ := List.exists_cons_of_ne_nil hne
  rcases hsign with rfl | rfl
  · exact ⟨b, _, rfl, .inr (hdigits b List.mem_cons_self)⟩
  · exact ⟨45, _, rfl, .inl rfl⟩

theorem isText_object_name {name : List UInt8} (hname : ∀ b ∈ name, IsPlain b)
    (h : IsText (123 :: 34 :: (name ++ 34 :: b :: rest)) value) : b = 58 ∨ IsSpace b := by
  obtain ⟨start, stop, hspace, hreads, -⟩ := h
  rw [Space.eq_of_head (by decide) hspace] at hreads
  have hmembers : ∀ {members after}, Members (34 :: (name ++ 34 :: b :: rest)) members after →
      b = 58 ∨ IsSpace b := by
    intro members after hmembers
    have hmember : ∀ {member stop}, Member (34 :: (name ++ 34 :: b :: rest)) member stop →
        b = 58 ∨ IsSpace b := by
      rintro _ _ ⟨hbefore, hrest, hcolon, -, -⟩
      cases Space.eq_of_head (by decide) hbefore
      rw [← StringRest.eq_of_plain name hname hrest] at hcolon
      cases hcolon with
      | done => exact .inl rfl
      | more hspace _ => exact .inr hspace
    cases hmembers with
    | last h _ => exact hmember h
    | next h _ _ => exact hmember h
  generalize hwhole : 123 :: 34 :: (name ++ 34 :: b :: rest) = whole at hreads
  cases hreads with
  | number htext =>
    obtain ⟨first, others, rfl, hfirst⟩ := htext.head
    rw [← (List.cons.inj hwhole).1] at hfirst
    exact absurd hfirst (by decide)
  | emptyObject hspace =>
    rw [← (List.cons.inj hwhole).2] at hspace
    cases Space.eq_of_head (by decide) hspace
  | object h =>
    rw [← (List.cons.inj hwhole).2] at h
    exact hmembers h
  | _ => cases hwhole

-- ----------------------------------------------------------------------------
-- Printed objects
-- ----------------------------------------------------------------------------

/-- `text` is read as `value`, whatever follows. -/
def Prints (text : List UInt8) (value : Value) : Prop := ∀ rest, Reads (text ++ rest) value rest

def printString (body : List UInt8) : List UInt8 := 34 :: (body ++ [34])

def printMembers : List (List UInt8 × List UInt8) → List UInt8
  | [] => [125]
  | [(name, value)] => printString name ++ 58 :: (value ++ [125])
  | (name, value) :: fields => printString name ++ 58 :: (value ++ 44 :: printMembers fields)

def printObject (fields : List (List UInt8 × List UInt8)) : List UInt8 :=
  123 :: printMembers fields

theorem StringBody.prints (h : StringBody body units) :
    Prints (printString body) (.string units) := by
  intro rest
  have hbody := h (34 :: rest) [] rest .close
  rw [List.append_nil] at hbody
  simpa [printString] using Reads.string hbody

theorem IsNumber.prints (h : IsNumber text) : Prints text (.number text) := fun _ => .number h

theorem isNatural_print (n : Nat) : IsNatural (Decimal.print n) := by
  refine ⟨⟨Decimal.print_ne_nil n, Decimal.isDigit_of_mem n⟩, fun hzero => ?_⟩
  rcases Nat.eq_zero_or_pos n with rfl | hpos
  · rfl
  · exact absurd hzero (Decimal.head?_print n hpos)

theorem isNumber_of_isNatural (h : IsNatural text) : IsNumber text :=
  ⟨[], text, [], [], .inl rfl, h, .inl rfl, .inl rfl, by simp⟩

theorem isNumber_neg_of_isNatural (h : IsNatural text) : IsNumber (45 :: text) :=
  ⟨[45], text, [], [], .inr rfl, h, .inl rfl, .inl rfl, by simp⟩

structure PrintsMember (field : List UInt8 × List UInt8) (member : List Nat × Value) : Prop where
  name : StringBody field.1 member.1
  value : Prints field.2 member.2

theorem PrintsMember.reads (h : PrintsMember field member) (rest : List UInt8) :
    Member (printString field.1 ++ 58 :: (field.2 ++ rest)) member rest := by
  have hname := h.name (34 :: 58 :: (field.2 ++ rest)) [] _ .close
  rw [List.append_nil] at hname
  simpa [printString] using Member.mk .done hname .done .done (h.value rest)

theorem members_of_printMembers (h : PrintsMember field member)
    (hs : List.Forall₂ PrintsMember fields members) (rest : List UInt8) :
    Members (printMembers (field :: fields) ++ rest) (member :: members) rest := by
  induction hs generalizing field member with
  | nil =>
    have hmember := h.reads (125 :: rest)
    simpa [printMembers] using Members.last hmember .done
  | @cons next _ fields _ hnext hs ih =>
    have hmember := h.reads (44 :: (printMembers (next :: fields) ++ rest))
    simpa [printMembers] using Members.next hmember .done (ih hnext)

theorem prints_object (hs : List.Forall₂ PrintsMember fields members) :
    Prints (printObject fields) (.object members) := by
  intro rest
  cases hs with
  | nil => exact .emptyObject .done
  | cons h hs => exact .object (members_of_printMembers h hs rest)

theorem Prints.isText_line (h : Prints text value) : IsText (text ++ [10]) value :=
  ⟨_, [10], .done, h [10], .more (by decide) .done⟩

end Json
