import Mathlib.Data.Nat.ModEq

/-!
# Fixed-width integers as bytes

Both byte orders over natural numbers, and readers and writers for the machine
words built on them. A reader looks at the front of the bytes it is given.
-/

namespace Bytes

def leNat : List UInt8 → Nat
  | [] => 0
  | b :: bs => b.toNat + 256 * leNat bs

def leBytes : Nat → Nat → List UInt8
  | 0, _ => []
  | n + 1, x => UInt8.ofNat x :: leBytes n (x / 256)

def beNat (bytes : List UInt8) : Nat := leNat bytes.reverse

def beBytes (n x : Nat) : List UInt8 := (leBytes n x).reverse

@[simp] theorem leBytes_length (n x : Nat) : (leBytes n x).length = n := by
  induction n generalizing x with
  | zero => rfl
  | succ n ih => simp [leBytes, ih]

@[simp] theorem beBytes_length (n x : Nat) : (beBytes n x).length = n := by
  simp [beBytes]

theorem leNat_leBytes (n x : Nat) : leNat (leBytes n x) = x % 256 ^ n := by
  induction n generalizing x with
  | zero => simp [leBytes, leNat, Nat.mod_one]
  | succ n ih =>
    have hsplit : x % 256 ^ (n + 1) = x % 256 + 256 * (x / 256 % 256 ^ n) := by
      rw [Nat.pow_succ', Nat.mod_mul]
    have hbyte : (UInt8.ofNat x).toNat = x % 256 := UInt8.toNat_ofNat'
    simp only [leBytes, leNat, ih, hsplit, hbyte]

theorem leBytes_leNat (bytes : List UInt8) : leBytes bytes.length (leNat bytes) = bytes := by
  induction bytes with
  | nil => rfl
  | cons b bs ih =>
    have hb := b.toNat_lt
    have hdiv : (b.toNat + 256 * leNat bs) / 256 = leNat bs := by omega
    have hmod : UInt8.ofNat (b.toNat + 256 * leNat bs) = b := by
      rw [← UInt8.toNat_inj, UInt8.toNat_ofNat']
      omega
    simp only [List.length_cons, leBytes, leNat, hdiv, hmod, ih]

theorem leNat_lt (bytes : List UInt8) : leNat bytes < 256 ^ bytes.length := by
  induction bytes with
  | nil => simp [leNat]
  | cons b bs ih =>
    have hb := b.toNat_lt
    simp only [leNat, List.length_cons, Nat.pow_succ']
    omega

theorem beNat_beBytes (n x : Nat) : beNat (beBytes n x) = x % 256 ^ n := by
  simp [beNat, beBytes, leNat_leBytes]

theorem beBytes_beNat (bytes : List UInt8) : beBytes bytes.length (beNat bytes) = bytes := by
  have h := leBytes_leNat bytes.reverse
  rw [List.length_reverse] at h
  simp [beNat, beBytes, h]

def writeLe16 (x : UInt16) : List UInt8 := leBytes 2 x.toNat
def writeLe32 (x : UInt32) : List UInt8 := leBytes 4 x.toNat
def writeLe64 (x : UInt64) : List UInt8 := leBytes 8 x.toNat
def writeBe16 (x : UInt16) : List UInt8 := beBytes 2 x.toNat
def writeBe32 (x : UInt32) : List UInt8 := beBytes 4 x.toNat
def writeBe64 (x : UInt64) : List UInt8 := beBytes 8 x.toNat

def readLe16 (bytes : List UInt8) : UInt16 := .ofNat (leNat (bytes.take 2))
def readLe32 (bytes : List UInt8) : UInt32 := .ofNat (leNat (bytes.take 4))
def readLe64 (bytes : List UInt8) : UInt64 := .ofNat (leNat (bytes.take 8))
def readBe16 (bytes : List UInt8) : UInt16 := .ofNat (beNat (bytes.take 2))
def readBe32 (bytes : List UInt8) : UInt32 := .ofNat (beNat (bytes.take 4))
def readBe64 (bytes : List UInt8) : UInt64 := .ofNat (beNat (bytes.take 8))

@[simp] theorem writeLe16_length (x : UInt16) : (writeLe16 x).length = 2 := leBytes_length _ _
@[simp] theorem writeLe32_length (x : UInt32) : (writeLe32 x).length = 4 := leBytes_length _ _
@[simp] theorem writeLe64_length (x : UInt64) : (writeLe64 x).length = 8 := leBytes_length _ _
@[simp] theorem writeBe16_length (x : UInt16) : (writeBe16 x).length = 2 := beBytes_length _ _
@[simp] theorem writeBe32_length (x : UInt32) : (writeBe32 x).length = 4 := beBytes_length _ _
@[simp] theorem writeBe64_length (x : UInt64) : (writeBe64 x).length = 8 := beBytes_length _ _

@[simp] theorem readLe16_write (x : UInt16) (rest : List UInt8) :
    readLe16 (writeLe16 x ++ rest) = x := by
  simp [readLe16, writeLe16, leNat_leBytes]

@[simp] theorem readLe32_write (x : UInt32) (rest : List UInt8) :
    readLe32 (writeLe32 x ++ rest) = x := by
  simp [readLe32, writeLe32, leNat_leBytes]

@[simp] theorem readLe64_write (x : UInt64) (rest : List UInt8) :
    readLe64 (writeLe64 x ++ rest) = x := by
  simp [readLe64, writeLe64, leNat_leBytes]

@[simp] theorem readBe16_write (x : UInt16) (rest : List UInt8) :
    readBe16 (writeBe16 x ++ rest) = x := by
  simp [readBe16, writeBe16, beNat_beBytes]

@[simp] theorem readBe32_write (x : UInt32) (rest : List UInt8) :
    readBe32 (writeBe32 x ++ rest) = x := by
  simp [readBe32, writeBe32, beNat_beBytes]

@[simp] theorem readBe64_write (x : UInt64) (rest : List UInt8) :
    readBe64 (writeBe64 x ++ rest) = x := by
  simp [readBe64, writeBe64, beNat_beBytes]

-- ----------------------------------------------------------------------------
-- Cursors
-- ----------------------------------------------------------------------------

def takeBytes (n : Nat) (bytes : List UInt8) : Option (List UInt8 × List UInt8) :=
  if bytes.length < n then none else some (bytes.take n, bytes.drop n)

def takeBe32 (bytes : List UInt8) : Option (UInt32 × List UInt8) :=
  (takeBytes 4 bytes).map fun (word, rest) => (readBe32 word, rest)

def takeBe64 (bytes : List UInt8) : Option (UInt64 × List UInt8) :=
  (takeBytes 8 bytes).map fun (word, rest) => (readBe64 word, rest)

theorem takeBytes_eq_some {bytes : List UInt8} :
    takeBytes n bytes = some (front, rest) ↔ bytes = front ++ rest ∧ front.length = n := by
  unfold takeBytes
  constructor
  · intro h
    split_ifs at h with hlen
    cases h
    exact ⟨(List.take_append_drop n bytes).symm, List.length_take_of_le (Nat.not_lt.mp hlen)⟩
  · rintro ⟨rfl, rfl⟩
    simp

theorem beNat_take_lt {bytes : List UInt8} (h : n ≤ bytes.length) :
    beNat (bytes.take n) < 256 ^ n := by
  have hlt := leNat_lt (bytes.take n).reverse
  rwa [List.length_reverse, List.length_take_of_le h] at hlt

theorem beBytes_beNat_take {bytes : List UInt8} (h : n ≤ bytes.length) :
    beBytes n (beNat (bytes.take n)) = bytes.take n := by
  have hback := beBytes_beNat (bytes.take n)
  rwa [List.length_take_of_le h] at hback

theorem writeBe16_read (h : 2 ≤ bytes.length) : writeBe16 (readBe16 bytes) = bytes.take 2 := by
  rw [writeBe16, readBe16, UInt16.toNat_ofNat_of_lt' (beNat_take_lt h), beBytes_beNat_take h]

theorem writeBe32_read (h : 4 ≤ bytes.length) : writeBe32 (readBe32 bytes) = bytes.take 4 := by
  rw [writeBe32, readBe32, UInt32.toNat_ofNat_of_lt' (beNat_take_lt h), beBytes_beNat_take h]

theorem writeBe64_read (h : 8 ≤ bytes.length) : writeBe64 (readBe64 bytes) = bytes.take 8 := by
  rw [writeBe64, readBe64, UInt64.toNat_ofNat_of_lt' (beNat_take_lt h), beBytes_beNat_take h]

theorem takeBe32_eq_some {bytes : List UInt8} :
    takeBe32 bytes = some (x, rest) ↔ bytes = writeBe32 x ++ rest := by
  simp only [takeBe32, Option.map_eq_some_iff, Prod.exists, Prod.mk.injEq, takeBytes_eq_some]
  constructor
  · rintro ⟨word, rest', ⟨rfl, hlen⟩, rfl, rfl⟩
    rw [writeBe32_read hlen.ge, List.take_of_length_le hlen.le]
  · rintro rfl
    refine ⟨writeBe32 x, rest, ⟨rfl, writeBe32_length x⟩, ?_, rfl⟩
    simpa using readBe32_write x []

theorem takeBe64_eq_some {bytes : List UInt8} :
    takeBe64 bytes = some (x, rest) ↔ bytes = writeBe64 x ++ rest := by
  simp only [takeBe64, Option.map_eq_some_iff, Prod.exists, Prod.mk.injEq, takeBytes_eq_some]
  constructor
  · rintro ⟨word, rest', ⟨rfl, hlen⟩, rfl, rfl⟩
    rw [writeBe64_read hlen.ge, List.take_of_length_le hlen.le]
  · rintro rfl
    refine ⟨writeBe64 x, rest, ⟨rfl, writeBe64_length x⟩, ?_, rfl⟩
    simpa using readBe64_write x []

end Bytes
