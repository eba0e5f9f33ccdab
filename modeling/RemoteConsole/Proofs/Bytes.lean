import Mathlib.Algebra.Group.Int.Defs
import Mathlib.Algebra.Group.Nat.Defs
import Mathlib.Data.List.Basic
import RemoteConsole.Bytes

/-!
# Numbers and their bytes

Bytes that are read as a number are what the number is written as (`ofNat_toNat`,
`ofInt32_toInt32`). A signed number written with its highest byte first is in two's complement, and
no other four bytes are (`bigEndian_iff`).
-/

namespace RemoteConsole.Bytes

variable {bytes : Bytes}

theorem toNat_lt (bytes : Bytes) : toNat bytes < 256 ^ bytes.length := by
  induction bytes with
  | nil => decide
  | cons b bytes ih =>
    have hb := b.toNat_lt
    rw [toNat, List.length_cons, Nat.pow_succ]
    omega

/-- Writing a number that was read gives back its bytes. -/
theorem ofNat_toNat (bytes : Bytes) : ofNat bytes.length (toNat bytes) = bytes := by
  induction bytes with
  | nil => rfl
  | cons b bytes ih =>
    have hb := b.toNat_lt
    have hlow : (b.toNat + 256 * toNat bytes) % 256 = b.toNat := by omega
    have hhigh : (b.toNat + 256 * toNat bytes) / 256 = toNat bytes := by omega
    rw [toNat, List.length_cons, ofNat, hlow, hhigh, ih, UInt8.ofNat_toNat]

theorem ofNat_toNat_singleton (b : UInt8) : UInt8.ofNat (toNat [b]) = b := by
  change UInt8.ofNat (b.toNat + 256 * 0) = b
  rw [Nat.mul_zero, Nat.add_zero, UInt8.ofNat_toNat]

/-- The first four bytes are a number below the range of four bytes. -/
theorem toNat_take_four_lt (bytes : Bytes) : toNat (bytes.take 4) < 2 ^ 32 := by
  have hpow : 256 ^ (bytes.take 4).length ≤ 256 ^ 4 :=
    Nat.pow_le_pow_right (by decide) (List.length_take_le ..)
  exact Nat.lt_of_lt_of_le (toNat_lt _) hpow

/-- Writing a signed number that was read gives back its four bytes. -/
theorem ofInt32_toInt32 (h : 4 ≤ bytes.length) : ofInt32 (toInt32 bytes) = bytes.take 4 := by
  have hlength : (bytes.take 4).length = 4 := List.length_take_of_le h
  have hback : (toInt32 bytes).toUInt32.toNat = toNat (bytes.take 4) :=
    UInt32.toNat_ofNat_of_lt' (toNat_take_four_lt bytes)
  have hbytes := ofNat_toNat (bytes.take 4)
  rw [hlength] at hbytes
  rw [ofInt32, hback, hbytes]

/-- A signed number that is not negative is that of its bytes. -/
theorem toNat_take_of_nonneg (h : 0 ≤ (toInt32 bytes).toInt) :
    toNat (bytes.take 4) = (toInt32 bytes).toInt.toNat := by
  have hlt := toNat_take_four_lt bytes
  have hbmod : (toInt32 bytes).toInt = ((toNat (bytes.take 4) : Nat) : Int).bmod (2 ^ 32) :=
    Int32.toInt_ofNat
  rw [hbmod, Int.bmod_def] at h
  rw [hbmod, Int.bmod_def]
  split_ifs at h ⊢ <;> omega

theorem toInt32_ofInt32 (i : Int32) : toInt32 (ofInt32 i) = i := by
  have h := toInt32_ofInt32_append i []
  rwa [List.append_nil] at h

theorem toInt32BE_ofInt32BE (i : Int32) : toInt32BE (ofInt32BE i) = i := by
  have hlength : (ofInt32BE i).length = 4 := by
    rw [ofInt32BE, List.length_reverse, ofInt32, length_ofNat]
  rw [toInt32BE, List.take_of_length_le (Nat.le_of_eq hlength), ofInt32BE, List.reverse_reverse,
    toInt32_ofInt32]

/-- Writing a signed number that was read highest byte first gives back its four bytes. -/
theorem ofInt32BE_toInt32BE (h : bytes.length = 4) : ofInt32BE (toInt32BE bytes) = bytes := by
  have hreverse : bytes.reverse.length = 4 := by rw [List.length_reverse, h]
  rw [ofInt32BE, toInt32BE, List.take_of_length_le (Nat.le_of_eq h),
    ofInt32_toInt32 (Nat.le_of_eq hreverse.symm), List.take_of_length_le (Nat.le_of_eq hreverse),
    List.reverse_reverse]

/-! ## Two's complement -/

/-- A number taken for a signed one is congruent to it, and only to it. -/
theorem ofNat_eq_iff {n : Nat} (h : n < 2 ^ 32) {i : Int32} :
    Int32.ofNat n = i ↔ (n : Int) = i.toInt % 2 ^ 32 := by
  have hn : (n : Int) % 2 ^ 32 = n := by omega
  constructor
  · rintro rfl
    rw [Int32.toInt_ofNat']
    exact hn.symm.trans (Int.bmod_emod ..).symm
  · intro hi
    rw [← Int32.toInt_inj, Int32.toInt_ofNat', hi]
    exact (Int.emod_bmod ..).trans i.toInt_bmod_size

/-- Four bytes are a signed number in two's complement, highest byte first. -/
def BigEndian (bytes : Bytes) (i : Int32) : Prop :=
  ∃ a b c d : UInt8, bytes = [a, b, c, d] ∧
    ((a.toNat * 2 ^ 24 + b.toNat * 2 ^ 16 + c.toNat * 2 ^ 8 + d.toNat : Nat) : Int) =
      i.toInt % 2 ^ 32

theorem bigEndian_iff {i : Int32} : BigEndian bytes i ↔ bytes = ofInt32BE i := by
  have hvalue (a b c d : UInt8) : toInt32BE [a, b, c, d] =
      Int32.ofNat (a.toNat * 2 ^ 24 + b.toNat * 2 ^ 16 + c.toNat * 2 ^ 8 + d.toNat) := by
    change Int32.ofNat (d.toNat + 256 * (c.toNat + 256 * (b.toNat + 256 * (a.toNat + 256 * 0)))) = _
    congr 1
    omega
  have hlt (a b c d : UInt8) :
      a.toNat * 2 ^ 24 + b.toNat * 2 ^ 16 + c.toNat * 2 ^ 8 + d.toNat < 2 ^ 32 := by
    have ha := a.toNat_lt
    have hb := b.toNat_lt
    have hc := c.toNat_lt
    have hd := d.toNat_lt
    omega
  constructor
  · rintro ⟨a, b, c, d, rfl, h⟩
    rw [← (ofNat_eq_iff (hlt a b c d)).mpr h, ← hvalue]
    exact (ofInt32BE_toInt32BE rfl).symm
  · rintro rfl
    obtain ⟨a, b, c, d, hbytes⟩ : ∃ a b c d, ofInt32BE i = [a, b, c, d] := ⟨_, _, _, _, rfl⟩
    refine ⟨a, b, c, d, hbytes, ?_⟩
    rw [← ofNat_eq_iff (hlt a b c d), ← hvalue, ← hbytes, toInt32BE_ofInt32BE]

end RemoteConsole.Bytes
