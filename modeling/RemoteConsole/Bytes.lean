/-!
# Whole numbers as bytes

Fixed-width numbers on the wire. A number is cut into bytes by division, so a number that is too
large for its width is written modulo the width's range, and the order of the bytes is little-endian
unless a function says otherwise.
-/

namespace RemoteConsole

/-- A byte string. -/
abbrev Bytes := List UInt8

namespace Bytes

/-- The `width` low bytes of a number, lowest first. -/
def ofNat : (width n : Nat) → Bytes
  | 0, _ => []
  | width + 1, n => UInt8.ofNat (n % 256) :: ofNat width (n / 256)

/-- The number whose bytes are given, lowest first. -/
def toNat : Bytes → Nat
  | [] => 0
  | b :: rest => b.toNat + 256 * toNat rest

@[simp] theorem length_ofNat (width n : Nat) : (ofNat width n).length = width := by
  induction width generalizing n with
  | zero => rfl
  | succ width ih => simp [ofNat, ih]

/-- Writing and reading a number keeps it modulo the width's range. -/
@[simp] theorem toNat_ofNat (width n : Nat) : toNat (ofNat width n) = n % Nat.pow 256 width := by
  induction width generalizing n with
  | zero => simp [ofNat, toNat, Nat.mod_one]
  | succ width ih =>
    have hb : (UInt8.ofNat (n % 256)).toNat = n % 256 := by simp
    simp only [ofNat, toNat, ih, hb]
    rw [Nat.pow_eq, Nat.pow_eq, Nat.pow_succ', Nat.mod_mul]

/-- The four bytes of a signed 32-bit number. -/
def ofInt32 (i : Int32) : Bytes :=
  ofNat 4 i.toUInt32.toNat

/-- The signed 32-bit number of the first four bytes. -/
def toInt32 (bytes : Bytes) : Int32 :=
  Int32.ofNat (toNat (bytes.take 4))

/-- The signed 16-bit number of the first two bytes. -/
def toInt16 (bytes : Bytes) : Int16 :=
  Int16.ofNat (toNat (bytes.take 2))

/-- The four bytes of a signed 32-bit number, highest first. -/
def ofInt32BE (i : Int32) : Bytes :=
  (ofInt32 i).reverse

/-- The signed 32-bit number of the first four bytes, highest first. -/
def toInt32BE (bytes : Bytes) : Int32 :=
  toInt32 (bytes.take 4).reverse

/-- A signed 32-bit number is read back as it was written. -/
theorem toInt32_ofInt32_append (i : Int32) (rest : Bytes) : toInt32 (ofInt32 i ++ rest) = i := by
  have hl : (ofInt32 i).length = 4 := length_ofNat ..
  rw [toInt32, List.take_append_of_le_length (by omega), List.take_of_length_le (by omega), ofInt32,
    toNat_ofNat]
  have h : i.toUInt32.toNat < Nat.pow 256 4 := i.toUInt32.toNat_lt
  rw [Nat.mod_eq_of_lt h]
  exact Int32.toBitVec.inj (by simp [Int32.ofNat])

end Bytes

end RemoteConsole
