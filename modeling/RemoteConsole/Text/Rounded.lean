/-!
# Rounded floating point numbers

A 32-bit floating point number, given by its bits, as a whole decimal number. The value is exact
before it is rounded, and a value halfway between two whole numbers goes to the even one. The sign
of a number that rounds to zero is kept.
-/

namespace RemoteConsole.Text

/-- The whole number nearest to `m` divided by two `k` times, ties to even. -/
def roundHalfEven (m k : Nat) : Nat :=
  let whole := m >>> k
  let twice := 2 * (m - whole <<< k)
  if 1 <<< k < twice || (twice == 1 <<< k && whole % 2 == 1) then whole + 1 else whole

/-- The whole number nearest to the magnitude of a finite number with the given exponent and
fraction fields. The fraction has 23 bits, and an exponent of 150 makes it a whole number. -/
def roundMagnitude (exponent fraction : Nat) : Nat :=
  let m := if exponent = 0 then fraction else fraction + 1 <<< 23
  let e := if exponent = 0 then 1 else exponent
  if 150 ≤ e then m <<< (e - 150) else roundHalfEven m (150 - e)

/-- The text of a 32-bit floating point number without decimal places. -/
def rounded (bits : UInt32) : String :=
  let sign := if bits >>> 31 = 0 then "" else "-"
  let exponent := (bits >>> 23 &&& 0xFF).toNat
  let fraction := (bits &&& 0x7FFFFF).toNat
  if exponent = 255 then
    if fraction = 0 then sign ++ "inf" else "NaN"
  else s!"{sign}{roundMagnitude exponent fraction}"

/-- Two and a half goes to two, three and a half to four, and minus a quarter to minus zero. -/
example : rounded 0x40200000 = "2" ∧ rounded 0x40600000 = "4" ∧ rounded 0xBE800000 = "-0" := by
  decide +kernel

end RemoteConsole.Text
