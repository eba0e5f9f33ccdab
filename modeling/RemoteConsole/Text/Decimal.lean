/-!
# Decimal numbers in a text

Reading whole numbers: an optional sign, then one or more ASCII digits and nothing else, with the
value in range. A minus sign is refused where the range has no negative number, even before a zero.
-/

namespace RemoteConsole.Text

/-- The value of a decimal digit. -/
def digit? (c : Char) : Option Nat :=
  if '0' ≤ c && c ≤ '9' then some (c.toNat - '0'.toNat) else none

/-- The value of a list of decimal digits read after `value`. -/
def digitsFrom (value : Nat) : List Char → Option Nat
  | [] => some value
  | c :: cs => (digit? c).bind fun d => digitsFrom (10 * value + d) cs

/-- The value of one or more decimal digits. -/
def digits? : List Char → Option Nat
  | [] => none
  | c :: cs => digitsFrom 0 (c :: cs)

/-- A number in `0 ≤ n < bound`, with an optional plus sign. -/
def natural? (bound : Nat) (s : String) : Option Nat :=
  let value := match s.toList with
    | '+' :: cs => digits? cs
    | cs => digits? cs
  value.filter (· < bound)

/-- A number in `-bound ≤ n < bound`, with an optional sign. -/
def integer? (bound : Nat) (s : String) : Option Int :=
  let value : Option Int := match s.toList with
    | '+' :: cs => (digits? cs).map Int.ofNat
    | '-' :: cs => (digits? cs).map fun n => -Int.ofNat n
    | cs => (digits? cs).map Int.ofNat
  value.filter fun n => -Int.ofNat bound ≤ n && n < Int.ofNat bound

end RemoteConsole.Text
