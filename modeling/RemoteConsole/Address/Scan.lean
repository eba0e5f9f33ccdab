/-!
# Scanning an address

Small steps over the characters of an address. A scan yields a value and the characters after it, or
nothing, and then the characters are still there for another scan.
-/

namespace RemoteConsole.Address

/-- A step over the front of a text. -/
abbrev Scan (α : Type) := List Char → Option (α × List Char)

namespace Scan

/-- One given character. -/
def char (c : Char) : Scan Unit
  | d :: cs => if d = c then some ((), cs) else none
  | [] => none

/-- The value of a digit in a base of at most sixteen. -/
def digit? (base : Nat) (c : Char) : Option Nat :=
  let value :=
    if '0' ≤ c && c ≤ '9' then some (c.toNat - '0'.toNat)
    else if 'a' ≤ c && c ≤ 'f' then some (c.toNat - 'a'.toNat + 10)
    else if 'A' ≤ c && c ≤ 'F' then some (c.toNat - 'A'.toNat + 10)
    else none
  value.filter (· < base)

/-- The digits at the front of a text, and what follows them. -/
def digits (base : Nat) : List Char → List Nat × List Char
  | [] => ([], [])
  | c :: cs =>
    match digit? base c with
    | none => ([], c :: cs)
    | some d =>
      let (ds, rest) := digits base cs
      (d :: ds, rest)

/-- A number below `bound`, written with one or more digits and, if `maxDigits` is given, no more
than that. Unless `zeros` is set, it has no zero in front of other digits. -/
def number (base : Nat) (maxDigits : Option Nat) (zeros : Bool) (bound : Nat) : Scan Nat :=
  fun cs =>
  let (ds, rest) := digits base cs
  let tooMany := maxDigits.any (· < ds.length)
  let zeroInFront := !zeros && ds.head? == some 0 && 1 < ds.length
  let value := ds.foldl (fun n d => n * base + d) 0
  if ds.isEmpty || tooMany || zeroInFront || bound ≤ value then none else some (value, rest)

/-- A scan, with a separator in front unless it is the first of several. -/
def separated {α : Type} (first : Bool) (sep : Char) (scan : Scan α) : Scan α := fun cs =>
  if first then scan cs else (char sep cs).bind fun (_, cs) => scan cs

/-- The value of a scan that takes the whole text. -/
def whole {α : Type} (scan : Scan α) (s : String) : Option α :=
  match scan s.toList with
  | some (value, []) => some value
  | _ => none

end Scan

end RemoteConsole.Address
