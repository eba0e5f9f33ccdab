import Mathlib.Data.Nat.Digits.Defs
import RemoteConsole.Text.Decimal

/-!
# Decimal numbers

Which texts are read as a number, and as which one: a plus sign or none, and then the number's
digits, the highest first and perhaps after some zeros (`natural?_eq_some_iff`).
-/

namespace RemoteConsole.Text

variable {c : Char} {cs : List Char} {d n value bound : Nat} {s : String}

/-- Some characters are decimal digits, the highest first, and these make up a number. -/
def IsDecimal (cs : List Char) (n : Nat) : Prop :=
  ∃ digits : List Nat, digits ≠ [] ∧ (∀ d ∈ digits, d < 10) ∧ cs = digits.map Nat.digitChar ∧
    n = Nat.ofDigits 10 digits.reverse

/-- A text writes a number in decimal, with a plus sign or without. -/
def Writes (s : String) (n : Nat) : Prop :=
  IsDecimal s.toList n ∨ ∃ cs, s.toList = '+' :: cs ∧ IsDecimal cs n

theorem digit?_eq_some_iff : digit? c = some d ↔ d < 10 ∧ c = Nat.digitChar d := by
  have hzero : '0'.toNat = 48 := rfl
  rw [digit?, Option.ite_none_right_eq_some, Bool.and_eq_true, decide_eq_true_iff,
    decide_eq_true_iff]
  constructor
  · rintro ⟨⟨hlow, hhigh⟩, hd⟩
    have hlow' : 48 ≤ c.toNat := hlow
    have hhigh' : c.toNat ≤ 57 := hhigh
    have hlt : d < 10 := by
      have := Option.some.inj hd
      omega
    refine ⟨hlt, Char.toNat_inj.mp ?_⟩
    rw [Nat.toNat_digitChar_of_lt_ten hlt]
    have := Option.some.inj hd
    omega
  · rintro ⟨hlt, rfl⟩
    have hvalue := Nat.toNat_digitChar_of_lt_ten hlt
    refine ⟨⟨?_, ?_⟩, ?_⟩
    · change 48 ≤ (Nat.digitChar d).toNat
      omega
    · change (Nat.digitChar d).toNat ≤ 57
      omega
    · rw [hvalue, hzero, Nat.add_sub_cancel_left]

/-- Digits after some others are worth as much as they say. -/
theorem digitsFrom_eq_some_iff : digitsFrom value cs = some n ↔
    ∃ digits : List Nat, (∀ d ∈ digits, d < 10) ∧ cs = digits.map Nat.digitChar ∧
      n = Nat.ofDigits 10 digits.reverse + 10 ^ digits.length * value := by
  induction cs generalizing value with
  | nil =>
    rw [digitsFrom, Option.some.injEq]
    constructor
    · rintro rfl
      exact ⟨[], by simp⟩
    · rintro ⟨digits, -, hnil, rfl⟩
      obtain rfl := List.map_eq_nil_iff.mp hnil.symm
      simp
  | cons c cs ih =>
    -- The digits before `c` are worth ten times as much once `c` comes after them.
    have hvalue (d : Nat) (digits : List Nat) :
        Nat.ofDigits 10 (d :: digits).reverse + 10 ^ (d :: digits).length * value =
          Nat.ofDigits 10 digits.reverse + 10 ^ digits.length * (10 * value + d) := by
      rw [List.reverse_cons, Nat.ofDigits_append, Nat.ofDigits_singleton, List.length_reverse,
        List.length_cons, Nat.pow_succ]
      ring
    rw [digitsFrom, Option.bind_eq_some_iff]
    constructor
    · rintro ⟨d, hd, hrest⟩
      obtain ⟨hlt, rfl⟩ := digit?_eq_some_iff.mp hd
      obtain ⟨digits, hdigits, rfl, rfl⟩ := ih.mp hrest
      exact ⟨d :: digits, List.forall_mem_cons.mpr ⟨hlt, hdigits⟩, rfl, (hvalue d digits).symm⟩
    · rintro ⟨digits, hdigits, hcs, rfl⟩
      obtain ⟨d, digits, rfl, rfl, rfl⟩ := List.map_eq_cons_iff.mp hcs.symm
      obtain ⟨hlt, hrest⟩ := List.forall_mem_cons.mp hdigits
      exact ⟨d, digit?_eq_some_iff.mpr ⟨hlt, rfl⟩,
        ih.mpr ⟨digits, hrest, rfl, hvalue d digits⟩⟩

theorem digits?_eq_some_iff : digits? cs = some n ↔ IsDecimal cs n := by
  cases cs with
  | nil =>
    refine ⟨nofun, fun ⟨digits, hne, _, hnil, _⟩ => ?_⟩
    exact absurd (List.map_eq_nil_iff.mp hnil.symm) hne
  | cons c cs =>
    rw [digits?, digitsFrom_eq_some_iff]
    constructor
    · rintro ⟨digits, hdigits, hcs, hn⟩
      have hne : digits ≠ [] := by
        rintro rfl
        cases hcs
      rw [Nat.mul_zero, Nat.add_zero] at hn
      exact ⟨digits, hne, hdigits, hcs, hn⟩
    · rintro ⟨digits, -, hdigits, hcs, hn⟩
      rw [← Nat.add_zero (Nat.ofDigits _ _), ← Nat.mul_zero (10 ^ digits.length)] at hn
      exact ⟨digits, hdigits, hcs, hn⟩

/-- A number starts with a digit. -/
theorem not_isDecimal_cons (hc : digit? c = none) : ¬ IsDecimal (c :: cs) n := by
  rintro ⟨digits, -, hdigits, hcs, -⟩
  obtain ⟨d, digits, rfl, hd, -⟩ := List.map_eq_cons_iff.mp hcs.symm
  rw [digit?_eq_some_iff.mpr ⟨hdigits d List.mem_cons_self, hd.symm⟩] at hc
  cases hc

theorem natural?_eq_some_iff : natural? bound s = some n ↔ Writes s n ∧ n < bound := by
  rw [natural?, Option.filter_eq_some_iff, decide_eq_true_iff]
  refine and_congr_left fun _ => ?_
  rw [Writes]
  split
  · rename_i cs hplus
    rw [digits?_eq_some_iff]
    constructor
    · exact fun h => .inr ⟨cs, hplus, h⟩
    · rintro (h | ⟨cs', hcs', h⟩)
      · exact absurd (hplus ▸ h) (not_isDecimal_cons rfl)
      · rw [hplus] at hcs'
        exact (List.cons.inj hcs').2 ▸ h
  · rename_i hplus
    rw [digits?_eq_some_iff]
    refine ⟨.inl, fun h => h.resolve_right ?_⟩
    rintro ⟨cs, hcs, -⟩
    exact hplus cs hcs

end RemoteConsole.Text
