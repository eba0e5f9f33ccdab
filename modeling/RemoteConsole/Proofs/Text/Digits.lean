import Mathlib.Data.Nat.Digits.Defs
import RemoteConsole.Proofs.Text.Decimal
import RemoteConsole.Text.Blank

/-!
# Numbers as digits

How a number is written in a base: by digits that make up the number, without a zero in front
(`exists_digits`). In base ten such a text is read back as the number it was written for, with a
minus sign if it is negative (`integer?_toString`). It has no blanks to trim.
-/

namespace RemoteConsole.Text

variable {base bound : Nat} {c : Char} {cs : List Char} {n : Nat} {i : Int} {s : String}

/-- The digits of a number, the highest first. -/
theorem exists_digits (hbase : 1 < base) (n : Nat) : ∃ digits : List Nat, digits ≠ [] ∧
    (∀ d ∈ digits, d < base) ∧ Nat.toDigits base n = digits.map Nat.digitChar ∧
      n = Nat.ofDigits base digits.reverse ∧ (digits.head? = some 0 → digits.length = 1) := by
  induction n using Nat.strong_induction_on with
  | _ n ih =>
    rcases Nat.lt_or_ge n base with hlt | hge
    · refine ⟨[n], by simp, by simpa using hlt, Nat.toDigits_of_lt_base hlt, ?_, fun _ => rfl⟩
      rw [List.reverse_singleton, Nat.ofDigits_singleton]
    · have hpos : 0 < n / base := Nat.div_pos hge (by omega)
      obtain ⟨digits, hne, hdigits, hwritten, hvalue, hhead⟩ :=
        ih (n / base) (Nat.div_lt_self (by omega) hbase)
      refine ⟨digits ++ [n % base], by simp, ?_, ?_, ?_, fun h => ?_⟩
      · rw [List.forall_mem_append, List.forall_mem_singleton]
        exact ⟨hdigits, Nat.mod_lt n (by omega)⟩
      · rw [Nat.toDigits_of_base_le hbase hge, hwritten, List.map_append, List.map_singleton]
      · rw [List.reverse_append, List.reverse_singleton, List.singleton_append, Nat.ofDigits_cons,
          ← hvalue]
        exact (Nat.mod_add_div n base).symm
      · -- Only zero has a zero in front, but there is more than one digit.
        obtain ⟨d, ds, rfl⟩ := List.exists_cons_of_ne_nil hne
        obtain rfl : d = 0 := Option.some.inj h
        obtain rfl : ds = [] := List.length_eq_zero_iff.mp (Nat.succ.inj (hhead rfl))
        rw [List.reverse_singleton, Nat.ofDigits_singleton] at hvalue
        omega

theorem isDecimal_toDigits (n : Nat) : IsDecimal (Nat.toDigits 10 n) n := by
  obtain ⟨digits, hne, hdigits, hwritten, hvalue, -⟩ := exists_digits (by decide : 1 < 10) n
  exact ⟨digits, hne, hdigits, hwritten, hvalue⟩

/-- The text of a whole number. -/
theorem toList_toString (i : Int) : (toString i).toList =
    if 0 ≤ i then Nat.toDigits 10 i.toNat else '-' :: Nat.toDigits 10 (-i).toNat := by
  change i.repr.toList = _
  rw [Int.repr_eq_if]
  split_ifs
  · exact Nat.toList_repr
  · rw [String.toList_append, Nat.toList_repr]
    rfl

theorem digits?_toDigits (n : Nat) : digits? (Nat.toDigits 10 n) = some n :=
  digits?_eq_some_iff.mpr (isDecimal_toDigits n)

/-- A whole number is read back from its text. -/
theorem integer?_toString (hlow : -(bound : Int) ≤ i) (hhigh : i < bound) :
    integer? bound (toString i) = some i := by
  have hfilter : (some i).filter (fun n => -Int.ofNat bound ≤ n && n < Int.ofNat bound) = some i :=
    Option.filter_some_pos (by simpa using ⟨hlow, hhigh⟩)
  rw [integer?, toList_toString]
  split_ifs with hsign
  · -- A number that is not negative has no sign.
    have hdigits := digits?_toDigits i.toNat
    have hvalue : (some i.toNat).map Int.ofNat = some i := by
      rw [Option.map_some, Int.ofNat_eq_natCast, Int.toNat_of_nonneg hsign]
    split
    · rename_i cs hplus
      exact absurd (hplus ▸ isDecimal_toDigits i.toNat) (not_isDecimal_cons rfl)
    · rename_i cs hminus
      exact absurd (hminus ▸ isDecimal_toDigits i.toNat) (not_isDecimal_cons rfl)
    · rw [hdigits, hvalue, hfilter]
  · have hvalue : (some (-i).toNat).map (fun n => -Int.ofNat n) = some i := by
      rw [Option.map_some, Int.ofNat_eq_natCast, Int.toNat_of_nonneg (by omega), neg_neg]
    change Option.filter _ ((digits? (Nat.toDigits 10 (-i).toNat)).map fun n => -Int.ofNat n) = _
    rw [digits?_toDigits, hvalue, hfilter]

/-- The text of a whole number has digits and perhaps a sign. -/
theorem mem_toString (h : c ∈ (toString i).toList) : c = '-' ∨ ∃ d < 10, c = Nat.digitChar d := by
  have hdigit (n : Nat) (hc : c ∈ Nat.toDigits 10 n) : ∃ d < 10, c = Nat.digitChar d := by
    obtain ⟨digits, -, hdigits, hwritten, -⟩ := isDecimal_toDigits n
    rw [hwritten] at hc
    obtain ⟨d, hd, rfl⟩ := List.mem_map.mp hc
    exact ⟨d, hdigits d hd, rfl⟩
  rw [toList_toString] at h
  split_ifs at h
  · exact .inr (hdigit _ h)
  · exact (List.mem_cons.mp h).imp_right (hdigit _)

theorem dropWhile_isBlank_eq_self (h : ∀ c ∈ cs, isBlank c = false) :
    cs.dropWhile isBlank = cs := by
  cases cs with
  | nil => rfl
  | cons c cs => exact List.dropWhile_cons_of_neg (by simp [h c List.mem_cons_self])

/-- A text without blanks is not changed by trimming. -/
theorem trim_eq_self (h : ∀ c ∈ s.toList, isBlank c = false) : trim s = s := by
  have hreverse : ∀ c ∈ s.toList.reverse, isBlank c = false := fun c hc =>
    h c (List.mem_reverse.mp hc)
  rw [trim, dropBlankEnd, dropWhile_isBlank_eq_self h, dropWhile_isBlank_eq_self hreverse,
    List.reverse_reverse, String.ofList_toList]

end RemoteConsole.Text
