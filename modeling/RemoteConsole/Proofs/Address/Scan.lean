import Mathlib.Data.List.Basic
import RemoteConsole.Address.Scan
import RemoteConsole.Proofs.Text.Digits

/-!
# Scanning what was written

A number that is written in a base is scanned as itself, as long as no other digit follows
(`number_toDigits`). Whatever else a text may be, a scan only takes characters off its front that it
has a use for (`Takes`): a number takes digits, and so it never passes a separator.
-/

namespace RemoteConsole.Address.Scan

variable {α β : Type} {base base' bound n d : Nat} {maxDigits : Option Nat} {zeros first : Bool}
  {c sep : Char} {cs rest : List Char} {scan : Scan α} {f : α → Scan β} {P : Char → Prop}

/-- A text does not go on with a digit. -/
def NoDigit (base : Nat) (rest : List Char) : Prop :=
  ∀ c ∈ rest.head?, digit? base c = none

/-- Whatever a scan takes off the front of a text are characters with a property. -/
def Takes (scan : Scan α) (P : Char → Prop) : Prop :=
  ∀ cs a rest, scan cs = some (a, rest) → ∃ used, cs = used ++ rest ∧ ∀ c ∈ used, P c

/-! ## Digits -/

theorem digit?_digitChar (hbase : base ≤ 16) (hd : d < base) :
    digit? base (Nat.digitChar d) = some d := by
  have values : ∀ d < 16, digit? 16 (Nat.digitChar d) = some d := by decide
  have hvalue := values d (Nat.lt_of_lt_of_le hd hbase)
  unfold digit? at hvalue ⊢
  obtain ⟨hvalue, -⟩ := Option.filter_eq_some_iff.mp hvalue
  exact Option.filter_eq_some_iff.mpr ⟨hvalue, decide_eq_true hd⟩

/-- A digit is one in a larger base, too. -/
theorem digit?_eq_none_of_le (hle : base ≤ base') (h : digit? base' c = none) :
    digit? base c = none := by
  unfold digit? at h ⊢
  rw [Option.filter_eq_none_iff] at h ⊢
  intro value hvalue hlt
  exact h value hvalue (decide_eq_true (Nat.lt_of_lt_of_le (of_decide_eq_true hlt) hle))

theorem noDigit_nil : NoDigit base [] :=
  fun _ hc => nomatch hc

theorem noDigit_cons : NoDigit base (c :: rest) ↔ digit? base c = none := by
  simp [NoDigit]

theorem NoDigit.of_le (hle : base ≤ base') (h : NoDigit base' rest) : NoDigit base rest :=
  fun c hc => digit?_eq_none_of_le hle (h c hc)

theorem digits_of_noDigit (h : NoDigit base rest) : digits base rest = ([], rest) := by
  cases rest with
  | nil => rfl
  | cons c rest => rw [digits, noDigit_cons.mp h]

theorem digits_append {ds : List Nat} (hbase : base ≤ 16) (hds : ∀ d ∈ ds, d < base)
    (h : NoDigit base rest) : digits base (ds.map Nat.digitChar ++ rest) = (ds, rest) := by
  induction ds with
  | nil => exact digits_of_noDigit h
  | cons d ds ih =>
    obtain ⟨hd, hds⟩ := List.forall_mem_cons.mp hds
    rw [List.map_cons, List.cons_append, digits, digit?_digitChar hbase hd]
    dsimp only
    rw [ih hds]

/-- What is left after the digits is the end of the text. -/
theorem exists_digits (cs : List Char) :
    ∃ used, cs = used ++ (digits base cs).2 ∧ ∀ c ∈ used, digit? base c ≠ none := by
  induction cs with
  | nil => exact ⟨[], rfl, by simp⟩
  | cons c cs ih =>
    rw [digits]
    split
    · exact ⟨[], rfl, by simp⟩
    · rename_i d hd
      obtain ⟨used, hcs, hused⟩ := ih
      refine ⟨c :: used, congrArg (c :: ·) hcs, List.forall_mem_cons.mpr ⟨?_, hused⟩⟩
      rw [hd]
      exact Option.some_ne_none d

/-! ## Numbers -/

/-- A number is scanned as it was written. -/
theorem number_toDigits (hbase : 1 < base) (hbase' : base ≤ 16) (hbound : n < bound)
    (hdigits : ∀ k ∈ maxDigits, 0 < k ∧ n < base ^ k) (h : NoDigit base rest) :
    number base maxDigits zeros bound (Nat.toDigits base n ++ rest) = some (n, rest) := by
  obtain ⟨ds, hne, hds, hwritten, hvalue, hhead⟩ := Text.exists_digits hbase n
  have hlength : (Nat.toDigits base n).length = ds.length := by rw [hwritten, List.length_map]
  have hfold : ds.foldl (fun n d => n * base + d) 0 = n := by
    rw [hvalue, Nat.ofDigits_eq_foldr, List.foldr_reverse]
    simp only [Nat.cast_id, Nat.mul_comm base, Nat.add_comm]
  have hmany : maxDigits.any (· < ds.length) = false := by
    cases maxDigits with
    | none => rfl
    | some k =>
      obtain ⟨hk, hlt⟩ := hdigits k rfl
      have hle := (Nat.length_toDigits_le_iff hbase hk).mpr hlt
      exact decide_eq_false (by omega)
  have hzero : (!zeros && ds.head? == some 0 && decide (1 < ds.length)) = false := by
    rcases eq_or_ne ds.head? (some 0) with h | h
    · simp [hhead h]
    · simp [h]
  rw [number, hwritten, digits_append hbase' hds h]
  simp [hmany, hzero, hfold, hne, hbound]

/-- A number has a digit. -/
theorem number_of_noDigit (h : NoDigit base rest) :
    number base maxDigits zeros bound rest = none := by
  rw [number, digits_of_noDigit h]
  simp

/-- A number takes all digits that there are. -/
theorem rest_of_number (h : number base maxDigits zeros bound cs = some (n, rest)) :
    rest = (digits base cs).2 := by
  rw [number] at h
  dsimp only at h
  split_ifs at h
  exact (congrArg Prod.snd (Option.some.inj h)).symm

/-! ## What a scan takes -/

theorem Takes.mono {Q : Char → Prop} (h : Takes scan P) (hPQ : ∀ c, P c → Q c) : Takes scan Q := by
  intro cs a rest hscan
  obtain ⟨used, hcs, hused⟩ := h cs a rest hscan
  exact ⟨used, hcs, fun c hc => hPQ c (hused c hc)⟩

theorem takes_pure (a : α) : Takes (fun cs => some (a, cs)) P := by
  rintro cs a rest ⟨⟩
  exact ⟨[], rfl, by simp⟩

theorem Takes.bind (h : Takes scan P) (hf : ∀ a, Takes (f a) P) :
    Takes (fun cs => (scan cs).bind fun (a, cs) => f a cs) P := by
  intro cs b rest hboth
  obtain ⟨⟨a, cs'⟩, hscan, hthen⟩ := Option.bind_eq_some_iff.mp hboth
  obtain ⟨used, rfl, hused⟩ := h cs a cs' hscan
  obtain ⟨used', rfl, hused'⟩ := hf a cs' b rest hthen
  exact ⟨used ++ used', (List.append_assoc ..).symm, List.forall_mem_append.mpr ⟨hused, hused'⟩⟩

theorem char_eq_some_iff {u : Unit} : char c cs = some (u, rest) ↔ cs = c :: rest := by
  cases cs with
  | nil => simp [char]
  | cons d cs =>
    rw [char]
    split_ifs with hd
    · simp [hd]
    · simp [hd]

theorem takes_char (hP : P c) : Takes (char c) P := by
  intro cs u rest hscan
  exact ⟨[c], char_eq_some_iff.mp hscan, by simpa using hP⟩

theorem takes_number : Takes (number base maxDigits zeros bound) fun c => digit? base c ≠ none := by
  intro cs n rest hscan
  rw [rest_of_number hscan]
  exact exists_digits cs

@[simp] theorem separated_true : separated true sep scan = scan :=
  rfl

@[simp] theorem separated_false_cons : separated false sep scan (sep :: cs) = scan cs := by
  simp [separated, char]

theorem separated_false_eq_some_iff {a : α} : separated false sep scan cs = some (a, rest) ↔
    ∃ cs', cs = sep :: cs' ∧ scan cs' = some (a, rest) := by
  simp [separated, Option.bind_eq_some_iff, char_eq_some_iff]

theorem separated_false_eq_none (h : ∀ cs', cs = sep :: cs' → scan cs' = none) :
    separated false sep scan cs = none := by
  refine Option.eq_none_iff_forall_ne_some.mpr fun (a, rest) hscan => ?_
  obtain ⟨cs', hcs, hscan⟩ := separated_false_eq_some_iff.mp hscan
  rw [h cs' hcs] at hscan
  cases hscan

theorem Takes.separated (h : Takes scan P) (hsep : P sep) : Takes (separated first sep scan) P := by
  cases first with
  | true => exact h
  | false => exact (takes_char hsep).bind fun _ => h

/-- A scan that comes after another one takes a separator. -/
theorem one_le_count_of_separated {a : α} (h : Takes scan P)
    (hscan : separated first sep scan cs = some (a, rest)) :
    ∃ used, cs = used ++ rest ∧ 1 ≤ used.count sep + first.toNat := by
  cases first with
  | true =>
    obtain ⟨used, hcs, -⟩ := h cs a rest hscan
    exact ⟨used, hcs, Nat.le_add_left ..⟩
  | false =>
    obtain ⟨cs', rfl, hafter⟩ := separated_false_eq_some_iff.mp hscan
    obtain ⟨used, rfl, -⟩ := h cs' a rest hafter
    exact ⟨sep :: used, rfl, by simp⟩

end RemoteConsole.Address.Scan
