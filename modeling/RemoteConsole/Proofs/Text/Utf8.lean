import RemoteConsole.Text.Utf8
import Mathlib.Tactic.SplitIfs

/-!
# UTF-8 there and back

Reading gives back what was written (`decode_encode`), and whatever can be read is what writing its
text gives (`encode_of_decode`), so a text has one byte string and no other. The first goes by the
four lengths of a character. The second follows the reader byte by byte: `Opens` collects the bytes
of a character that is not complete yet, at most three of them. A text has as many bytes as
characters if it is one of ASCII, and more otherwise (`length_flatMap_encodeChar_eq_iff`).
-/

namespace RemoteConsole.Text.Utf8

/-- A byte written from a number that fits is read as that number. -/
theorem toNat_byte {n : Nat} (h : n < 256) : (UInt8.ofNat n).toNat = n := by
  simpa using Nat.mod_eq_of_lt h

/-- A byte is the one that is written from its number. -/
theorem eq_byte {n : Nat} {b : UInt8} (h : b.toNat = n) : b = UInt8.ofNat n := by
  rw [← h, UInt8.ofNat_toNat]

/-- The numbers of characters leave out the surrogates and end at `10FFFF`. -/
theorem range_toNat (c : Char) : c.toNat < 0xD800 ∨ 0xDFFF < c.toNat ∧ c.toNat < 0x110000 :=
  c.valid

/-- A number outside of the surrogates and below `110000` is that of a character. -/
theorem toNat_ofNat_of_range {n : Nat} (h : n < 0xD800 ∨ 0xDFFF < n ∧ n < 0x110000) :
    (Char.ofNat n).toNat = n := by
  have hvalid : n.isValidChar := h
  rw [Char.ofNat, dif_pos hvalid]
  rfl

/-- A byte of ASCII is a character of its own. -/
theorem start_ascii {n : Nat} (h : n < 0x80) : start (UInt8.ofNat n) = .done (Char.ofNat n) := by
  unfold start
  rw [toNat_byte (by omega), if_pos h]

theorem start_two {k : Nat} (h2 : 2 ≤ k) (hk : k < 0x20) :
    start (UInt8.ofNat (0xC0 + k)) = .more ⟨k, 1, 0, 0x80, 0xBF⟩ := by
  unfold start
  rw [toNat_byte (by omega), if_neg (by omega), if_neg (by omega), if_pos (by omega),
    Nat.add_sub_cancel_left]

theorem start_three {k : Nat} (hk : k < 0x10) :
    start (UInt8.ofNat (0xE0 + k)) =
      .more ⟨k, 1, 1, if k = 0 then 0xA0 else 0x80, if k = 0xD then 0x9F else 0xBF⟩ := by
  unfold start
  rw [toNat_byte (by omega), if_neg (by omega), if_neg (by omega), if_neg (by omega),
    if_pos (by omega), Nat.add_sub_cancel_left]
  have h0 : (0xE0 + k = 0xE0) = (k = 0) := by simp
  have hD : (0xE0 + k = 0xED) = (k = 0xD) := by simp; omega
  simp only [h0, hD]

theorem start_four {k : Nat} (hk : k < 5) :
    start (UInt8.ofNat (0xF0 + k)) =
      .more ⟨k, 1, 2, if k = 0 then 0x90 else 0x80, if k = 4 then 0x8F else 0xBF⟩ := by
  unfold start
  rw [toNat_byte (by omega), if_neg (by omega), if_neg (by omega), if_neg (by omega),
    if_neg (by omega), if_pos (by omega), Nat.add_sub_cancel_left]
  have h0 : (0xF0 + k = 0xF0) = (k = 0) := by simp
  have h4 : (0xF0 + k = 0xF4) = (k = 4) := by simp; omega
  simp only [h0, h4]

/-- A further byte that may come next. -/
theorem Partial.add_byte (p : Partial) {k : Nat} (hk : k < 0x40)
    (hlow : p.low ≤ 0x80 + k) (hhigh : 0x80 + k ≤ p.high) :
    p.add (UInt8.ofNat (0x80 + k)) =
      match p.missing with
      | 0 => .done (Char.ofNat (p.value * 0x40 + k))
      | m + 1 => .more ⟨p.value * 0x40 + k, p.taken + 1, m, 0x80, 0xBF⟩ := by
  rw [Partial.add, toNat_byte (by omega), Nat.add_sub_cancel_left]
  exact if_pos ⟨hlow, hhigh⟩

variable {index : Nat} {rest : List UInt8}

/-- Reading a character of one byte. -/
theorem decodeFrom_one {n : Nat} (h : n < 0x80) :
    decodeFrom index none (UInt8.ofNat n :: rest) =
      (decodeFrom (index + 1) none rest).map (Char.ofNat n :: ·) := by
  rw [decodeFrom, start_ascii h]

theorem decodeFrom_two {a b : Nat} (h2 : 2 ≤ a) (ha : a < 0x20) (hb : b < 0x40) :
    decodeFrom index none (UInt8.ofNat (0xC0 + a) :: UInt8.ofNat (0x80 + b) :: rest) =
      (decodeFrom (index + 2) none rest).map (Char.ofNat (a * 0x40 + b) :: ·) := by
  rw [decodeFrom, start_two h2 ha]
  dsimp only
  rw [decodeFrom, Partial.add_byte _ hb (by simp) (by simp; omega)]

theorem decodeFrom_three {a b c : Nat} (ha : a < 0x10) (hb : b < 0x40) (hc : c < 0x40)
    (hlong : a = 0 → 0x20 ≤ b) (hsurrogate : a = 0xD → b < 0x20) :
    decodeFrom index none
        (UInt8.ofNat (0xE0 + a) :: UInt8.ofNat (0x80 + b) :: UInt8.ofNat (0x80 + c) :: rest) =
      (decodeFrom (index + 3) none rest).map (Char.ofNat ((a * 0x40 + b) * 0x40 + c) :: ·) := by
  rw [decodeFrom, start_three ha]
  dsimp only
  rw [decodeFrom, Partial.add_byte _ hb (by dsimp only; split_ifs <;> omega)
    (by dsimp only; split_ifs <;> omega)]
  dsimp only
  rw [decodeFrom, Partial.add_byte _ hc (by simp) (by simp; omega)]

theorem decodeFrom_four {a b c d : Nat} (ha : a < 5) (hb : b < 0x40) (hc : c < 0x40) (hd : d < 0x40)
    (hlong : a = 0 → 0x10 ≤ b) (hlast : a = 4 → b < 0x10) :
    decodeFrom index none
        (UInt8.ofNat (0xF0 + a) :: UInt8.ofNat (0x80 + b) :: UInt8.ofNat (0x80 + c) ::
          UInt8.ofNat (0x80 + d) :: rest) =
      (decodeFrom (index + 4) none rest).map
        (Char.ofNat (((a * 0x40 + b) * 0x40 + c) * 0x40 + d) :: ·) := by
  rw [decodeFrom, start_four ha]
  dsimp only
  rw [decodeFrom, Partial.add_byte _ hb (by dsimp only; split_ifs <;> omega)
    (by dsimp only; split_ifs <;> omega)]
  dsimp only
  rw [decodeFrom, Partial.add_byte _ hc (by simp) (by simp; omega)]
  dsimp only
  rw [decodeFrom, Partial.add_byte _ hd (by simp) (by simp; omega)]

/-- The bytes of a character are read back as it, and what follows them is read as before. -/
theorem decodeFrom_encodeChar (index : Nat) (c : Char) (rest : List UInt8) :
    decodeFrom index none (encodeChar c ++ rest) =
      (decodeFrom (index + (encodeChar c).length) none rest).map (c :: ·) := by
  have hc := range_toNat c
  have hback := c.ofNat_toNat
  generalize hn : c.toNat = n at hc hback
  unfold encodeChar
  simp only [hn]
  subst hback
  -- In each range the digits of the number to base 64 are the bytes' payloads, and add up to it.
  split_ifs with h1 h2 h3
  · exact decodeFrom_one h1
  · refine (decodeFrom_two (by omega) (by omega) (by omega)).trans ?_
    have hv : n / 0x40 * 0x40 + n % 0x40 = n := by omega
    rw [hv]
    rfl
  · refine (decodeFrom_three (by omega) (by omega) (by omega) (by omega) (by omega)).trans ?_
    have hv : (n / 0x1000 * 0x40 + n / 0x40 % 0x40) * 0x40 + n % 0x40 = n := by omega
    rw [hv]
    rfl
  · refine (decodeFrom_four (by omega) (by omega) (by omega) (by omega) (by omega)
      (by omega)).trans ?_
    have hv : ((n / 0x40000 * 0x40 + n / 0x1000 % 0x40) * 0x40 + n / 0x40 % 0x40) * 0x40 +
        n % 0x40 = n := by omega
    rw [hv]
    rfl

/-- The bytes of some characters are read back as them. -/
theorem decodeFrom_flatMap_encodeChar (index : Nat) (cs : List Char) :
    decodeFrom index none (cs.flatMap encodeChar) = .ok cs := by
  induction cs generalizing index with
  | nil => rfl
  | cons c cs ih => rw [List.flatMap_cons, decodeFrom_encodeChar, ih, Except.map]

/-- Reading gives back the text that was written. -/
theorem decode_encode (s : String) : decode (encode s) = .ok s := by
  rw [decode, encode, decodeFrom_flatMap_encodeChar, Except.map, String.ofList_toList]

/-- Writing a character of one byte. -/
theorem encodeChar_ascii {c : Char} (h : c.toNat < 0x80) : encodeChar c = [UInt8.ofNat c.toNat] :=
  if_pos h

/-- Writing a character of two bytes. -/
theorem encodeChar_two {a b : Nat} (h2 : 2 ≤ a) (ha : a < 0x20) (hb : b < 0x40) :
    encodeChar (Char.ofNat (a * 0x40 + b)) = [UInt8.ofNat (0xC0 + a), UInt8.ofNat (0x80 + b)] := by
  unfold encodeChar
  rw [toNat_ofNat_of_range (by omega)]
  dsimp only
  rw [if_neg (by omega), if_pos (by omega)]
  congr <;> omega

theorem encodeChar_three {a b c : Nat} (ha : a < 0x10) (hb : b < 0x40) (hc : c < 0x40)
    (hlong : a = 0 → 0x20 ≤ b) (hsurrogate : a = 0xD → b < 0x20) :
    encodeChar (Char.ofNat ((a * 0x40 + b) * 0x40 + c)) =
      [UInt8.ofNat (0xE0 + a), UInt8.ofNat (0x80 + b), UInt8.ofNat (0x80 + c)] := by
  unfold encodeChar
  rw [toNat_ofNat_of_range (by omega)]
  dsimp only
  rw [if_neg (by omega), if_neg (by omega), if_pos (by omega)]
  congr <;> omega

theorem encodeChar_four {a b c d : Nat} (ha : a < 5) (hb : b < 0x40) (hc : c < 0x40) (hd : d < 0x40)
    (hlong : a = 0 → 0x10 ≤ b) (hlast : a = 4 → b < 0x10) :
    encodeChar (Char.ofNat (((a * 0x40 + b) * 0x40 + c) * 0x40 + d)) =
      [UInt8.ofNat (0xF0 + a), UInt8.ofNat (0x80 + b), UInt8.ofNat (0x80 + c),
        UInt8.ofNat (0x80 + d)] := by
  unfold encodeChar
  rw [toNat_ofNat_of_range (by omega)]
  dsimp only
  rw [if_neg (by omega), if_neg (by omega), if_neg (by omega)]
  congr <;> omega

/-- The bytes of a character that is not complete, with what is read of it. There are six ways to be
inside a character. -/
inductive Opens : List UInt8 → Partial → Prop where
  /-- After the first of two bytes. -/
  | two {a : Nat} (h2 : 2 ≤ a) (ha : a < 0x20) :
    Opens [UInt8.ofNat (0xC0 + a)] ⟨a, 1, 0, 0x80, 0xBF⟩
  /-- After the first of three bytes. -/
  | three {a : Nat} (ha : a < 0x10) :
    Opens [UInt8.ofNat (0xE0 + a)]
      ⟨a, 1, 1, if a = 0 then 0xA0 else 0x80, if a = 0xD then 0x9F else 0xBF⟩
  /-- After the second of three bytes. -/
  | threeTwo {a b : Nat} (ha : a < 0x10) (hb : b < 0x40) (hlong : a = 0 → 0x20 ≤ b)
      (hsurrogate : a = 0xD → b < 0x20) :
    Opens [UInt8.ofNat (0xE0 + a), UInt8.ofNat (0x80 + b)] ⟨a * 0x40 + b, 2, 0, 0x80, 0xBF⟩
  /-- After the first of four bytes. -/
  | four {a : Nat} (ha : a < 5) :
    Opens [UInt8.ofNat (0xF0 + a)]
      ⟨a, 1, 2, if a = 0 then 0x90 else 0x80, if a = 4 then 0x8F else 0xBF⟩
  /-- After the second of four bytes. -/
  | fourTwo {a b : Nat} (ha : a < 5) (hb : b < 0x40) (hlong : a = 0 → 0x10 ≤ b)
      (hlast : a = 4 → b < 0x10) :
    Opens [UInt8.ofNat (0xF0 + a), UInt8.ofNat (0x80 + b)] ⟨a * 0x40 + b, 2, 1, 0x80, 0xBF⟩
  /-- After the third of four bytes. -/
  | fourThree {a b c : Nat} (ha : a < 5) (hb : b < 0x40) (hc : c < 0x40) (hlong : a = 0 → 0x10 ≤ b)
      (hlast : a = 4 → b < 0x10) :
    Opens [UInt8.ofNat (0xF0 + a), UInt8.ofNat (0x80 + b), UInt8.ofNat (0x80 + c)]
      ⟨(a * 0x40 + b) * 0x40 + c, 3, 0, 0x80, 0xBF⟩

/-- A byte that is a character of its own is what writing the character gives. -/
theorem encodeChar_of_start {b : UInt8} {c : Char} (h : start b = .done c) :
    encodeChar c = [b] := by
  have hb : b.toNat < 0x80 := by
    unfold start at h
    dsimp only at h
    split_ifs at h
    assumption
  rw [eq_byte (b := b) rfl, start_ascii hb] at h
  obtain rfl := Step.done.inj h
  have hc : (Char.ofNat b.toNat).toNat = b.toNat := toNat_ofNat_of_range (by omega)
  rw [encodeChar_ascii (by rwa [hc]), hc, UInt8.ofNat_toNat]

/-- A first byte opens a character. -/
theorem opens_of_start {b : UInt8} {p : Partial} (h : start b = .more p) : Opens [b] p := by
  have hb : 0xC2 ≤ b.toNat ∧ b.toNat < 0xF5 := by
    unfold start at h
    dsimp only at h
    split_ifs at h <;> omega
  -- The three ranges of first bytes, each shifted to start at zero.
  rcases Nat.lt_or_ge b.toNat 0xE0 with hE0 | hE0
  · obtain ⟨k, hk⟩ := Nat.exists_eq_add_of_le (show 0xC0 ≤ b.toNat by omega)
    rw [eq_byte hk, start_two (by omega) (by omega)] at h
    rw [eq_byte hk, ← Step.more.inj h]
    exact .two (by omega) (by omega)
  rcases Nat.lt_or_ge b.toNat 0xF0 with hF0 | hF0
  · obtain ⟨k, hk⟩ := Nat.exists_eq_add_of_le hE0
    rw [eq_byte hk, start_three (by omega)] at h
    rw [eq_byte hk, ← Step.more.inj h]
    exact .three (by omega)
  · obtain ⟨k, hk⟩ := Nat.exists_eq_add_of_le hF0
    rw [eq_byte hk, start_four (by omega)] at h
    rw [eq_byte hk, ← Step.more.inj h]
    exact .four (by omega)

/-- A byte that is not refused inside a character is in the range of further bytes. -/
theorem Partial.exists_of_add {p : Partial} {b : UInt8} (h : p.add b ≠ .refused)
    (hlow : 0x80 ≤ p.low) (hhigh : p.high ≤ 0xBF) :
    ∃ k, k < 0x40 ∧ b = UInt8.ofNat (0x80 + k) ∧ p.low ≤ 0x80 + k ∧ 0x80 + k ≤ p.high := by
  unfold Partial.add at h
  dsimp only at h
  split_ifs at h with hb
  · exact ⟨b.toNat - 0x80, by omega, eq_byte (by omega), by omega, by omega⟩
  · exact absurd rfl h

/-- The next byte inside a character is always a further byte. -/
theorem Opens.range {seen : List UInt8} {p : Partial} (opened : Opens seen p) :
    0x80 ≤ p.low ∧ p.high ≤ 0xBF := by
  cases opened <;> dsimp only <;> constructor <;> first | split_ifs <;> omega | omega

/-- What a further byte that is not refused makes of a character: one that is still open, or the
one that is written with the bytes so far. -/
theorem Opens.add {seen : List UInt8} {p : Partial} {b : UInt8} (opened : Opens seen p)
    (h : p.add b ≠ .refused) :
    (∃ p', p.add b = .more p' ∧ Opens (seen ++ [b]) p') ∨
      ∃ c, p.add b = .done c ∧ encodeChar c = seen ++ [b] := by
  obtain ⟨k, hk, rfl, hlow, hhigh⟩ :=
    Partial.exists_of_add h opened.range.1 opened.range.2
  rw [Partial.add_byte p hk hlow hhigh]
  cases opened with
  | two h2 ha => exact .inr ⟨_, rfl, encodeChar_two h2 ha hk⟩
  | three ha =>
    dsimp only at hlow hhigh
    refine .inl ⟨_, rfl, .threeTwo ha hk ?_ ?_⟩
    · split_ifs at hlow <;> omega
    · split_ifs at hhigh <;> omega
  | threeTwo ha hb hlong hsurrogate =>
    exact .inr ⟨_, rfl, encodeChar_three ha hb hk hlong hsurrogate⟩
  | four ha =>
    dsimp only at hlow hhigh
    refine .inl ⟨_, rfl, .fourTwo ha hk ?_ ?_⟩
    · split_ifs at hlow <;> omega
    · split_ifs at hhigh <;> omega
  | fourTwo ha hb hlong hlast => exact .inl ⟨_, rfl, .fourThree ha hb hk hlong hlast⟩
  | fourThree ha hb hc hlong hlast =>
    exact .inr ⟨_, rfl, encodeChar_four ha hb hc hk hlong hlast⟩

/-- The bytes that a reader has taken of the character it is in. -/
inductive Taken : List UInt8 → Option Partial → Prop where
  /-- Between characters there are none. -/
  | between : Taken [] none
  /-- Inside a character they are its first ones. -/
  | inside {seen : List UInt8} {p : Partial} (opened : Opens seen p) : Taken seen (some p)

/-- What is read from some point on is written back as the bytes there, after those of the character
that the point lies in. -/
theorem flatMap_encodeChar_of_decodeFrom {seen bytes : List UInt8} {state : Option Partial}
    {index : Nat} {cs : List Char} (taken : Taken seen state)
    (h : decodeFrom index state bytes = .ok cs) : cs.flatMap encodeChar = seen ++ bytes := by
  induction bytes generalizing index state seen cs with
  | nil =>
    cases taken with
    | between =>
      obtain rfl : [] = cs := Except.ok.inj h
      rfl
    | inside opened => cases h
  | cons b bytes ih =>
    -- A character that is complete with this byte comes before those that are read after it.
    have complete {c : Char} {i : Nat} (hc : encodeChar c = seen ++ [b])
        (h : (decodeFrom i none bytes).map (c :: ·) = .ok cs) :
        cs.flatMap encodeChar = seen ++ b :: bytes := by
      cases hr : decodeFrom i none bytes with
      | error fault =>
        rw [hr] at h
        cases h
      | ok cs' =>
        rw [hr] at h
        obtain rfl : c :: cs' = cs := Except.ok.inj h
        rw [List.flatMap_cons, hc, ih .between hr]
        simp
    cases taken with
    | between =>
      rw [decodeFrom] at h
      cases hs : start b with
      | done c =>
        rw [hs] at h
        exact complete (encodeChar_of_start hs) h
      | more p =>
        rw [hs] at h
        exact ih (.inside (opens_of_start hs)) h
      | refused =>
        rw [hs] at h
        cases h
    | @inside _ p opened =>
      -- A byte that were refused would have ended the reading with a fault.
      rw [decodeFrom] at h
      have hadd : p.add b ≠ .refused := fun hs => by
        rw [hs] at h
        cases h
      obtain ⟨p', hs, opened'⟩ | ⟨c, hs, hc⟩ := opened.add hadd
      · rw [hs] at h
        have hrest := ih (.inside opened') h
        rw [hrest, List.append_assoc, List.singleton_append]
      · rw [hs] at h
        exact complete hc h

/-- Writing what was read gives back the bytes. -/
theorem encode_of_decode {bytes : List UInt8} {s : String} (h : decode bytes = .ok s) :
    encode s = bytes := by
  unfold decode at h
  cases hr : decodeFrom 0 none bytes with
  | error fault =>
    rw [hr] at h
    cases h
  | ok cs =>
    rw [hr] at h
    obtain rfl : String.ofList cs = s := Except.ok.inj h
    rw [encode, String.toList_ofList]
    exact flatMap_encodeChar_of_decodeFrom .between hr

theorem encode_append (s t : String) : encode (s ++ t) = encode s ++ encode t := by
  simp [encode]

/-! ## How many bytes there are -/

/-- The number of a character decides how many bytes it has. -/
theorem length_encodeChar (c : Char) : (encodeChar c).length = c.utf8Size := by
  unfold encodeChar Char.utf8Size
  simp only [UInt32.le_iff_toNat_le]
  show _ = if c.toNat ≤ 0x7F then 1 else if c.toNat ≤ 0x7FF then 2 else
    if c.toNat ≤ 0xFFFF then 3 else 4
  split_ifs <;> first | rfl | omega

/-- Only the characters of ASCII have one byte. -/
theorem length_encodeChar_eq_one_iff {c : Char} : (encodeChar c).length = 1 ↔ c.toNat < 0x80 := by
  rw [length_encodeChar, Char.utf8Size_eq_one_iff, UInt32.le_iff_toNat_le]
  exact Nat.lt_succ_iff.symm

theorem length_encodeChar_pos (c : Char) : 0 < (encodeChar c).length := by
  rw [length_encodeChar]
  exact c.utf8Size_pos

/-- There are no fewer bytes than characters. -/
theorem length_le_flatMap_encodeChar (cs : List Char) :
    cs.length ≤ (cs.flatMap encodeChar).length := by
  induction cs with
  | nil => exact Nat.le_refl 0
  | cons c cs ih =>
    have hc := length_encodeChar_pos c
    rw [List.flatMap_cons, List.length_append, List.length_cons]
    omega

/-- There are as many bytes as characters exactly if the characters are all of ASCII. -/
theorem length_flatMap_encodeChar_eq_iff {cs : List Char} :
    (cs.flatMap encodeChar).length = cs.length ↔ ∀ c ∈ cs, c.toNat < 0x80 := by
  induction cs with
  | nil => simp
  | cons c cs ih =>
    -- Neither the first character nor the others can make up for a byte too many.
    have hc := length_encodeChar_pos c
    have hcs := length_le_flatMap_encodeChar cs
    rw [List.flatMap_cons, List.length_append, List.length_cons, List.forall_mem_cons, ← ih,
      ← length_encodeChar_eq_one_iff]
    omega

end RemoteConsole.Text.Utf8
