import RemoteConsole.Proofs.Text.Utf8

/-!
# Reading a text that may not be UTF-8

Where bytes can be read at all, replacing what cannot be read changes nothing
(`decodeLossy_of_decode`), so a text is read back as it was written (`decodeLossy_encode`). No bytes
are read as no text, and only those (`decodeLossy_eq_empty_iff`). A zero byte is written for the zero
character, and for no other (`zero_mem_encode_iff`), which is why it can end a text.
-/

namespace RemoteConsole.Text.Utf8

variable {index : Nat} {state : Option Partial} {bytes : List UInt8} {cs : List Char} {s : String}

/-- What is read before some more characters, if it can be read. -/
theorem exists_of_map_cons {c : Char} {r : Except Fault (List Char)}
    (h : r.map (c :: ·) = .ok cs) : ∃ cs', r = .ok cs' ∧ c :: cs' = cs := by
  cases r with
  | error fault => cases h
  | ok cs' => exact ⟨cs', rfl, Except.ok.inj h⟩

theorem decodeLossyFrom_of_decodeFrom (h : decodeFrom index state bytes = .ok cs) :
    decodeLossyFrom state bytes = cs := by
  induction bytes generalizing index state cs with
  | nil =>
    cases state with
    | none => exact Except.ok.inj h
    | some p => cases h
  | cons b bytes ih =>
    cases state with
    | none =>
      rw [decodeFrom] at h
      rw [decodeLossyFrom]
      cases hb : start b with
      | done c =>
        rw [hb] at h
        obtain ⟨cs', hcs', rfl⟩ := exists_of_map_cons h
        exact congrArg (c :: ·) (ih hcs')
      | more p =>
        rw [hb] at h
        exact ih h
      | refused =>
        rw [hb] at h
        cases h
    | some p =>
      rw [decodeFrom] at h
      rw [decodeLossyFrom]
      cases hb : p.add b with
      | done c =>
        rw [hb] at h
        obtain ⟨cs', hcs', rfl⟩ := exists_of_map_cons h
        exact congrArg (c :: ·) (ih hcs')
      | more p' =>
        rw [hb] at h
        exact ih h
      | refused =>
        rw [hb] at h
        cases h

/-- Bytes that can be read are read as they are. -/
theorem decodeLossy_of_decode (h : decode bytes = .ok s) : decodeLossy bytes = s := by
  unfold decode at h
  cases hr : decodeFrom 0 none bytes with
  | error fault =>
    rw [hr] at h
    cases h
  | ok cs =>
    rw [hr] at h
    obtain rfl : String.ofList cs = s := Except.ok.inj h
    rw [decodeLossy, decodeLossyFrom_of_decodeFrom hr]

/-- A text is read back as it was written. -/
theorem decodeLossy_encode (s : String) : decodeLossy (encode s) = s :=
  decodeLossy_of_decode (decode_encode s)

/-- Inside a character there is at least one more to be read. -/
theorem decodeLossyFrom_some_ne_nil (p : Partial) (bytes : List UInt8) :
    decodeLossyFrom (some p) bytes ≠ [] := by
  induction bytes generalizing p with
  | nil => exact List.cons_ne_nil _ _
  | cons b bytes ih =>
    rw [decodeLossyFrom]
    cases p.add b with
    | done c => exact List.cons_ne_nil _ _
    | more p' => exact ih p'
    | refused => exact List.cons_ne_nil _ _

/-- Only no bytes are read as no text. -/
theorem decodeLossy_eq_empty_iff : decodeLossy bytes = "" ↔ bytes = [] := by
  refine ⟨fun h => ?_, fun h => h ▸ rfl⟩
  have hnil : decodeLossyFrom none bytes = [] := String.ofList_injective h
  cases bytes with
  | nil => rfl
  | cons b bytes =>
    rw [decodeLossyFrom] at hnil
    cases hb : start b with
    | done c =>
      rw [hb] at hnil
      cases hnil
    | more p =>
      rw [hb] at hnil
      exact absurd hnil (decodeLossyFrom_some_ne_nil p bytes)
    | refused =>
      rw [hb] at hnil
      cases hnil

/-- The bytes of a character that is not ASCII are not ASCII either. -/
theorem le_of_mem_encodeChar {c : Char} {b : UInt8} (hc : 0x80 ≤ c.toNat)
    (hb : b ∈ encodeChar c) : 0x80 ≤ b.toNat := by
  have hrange := range_toNat c
  unfold encodeChar at hb
  dsimp only at hb
  split_ifs at hb with h1 h2 h3
  · omega
  all_goals
    simp only [List.mem_cons, List.not_mem_nil, or_false] at hb
    rcases hb with rfl | rfl | rfl | rfl <;> rw [toNat_byte (by omega)] <;> omega

/-- A zero byte is the zero character. -/
theorem zero_mem_encodeChar_iff {c : Char} : 0 ∈ encodeChar c ↔ c = '\x00' := by
  constructor
  · intro h
    rcases Nat.lt_or_ge c.toNat 0x80 with hc | hc
    · rw [encodeChar_ascii hc, List.mem_singleton] at h
      have htoNat := congrArg UInt8.toNat h
      rw [toNat_byte (by omega)] at htoNat
      exact Char.toNat_inj.mp htoNat.symm
    · exact absurd (le_of_mem_encodeChar hc h) (by decide)
  · rintro rfl
    decide

/-- A text is written with a zero byte exactly if it has a zero character. -/
theorem zero_mem_encode_iff : 0 ∈ encode s ↔ '\x00' ∈ s.toList := by
  rw [encode, List.mem_flatMap]
  constructor
  · rintro ⟨c, hc, h⟩
    exact zero_mem_encodeChar_iff.mp h ▸ hc
  · intro h
    exact ⟨_, h, zero_mem_encodeChar_iff.mpr rfl⟩

end RemoteConsole.Text.Utf8
