import RemoteConsole.Text.Encoding
import RemoteConsole.Proofs.Text.Utf8

/-!
# Encodings there and back

In every encoding a text of characters that the encoding has bytes for is read back as it was
written (`decode_encode`), and what can be read at all is what writing its text gives
(`encode_of_decode`). The two together make the texts of an encoding and the byte strings that it
can read one and the same. Any other text is read back with question marks in it
(`decode_encode_legible`).
-/

namespace RemoteConsole.Encoding

variable {e : Encoding} {s t : String} {bytes : List UInt8}

theorem represents_iff {c : Char} : e.represents c = true ↔ c.toNat < e.limit :=
  decide_eq_true_iff

/-- The other encodings write one byte for each character they have one for. -/
theorem limit_le (one : e ≠ utf8) : e.limit ≤ 0x100 := by
  cases e with
  | utf8 => exact absurd rfl one
  | ascii | latin1 => decide

/-- A text of which the encoding has bytes for every character. -/
def Representable (e : Encoding) (s : String) : Prop :=
  ∀ c ∈ s.toList, e.represents c = true

/-- The parts of a text that can be written can be written. -/
theorem representable_append :
    e.Representable (s ++ t) ↔ e.Representable s ∧ e.Representable t := by
  simp only [Representable, String.toList_append, List.mem_append]
  exact ⟨fun h => ⟨fun c hc => h c (.inl hc), fun c hc => h c (.inr hc)⟩,
    fun h c hc => hc.elim (h.1 c) (h.2 c)⟩

/-- Some texts in a row can be written if each of them can. -/
theorem representable_join {texts : List String} :
    e.Representable (String.join texts) ↔ ∀ s ∈ texts, e.Representable s := by
  induction texts with
  | nil => simp [Representable]
  | cons s texts ih => rw [String.join_cons, representable_append, ih, List.forall_mem_cons]

/-- Every character has bytes in UTF-8. -/
theorem representable_utf8 (s : String) : utf8.Representable s := fun c _ => by
  have hc := Text.Utf8.range_toNat c
  exact represents_iff.mpr (show c.toNat < 0x110000 by omega)

/-- Nothing is written for no text. -/
@[simp] theorem encode_empty (e : Encoding) : e.encode "" = [] := by
  cases e <;> rfl

theorem encode_append (e : Encoding) (s t : String) :
    e.encode (s ++ t) = e.encode s ++ e.encode t := by
  cases e <;> simp [encode, Text.Utf8.encode_append]

/-- Some texts in a row are written one after the other. -/
theorem encode_join (e : Encoding) (texts : List String) :
    e.encode (String.join texts) = (texts.map e.encode).flatten := by
  induction texts with
  | nil => simp
  | cons s texts ih => rw [String.join_cons, encode_append, ih, List.map_cons, List.flatten_cons]

/-- The byte of a character that has one stands for the character. -/
theorem ofNat_encodeByte {c : Char} (one : e ≠ utf8) (h : e.represents c = true) :
    Char.ofNat (e.encodeByte c).toNat = c := by
  have hc : c.toNat < 0x100 := Nat.lt_of_lt_of_le (represents_iff.mp h) (limit_le one)
  rw [encodeByte, if_pos h, Text.Utf8.toNat_byte hc, Char.ofNat_toNat]

theorem toNat_ofNat_byte (b : UInt8) : (Char.ofNat b.toNat).toNat = b.toNat :=
  Text.Utf8.toNat_ofNat_of_range (by have := b.toNat_lt; omega)

/-- The character that a byte stands for is written as the byte. -/
theorem encodeByte_ofNat {b : UInt8} (h : b.toNat < e.limit) :
    e.encodeByte (Char.ofNat b.toNat) = b := by
  have hc : e.represents (Char.ofNat b.toNat) = true := by
    rwa [represents_iff, toNat_ofNat_byte]
  rw [encodeByte, if_pos hc, toNat_ofNat_byte, UInt8.ofNat_toNat]

/-- A text of one byte per character is read back byte by byte. -/
theorem ofBytes_map_encodeByte (one : e ≠ utf8) (h : e.Representable s) :
    ofBytes (s.toList.map e.encodeByte) = s := by
  rw [ofBytes, List.map_map, List.map_congr_left (g := id), List.map_id, String.ofList_toList]
  exact fun c hc => ofNat_encodeByte one (h c hc)

/-- The text of bytes that all stand for characters is written as the bytes. -/
theorem map_encodeByte_ofBytes (h : ∀ b ∈ bytes, b.toNat < e.limit) :
    (ofBytes bytes).toList.map e.encodeByte = bytes := by
  rw [ofBytes, String.toList_ofList, List.map_map, List.map_congr_left (g := id), List.map_id]
  exact fun b hb => encodeByte_ofNat (h b hb)

/-- The text of bytes that all stand for characters has bytes for every character. -/
theorem representable_ofBytes (h : ∀ b ∈ bytes, b.toNat < e.limit) :
    e.Representable (ofBytes bytes) := fun c hc => by
  rw [ofBytes, String.toList_ofList, List.mem_map] at hc
  obtain ⟨b, hb, rfl⟩ := hc
  rw [represents_iff, toNat_ofNat_byte]
  exact h b hb

/-- ASCII refuses a byte sequence exactly if a byte of it stands for no character. -/
theorem findIdx?_eq_none_iff : bytes.findIdx? (0x80 ≤ ·) = none ↔
    ∀ b ∈ bytes, b.toNat < ascii.limit := by
  simp only [List.findIdx?_eq_none_iff, decide_eq_false_iff_not, UInt8.not_le]
  rfl

/-- An encoding of one byte per character reads exactly the bytes that stand for characters. -/
theorem decode_eq_ok_iff (one : e ≠ utf8) :
    e.decode bytes = .ok s ↔ (∀ b ∈ bytes, b.toNat < e.limit) ∧ ofBytes bytes = s := by
  cases e with
  | utf8 => exact absurd rfl one
  | ascii =>
    rw [← findIdx?_eq_none_iff, decode]
    cases bytes.findIdx? (0x80 ≤ ·) <;> simp
  | latin1 =>
    simp only [decode, Except.ok.injEq, iff_and_self]
    exact fun _ b _ => b.toNat_lt

/-- What is written in an encoding of one byte per character are the bytes of the characters. -/
theorem encode_eq_map (one : e ≠ utf8) (s : String) :
    e.encode s = s.toList.map e.encodeByte := by
  cases e with
  | utf8 => exact absurd rfl one
  | ascii | latin1 => rfl

/-- What is read as UTF-8 is read by that module. -/
theorem decode_utf8_eq_ok_iff : utf8.decode bytes = .ok s ↔ Text.Utf8.decode bytes = .ok s := by
  unfold decode
  dsimp only
  cases Text.Utf8.decode bytes <;> simp [Except.mapError]

/-- Every byte that is written stands for a character, if only for the question mark. -/
theorem toNat_encodeByte_lt (one : e ≠ utf8) (c : Char) : (e.encodeByte c).toNat < e.limit := by
  unfold encodeByte
  split_ifs with h
  · have hc := represents_iff.mp h
    rwa [Text.Utf8.toNat_byte (Nat.lt_of_lt_of_le hc (limit_le one))]
  · cases e <;> decide

/-- What was written is read back. -/
theorem decode_encode (h : e.Representable s) : e.decode (e.encode s) = .ok s := by
  by_cases one : e = utf8
  · subst one
    exact decode_utf8_eq_ok_iff.mpr (Text.Utf8.decode_encode s)
  · rw [decode_eq_ok_iff one, encode_eq_map one]
    refine ⟨fun b hb => ?_, ofBytes_map_encodeByte one h⟩
    obtain ⟨c, -, rfl⟩ := List.mem_map.mp hb
    exact toNat_encodeByte_lt one c

/-- Writing what was read gives back the bytes. -/
theorem encode_of_decode (h : e.decode bytes = .ok s) : e.encode s = bytes := by
  by_cases one : e = utf8
  · subst one
    exact Text.Utf8.encode_of_decode (decode_utf8_eq_ok_iff.mp h)
  · obtain ⟨hb, rfl⟩ := (decode_eq_ok_iff one).mp h
    rw [encode_eq_map one, map_encodeByte_ofBytes hb]

/-- Every character that was read has bytes. -/
theorem representable_of_decode (h : e.decode bytes = .ok s) : e.Representable s := by
  by_cases one : e = utf8
  · subst one
    exact representable_utf8 s
  · obtain ⟨hb, rfl⟩ := (decode_eq_ok_iff one).mp h
    exact representable_ofBytes hb

/-- Texts that can be written are told apart by their bytes. -/
theorem encode_injective (hs : e.Representable s) (ht : e.Representable t)
    (h : e.encode s = e.encode t) : s = t := by
  have hs := decode_encode hs
  rw [h, decode_encode ht] at hs
  exact (Except.ok.inj hs).symm

/-- Bytes out of a written text can be read by themselves, unless characters are written as several
bytes. -/
theorem exists_decode_of_subset (one : e ≠ utf8) (h : bytes ⊆ e.encode s) :
    ∃ t, e.decode bytes = .ok t := by
  refine ⟨_, (decode_eq_ok_iff one).mpr ⟨fun b hb => ?_, rfl⟩⟩
  rw [encode_eq_map one] at h
  obtain ⟨c, -, rfl⟩ := List.mem_map.mp (h hb)
  exact toNat_encodeByte_lt one c

/-! ## Characters without bytes -/

/-- The last character that an encoding has bytes for. -/
def lastChar : Encoding → Char
  | utf8 => Char.ofNat 0x10FFFF
  | ascii => Char.ofNat 0x7F
  | latin1 => Char.ofNat 0xFF

/-- The text with a question mark for each character that the encoding has no bytes for. -/
def legible (e : Encoding) (s : String) : String :=
  String.ofList (s.toList.map fun c => if c ≤ e.lastChar then c else '?')

/-- Bytes are valid in an encoding if they are some text in it. -/
def Valid (e : Encoding) (bytes : List UInt8) : Prop :=
  ∃ s, e.encode s = bytes

/-- An encoding has bytes for the characters up to the last one that it has bytes for. -/
theorem represents_iff_le {c : Char} : e.represents c = true ↔ c ≤ e.lastChar := by
  have hc := Text.Utf8.range_toNat c
  have hle : c ≤ e.lastChar ↔ c.toNat ≤ e.lastChar.toNat := Iff.rfl
  have hlast : e.lastChar.toNat + 1 = e.limit := by
    cases e <;> rfl
  rw [represents_iff, hle]
  omega

/-- Every character of what is read back has bytes. -/
theorem representable_legible (e : Encoding) (s : String) : e.Representable (e.legible s) := by
  intro c hc
  rw [legible, String.toList_ofList, List.mem_map] at hc
  obtain ⟨c', -, rfl⟩ := hc
  split_ifs with h
  · exact represents_iff_le.mpr h
  · cases e <;> decide

/-- A character without a byte is written as the question mark is. -/
theorem encodeByte_legible (e : Encoding) (c : Char) :
    e.encodeByte (if c ≤ e.lastChar then c else '?') = e.encodeByte c := by
  split_ifs with h
  · rfl
  · have hc : ¬e.represents c = true := fun hc => h (represents_iff_le.mp hc)
    have hmark : e.encodeByte '?' = '?'.toUInt8 := by
      cases e <;> decide
    rw [hmark, encodeByte, if_neg hc]

/-- A text is written as what is read back of it. -/
theorem encode_legible (e : Encoding) (s : String) : e.encode (e.legible s) = e.encode s := by
  by_cases one : e = utf8
  · -- Nothing is replaced where every character has bytes.
    subst one
    rw [legible, List.map_congr_left (g := id), List.map_id, String.ofList_toList]
    exact fun c hc => if_pos (represents_iff_le.mp (representable_utf8 s c hc))
  · rw [encode_eq_map one, encode_eq_map one, legible, String.toList_ofList, List.map_map]
    exact List.map_congr_left fun c _ => encodeByte_legible e c

/-- What was written is read back, with a question mark for each character without bytes. -/
theorem decode_encode_legible (e : Encoding) (s : String) :
    e.decode (e.encode s) = .ok (e.legible s) := by
  rw [← encode_legible]
  exact decode_encode (representable_legible e s)

/-- Valid bytes are those that can be read. -/
theorem valid_iff_decode : e.Valid bytes ↔ ∃ s, e.decode bytes = .ok s := by
  constructor
  · rintro ⟨s, rfl⟩
    exact ⟨e.legible s, decode_encode_legible e s⟩
  · rintro ⟨s, hs⟩
    exact ⟨s, encode_of_decode hs⟩

end RemoteConsole.Encoding
