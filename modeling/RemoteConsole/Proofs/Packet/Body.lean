import Mathlib.Data.List.Basic
import RemoteConsole.Proofs.Packet.Layout

/-!
# A body in each of the encodings

What the encodings have in common is ASCII. They write a text as the same bytes exactly if all its
characters are of ASCII (`exists_encode_eq_iff`), and read bytes as the same text exactly if all of
them are (`exists_decode_eq_iff`). Beyond it they differ in length: UTF-8 writes one to four bytes
for a character where the others write one, so no body is longer than in UTF-8 (`length_encode_le`).
They differ in what they refuse, too: Latin-1 refuses nothing, and ASCII the first byte that is not
one of it (`decode_ascii_eq_error_iff`). `agree_exactly_on_ascii` puts all of this together.
-/

namespace RemoteConsole

namespace Packet

variable {p : Packet} {e f : Encoding} {maxSize : Nat} {bytes : Bytes}

/-- A packet that can be written in one encoding can be written in another one that does not need
more bytes for its body. -/
theorem exists_encode_of_length_le (h : (f.encode p.body).length ≤ (e.encode p.body).length)
    (written : p.encode e maxSize = .ok bytes) : ∃ bytes', p.encode f maxSize = .ok bytes' := by
  obtain ⟨-, hmax⟩ := eq_layout_of_encode written
  refine ⟨layout p.id p.type (f.encode p.body), ?_⟩
  rw [encode_eq, if_neg (by omega)]

end Packet

namespace Encoding

variable {e : Encoding} {s : String} {bytes : List UInt8}

/-! ## Texts and bytes of ASCII -/

theorem le_limit (e : Encoding) : 0x80 ≤ e.limit := by
  cases e <;> decide

/-- Every encoding has bytes for a text of ASCII. -/
theorem representable_of_ascii (h : ∀ c ∈ s.toList, c.toNat < 0x80) (e : Encoding) :
    e.Representable s :=
  fun c hc => represents_iff.mpr (Nat.lt_of_lt_of_le (h c hc) (le_limit e))

/-- A text of ASCII is written as the numbers of its characters. -/
theorem encode_of_ascii (h : ∀ c ∈ s.toList, c.toNat < 0x80) (e : Encoding) :
    e.encode s = s.toList.map fun c => UInt8.ofNat c.toNat := by
  by_cases one : e = utf8
  · subst one
    calc
      utf8.encode s = s.toList.flatMap fun c => [UInt8.ofNat c.toNat] :=
        List.flatMap_congr fun c hc => Text.Utf8.encodeChar_ascii (h c hc)
      _ = s.toList.map fun c => UInt8.ofNat c.toNat := List.map_eq_flatMap.symm
  · rw [encode_eq_map one]
    exact List.map_congr_left fun c hc => if_pos (representable_of_ascii h e c hc)

/-- The text of bytes of ASCII is a text of ASCII. -/
theorem ofBytes_ascii (h : ∀ b ∈ bytes, b.toNat < 0x80) :
    ∀ c ∈ (ofBytes bytes).toList, c.toNat < 0x80 := fun c hc =>
  represents_iff.mp (representable_ofBytes (e := ascii) h c hc)

/-- Bytes of ASCII are read as the characters of their numbers. -/
theorem decode_of_ascii (h : ∀ b ∈ bytes, b.toNat < 0x80) (e : Encoding) :
    e.decode bytes = .ok (ofBytes bytes) := by
  -- The bytes are what any encoding writes for their text, so it reads them as this text.
  have htext := ofBytes_ascii h
  have hbytes : e.encode (ofBytes bytes) = bytes := calc
    e.encode (ofBytes bytes) = ascii.encode (ofBytes bytes) := by
      rw [encode_of_ascii htext, encode_of_ascii htext]
    _ = bytes := map_encodeByte_ofBytes (e := ascii) h
  have hread := decode_encode (representable_of_ascii htext e)
  rwa [hbytes] at hread

/-! ## The length of a body -/

/-- An encoding of one byte per character writes as many bytes as there are characters. -/
theorem length_encode (one : e ≠ utf8) (s : String) : (e.encode s).length = s.length := by
  rw [encode_eq_map one, List.length_map, String.length_toList]

/-- No encoding writes more bytes than UTF-8. -/
theorem length_encode_le (e : Encoding) (s : String) :
    (e.encode s).length ≤ (utf8.encode s).length := by
  by_cases one : e = utf8
  · subst one
    exact Nat.le_refl _
  · calc
      (e.encode s).length = s.toList.length := by rw [length_encode one, String.length_toList]
      _ ≤ (utf8.encode s).length := Text.Utf8.length_le_flatMap_encodeChar s.toList

/-! ## Where the encodings agree -/

/-- The encodings write a text as the same bytes exactly if it is one of ASCII. -/
theorem exists_encode_eq_iff :
    (∃ bytes, ∀ e : Encoding, e.encode s = bytes) ↔ ∀ c ∈ s.toList, c.toNat < 0x80 := by
  constructor
  · rintro ⟨bytes, hbytes⟩
    -- What is the same in ASCII has one byte per character, also in UTF-8.
    have hlength : (utf8.encode s).length = s.toList.length := by
      rw [hbytes utf8, ← hbytes ascii, length_encode (by decide), String.length_toList]
    exact Text.Utf8.length_flatMap_encodeChar_eq_iff.mp hlength
  · intro h
    exact ⟨_, encode_of_ascii h⟩

/-- The encodings read bytes as the same text exactly if they are bytes of ASCII. -/
theorem exists_decode_eq_iff :
    (∃ s, ∀ e : Encoding, e.decode bytes = .ok s) ↔ ∀ b ∈ bytes, b.toNat < 0x80 := by
  constructor
  · rintro ⟨s, hs⟩
    exact ((decode_eq_ok_iff (e := ascii) (by decide)).mp (hs ascii)).1
  · intro h
    exact ⟨ofBytes bytes, decode_of_ascii h⟩

/-! ## What ASCII refuses -/

/-- The first byte that is not one of ASCII comes after some that are. -/
theorem findIdx?_eq_some_iff {offset : Nat} : bytes.findIdx? (0x80 ≤ ·) = some offset ↔
    ∃ before b after, bytes = before ++ b :: after ∧ before.length = offset ∧
      (∀ b' ∈ before, b'.toNat < 0x80) ∧ 0x80 ≤ b.toNat := by
  constructor
  · intro h
    obtain ⟨hlt, hb, hbefore⟩ := List.findIdx?_eq_some_iff_getElem.mp h
    refine ⟨bytes.take offset, bytes[offset], bytes.drop (offset + 1), ?_,
      List.length_take_of_le (Nat.le_of_lt hlt), fun b' hb' => ?_, of_decide_eq_true hb⟩
    · rw [← List.drop_eq_getElem_cons hlt, List.take_append_drop]
    · obtain ⟨i, hi, rfl⟩ := List.mem_take_iff_getElem.mp hb'
      have hsmall := hbefore i (by omega)
      rw [decide_eq_true_eq, UInt8.not_le] at hsmall
      exact hsmall
  · rintro ⟨before, b, after, rfl, rfl, hbefore, hb⟩
    have hfirst : (0x80 : UInt8) ≤ b := hb
    rw [List.findIdx?_append, findIdx?_eq_none_iff.mpr hbefore, List.findIdx?_cons]
    simp [hfirst]

/-- ASCII refuses bytes at the first one that is not of ASCII, and names its place. -/
theorem decode_ascii_eq_error_iff {fault : Fault} : ascii.decode bytes = .error fault ↔
    ∃ before b after, bytes = before ++ b :: after ∧ (∀ b' ∈ before, b'.toNat < 0x80) ∧
      0x80 ≤ b.toNat ∧ fault = .nonAscii before.length := by
  have hfault : ascii.decode bytes = .error fault ↔
      ∃ offset, bytes.findIdx? (0x80 ≤ ·) = some offset ∧ fault = .nonAscii offset := by
    rw [decode]
    cases bytes.findIdx? (0x80 ≤ ·) <;> simp [eq_comm]
  rw [hfault]
  constructor
  · rintro ⟨offset, hfirst, rfl⟩
    obtain ⟨before, b, after, hbytes, rfl, hbefore, hb⟩ := findIdx?_eq_some_iff.mp hfirst
    exact ⟨before, b, after, hbytes, hbefore, hb, rfl⟩
  · rintro ⟨before, b, after, hbytes, hbefore, hb, rfl⟩
    exact ⟨_, findIdx?_eq_some_iff.mpr ⟨before, b, after, hbytes, rfl, hbefore, hb⟩, rfl⟩

/-- ASCII refuses bytes exactly if one of them is not of ASCII. -/
theorem exists_decode_ascii_eq_error_iff :
    (∃ fault, ascii.decode bytes = .error fault) ↔ ∃ b ∈ bytes, 0x80 ≤ b.toNat := by
  constructor
  · rintro ⟨fault, h⟩
    obtain ⟨before, b, after, rfl, -, hb, -⟩ := decode_ascii_eq_error_iff.mp h
    exact ⟨b, List.mem_append_right _ List.mem_cons_self, hb⟩
  · rintro ⟨b, hmem, hb⟩
    cases hread : ascii.decode bytes with
    | error fault => exact ⟨fault, rfl⟩
    | ok s =>
      obtain ⟨hall, -⟩ := (decode_eq_ok_iff (e := ascii) (by decide)).mp hread
      exact absurd (hall b hmem) (Nat.not_lt.mpr hb)

/-! ## The encodings side by side -/

/-- The encodings agree on ASCII and nowhere else: all of them write a text as the same bytes
exactly if its characters are of ASCII, and read bytes as the same text exactly if these are. The
two others write one byte for each character, which is never more than UTF-8 does, so a packet that
can be written in UTF-8 can be written in any of them under the same limit. Whatever is read is
written back as the bytes it was read from. Latin-1 reads all bytes. ASCII refuses bytes exactly if
one of them is not of ASCII, with the place of the first such byte in the message. -/
theorem agree_exactly_on_ascii :
    (∀ s, (∃ bytes, ∀ e : Encoding, e.encode s = bytes) ↔ ∀ c ∈ s.toList, c.toNat < 0x80) ∧
      (∀ bytes, (∃ s, ∀ e : Encoding, e.decode bytes = .ok s) ↔ ∀ b ∈ bytes, b.toNat < 0x80) ∧
      (∀ e, e ≠ utf8 → ∀ s,
        (e.encode s).length = s.length ∧ (e.encode s).length ≤ (utf8.encode s).length) ∧
      (∀ (p : Packet) maxSize bytes, p.encode utf8 maxSize = .ok bytes →
        ∀ e, ∃ bytes', p.encode e maxSize = .ok bytes') ∧
      (∀ (e : Encoding) bytes s, e.decode bytes = .ok s → e.encode s = bytes) ∧
      (∀ bytes, ∃ s, latin1.decode bytes = .ok s) ∧
      (∀ bytes, (∃ fault, ascii.decode bytes = .error fault) ↔ ∃ b ∈ bytes, 0x80 ≤ b.toNat) ∧
      ∀ bytes fault, ascii.decode bytes = .error fault →
        ∃ before b after, bytes = before ++ b :: after ∧ (∀ b' ∈ before, b'.toNat < 0x80) ∧
          0x80 ≤ b.toNat ∧ fault = .nonAscii before.length ∧
          fault.message = "non-ASCII byte at offset " ++ toString before.length := by
  refine ⟨fun s => exists_encode_eq_iff, fun bytes => exists_decode_eq_iff,
    fun e one s => ⟨length_encode one s, length_encode_le e s⟩, fun p maxSize bytes written e => ?_,
    fun e bytes s h => encode_of_decode h, fun bytes => ⟨ofBytes bytes, rfl⟩,
    fun bytes => exists_decode_ascii_eq_error_iff, fun bytes fault h => ?_⟩
  · exact Packet.exists_encode_of_length_le (length_encode_le e p.body) written
  · obtain ⟨before, b, after, hbytes, hbefore, hb, rfl⟩ := decode_ascii_eq_error_iff.mp h
    exact ⟨before, b, after, hbytes, hbefore, hb, rfl, rfl⟩

/-- A text and bytes of ASCII, a text with characters of all four lengths, a packet that just fits in
UTF-8, and bytes that are read in UTF-8 and refused in ASCII. -/
theorem agree_exactly_on_ascii_lengths :
    let s := "aé€😀"
    let p : Packet := ⟨7, .execCommand, "é€"⟩
    let bytes : Bytes := [0x61, 0xC3, 0xA9]
    ((∀ c ∈ "say".toList, c.toNat < 0x80) ∧ ∃ bytes, ∀ e : Encoding, e.encode "say" = bytes) ∧
      ((∀ b ∈ ([0x73, 0x61, 0x79] : Bytes), b.toNat < 0x80) ∧
        ∃ s, ∀ e : Encoding, e.decode [0x73, 0x61, 0x79] = .ok s) ∧
      (latin1 ≠ utf8 ∧ (latin1.encode s).length = s.length ∧
        (latin1.encode s).length ≤ (utf8.encode s).length) ∧
      (p.encode utf8 15 =
          .ok [15, 0, 0, 0, 7, 0, 0, 0, 2, 0, 0, 0, 0xC3, 0xA9, 0xE2, 0x82, 0xAC, 0, 0] ∧
        ∀ e, ∃ bytes', p.encode e 15 = .ok bytes') ∧
      (utf8.decode bytes = .ok "aé" ∧ utf8.encode "aé" = bytes) ∧
      ascii.decode bytes = .error (.nonAscii 1) ∧
        ∃ before b after, bytes = before ++ b :: after ∧ (∀ b' ∈ before, b'.toNat < 0x80) ∧
          0x80 ≤ b.toNat ∧ Fault.nonAscii 1 = .nonAscii before.length ∧
          (Fault.nonAscii 1).message = "non-ASCII byte at offset " ++ toString before.length := by
  intro s p bytes
  obtain ⟨texts, readings, lengths, packets, back, -, -, refusals⟩ := agree_exactly_on_ascii
  have htext : ∀ c ∈ "say".toList, c.toNat < 0x80 := by simp
  have hbytes : ∀ b ∈ ([0x73, 0x61, 0x79] : Bytes), b.toNat < 0x80 := by simp
  have hwritten : Packet.encode ⟨7, .execCommand, "é€"⟩ utf8 15 =
      .ok [15, 0, 0, 0, 7, 0, 0, 0, 2, 0, 0, 0, 0xC3, 0xA9, 0xE2, 0x82, 0xAC, 0, 0] := by rfl
  have hread : utf8.decode bytes = .ok "aé" := by rfl
  have hrefused : ascii.decode bytes = .error (.nonAscii 1) := by rfl
  exact ⟨⟨htext, (texts "say").mpr htext⟩, ⟨hbytes, (readings _).mpr hbytes⟩,
    ⟨by decide, lengths latin1 (by decide) s⟩, ⟨hwritten, packets p 15 _ hwritten⟩,
    ⟨hread, back utf8 bytes "aé" hread⟩, hrefused, refusals bytes _ hrefused⟩

end Encoding

end RemoteConsole
