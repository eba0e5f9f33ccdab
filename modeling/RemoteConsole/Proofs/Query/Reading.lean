import RemoteConsole.Proofs.Bytes
import RemoteConsole.Proofs.Text.Lossy
import RemoteConsole.Query.Cursor

/-!
# What a reading takes

A reading `Spells` a value with some bytes if it takes exactly these bytes for the value, wherever
they stand in a reply and whatever follows them, and finds the reply malformed where it ends among
them. Each of the small readings spells its value with the bytes that the value is written as, and
readings one after the other spell with their bytes one after the other (`Spells.bind`). So what a
whole reading takes is put together from its parts, and the end of a reply may fall anywhere.
-/

namespace RemoteConsole

namespace Bytes

/-- A zero byte ends some bytes that have none. -/
def zeroEnded (bytes : Bytes) : Bytes :=
  bytes ++ [0]

@[simp] theorem length_zeroEnded (bytes : Bytes) : (zeroEnded bytes).length = bytes.length + 1 :=
  List.length_append

/-- The bytes of a text in a reply. -/
def ofText (s : String) : Bytes :=
  zeroEnded (Text.Utf8.encode s)

/-- The bytes of a signed 16-bit number. -/
def ofInt16 (i : Int16) : Bytes :=
  ofNat 2 i.toUInt16.toNat

/-- The bytes of an unsigned 32-bit number. -/
def ofUInt32 (w : UInt32) : Bytes :=
  ofNat 4 w.toNat

theorem toInt16_ofInt16 (i : Int16) : toInt16 (ofInt16 i) = i := by
  have htake : (ofInt16 i).take 2 = ofInt16 i :=
    List.take_of_length_le (Nat.le_of_eq (length_ofNat ..))
  rw [toInt16, htake, ofInt16, toNat_ofNat]
  have h : i.toUInt16.toNat < Nat.pow 256 2 := i.toUInt16.toNat_lt
  rw [Nat.mod_eq_of_lt h]
  exact Int16.toBitVec.inj (by simp [Int16.ofNat])

theorem ofNat_toNat_ofUInt32 (w : UInt32) : UInt32.ofNat (toNat (ofUInt32 w)) = w := by
  rw [ofUInt32, toNat_ofNat]
  have h : w.toNat < Nat.pow 256 4 := w.toNat_lt
  rw [Nat.mod_eq_of_lt h, UInt32.ofNat_toNat]

end Bytes

namespace Query

namespace Cursor

/-- The cursor after some more bytes. -/
def advance (c : Cursor) (n : Nat) : Cursor :=
  { c with pos := c.pos + n }

@[simp] theorem rest_advance (c : Cursor) (n : Nat) : (c.advance n).rest = c.rest.drop n := by
  rw [rest, rest, List.drop_drop]
  rfl

@[simp] theorem advance_advance (c : Cursor) (m n : Nat) :
    (c.advance m).advance n = c.advance (m + n) := by
  simp [advance, Nat.add_assoc]

theorem length_rest (c : Cursor) : c.rest.length = c.buf.length - c.pos :=
  List.length_drop

theorem isEmpty_iff (c : Cursor) : c.isEmpty = true ↔ c.rest = [] := by
  rw [isEmpty, decide_eq_true_iff, rest, List.drop_eq_nil_iff]

end Cursor

namespace Reading

variable {α β : Type} {r : Reading α} {k : α → Reading β} {a : α} {b : β}
  {span span' rest bytes : Bytes} {c : Cursor}

/-- A reading takes exactly `span` for the value `a`. -/
structure Spells (r : Reading α) (span : Bytes) (a : α) : Prop where
  /-- It reads the value where these bytes come next, and stands right after them. -/
  reads : ∀ c rest, c.rest = span ++ rest → r c = .ok (a, c.advance span.length)
  /-- It fails where the reply ends among them. -/
  cut : ∀ c, c.rest <+: span → c.rest ≠ span → ∃ cause, r c = .error (.malformedPacket cause)

/-! ## Readings one after the other -/

theorem bind_of_ok {c' : Cursor} (h : r c = .ok (a, c')) : (r >>= k) c = k a c' := by
  change (r c >>= fun p => k p.1 p.2) = _
  rw [h]
  rfl

theorem bind_of_error {e : Error} (h : r c = .error e) : (r >>= k) c = .error e := by
  change (r c >>= fun p => k p.1 p.2) = _
  rw [h]
  rfl

/-- A value changed after it is read. -/
theorem bind_pure_eq_map (f : α → β) :
    (r >>= fun a => Pure.pure (f a)) c = (r c).map fun p => (f p.1, p.2) := by
  cases h : r c with
  | error e => exact bind_of_error h
  | ok p => exact bind_of_ok (k := fun a => Pure.pure (f a)) h

/-- The start of two byte strings in a row is a start of the first, or goes on into the second. -/
theorem prefix_append_cases {p : Bytes} (h : p <+: span ++ span') :
    (p <+: span ∧ p ≠ span) ∨ ∃ q, p = span ++ q ∧ q <+: span' := by
  rcases List.prefix_or_prefix_of_prefix h (List.prefix_append span span') with hp | hp
  · by_cases hspan : p = span
    · exact .inr ⟨[], by rw [hspan, List.append_nil], List.nil_prefix⟩
    · exact .inl ⟨hp, hspan⟩
  · obtain ⟨q, rfl⟩ := hp
    exact .inr ⟨q, rfl, (List.prefix_append_right_inj span).mp h⟩

theorem Spells.pure (a : α) : Spells (pure a) [] a where
  reads _ _ _ := rfl
  cut _ h hne := absurd (List.prefix_nil.mp h) hne

theorem Spells.bind (first : Spells r span a) (second : Spells (k a) span' b) :
    Spells (r >>= k) (span ++ span') b where
  reads c rest h := by
    rw [List.append_assoc] at h
    have hrest : (c.advance span.length).rest = span' ++ rest := by
      rw [Cursor.rest_advance, h, List.drop_left]
    rw [bind_of_ok (first.reads c _ h), second.reads _ rest hrest, Cursor.advance_advance,
      List.length_append]
  cut c h hne := by
    rcases prefix_append_cases h with ⟨hp, hspan⟩ | ⟨q, hq, hprefix⟩
    · obtain ⟨cause, hcause⟩ := first.cut c hp hspan
      exact ⟨cause, bind_of_error hcause⟩
    · have hrest : (c.advance span.length).rest = q := by
        rw [Cursor.rest_advance, hq, List.drop_left]
      obtain ⟨cause, hcause⟩ := second.cut (c.advance span.length) (by rwa [hrest])
        (fun heq => hne (by rw [hq, ← hrest, heq]))
      exact ⟨cause, by rw [bind_of_ok (first.reads c q hq), hcause]⟩

/-- What comes after a reading need not take more bytes. -/
theorem Spells.bind_last (first : Spells r span a) (last : Spells (k a) [] b) :
    Spells (r >>= k) span b := by
  have hbind := first.bind last
  rwa [List.append_nil] at hbind

/-- The value of a reading changed. -/
theorem Spells.map (f : α → β) (h : Spells r span a) : Spells (do return f (← r)) span (f a) :=
  h.bind_last (Spells.pure (f a))

/-! ## Small readings -/

theorem spells_bytes (span : Bytes) : Spells (Reading.bytes span.length) span span where
  reads c rest h := by
    have hlength := c.length_rest
    rw [h, List.length_append] at hlength
    rw [Reading.bytes, if_neg (by omega), h, List.take_left]
    rfl
  cut c h hne := by
    have hlength := c.length_rest
    have hlt : c.rest.length < span.length :=
      Nat.lt_of_le_of_ne h.length_le fun heq => hne (h.eq_of_length heq)
    exact ⟨_, if_pos (by omega)⟩

theorem spells_skip (span : Bytes) : Spells (skip span.length) span () :=
  (spells_bytes span).bind_last (Spells.pure ())

theorem spells_byte (b : UInt8) : Spells byte [b] b := by
  have hmap := (spells_bytes [b]).map fun bytes => UInt8.ofNat (Bytes.toNat bytes)
  rwa [Bytes.ofNat_toNat_singleton] at hmap

theorem spells_int16 (i : Int16) : Spells int16 (Bytes.ofInt16 i) i := by
  have hmap := (spells_bytes (Bytes.ofInt16 i)).map Bytes.toInt16
  rwa [Bytes.toInt16_ofInt16, Bytes.ofInt16, Bytes.length_ofNat] at hmap

theorem spells_int32 (i : Int32) : Spells int32 (Bytes.ofInt32 i) i := by
  have hmap := (spells_bytes (Bytes.ofInt32 i)).map Bytes.toInt32
  rwa [Bytes.toInt32_ofInt32, Bytes.ofInt32, Bytes.length_ofNat] at hmap

theorem spells_int32BE (i : Int32) : Spells int32BE (Bytes.ofInt32BE i) i := by
  have hmap := (spells_bytes (Bytes.ofInt32BE i)).map Bytes.toInt32BE
  rwa [Bytes.toInt32BE_ofInt32BE, Bytes.ofInt32BE, List.length_reverse, Bytes.ofInt32,
    Bytes.length_ofNat] at hmap

theorem spells_float32Bits (w : UInt32) : Spells float32Bits (Bytes.ofUInt32 w) w := by
  have hmap := (spells_bytes (Bytes.ofUInt32 w)).map fun bytes => UInt32.ofNat (Bytes.toNat bytes)
  rwa [Bytes.ofNat_toNat_ofUInt32, Bytes.ofUInt32, Bytes.length_ofNat] at hmap

theorem findIdx?_zero (free : 0 ∉ bytes) : bytes.findIdx? (· == 0) = none := by
  rw [List.findIdx?_eq_none_iff]
  intro b hb
  rw [beq_eq_false_iff_ne]
  exact fun h => free (h ▸ hb)

/-- A text ends at the first zero byte. -/
theorem text_of_rest (free : 0 ∉ bytes) (h : c.rest = Bytes.zeroEnded bytes ++ rest) :
    text c = .ok (Text.Utf8.decodeLossy bytes, c.advance (bytes.length + 1)) := by
  rw [Bytes.zeroEnded, List.append_assoc] at h
  have hfind : c.rest.findIdx? (· == 0) = some bytes.length := by
    rw [h, List.findIdx?_append, findIdx?_zero free]
    simp [List.findIdx?_cons]
  rw [text, hfind]
  dsimp only
  rw [h, List.take_left]
  rfl

/-- Where no zero byte comes, there is no text. -/
theorem text_of_zero_not_mem (free : 0 ∉ c.rest) :
    text c = .error (.malformedPacket .unterminatedText) := by
  rw [text, findIdx?_zero free]

theorem spells_text (free : 0 ∉ bytes) :
    Spells text (Bytes.zeroEnded bytes) (Text.Utf8.decodeLossy bytes) where
  reads c rest h := by
    rw [text_of_rest free h, Bytes.length_zeroEnded]
  cut c h hne := by
    have hstart : c.rest <+: bytes := (List.prefix_concat_iff.mp h).resolve_left hne
    exact ⟨.unterminatedText, text_of_zero_not_mem fun h0 => free (hstart.subset h0)⟩

/-- A text that has no zero character is read as it was written. -/
theorem spells_ofText {s : String} (free : '\x00' ∉ s.toList) :
    Spells text (Bytes.ofText s) s := by
  have h := spells_text fun h0 => free (Text.Utf8.zero_mem_encode_iff.mp h0)
  rwa [Text.Utf8.decodeLossy_encode] at h

/-! ## Whole replies -/

/-- A whole reply is read from its first byte. -/
theorem Spells.run (h : Spells r span a) (rest : Bytes) : r.run (span ++ rest) = .ok a := by
  rw [Reading.run, h.reads { buf := span ++ rest } rest rfl]
  rfl

end Reading

end Query

end RemoteConsole
