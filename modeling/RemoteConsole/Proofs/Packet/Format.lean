import RemoteConsole.Proofs.Bytes
import RemoteConsole.Proofs.Frame.Split
import RemoteConsole.Proofs.Packet.Layout

/-!
# The format of a packet

Which buffers hold a packet (`Framed`), and how reading and writing one go together. What is written
is read back, whatever follows it (`decode_encode_append`). What is read stays inside the buffer and
is written back as it stood there, apart from the two bytes after the body, which are not looked at,
and from a body that cannot be read, which counts as empty (`decode_within_format`).
-/

namespace RemoteConsole

namespace Bytes

variable {bytes rest : Bytes}

/-- The bytes of a buffer from one index up to another, if the buffer has them. -/
def slice? (buf : Bytes) (start stop : Nat) : Option Bytes :=
  if start ≤ stop ∧ stop ≤ buf.length then some ((buf.take stop).drop start) else none

theorem slice?_of_le {buf : Bytes} {start stop : Nat} (h : start ≤ stop) (h' : stop ≤ buf.length) :
    buf.slice? start stop = some ((buf.take stop).drop start) :=
  if_pos ⟨h, h'⟩

end Bytes

/-- The number of a received type is the one that was received. -/
theorem PacketType.toWire_ofWire (wire : Int32) : (ofWire wire).toWire = wire := by
  unfold ofWire
  split_ifs with h0 h2 h3
  · exact h0.symm
  · exact h2.symm
  · exact h3.symm
  · rfl

namespace Packet

open RemoteConsole.Frame (declaredSize)

variable {buf rest : Bytes} {e : Encoding} {p : Packet} {maxSize : Nat}

/-! ## Buffers that hold a packet -/

/-- A buffer holds a packet: it has a size field, and as many bytes after it as that says, which are
enough for a packet without a body. -/
def Framed (buf : Bytes) : Prop :=
  4 ≤ buf.length ∧ 10 ≤ declaredSize buf ∧ declaredSize buf ≤ (buf.length : Int) - 4

/-- The size that a buffer declares, as a number of bytes. -/
def size (buf : Bytes) : Nat :=
  (declaredSize buf).toNat

/-- The bytes of the body. -/
def bodyBytes (buf : Bytes) : Bytes :=
  (buf.take (size buf + 2)).drop 12

/-- The packet whose fields a buffer holds. -/
def fields (buf : Bytes) (e : Encoding) : Packet where
  id := Bytes.toInt32 (buf.drop 4)
  type := .ofWire (Bytes.toInt32 (buf.drop 8))
  body := e.received (bodyBytes buf)

/-- A buffer that holds a packet has all bytes that its size says, and those of the fields. -/
theorem Framed.size_le (framed : Framed buf) :
    10 ≤ size buf ∧ size buf + 4 ≤ buf.length ∧ declaredSize buf = (size buf : Nat) := by
  obtain ⟨hfield, hmin, hmax⟩ := framed
  unfold size
  omega

/-- A buffer that holds a packet is read as its fields. -/
theorem decode_of_framed (framed : Framed buf) (e : Encoding) : decode buf e = .ok (fields buf e) := by
  obtain ⟨hmin, hlength, hsize⟩ := framed.size_le
  have hbody : (buf.drop 12).take (size buf - minSize) = bodyBytes buf := by
    rw [bodyBytes, List.drop_take]
    congr 1
  have hdeclared : (Bytes.toInt32 buf).toInt = (size buf : Nat) := hsize
  unfold decode
  unfold minSize sizeFieldLength at *
  dsimp only
  rw [hdeclared, if_neg (by omega), if_neg (by omega), if_neg (by omega), Int.toNat_natCast, hbody]
  rfl

/-- A buffer that holds no packet is refused for its form. -/
theorem decode_of_not_framed (h : ¬Framed buf) (e : Encoding) :
    ∃ cause, decode buf e = .error (.malformedPacket cause) := by
  have hdeclared : (Bytes.toInt32 buf).toInt = declaredSize buf := rfl
  unfold decode
  dsimp only
  rw [hdeclared]
  split_ifs with hfield hsize hmin
  · exact ⟨_, rfl⟩
  · exact ⟨_, rfl⟩
  · exact ⟨_, rfl⟩
  · unfold sizeFieldLength at hfield hsize
    unfold minSize at hmin
    exact absurd ⟨by omega, by omega, by omega⟩ h

/-- Reading a packet with every access to the buffer checked: `none` if one falls outside of it. -/
def decodeWithin (buf : Bytes) (e : Encoding) : Option (Except Error Packet) := do
  if buf.length < sizeFieldLength then
    return .error (.malformedPacket .noSizeField)
  let size := (Bytes.toInt32 (← buf.slice? 0 4)).toInt
  if size < 0 ∨ (buf.length : Int) - sizeFieldLength < size then
    return .error (.malformedPacket (.sizeDoesNotFit size buf.length))
  if size.toNat < minSize then
    return .error (.malformedPacket (.sizeBelowMinimum size.toNat minSize))
  let id ← buf.slice? 4 8
  let type ← buf.slice? 8 12
  let body ← buf.slice? 12 (size.toNat + 2)
  return .ok {
    id := Bytes.toInt32 id
    type := .ofWire (Bytes.toInt32 type)
    body := (e.decode body).toOption.getD "" }

/-- A number is read from the four bytes it takes up. -/
theorem toInt32_slice (buf : Bytes) (start : Nat) :
    Bytes.toInt32 ((buf.take (start + 4)).drop start) = Bytes.toInt32 (buf.drop start) := by
  rw [Bytes.toInt32, Bytes.toInt32, List.drop_take, Nat.add_sub_cancel_left, List.take_take,
    Nat.min_self]

/-- Reading a packet stays inside the buffer. -/
theorem decodeWithin_eq (buf : Bytes) (e : Encoding) : decodeWithin buf e = some (decode buf e) := by
  by_cases hfield : buf.length < sizeFieldLength
  · simp only [decodeWithin, decode, if_pos hfield]
    rfl
  have hfour : 4 ≤ buf.length := Nat.le_of_not_lt hfield
  have hsize : (Bytes.toInt32 ((buf.take 4).drop 0)).toInt = declaredSize buf :=
    congrArg Int32.toInt (toInt32_slice buf 0)
  have hsize' : (Bytes.toInt32 buf).toInt = declaredSize buf := rfl
  unfold decodeWithin decode
  simp only [if_neg hfield, Bytes.slice?_of_le (Nat.zero_le 4) hfour, Option.bind_eq_bind,
    Option.bind_some, hsize, hsize']
  by_cases hfits : declaredSize buf < 0 ∨ (buf.length : Int) - sizeFieldLength < declaredSize buf
  · rw [if_pos hfits, if_pos hfits]
    rfl
  by_cases hmin : (declaredSize buf).toNat < minSize
  · rw [if_neg hfits, if_neg hfits, if_pos hmin, if_pos hmin]
    rfl
  rw [if_neg hfits, if_neg hfits, if_neg hmin, if_neg hmin]
  -- A size that is neither too small nor too large says that the fields are there.
  obtain ⟨hid, htype, hbody, hstop⟩ : 8 ≤ buf.length ∧ 12 ≤ buf.length ∧
      12 ≤ (declaredSize buf).toNat + 2 ∧ (declaredSize buf).toNat + 2 ≤ buf.length := by
    unfold minSize sizeFieldLength at *
    omega
  rw [Bytes.slice?_of_le (by decide) hid, Bytes.slice?_of_le (by decide) htype,
    Bytes.slice?_of_le hbody hstop, Option.bind_some, Option.bind_some, Option.bind_some,
    toInt32_slice buf 4, toInt32_slice buf 8, List.drop_take]
  rfl

/-! ## What is written is read back -/

/-- What a buffer holds is not changed by what follows it. -/
theorem Framed.append (framed : Framed buf) (rest : Bytes) :
    Framed (buf ++ rest) ∧ fields (buf ++ rest) e = fields buf e := by
  obtain ⟨hmin, hlength, -⟩ := framed.size_le
  obtain ⟨hfield, hmin', hmax⟩ := framed
  have hdeclared := Frame.declaredSize_append hfield rest
  have hsize : size (buf ++ rest) = size buf := by
    rw [size, hdeclared, size]
  have hread {start : Nat} (h : start + 4 ≤ buf.length) :
      Bytes.toInt32 ((buf ++ rest).drop start) = Bytes.toInt32 (buf.drop start) := by
    rw [← toInt32_slice (buf ++ rest), List.take_append_of_le_length h, toInt32_slice buf]
  refine ⟨⟨?_, ?_, ?_⟩, ?_⟩
  · rw [List.length_append]
    omega
  · rwa [hdeclared]
  · rw [hdeclared, List.length_append]
    omega
  · rw [fields, fields, hread (by omega), hread (by omega), bodyBytes, bodyBytes, hsize,
      List.take_append_of_le_length (by omega)]

/-- A packet is read from a buffer whatever follows it. -/
theorem decode_append (h : decode buf e = .ok p) (rest : Bytes) : decode (buf ++ rest) e = .ok p := by
  by_cases framed : Framed buf
  · obtain ⟨framed', hfields⟩ := framed.append (e := e) rest
    rw [decode_of_framed framed] at h
    rw [decode_of_framed framed', hfields, h]
  · obtain ⟨cause, hcause⟩ := decode_of_not_framed framed e
    cases hcause.symm.trans h

/-- A packet that is written is read back whatever follows it: with its id, the type that a received
packet of its number has, and its text with a question mark for each character that the encoding has
no bytes for. What is read back is written as the same bytes. -/
theorem decode_encode_append (p : Packet) (e : Encoding) (maxSize : Nat) (bytes rest : Bytes)
    (written : p.encode e maxSize = .ok bytes) (fits : Fits (e.encode p.body)) :
    let q : Packet := ⟨p.id, .ofWire p.type.toWire, e.legible p.body⟩
    decode (bytes ++ rest) e = .ok q ∧ q.encode e maxSize = .ok bytes := by
  obtain ⟨rfl, hmax⟩ := eq_layout_of_encode written
  constructor
  · refine decode_append ?_ rest
    rw [decode_layout fits, Encoding.received_of_decode (Encoding.decode_encode_legible e p.body)]
  · rw [encode_eq, Encoding.encode_legible, if_neg (Nat.not_lt.mpr hmax), layout, layout,
      PacketType.toWire_ofWire]

/-- A text that Latin-1 has only a part of, in a packet with bytes after it. -/
theorem decode_encode_append_latin1 :
    let p : Packet := ⟨-5, .execCommand, "é€"⟩
    let bytes : Bytes := [12, 0, 0, 0, 251, 255, 255, 255, 2, 0, 0, 0, 0xE9, 0x3F, 0, 0]
    p.encode .latin1 64 = .ok bytes ∧ Fits (Encoding.latin1.encode p.body) ∧
      decode (bytes ++ [7]) .latin1 = .ok ⟨-5, .authResponse, "é?"⟩ ∧
        Packet.encode ⟨-5, .authResponse, "é?"⟩ .latin1 64 = .ok bytes := by
  have hwritten : Packet.encode ⟨-5, .execCommand, "é€"⟩ .latin1 64 =
      .ok [12, 0, 0, 0, 251, 255, 255, 255, 2, 0, 0, 0, 0xE9, 0x3F, 0, 0] := by rfl
  exact ⟨hwritten, by decide,
    decode_encode_append ⟨-5, .execCommand, "é€"⟩ .latin1 64 _ [7] hwritten (by decide)⟩

/-! ## What is read is written back -/

/-- The number that a buffer holds in its first four bytes is the size, if that is not negative. -/
theorem ofNat_size (hfield : 4 ≤ buf.length) (h : 0 ≤ declaredSize buf) :
    Bytes.ofNat 4 (size buf) = buf.take 4 := by
  have hlength : (buf.take 4).length = 4 := List.length_take_of_le hfield
  have hbytes := Bytes.ofNat_toNat (buf.take 4)
  rwa [hlength, Bytes.toNat_take_of_nonneg h] at hbytes

/-- What a packet without its body is written as, apart from the size: its id and its type as they
stood in the buffer it was read from. -/
theorem ofInt32_fields (h : 12 ≤ buf.length) (e : Encoding) :
    Bytes.ofInt32 (fields buf e).id ++ Bytes.ofInt32 (fields buf e).type.toWire =
      (buf.take 12).drop 4 := by
  have hid : Bytes.ofInt32 (fields buf e).id = (buf.drop 4).take 4 :=
    Bytes.ofInt32_toInt32 (by rw [List.length_drop]; omega)
  have htype : Bytes.ofInt32 (fields buf e).type.toWire = (buf.drop 8).take 4 := by
    rw [fields, PacketType.toWire_ofWire]
    exact Bytes.ofInt32_toInt32 (by rw [List.length_drop]; omega)
  rw [hid, htype, List.drop_take, show 12 - 4 = 4 + 4 from rfl, List.take_add, List.drop_drop]

/-- Two neighbouring pieces of a buffer. -/
theorem take_append_piece {m n : Nat} (h : m ≤ n) (buf : Bytes) :
    buf.take m ++ (buf.take n).drop m = buf.take n := by
  have hpieces := List.take_append_drop m (buf.take n)
  rwa [List.take_take, Nat.min_eq_left h] at hpieces

/-- A valid body is written as its bytes. -/
theorem encode_fields_of_valid (framed : Framed buf) (valid : e.Valid (bodyBytes buf))
    (hmax : size buf ≤ maxSize) :
    (fields buf e).encode e maxSize = .ok (buf.take (size buf + 2) ++ [0, 0]) := by
  obtain ⟨hmin, hlength, hsize⟩ := framed.size_le
  obtain ⟨text, htext⟩ := Encoding.valid_iff_decode.mp valid
  have hbody : e.encode (fields buf e).body = bodyBytes buf := by
    rw [fields, Encoding.received_of_decode htext, Encoding.encode_of_decode htext]
  have hcount : minSize + (bodyBytes buf).length = size buf := by
    rw [bodyBytes, List.length_drop, List.length_take_of_le (by omega), minSize]
    omega
  rw [encode_eq, hbody, hcount, if_neg (Nat.not_lt.mpr hmax), layout, hcount,
    ofNat_size (by omega) (by omega), List.append_assoc (buf.take 4), ofInt32_fields (by omega),
    take_append_piece (by decide), bodyBytes, take_append_piece (by omega)]

/-- A body that cannot be read is written as none. -/
theorem encode_fields_of_not_valid (framed : Framed buf) (invalid : ¬e.Valid (bodyBytes buf))
    (hmax : size buf ≤ maxSize) :
    (fields buf e).encode e maxSize = .ok ([10, 0, 0, 0] ++ (buf.take 12).drop 4 ++ [0, 0]) := by
  obtain ⟨hmin, hlength, -⟩ := framed.size_le
  have hbody : (fields buf e).body = "" := by
    cases hdecode : e.decode (bodyBytes buf) with
    | error fault =>
      rw [fields, Encoding.received, hdecode]
      rfl
    | ok text => exact absurd (Encoding.valid_iff_decode.mpr ⟨text, hdecode⟩) invalid
  have hcount : ¬maxSize < minSize + ([] : Bytes).length := by
    rw [List.length_nil, minSize]
    omega
  rw [encode_eq, hbody, Encoding.encode_empty, if_neg hcount, layout, List.append_nil,
    List.append_assoc (Bytes.ofNat _ _), ofInt32_fields (by omega)]
  rfl

/-- The two bytes after the body are zero exactly if nothing changes where zeros are put there. -/
theorem terminated_iff {k : Nat} (h : k + 2 ≤ buf.length) :
    buf.take k ++ [0, 0] = buf.take (k + 2) ↔ buf[k]? = some 0 ∧ buf[k + 1]? = some 0 := by
  have hfirst : buf[k]? = (buf.drop k)[0]? := by rw [List.getElem?_drop, Nat.add_zero]
  have hsecond : buf[k + 1]? = (buf.drop k)[1]? := by rw [List.getElem?_drop]
  have hlength : 2 ≤ (buf.drop k).length := by rw [List.length_drop]; omega
  rw [List.take_add, List.append_cancel_left_eq, hfirst, hsecond]
  match buf.drop k, hlength with
  | a :: b :: rest, _ => simp [eq_comm]

/-- A buffer is read as a packet exactly if it holds one, and is refused for its form otherwise; to
find out, no byte outside of it is looked at. A packet that was read with a valid body is written as
the bytes it was read from, with zeros for the two last ones, so as the same bytes exactly if those
were zero. One that was read with any other body is written without a body, and with the id and the
type that it had. -/
theorem decode_within_format (buf : Bytes) (e : Encoding) :
    decodeWithin buf e = some (decode buf e) ∧
      ((∃ p, decode buf e = .ok p) ↔ Framed buf) ∧
      (¬Framed buf → ∃ cause, decode buf e = .error (.malformedPacket cause)) ∧
      ∀ p, decode buf e = .ok p → ∀ maxSize, size buf ≤ maxSize →
        (e.Valid (bodyBytes buf) →
          p.encode e maxSize = .ok (buf.take (size buf + 2) ++ [0, 0]) ∧
            (p.encode e maxSize = .ok (buf.take (size buf + 4)) ↔
              buf[size buf + 2]? = some 0 ∧ buf[size buf + 3]? = some 0)) ∧
        (¬e.Valid (bodyBytes buf) →
          p.encode e maxSize = .ok ([10, 0, 0, 0] ++ (buf.take 12).drop 4 ++ [0, 0])) := by
  refine ⟨decodeWithin_eq buf e, ⟨?_, ?_⟩, fun h => decode_of_not_framed h e, ?_⟩
  · rintro ⟨p, hp⟩
    by_contra h
    obtain ⟨cause, hcause⟩ := decode_of_not_framed h e
    cases hcause.symm.trans hp
  · exact fun framed => ⟨fields buf e, decode_of_framed framed e⟩
  · intro p hp maxSize hmax
    by_cases framed : Framed buf
    · obtain rfl := Except.ok.inj ((decode_of_framed framed e).symm.trans hp)
      obtain ⟨-, hlength, -⟩ := framed.size_le
      refine ⟨fun valid => ?_, fun invalid => encode_fields_of_not_valid framed invalid hmax⟩
      have hencode := encode_fields_of_valid framed valid hmax
      refine ⟨hencode, ?_⟩
      rw [hencode, Except.ok.injEq]
      exact terminated_iff (by omega)
    · obtain ⟨cause, hcause⟩ := decode_of_not_framed framed e
      cases hcause.symm.trans hp

end Packet

end RemoteConsole
