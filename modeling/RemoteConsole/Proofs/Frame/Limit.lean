import RemoteConsole.Proofs.Frame.Split
import RemoteConsole.Proofs.Packet.Body

/-!
# The size limit of the writer and the reader

The writer holds the size of a packet against the limit as a count of bytes, and then writes it as a
signed number of 32 bits. The reader holds that number against the limit. The two agree where the
size is one that the field can say (`split_encode_iff`). Any other size wraps around on the way, and
what the reader makes of the packet is what the wrapped size says (`split_encode`): at the first
sizes beyond the field it refuses the stream (`split_command`).
-/

namespace RemoteConsole

namespace Bytes

/-- What is left of a number in four bytes that are read as a signed one. -/
def wrapped (n : Nat) : Int :=
  (n : Int).bmod (2 ^ 32)

theorem toInt_toInt32_ofNat_append_eq_wrapped (n : Nat) (rest : Bytes) :
    (toInt32 (ofNat 4 n ++ rest)).toInt = wrapped n := by
  have hrange : Nat.pow 256 4 = 2 ^ 32 := rfl
  rw [toInt32, List.take_left' (length_ofNat 4 n), toNat_ofNat, hrange, Int32.toInt_ofNat',
    Int.natCast_emod]
  exact Int.emod_bmod ..

theorem wrapped_eq (n : Nat) :
    wrapped n = if n % 2 ^ 32 < 2 ^ 31 then ((n % 2 ^ 32 : Nat) : Int)
      else (n % 2 ^ 32 : Nat) - (2 ^ 32 : Nat) := by
  have hbmod := Int.bmod_def (n : Int) (2 ^ 32)
  unfold wrapped
  omega

theorem wrapped_le (n : Nat) : wrapped n ≤ n := by
  have hwrapped := wrapped_eq n
  omega

/-- A number is left as it is exactly if it is one of the signed ones. -/
theorem wrapped_eq_iff {n : Nat} : wrapped n = n ↔ n < 2 ^ 31 := by
  have hwrapped := wrapped_eq n
  omega

/-- The first numbers beyond the signed ones become negative. -/
theorem wrapped_of_le {n : Nat} (h : 2 ^ 31 ≤ n) (h' : n < 2 ^ 32) :
    wrapped n = n - (2 ^ 32 : Nat) := by
  have hwrapped := wrapped_eq n
  omega

end Bytes

namespace Frame

open Packet (layout minSize sizeFieldLength)

variable {p : Packet} {e : Encoding} {maxSize : Nat} {bytes rest : Bytes}

/-- A packet declares what is left of its size, whatever follows it. -/
theorem declaredSize_layout_append (id : Int32) (type : PacketType) (body rest : Bytes) :
    declaredSize (layout id type body ++ rest) = Bytes.wrapped (minSize + body.length) := by
  simp only [declaredSize, layout, List.append_assoc]
  exact Bytes.toInt_toInt32_ofNat_append_eq_wrapped ..

/-- What the reader makes of a packet that was written under its own limit: it refuses the stream if
the size has become negative, and cuts off as many bytes as are left of the size otherwise. It never
waits for more. -/
theorem split_encode (written : p.encode e maxSize = .ok bytes) (rest : Bytes) :
    let size := Bytes.wrapped (minSize + (e.encode p.body).length)
    split maxSize (bytes ++ rest) =
      if size < 0 then .error (.malformedPacket (.frameSizeOutOfRange size maxSize))
      else
        .ok (some ((bytes ++ rest).take (sizeFieldLength + size.toNat),
          (bytes ++ rest).drop (sizeFieldLength + size.toNat))) := by
  intro size
  obtain ⟨rfl, hmax⟩ := Packet.eq_layout_of_encode written
  have hle : size ≤ (minSize + (e.encode p.body).length : Nat) := Bytes.wrapped_le _
  have hdeclared : declaredSize (layout p.id p.type (e.encode p.body) ++ rest) = size :=
    declaredSize_layout_append ..
  have hlength : (layout p.id p.type (e.encode p.body)).length =
      sizeFieldLength + (minSize + (e.encode p.body).length) := Packet.length_layout
  rw [split_eq, hdeclared, List.length_append, hlength, if_neg (by omega)]
  by_cases hnegative : size < 0
  · rw [if_pos (.inl hnegative), if_pos hnegative]
  · rw [if_neg (by unfold OutOfRange; omega), if_neg (by omega), if_neg hnegative]

/-- A packet whose size the signed size field can say is cut off as it was written. -/
theorem split_encode_of_fits (written : p.encode e maxSize = .ok bytes)
    (fits : minSize + (e.encode p.body).length < 2 ^ 31) (rest : Bytes) :
    split maxSize (bytes ++ rest) = .ok (some (bytes, rest)) := by
  obtain ⟨hbytes, -⟩ := Packet.eq_layout_of_encode written
  have hlength : bytes.length = sizeFieldLength + (minSize + (e.encode p.body).length) := by
    rw [hbytes, Packet.length_layout]
  rw [split_encode written, Bytes.wrapped_eq_iff.mpr fits, if_neg (by omega), Int.toNat_natCast,
    ← hlength, List.take_left, List.drop_left]

/-- A packet that the writer accepts comes out of the reader as it went in, with the same limit and
whatever follows it, exactly if its size is one that the signed size field can say. -/
theorem split_encode_iff (p : Packet) (e : Encoding) (maxSize : Nat) (bytes rest : Bytes)
    (written : p.encode e maxSize = .ok bytes) :
    split maxSize (bytes ++ rest) = .ok (some (bytes, rest)) ↔
      minSize + (e.encode p.body).length < 2 ^ 31 := by
  obtain ⟨hbytes, -⟩ := Packet.eq_layout_of_encode written
  have hlength : bytes.length = sizeFieldLength + (minSize + (e.encode p.body).length) := by
    rw [hbytes, Packet.length_layout]
  have hle := Bytes.wrapped_le (minSize + (e.encode p.body).length)
  refine ⟨fun h => ?_, fun fits => split_encode_of_fits written fits rest⟩
  · rw [split_encode written] at h
    rw [← Bytes.wrapped_eq_iff]
    split_ifs at h with hnegative
    -- a frame that is the packet is as long as the packet, so its size was not changed
    have hframe : ((bytes ++ rest).take _).length = bytes.length :=
      congrArg List.length (Prod.mk.inj (Option.some.inj (Except.ok.inj h))).1
    rw [List.length_take, List.length_append] at hframe
    omega

/-- A packet of the largest size that its limit allows, with a part of another one behind it. -/
theorem split_encode_at_limit :
    let p : Packet := ⟨7, .execCommand, "a"⟩
    let bytes : Bytes := [11, 0, 0, 0, 7, 0, 0, 0, 2, 0, 0, 0, 97, 0, 0]
    p.encode .utf8 11 = .ok bytes ∧ split 11 (bytes ++ [11, 0]) = .ok (some (bytes, [11, 0])) := by
  have hwritten : Packet.encode ⟨7, .execCommand, "a"⟩ .utf8 11 =
      .ok [11, 0, 0, 0, 7, 0, 0, 0, 2, 0, 0, 0, 97, 0, 0] := by rfl
  exact ⟨hwritten, (split_encode_iff _ _ _ _ [11, 0] hwritten).mpr (by decide)⟩

/-- A command with a text of some length. -/
def command (length : Nat) : Packet :=
  ⟨1, .execCommand, String.ofList (List.replicate length 'x')⟩

theorem length_encode_command (e : Encoding) (length : Nat) :
    (e.encode (command length).body).length = length := by
  have hascii : ∀ c ∈ (command length).body.toList, c.toNat < 0x80 := by
    intro c hc
    rw [command, String.toList_ofList] at hc
    rw [List.eq_of_mem_replicate hc]
    decide
  rw [Encoding.encode_of_ascii hascii, List.length_map, command, String.toList_ofList,
    List.length_replicate]

/-- A command of one of the first sizes beyond the size field is written under a limit that allows
it, and the reader with this limit refuses the stream for it. -/
theorem split_command (e : Encoding) (length maxSize : Nat) (h : 2 ^ 31 ≤ minSize + length)
    (h' : minSize + length < 2 ^ 32) (hmax : minSize + length ≤ maxSize) :
    ∃ bytes, (command length).encode e maxSize = .ok bytes ∧
      ∀ rest, split maxSize (bytes ++ rest) =
        .error (.malformedPacket
          (.frameSizeOutOfRange ((minSize + length : Nat) - (2 ^ 32 : Nat)) maxSize)) := by
  have hlength := length_encode_command e length
  have hwritten : (command length).encode e maxSize =
      .ok (layout (command length).id (command length).type (e.encode (command length).body)) := by
    rw [Packet.encode_eq, hlength, if_neg (Nat.not_lt.mpr hmax)]
  refine ⟨_, hwritten, fun rest => ?_⟩
  rw [split_encode hwritten, hlength, Bytes.wrapped_of_le h h', if_pos (by omega)]

/-- The writer accepts a command whose size is one more than the size field can say, and the reader
with the same limit refuses it. -/
theorem not_split_command :
    ∃ bytes, (command (2 ^ 31 - 10)).encode .utf8 (2 ^ 31) = .ok bytes ∧
      split (2 ^ 31) bytes =
        .error (.malformedPacket (.frameSizeOutOfRange (-(2 ^ 31 : Nat)) (2 ^ 31))) := by
  have hsize : minSize + (2 ^ 31 - 10) = 2 ^ 31 := by decide
  obtain ⟨bytes, hwritten, hsplit⟩ := split_command .utf8 (2 ^ 31 - 10) (2 ^ 31) (by omega)
    (by omega) (by omega)
  refine ⟨bytes, hwritten, ?_⟩
  have h := hsplit []
  rw [List.append_nil, hsize] at h
  exact h

end Frame

end RemoteConsole
