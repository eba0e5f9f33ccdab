import RemoteConsole.Packet
import RemoteConsole.Proofs.Text.Encoding
import Mathlib.Algebra.Group.Nat.Defs

/-!
# The layout of a packet

A packet's bytes with the body left as bytes. Writing a packet gives the layout around the encoded
body (`encode_eq`), and reading a layout gives its fields back, with the body as the encoding reads
it (`decode_layout`). A server's packets have a layout too, whether or not its bodies can be read.
-/

namespace RemoteConsole

/-- The text that the bytes of a body count as. Bytes that cannot be read count as none. -/
def Encoding.received (e : Encoding) (body : Bytes) : String :=
  (e.decode body).toOption.getD ""

/-- Bytes that can be read count as their text. -/
theorem Encoding.received_of_decode {e : Encoding} {body : Bytes} {s : String}
    (h : e.decode body = .ok s) : e.received body = s := by
  rw [received, h]
  rfl

/-- A number that is not negative as a signed one is read back as it was written. -/
theorem Bytes.toInt_toInt32_ofNat_append {n : Nat} (h : n < 2 ^ 31) (rest : Bytes) :
    (toInt32 (ofNat 4 n ++ rest)).toInt = n := by
  rw [toInt32, List.take_left' (length_ofNat 4 n), toNat_ofNat, Nat.mod_eq_of_lt (by simp; omega)]
  exact Int32.toInt_ofNat_of_lt h

namespace Packet

variable {e : Encoding} {id : Int32} {type : PacketType} {body : Bytes}

/-- The bytes of a packet with a body that is given as bytes. -/
def layout (id : Int32) (type : PacketType) (body : Bytes) : Bytes :=
  Bytes.ofNat 4 (minSize + body.length) ++ Bytes.ofInt32 id ++ Bytes.ofInt32 type.toWire ++ body ++
    [0, 0]

/-- Whether a body fits into a packet, whose size field is signed. -/
def Fits (body : Bytes) : Prop :=
  minSize + body.length < 2 ^ 31

instance (body : Bytes) : Decidable (Fits body) :=
  inferInstanceAs (Decidable (_ < _))

/-- What is written is the layout around the encoded body, if it is not too large. -/
theorem encode_eq (p : Packet) (e : Encoding) (maxSize : Nat) :
    p.encode e maxSize =
      if maxSize < minSize + (e.encode p.body).length then
        .error (.packetTooLarge (minSize + (e.encode p.body).length) maxSize)
      else .ok (layout p.id p.type (e.encode p.body)) :=
  rfl

/-- A packet that is written is the layout around its encoded body, and its size is within the
limit. -/
theorem eq_layout_of_encode {p : Packet} {maxSize : Nat} {bytes : Bytes}
    (written : p.encode e maxSize = .ok bytes) :
    bytes = layout p.id p.type (e.encode p.body) ∧
      minSize + (e.encode p.body).length ≤ maxSize := by
  rw [encode_eq] at written
  split at written
  · cases written
  · rename_i hmax
    exact ⟨(Except.ok.inj written).symm, Nat.le_of_not_lt hmax⟩

/-- The length of a packet is that of the size field and what it counts. -/
theorem length_layout :
    (layout id type body).length = sizeFieldLength + (minSize + body.length) := by
  simp only [layout, List.length_append, Bytes.length_ofNat, Bytes.ofInt32, sizeFieldLength,
    minSize, List.length_cons, List.length_nil]
  omega

/-- The fields of a layout are read back, the body as the encoding reads it. -/
theorem decode_layout (fits : Fits body) :
    decode (layout id type body) e =
      .ok { id, type := .ofWire type.toWire, body := e.received body } := by
  have hsize : (Bytes.toInt32 (layout id type body)).toInt =
      ((minSize + body.length : Nat) : Int) := by
    rw [layout, List.append_assoc, List.append_assoc, List.append_assoc]
    exact Bytes.toInt_toInt32_ofNat_append fits _
  -- The fields start 4, 8 and 12 bytes into the packet.
  have hid : (layout id type body).drop 4 =
      Bytes.ofInt32 id ++ (Bytes.ofInt32 type.toWire ++ (body ++ [0, 0])) := by
    rw [layout, List.append_assoc, List.append_assoc, List.append_assoc]
    exact List.drop_left' (Bytes.length_ofNat ..)
  have htype : (layout id type body).drop 8 = Bytes.ofInt32 type.toWire ++ (body ++ [0, 0]) := by
    rw [show 8 = 4 + 4 from rfl, ← List.drop_drop, hid]
    exact List.drop_left' (Bytes.length_ofNat ..)
  have hbody : (layout id type body).drop 12 = body ++ [0, 0] := by
    rw [show 12 = 8 + 4 from rfl, ← List.drop_drop, htype]
    exact List.drop_left' (Bytes.length_ofNat ..)
  unfold decode
  dsimp only
  rw [hsize, hid, htype, hbody, length_layout, if_neg (by omega), if_neg (by omega),
    if_neg (by omega), Int.toNat_natCast, Nat.add_sub_cancel_left, List.take_left' rfl,
    Bytes.toInt32_ofInt32_append, Bytes.toInt32_ofInt32_append]
  rfl

end Packet

end RemoteConsole
