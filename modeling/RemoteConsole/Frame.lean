import RemoteConsole.Packet

/-!
# Frames

A frame is a packet's bytes as they stand in a stream, known by nothing but the size field in front.
A size field that cannot be right is fatal: where the next frame begins is not known after it.
-/

namespace RemoteConsole.Frame

/-- The first frame of a buffer and the bytes after it, or `none` if more bytes are needed. -/
def split (maxSize : Nat) (buf : Bytes) : Except Error (Option (Bytes × Bytes)) :=
  if buf.length < Packet.sizeFieldLength then .ok none
  else
    let size := (Bytes.toInt32 buf).toInt
    -- a size that cannot be right is refused without waiting for so many bytes
    if size < 0 ∨ (maxSize : Int) < size then
      .error (.malformedPacket (.frameSizeOutOfRange size maxSize))
    else
      let length := Packet.sizeFieldLength + size.toNat
      if buf.length < length then .ok none
      else .ok (some (buf.take length, buf.drop length))

/-- A frame is the front of the buffer, and it has at least a size field. -/
theorem exists_length_of_split {maxSize : Nat} {buf frame rest : Bytes}
    (h : split maxSize buf = .ok (some (frame, rest))) :
    ∃ length, Packet.sizeFieldLength ≤ length ∧ length ≤ buf.length ∧
      frame = buf.take length ∧ rest = buf.drop length := by
  unfold split at h
  split at h
  · cases h
  · dsimp only at h
    split at h
    · cases h
    · split at h
      · cases h
      · rename_i hl
        cases h
        exact ⟨_, Nat.le_add_right .., Nat.le_of_not_lt hl, rfl, rfl⟩

/-- A frame and what follows it are the buffer. -/
theorem append_of_split {maxSize : Nat} {buf frame rest : Bytes}
    (h : split maxSize buf = .ok (some (frame, rest))) : frame ++ rest = buf := by
  obtain ⟨length, _, _, rfl, rfl⟩ := exists_length_of_split h
  exact List.take_append_drop ..

/-- Less follows a frame than the buffer holds. -/
theorem length_rest_lt_of_split {maxSize : Nat} {buf frame rest : Bytes}
    (h : split maxSize buf = .ok (some (frame, rest))) : rest.length < buf.length := by
  obtain ⟨length, h4, hle, rfl, rfl⟩ := exists_length_of_split h
  simp only [List.length_drop, Packet.sizeFieldLength] at *
  omega

/-- All complete frames of a buffer, in order, up to the first size field that cannot be right, and
the bytes that are left. -/
def splitAll (maxSize : Nat) (buf : Bytes) : List Bytes × Bytes :=
  match h : split maxSize buf with
  | .ok (some (frame, rest)) =>
    have := length_rest_lt_of_split h
    let (frames, left) := splitAll maxSize rest
    (frame :: frames, left)
  | _ => ([], buf)
termination_by buf.length

end RemoteConsole.Frame
