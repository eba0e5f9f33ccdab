import RemoteConsole.Frame
import Mathlib.Data.List.Basic

/-!
# Cutting frames off a buffer

What `split` says of a buffer it says of every longer one (`split_append`, `split_append_error`), so
frames may be cut off a stream before all of it has arrived. `CutsInto` says that some frames were
cut off a buffer one after the other; they are then the first of `splitAll`, and none of the
buffer's bytes is lost.
-/

namespace RemoteConsole.Frame

variable {maxSize : Nat} {buf frame rest more left : Bytes} {frames : List Bytes} {e : Error}

/-- The size that a buffer of at least four bytes declares. -/
def declaredSize (buf : Bytes) : Int :=
  (Bytes.toInt32 buf).toInt

/-- A declared size cannot be right if it is negative or too large. -/
abbrev OutOfRange (maxSize : Nat) (size : Int) : Prop :=
  size < 0 ∨ (maxSize : Int) < size

/-- What `split` says of a buffer, by its declared size. -/
theorem split_eq (maxSize : Nat) (buf : Bytes) :
    split maxSize buf =
      if buf.length < Packet.sizeFieldLength then .ok none
      else if OutOfRange maxSize (declaredSize buf) then
        .error (.malformedPacket (.frameSizeOutOfRange (declaredSize buf) maxSize))
      else if buf.length < Packet.sizeFieldLength + (declaredSize buf).toNat then .ok none
      else
        .ok (some (buf.take (Packet.sizeFieldLength + (declaredSize buf).toNat),
          buf.drop (Packet.sizeFieldLength + (declaredSize buf).toNat))) :=
  rfl

/-- The declared size does not change when more bytes arrive. -/
theorem declaredSize_append (h : Packet.sizeFieldLength ≤ buf.length) (more : Bytes) :
    declaredSize (buf ++ more) = declaredSize buf := by
  have h4 : 4 ≤ buf.length := h
  rw [declaredSize, declaredSize, Bytes.toInt32, Bytes.toInt32, List.take_append_of_le_length h4]

/-- A frame comes off a buffer exactly if its size can be right and as many bytes are there. -/
theorem split_eq_frame_iff :
    split maxSize buf = .ok (some (frame, rest)) ↔
      Packet.sizeFieldLength ≤ buf.length ∧ ¬OutOfRange maxSize (declaredSize buf) ∧
        Packet.sizeFieldLength + (declaredSize buf).toNat ≤ buf.length ∧
          frame = buf.take (Packet.sizeFieldLength + (declaredSize buf).toNat) ∧
            rest = buf.drop (Packet.sizeFieldLength + (declaredSize buf).toNat) := by
  constructor
  · intro h
    rw [split_eq] at h
    split_ifs at h with hfield hsize hlength
    · cases h
    · cases h
    · cases h
      exact ⟨Nat.le_of_not_lt hfield, hsize, Nat.le_of_not_lt hlength, rfl, rfl⟩
  · rintro ⟨hfield, hsize, hlength, rfl, rfl⟩
    rw [split_eq, if_neg (Nat.not_lt.mpr hfield), if_neg hsize, if_neg (Nat.not_lt.mpr hlength)]

/-- A buffer is refused exactly if its size cannot be right. -/
theorem split_eq_error_iff :
    split maxSize buf = .error e ↔
      Packet.sizeFieldLength ≤ buf.length ∧ OutOfRange maxSize (declaredSize buf) ∧
        e = .malformedPacket (.frameSizeOutOfRange (declaredSize buf) maxSize) := by
  constructor
  · intro h
    rw [split_eq] at h
    split_ifs at h with hfield hsize hlength
    cases h
    exact ⟨Nat.le_of_not_lt hfield, hsize, rfl⟩
  · rintro ⟨hfield, hsize, rfl⟩
    rw [split_eq, if_neg (Nat.not_lt.mpr hfield), if_pos hsize]

/-- A buffer that begins with a frame still begins with it when more bytes arrive. -/
theorem split_append (h : split maxSize buf = .ok (some (frame, rest))) (more : Bytes) :
    split maxSize (buf ++ more) = .ok (some (frame, rest ++ more)) := by
  obtain ⟨hfield, hsize, hlength, rfl, rfl⟩ := split_eq_frame_iff.mp h
  rw [split_eq_frame_iff, declaredSize_append hfield, List.take_append_of_le_length hlength,
    List.drop_append_of_le_length hlength, List.length_append]
  exact ⟨by omega, hsize, by omega, rfl, rfl⟩

/-- A size field that cannot be right stays so when more bytes arrive. -/
theorem split_append_error (h : split maxSize buf = .error e) (more : Bytes) :
    split maxSize (buf ++ more) = .error e := by
  obtain ⟨hfield, hsize, rfl⟩ := split_eq_error_iff.mp h
  rw [split_eq_error_iff, declaredSize_append hfield, List.length_append]
  exact ⟨by omega, hsize, rfl⟩

/-- What is wrong with a buffer is always its form. -/
theorem exists_malformed_of_split (h : split maxSize buf = .error e) :
    ∃ cause, e = .malformedPacket cause := by
  obtain ⟨-, -, rfl⟩ := split_eq_error_iff.mp h
  exact ⟨_, rfl⟩

/-- A frame that is complete comes first. -/
theorem splitAll_of_split (h : split maxSize buf = .ok (some (frame, rest))) :
    splitAll maxSize buf = (frame :: (splitAll maxSize rest).1, (splitAll maxSize rest).2) := by
  rw [splitAll]
  split
  · rename_i frame' rest' h'
    rw [h] at h'
    cases h'
    rfl
  · rename_i h'
    exact absurd h (h' frame rest)

/-- A buffer with no complete frame in front is left whole. -/
theorem splitAll_eq_nil (h : ∀ frame rest, split maxSize buf ≠ .ok (some (frame, rest))) :
    splitAll maxSize buf = ([], buf) := by
  rw [splitAll]
  split
  · rename_i frame rest h'
    exact absurd h' (h frame rest)
  · rfl

/-- Some frames, cut off a buffer one after the other, and what is left of it. -/
inductive CutsInto (maxSize : Nat) : Bytes → List Bytes → Bytes → Prop
  /-- No frame is cut off. -/
  | nil (buf : Bytes) : CutsInto maxSize buf [] buf
  /-- The first frame is cut off, and then the others. -/
  | cons {buf frame rest left : Bytes} {frames : List Bytes}
      (head : split maxSize buf = .ok (some (frame, rest)))
      (tail : CutsInto maxSize rest frames left) : CutsInto maxSize buf (frame :: frames) left

namespace CutsInto

/-- The frames and what is left are the buffer. -/
theorem flatten_append (h : CutsInto maxSize buf frames left) : frames.flatten ++ left = buf := by
  induction h with
  | nil => rfl
  | cons head _ ih => rw [List.flatten_cons, List.append_assoc, ih, append_of_split head]

/-- Bytes that arrive go behind what is left. -/
theorem append (h : CutsInto maxSize buf frames left) (more : Bytes) :
    CutsInto maxSize (buf ++ more) frames (left ++ more) := by
  induction h with
  | nil => exact .nil _
  | cons head _ ih => exact .cons (split_append head more) ih

/-- More frames may be cut off what is left. -/
theorem trans {frames' : List Bytes} {left' : Bytes} (h : CutsInto maxSize buf frames left)
    (h' : CutsInto maxSize left frames' left') :
    CutsInto maxSize buf (frames ++ frames') left' := by
  induction h with
  | nil => exact h'
  | cons head _ ih => exact .cons head (ih h')

/-- The frames are the first of all, and the others come out of what is left. -/
theorem splitAll_eq (h : CutsInto maxSize buf frames left) :
    splitAll maxSize buf = (frames ++ (splitAll maxSize left).1, (splitAll maxSize left).2) := by
  induction h with
  | nil => rfl
  | cons head _ ih => rw [splitAll_of_split head, ih]; rfl

end CutsInto

end RemoteConsole.Frame
