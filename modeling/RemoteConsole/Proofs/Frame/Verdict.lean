import Mathlib.Data.Nat.Find
import RemoteConsole.Proofs.Frame.Buffer

/-!
# When a verdict is possible

`split` gives one of two verdicts, a frame or a refusal, or asks for more bytes. A verdict is final:
whatever arrives afterwards, it stays the same (`split_lasts`). And it does not wait for more bytes
than the largest frame has (`length_le_of_split_none`). So a reader that goes on receiving bytes, in
pieces of any size, comes to a verdict while these pieces arrive (`verdict_final`).
-/

namespace RemoteConsole.Frame

variable {maxSize : Nat} {buf frame rest : Bytes}

/-- A frame declares its own size, which is within the limit. -/
theorem exists_size_of_split (h : split maxSize buf = .ok (some (frame, rest))) :
    ∃ size ≤ maxSize, declaredSize frame = size ∧
      frame.length = Packet.sizeFieldLength + size := by
  obtain ⟨-, hsize, hlength, hframe, -⟩ := split_eq_frame_iff.mp h
  obtain ⟨hnonneg, hlimit⟩ := not_or.mp hsize
  have hcut : frame.length = Packet.sizeFieldLength + (declaredSize buf).toNat := by
    rw [hframe, List.length_take_of_le hlength]
  -- The size field is part of the frame, so the frame declares what the buffer does.
  have hdeclared : declaredSize frame = declaredSize buf := by
    rw [← append_of_split h, declaredSize_append (by omega)]
  refine ⟨(declaredSize buf).toNat, ?_, ?_, hcut⟩
  · omega
  · rw [hdeclared, Int.toNat_of_nonneg (Int.not_lt.mp hnonneg)]

/-- A verdict is still possible when more bytes have arrived. -/
theorem split_lasts (h : split maxSize buf ≠ .ok none) (more : Bytes) :
    split maxSize (buf ++ more) ≠ .ok none := by
  cases hs : split maxSize buf with
  | error e => simp [split_append_error hs more]
  | ok found =>
    match found, hs with
    | none, hs => exact absurd hs h
    | some (frame, rest), hs => simp [split_append hs more]

namespace Reader

variable {r : Reader}

/-- A reader after some pieces have arrived, each in a read of its own. -/
def received (r : Reader) (pieces : List Bytes) : Reader :=
  pieces.foldl (fun r piece => r.compact.feed piece) r

@[simp] theorem received_maxSize (r : Reader) (pieces : List Bytes) :
    (r.received pieces).maxSize = r.maxSize := by
  induction pieces generalizing r with
  | nil => rfl
  | cons piece pieces ih => exact ih (r.compact.feed piece)

@[simp] theorem unread_received (r : Reader) (pieces : List Bytes) :
    (r.received pieces).unread = r.unread ++ pieces.flatten := by
  induction pieces generalizing r with
  | nil => exact (List.append_nil _).symm
  | cons piece pieces ih =>
    refine (ih (r.compact.feed piece)).trans ?_
    rw [unread_compact_feed, List.append_assoc, List.flatten_cons]

/-- A reader comes to the verdict that is possible on the bytes it holds. -/
theorem take?_eq_none_iff : r.take? = .ok none ↔ split r.maxSize r.unread = .ok none := by
  refine ⟨split_of_take?_none, fun h => ?_⟩
  rw [take?, h]
  rfl

/-- A reader that comes to no verdict holds less than the largest frame. -/
theorem buffered_lt_of_take?_none (h : r.take? = .ok none) : r.buffered < r.maxSize + 4 := by
  have hheld := length_le_of_split_none (split_of_take?_none h)
  rw [length_unread, partialLimit] at hheld
  omega

/-- A reader that comes to a verdict comes to one with more pieces, too. -/
theorem take?_received_lasts {pieces : List Bytes} {n m : Nat} (hle : n ≤ m)
    (h : (r.received (pieces.take n)).take? ≠ .ok none) :
    (r.received (pieces.take m)).take? ≠ .ok none := by
  rw [ne_eq, take?_eq_none_iff, received_maxSize, unread_received] at h ⊢
  -- The first `n` pieces are the front of the first `m`.
  obtain ⟨later, hlater⟩ := List.take_prefix_take_left (l := pieces) hle
  rw [← hlater, List.flatten_append, ← List.append_assoc]
  exact split_lasts h later.flatten

/-- A reader to which as many bytes have come as the largest frame has comes to a verdict, with the
first pieces that make one possible. -/
theorem exists_verdict {pieces : List Bytes}
    (enough : r.maxSize + 4 ≤ r.buffered + pieces.flatten.length) :
    ∃ n ≤ pieces.length,
      (∀ m < n, (r.received (pieces.take m)).take? = .ok none ∧
        (r.received (pieces.take m)).buffered < r.maxSize + 4) ∧
      ∀ m, n ≤ m → (r.received (pieces.take m)).take? ≠ .ok none := by
  have hall : (r.received (pieces.take pieces.length)).take? ≠ .ok none := by
    intro h
    have hlt := buffered_lt_of_take?_none h
    rw [← length_unread, unread_received, received_maxSize, List.take_length, List.length_append,
      length_unread] at hlt
    omega
  classical
  have hsome : ∃ n, (r.received (pieces.take n)).take? ≠ .ok none := ⟨_, hall⟩
  refine ⟨Nat.find hsome, Nat.find_min' hsome hall, fun m hm => ?_, fun m hm => ?_⟩
  · have hnone := not_not.mp (Nat.find_min hsome hm)
    have hlt := buffered_lt_of_take?_none hnone
    rw [received_maxSize] at hlt
    exact ⟨hnone, hlt⟩
  · exact take?_received_lasts hm (Nat.find_spec hsome)

end Reader

/-- What is said of a buffer does not depend on what arrives afterwards. A frame is the front of the
buffer, as long as its own size field says, and within the limit; behind it stands what arrives. A
refusal stays the same refusal. More bytes are asked for only while there are fewer than those of
the largest frame, so a reader that receives so many, in whatever pieces, comes to a verdict by
then: it asks for more up to one of the pieces, and from this one on it does not. -/
theorem verdict_final (maxSize : Nat) :
    (∀ buf frame rest more, split maxSize buf = .ok (some (frame, rest)) →
      buf = frame ++ rest ∧
        (∃ size ≤ maxSize, (Bytes.toInt32 frame).toInt = size ∧ frame.length = 4 + size) ∧
        split maxSize (buf ++ more) = .ok (some (frame, rest ++ more))) ∧
      (∀ buf e more, split maxSize buf = .error e → split maxSize (buf ++ more) = .error e) ∧
      (∀ buf, split maxSize buf = .ok none → buf.length < maxSize + 4) ∧
      ∀ (r : Reader) (pieces : List Bytes), r.maxSize = maxSize →
        maxSize + 4 ≤ r.buffered + pieces.flatten.length →
          ∃ n ≤ pieces.length,
            (∀ m < n, (r.received (pieces.take m)).take? = .ok none ∧
              (r.received (pieces.take m)).buffered < maxSize + 4) ∧
            ∀ m, n ≤ m → (r.received (pieces.take m)).take? ≠ .ok none := by
  refine ⟨fun buf frame rest more h => ?_, fun buf e more h => split_append_error h more,
    fun buf h => ?_, fun r pieces hmax enough => ?_⟩
  · exact ⟨(append_of_split h).symm, exists_size_of_split h, split_append h more⟩
  · have hle := length_le_of_split_none h
    rw [partialLimit] at hle
    omega
  · subst hmax
    exact Reader.exists_verdict enough

/-- A limit below the size of any packet: a size field that arrives in three pieces, a negative
one, and one byte short of a field. -/
theorem verdict_final_small_limit :
    let pieces : List Bytes := [[2, 0], [0], [0, 7], [8, 9]]
    (pieces.flatten = [2, 0, 0, 0, 7, 8] ++ [9] ∧
        (∃ size ≤ 3, (Bytes.toInt32 [2, 0, 0, 0, 7, 8]).toInt = (size : Nat) ∧
          [2, 0, 0, 0, 7, 8].length = 4 + size) ∧
        split 3 (pieces.flatten ++ [1]) = .ok (some ([2, 0, 0, 0, 7, 8], [9] ++ [1]))) ∧
      split 3 ([2, 0, 0, 0x80] ++ [1]) =
        .error (.malformedPacket (.frameSizeOutOfRange (-2147483646) 3)) ∧
      ([2, 0, 0] : Bytes).length < 3 + 4 ∧
      ∃ n ≤ pieces.length,
        (∀ m < n, (Reader.received { maxSize := 3 } (pieces.take m)).take? = .ok none ∧
          (Reader.received { maxSize := 3 } (pieces.take m)).buffered < 3 + 4) ∧
        ∀ m, n ≤ m → (Reader.received { maxSize := 3 } (pieces.take m)).take? ≠ .ok none := by
  intro pieces
  obtain ⟨frames, refusals, waits, comes⟩ := verdict_final 3
  exact ⟨frames pieces.flatten _ _ [1] (by decide), refusals [2, 0, 0, 0x80] _ [1] (by decide),
    waits [2, 0, 0] (by decide), comes { maxSize := 3 } pieces rfl (by decide)⟩

end RemoteConsole.Frame
