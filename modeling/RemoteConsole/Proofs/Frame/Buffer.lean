import RemoteConsole.Proofs.Frame.Conservation

/-!
# How long a buffer gets

A reader gives up the bytes of frames already returned before each read, and makes room behind the
others. The bytes that are left at this point are less than one frame, since `split` refuses a size
that is too large without waiting for its bytes (`length_le_of_split_none`), so the buffer has a
bound that depends on nothing but the limit of the reader (`Reading.buffer_bounded`).

`Reader.trace` is `Reader.nextFrame` with a record of the reader before each of its reads.
-/

namespace RemoteConsole.Frame

variable {maxSize : Nat} {buf bytes written : Bytes}

/-- The most bytes that are no frame yet: one byte short of the largest frame. -/
def partialLimit (maxSize : Nat) : Nat :=
  maxSize + 3

/-- Bytes that may become a frame are fewer than those of the largest frame. -/
theorem length_le_of_split_none (h : split maxSize buf = .ok none) :
    buf.length ≤ partialLimit maxSize := by
  rw [split_eq] at h
  rw [partialLimit]
  split_ifs at h with hfield hsize hlength
  · have hfour : buf.length < 4 := hfield
    omega
  · have hframe : buf.length < 4 + (declaredSize buf).toNat := hlength
    -- The size is within the limit, or the bytes would have been refused.
    have hlimit : declaredSize buf ≤ maxSize := Int.not_lt.mp fun hlt => hsize (.inr hlt)
    omega
  · cases h

/-- A read brings no more bytes than it was asked for. -/
theorem Stream.length_read_le {s s' : Stream} {limit : Nat} {outcome : Option Bytes}
    (h : s.read limit = (outcome, s')) : (outcome.getD []).length ≤ limit := by
  unfold read at h
  split at h
  · cases h
    exact Nat.zero_le _
  · cases h
    exact Nat.zero_le _
  · split_ifs at h with hle
    · cases h
      exact hle
    · cases h
      exact List.length_take_le _ _

/-- A read on behalf of a reader. -/
structure Refill where
  /-- The reader right before the read. -/
  before : Reader
  /-- What the read brings, `none` if it fails. -/
  outcome : Option Bytes
deriving Repr, DecidableEq

namespace Reader

variable {r : Reader}

/-- The buffer while a read is in progress, which has written some bytes into the room made for
it. -/
def filling (r : Reader) (written : Bytes) : Bytes :=
  r.buffer ++ written ++ List.replicate (readLength - written.length) 0

/-- The room is as long from the beginning of a read to its end. -/
theorem length_filling (r : Reader) (h : written.length ≤ readLength) :
    (r.filling written).length = r.buffer.length + readLength := by
  rw [filling, List.length_append, List.length_append, List.length_replicate]
  omega

/-- Once the room that is left is given up, the reader has been fed the bytes of the read. -/
theorem take_filling (r : Reader) (written : Bytes) :
    (r.filling written).take (r.buffer.length + written.length) = (r.feed written).buffer := by
  rw [filling, ← List.length_append, List.take_left]
  rfl

/-- The next frame of a stream, as `nextFrame` finds it, and the reads that it takes. -/
def trace (r : Reader) (s : Stream) :
    List Refill × Except Error (Option Bytes) × Reader × Stream :=
  match r.take? with
  | .error e => ([], .error e, r, s)
  | .ok (some (frame, r')) => ([], .ok (some frame), r', s)
  | .ok none =>
    match h : s.read readLength with
    | (none, s') => ([⟨r.compact, none⟩], .error .io, r.compact, s')
    | (some [], s') => ([⟨r.compact, some []⟩], .ok none, r.compact, s')
    | (some (b :: bytes), s') =>
      have := Stream.weight_read_lt h
      let (refills, found) := (r.compact.feed (b :: bytes)).trace s'
      (⟨r.compact, some (b :: bytes)⟩ :: refills, found)
termination_by s.weight

/-- The reads are recorded, and nothing else is different. -/
theorem trace_snd (r : Reader) (s : Stream) : (r.trace s).2 = r.nextFrame s := by
  fun_induction r.nextFrame s with
  | case1 r s e h => rw [trace, h]
  | case2 r s frame r' h => rw [trace, h]
  | case3 r s h s' hread => grind [trace]
  | case4 r s h s' hread => grind [trace]
  | case5 r s h b bytes s' hread _ ih => grind [trace]

/-- What a reader keeps to from call to call. -/
structure Bounded (r : Reader) : Prop where
  /-- The bytes of frames already returned are in the buffer. -/
  consumed_le : r.consumed ≤ r.buffer.length
  /-- The buffer holds the bytes of one read and, beside these, less than a frame. -/
  length_le : r.buffer.length ≤ partialLimit r.maxSize + readLength

/-- What a reader keeps to right before a read. -/
structure Waiting (r : Reader) : Prop where
  /-- No bytes of frames already returned are held. -/
  consumed_eq : r.consumed = 0
  /-- The buffer holds less than a frame. -/
  length_le : r.buffer.length ≤ partialLimit r.maxSize

/-- A reader that finds no frame waits for bytes. -/
theorem Waiting.compact (h : r.take? = .ok none) : r.compact.Waiting where
  consumed_eq := rfl
  length_le := by
    change r.unread.length ≤ partialLimit r.maxSize
    exact length_le_of_split_none (split_of_take?_none h)

/-- A reader that waits is within its bounds. -/
theorem Waiting.bounded (h : r.Waiting) : r.Bounded where
  consumed_le := by rw [h.consumed_eq]; exact Nat.zero_le _
  length_le := Nat.le_trans h.length_le (Nat.le_add_right _ _)

/-- So it is with the bytes of a read. -/
theorem Waiting.feed (h : r.Waiting) (fits : bytes.length ≤ readLength) :
    (r.feed bytes).Bounded where
  consumed_le := by
    change r.consumed ≤ _
    rw [h.consumed_eq]
    exact Nat.zero_le _
  length_le := by
    have hlength := h.length_le
    change (r.buffer ++ bytes).length ≤ partialLimit r.maxSize + readLength
    rw [List.length_append]
    omega

/-- A frame is taken off by moving an offset within the buffer. -/
theorem Bounded.take? {frame : Bytes} {r' : Reader} (h : r.Bounded)
    (htake : r.take? = .ok (some (frame, r'))) : r'.Bounded := by
  unfold Reader.take? at htake
  cases hs : split r.maxSize r.unread with
  | error e => rw [hs] at htake; cases htake
  | ok found =>
    rw [hs] at htake
    match found, htake with
    | some (frame, rest), htake =>
      cases htake
      exact ⟨Nat.sub_le _ _, h.length_le⟩

/-- What a call keeps to, and every read that it makes. -/
theorem Bounded.trace (h : r.Bounded) (s : Stream) :
    (r.trace s).2.2.1.Bounded ∧
      ∀ refill ∈ (r.trace s).1, refill.before.Waiting ∧ refill.before.maxSize = r.maxSize ∧
        (refill.outcome.getD []).length ≤ readLength := by
  fun_induction r.trace s with
  | case1 r s e htake => exact ⟨h, by simp⟩
  | case2 r s frame r' htake => exact ⟨h.take? htake, by simp⟩
  | case3 r s htake s' hread =>
    refine ⟨(Waiting.compact htake).bounded, ?_⟩
    simpa using ⟨Waiting.compact htake, rfl⟩
  | case4 r s htake s' hread =>
    refine ⟨(Waiting.compact htake).bounded, ?_⟩
    simpa using ⟨Waiting.compact htake, rfl⟩
  | case5 r s htake b bytes s' hread _ refills found hgo ih =>
    have hfits := Stream.length_read_le hread
    obtain ⟨hbounded, hrefills⟩ := ih ((Waiting.compact htake).feed hfits)
    rw [hgo] at hbounded hrefills
    refine ⟨hbounded, fun refill hmem => ?_⟩
    obtain rfl | hmem := List.mem_cons.mp hmem
    · exact ⟨Waiting.compact htake, rfl, hfits⟩
    · exact hrefills refill hmem

/-- A call makes the reads that are recorded, and no others. -/
theorem trace_readTimes (r : Reader) (s : Stream) :
    s.readTimes (r.trace s).1.length = ((r.trace s).1.map Refill.outcome, (r.trace s).2.2.2) ∧
      (r.trace s).2.2.2.reads = s.reads + (r.trace s).1.length := by
  fun_induction r.trace s with
  | case1 r s e htake => exact ⟨rfl, rfl⟩
  | case2 r s frame r' htake => exact ⟨rfl, rfl⟩
  | case3 r s htake s' hread =>
    exact ⟨by simp [Stream.readTimes, hread], Stream.reads_read hread⟩
  | case4 r s htake s' hread =>
    exact ⟨by simp [Stream.readTimes, hread], Stream.reads_read hread⟩
  | case5 r s htake b bytes s' hread _ refills found hgo ih =>
    rw [hgo] at ih
    obtain ⟨htimes, hreads⟩ := ih
    refine ⟨by simp [Stream.readTimes, hread, htimes], ?_⟩
    dsimp only at hreads ⊢
    rw [hreads, Stream.reads_read hread, List.length_cons]
    omega

end Reader

namespace Reading

variable {x : Reading}

/-- The reads of the next call. -/
def refills (x : Reading) : List Refill :=
  (x.reader.trace x.stream).1

/-- They bring what the reads of the next call bring. -/
theorem map_outcome_refills (x : Reading) : x.refills.map Refill.outcome = x.reads 1 := by
  obtain ⟨htimes, hreads⟩ := x.reader.trace_readTimes x.stream
  have hnext : x.next.stream = (x.reader.trace x.stream).2.2.2 := by
    rw [next, ← Reader.trace_snd]
  have hcount : x.next.stream.reads - x.stream.reads = x.refills.length := by
    rw [hnext, hreads, refills]
    omega
  change _ = (x.stream.readTimes (x.next.stream.reads - x.stream.reads)).1
  rw [hcount, refills, htimes]

/-- A reader that starts with no bytes stays within its bounds. -/
theorem bounded_after (h : x.reader.Bounded) (n : Nat) : (x.after n).reader.Bounded := by
  induction n with
  | zero => exact h
  | succ n ih =>
    have hnext : (x.after (n + 1)).reader =
        ((x.after n).reader.trace (x.after n).stream).2.2.1 := by
      rw [after_succ, next, ← Reader.trace_snd]
    rw [hnext]
    exact (ih.trace _).1

/-- However many frames have passed, whatever the pieces in which bytes arrive and whatever fails
between them: a reader has in its buffer the bytes that it counts as consumed, and holds less than
a frame beside the bytes of one read. Before each of the reads of the next call it has given up what
is consumed and holds less than a frame; and from there on the buffer has the length that it has
with the room for the read, whatever part of it is filled. -/
theorem buffer_bounded (maxSize : Nat) (script : List Arrival) (n : Nat) :
    let x := (start maxSize script).after n
    x.reader.consumed ≤ x.reader.buffer.length ∧
      x.reader.buffer.length ≤ maxSize + 3 + 4096 ∧
      x.reader.buffered ≤ maxSize + 3 + 4096 ∧
      x.refills.map Refill.outcome = x.reads 1 ∧
      ∀ refill ∈ x.refills,
        refill.before.consumed = 0 ∧ refill.before.buffered ≤ maxSize + 3 ∧
          ∀ written, written <+: refill.outcome.getD [] →
            (refill.before.filling written).length ≤ maxSize + 3 + 4096 := by
  intro x
  have hstart : (start maxSize script).reader.Bounded := ⟨Nat.le_refl _, Nat.zero_le _⟩
  have hmax : x.reader.maxSize = maxSize := maxSize_after _ n
  have hx : x.reader.Bounded := bounded_after hstart n
  have hlength : x.reader.buffer.length ≤ maxSize + 3 + 4096 := by
    have hle := hx.length_le
    rw [hmax] at hle
    exact hle
  refine ⟨hx.consumed_le, hlength, Nat.le_trans (Nat.sub_le _ _) hlength, x.map_outcome_refills, ?_⟩
  intro refill hmem
  obtain ⟨hwaiting, hsame, hfits⟩ := (hx.trace x.stream).2 refill hmem
  have hheld : refill.before.buffer.length ≤ maxSize + 3 := by
    have hle := hwaiting.length_le
    rw [hsame, hmax] at hle
    exact hle
  refine ⟨hwaiting.consumed_eq, Nat.le_trans (Nat.sub_le _ _) hheld, fun written hwritten => ?_⟩
  rw [Reader.length_filling _ (Nat.le_trans hwritten.length_le hfits)]
  exact Nat.add_le_add_right hheld _

end Reading

end RemoteConsole.Frame
