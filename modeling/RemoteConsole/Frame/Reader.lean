import RemoteConsole.Frame

/-!
# Reading frames from a stream

A stream hands out its bytes in pieces of any size, may fail, and may report its end more than once.
`Reader` keeps the bytes that are not part of a returned frame yet; `nextFrame` reads only when no
verdict is possible on those. Neither a failure nor an end costs a byte.
-/

namespace RemoteConsole.Frame

/-- What a stream has in store for its reads. -/
inductive Arrival where
  /-- Bytes, handed out in as many reads as it takes. No bytes are one read that reports the end. -/
  | data (bytes : Bytes)
  /-- A read that fails. -/
  | failure
deriving Repr, DecidableEq

/-- A stream: what is to come, and how often it was read. -/
structure Stream where
  /-- What is to come. After it, every read reports the end. -/
  pending : List Arrival
  /-- The number of reads so far. -/
  reads : Nat := 0
deriving Repr, DecidableEq

/-- The number of bytes and of arrivals in a list. -/
def Arrival.weight : List Arrival → Nat
  | [] => 0
  | .data bytes :: rest => bytes.length + 1 + weight rest
  | .failure :: rest => 1 + weight rest

/-- The number of bytes and of arrivals to come. -/
def Stream.weight (s : Stream) : Nat :=
  Arrival.weight s.pending

/-- A read of at most `limit` bytes: `none` if it fails, no bytes at an end. -/
def Stream.read (s : Stream) (limit : Nat) : Option Bytes × Stream :=
  match s.pending with
  | [] => (some [], { s with reads := s.reads + 1 })
  | .failure :: rest => (none, ⟨rest, s.reads + 1⟩)
  | .data bytes :: rest =>
    if bytes.length ≤ limit then (some bytes, ⟨rest, s.reads + 1⟩)
    else (some (bytes.take limit), ⟨.data (bytes.drop limit) :: rest, s.reads + 1⟩)

/-- A read that returns bytes leaves less to come. -/
theorem Stream.weight_read_lt {s s' : Stream} {limit : Nat} {b : UInt8} {bytes : Bytes}
    (h : s.read limit = (some (b :: bytes), s')) : s'.weight < s.weight := by
  unfold Stream.read at h
  split at h
  · cases h
  · cases h
  · rename_i data rest hp
    split at h
    · cases h
      simp [weight, Arrival.weight, hp]
    · injection h with h₁ h₂
      subst h₂
      have hl : limit ≠ 0 := by
        rintro rfl
        simp at h₁
      simp [weight, Arrival.weight, hp]
      omega

/-- The number of bytes a reader asks for at once. -/
def readLength : Nat := 4096

/-- Bytes on their way to become frames. -/
structure Reader where
  /-- The bytes received, from the first one still held. -/
  buffer : Bytes := []
  /-- How many of them belong to frames already returned. -/
  consumed : Nat := 0
  /-- The largest size that a frame may declare. -/
  maxSize : Nat
deriving Repr, DecidableEq

namespace Reader

/-- The bytes that are not part of a returned frame yet. -/
def unread (r : Reader) : Bytes :=
  r.buffer.drop r.consumed

/-- The number of bytes that are not part of a returned frame yet. -/
def buffered (r : Reader) : Nat :=
  r.buffer.length - r.consumed

/-- The next frame in the buffer, if it is complete. -/
def take? (r : Reader) : Except Error (Option (Bytes × Reader)) :=
  (split r.maxSize r.unread).map fun found =>
    found.map fun (frame, rest) => (frame, { r with consumed := r.buffer.length - rest.length })

/-- The reader without the bytes of frames already returned. -/
def compact (r : Reader) : Reader :=
  { r with buffer := r.unread, consumed := 0 }

/-- The reader with more bytes. -/
def feed (r : Reader) (bytes : Bytes) : Reader :=
  { r with buffer := r.buffer ++ bytes }

/-- The next frame of a stream, or `none` at an end of it. -/
def nextFrame (r : Reader) (s : Stream) : Except Error (Option Bytes) × Reader × Stream :=
  match r.take? with
  | .error e => (.error e, r, s)
  | .ok (some (frame, r')) => (.ok (some frame), r', s)
  | .ok none =>
    match h : s.read readLength with
    | (none, s') => (.error .io, r.compact, s')
    | (some [], s') => (.ok none, r.compact, s')
    | (some (b :: bytes), s') =>
      have := Stream.weight_read_lt h
      nextFrame (r.compact.feed (b :: bytes)) s'
termination_by s.weight

end Reader

end RemoteConsole.Frame
