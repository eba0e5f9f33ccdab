import RemoteConsole.Frame.Reader
import RemoteConsole.Proofs.Frame.Split

/-!
# A reader beside its stream

`nextFrame` moves an offset through a buffer that it compacts and refills. `Call` is the same loop
on the bytes that are held, with no buffer around them, and keeps the outcome of every read: it is
what a call can do, and everything else about calls follows from it by induction.
-/

namespace RemoteConsole.Frame

/-- The bytes that some reads bring. -/
def received (outcomes : List (Option Bytes)) : Bytes :=
  outcomes.flatMap (·.getD [])

/-- The bytes that an arrival brings. -/
def Arrival.bytes : Arrival → Bytes
  | data bytes => bytes
  | failure => []

/-- The bytes that arrivals bring. -/
def Arrival.allBytes (script : List Arrival) : Bytes :=
  script.flatMap Arrival.bytes

/-- The outcomes of a reader's next reads, and the stream after them. -/
def Stream.readTimes (s : Stream) : (count : Nat) → List (Option Bytes) × Stream
  | 0 => ([], s)
  | count + 1 =>
    let (outcome, s) := s.read readLength
    let (outcomes, s) := s.readTimes count
    (outcome :: outcomes, s)

@[simp] theorem received_nil : received [] = [] :=
  rfl

@[simp] theorem received_cons (outcome : Option Bytes) (outcomes : List (Option Bytes)) :
    received (outcome :: outcomes) = outcome.getD [] ++ received outcomes :=
  rfl

@[simp] theorem received_append (a b : List (Option Bytes)) :
    received (a ++ b) = received a ++ received b :=
  List.flatMap_append

theorem Stream.readTimes_add (s : Stream) (m n : Nat) :
    s.readTimes (m + n) =
      ((s.readTimes m).1 ++ ((s.readTimes m).2.readTimes n).1,
        ((s.readTimes m).2.readTimes n).2) := by
  induction m generalizing s with
  | zero => simp [readTimes]
  | succ m ih =>
    rw [Nat.succ_add]
    simp only [readTimes, ih, List.cons_append]

theorem Stream.reads_read {s s' : Stream} {limit : Nat} {outcome : Option Bytes}
    (h : s.read limit = (outcome, s')) : s'.reads = s.reads + 1 := by
  unfold read at h
  split at h
  · cases h; rfl
  · cases h; rfl
  · split_ifs at h <;> cases h <;> rfl

/-- What a read brings is taken from what is to come. -/
theorem Stream.allBytes_read {s s' : Stream} {limit : Nat} {outcome : Option Bytes}
    (h : s.read limit = (outcome, s')) :
    Arrival.allBytes s.pending = outcome.getD [] ++ Arrival.allBytes s'.pending := by
  unfold read at h
  split at h
  · rename_i hp
    cases h
    simp [hp, Arrival.allBytes]
  · rename_i hp
    cases h
    simp [hp, Arrival.allBytes, Arrival.bytes]
  · rename_i hp
    split_ifs at h
    · cases h
      simp [hp, Arrival.allBytes, Arrival.bytes]
    · cases h
      simp [hp, Arrival.allBytes, Arrival.bytes, ← List.append_assoc]

/-- A read leaves no more to come, in bytes and arrivals, than what it does not bring. -/
theorem Stream.weight_read {s s' : Stream} {limit : Nat} {outcome : Option Bytes}
    (h : s.read limit = (outcome, s')) : s'.weight + (outcome.getD []).length ≤ s.weight := by
  unfold read at h
  split at h
  · cases h
    simp [weight]
  · rename_i hp
    cases h
    simp [weight, Arrival.weight, hp]
  · rename_i hp
    split_ifs at h
    · cases h
      simp [weight, Arrival.weight, hp]
      omega
    · cases h
      simp [weight, Arrival.weight, hp]
      omega

/-- A read that brings nothing uses up an arrival, unless none is left. -/
theorem Stream.weight_read_lt_or {s s' : Stream} {limit : Nat} {outcome : Option Bytes}
    (hlimit : 0 < limit) (h : s.read limit = (outcome, s')) (hempty : outcome.getD [] = []) :
    s'.weight < s.weight ∨ outcome = some [] ∧ s.pending = [] ∧ s'.pending = [] := by
  unfold read at h
  split at h
  · rename_i hp
    cases h
    exact .inr ⟨rfl, hp, hp⟩
  · rename_i hp
    cases h
    simp [weight, Arrival.weight, hp]
  · rename_i bytes rest hp
    split_ifs at h with hle
    · cases h
      simp [weight, Arrival.weight, hp]
    · cases h
      -- The read takes as many bytes as it may, and that is more than none.
      have : (bytes.take limit).length = 0 := congrArg List.length hempty
      rw [List.length_take] at this
      omega

/-! ## One call -/

/-- What a call can do, on the bytes that are held: it cuts a frame off them or refuses them, and
otherwise reads, until a read fails or brings nothing. -/
inductive Call (maxSize : Nat) :
    Bytes → Stream → List (Option Bytes) → Except Error (Option Bytes) → Bytes → Stream → Prop
  /-- A frame is complete. -/
  | frame {held frame rest : Bytes} {s : Stream}
      (h : split maxSize held = .ok (some (frame, rest))) :
      Call maxSize held s [] (.ok (some frame)) rest s
  /-- The size field cannot be right. -/
  | refused {held : Bytes} {s : Stream} {e : Error} (h : split maxSize held = .error e) :
      Call maxSize held s [] (.error e) held s
  /-- A read fails. -/
  | failed {held : Bytes} {s s' : Stream} (h : split maxSize held = .ok none)
      (read : s.read readLength = (none, s')) : Call maxSize held s [none] (.error .io) held s'
  /-- A read brings nothing. -/
  | ended {held : Bytes} {s s' : Stream} (h : split maxSize held = .ok none)
      (read : s.read readLength = (some [], s')) : Call maxSize held s [some []] (.ok none) held s'
  /-- A read brings some bytes, and the call goes on. -/
  | more {held held' bytes : Bytes} {b : UInt8} {s s₁ s' : Stream} {outcomes : List (Option Bytes)}
      {result : Except Error (Option Bytes)} (h : split maxSize held = .ok none)
      (read : s.read readLength = (some (b :: bytes), s₁))
      (go : Call maxSize (held ++ b :: bytes) s₁ outcomes result held' s') :
      Call maxSize held s (some (b :: bytes) :: outcomes) result held' s'

namespace Reader

variable {r r' : Reader}

@[simp] theorem unread_compact (r : Reader) : r.compact.unread = r.unread :=
  rfl

@[simp] theorem unread_compact_feed (r : Reader) (bytes : Bytes) :
    (r.compact.feed bytes).unread = r.unread ++ bytes :=
  rfl

/-- The number of bytes held. -/
theorem length_unread (r : Reader) : r.unread.length = r.buffered :=
  List.length_drop

/-- Taking a frame off the buffer cuts it off the bytes held. -/
theorem split_of_take? {frame : Bytes} (h : r.take? = .ok (some (frame, r'))) :
    split r.maxSize r.unread = .ok (some (frame, r'.unread)) ∧ r'.maxSize = r.maxSize := by
  unfold take? at h
  cases hs : split r.maxSize r.unread with
  | error e => rw [hs] at h; cases h
  | ok found =>
    rw [hs] at h
    match found, h with
    | some (frame, rest), h =>
      cases h
      obtain ⟨length, -, hle, -, hrest⟩ := exists_length_of_split hs
      -- What is left of the bytes held stands at the end of the buffer.
      have hbuffer : r.buffer.drop (r.buffer.length - rest.length) = rest := by
        have hsuffix : rest <:+ r.buffer := by
          rw [hrest]
          exact (List.drop_suffix ..).trans (List.drop_suffix ..)
        exact (List.suffix_iff_eq_drop.mp hsuffix).symm
      rw [unread, hbuffer]
      exact ⟨rfl, rfl⟩

/-- There is no frame to take off the buffer if there is none to cut off the bytes held. -/
theorem split_of_take?_none (h : r.take? = .ok none) : split r.maxSize r.unread = .ok none := by
  unfold take? at h
  cases hs : split r.maxSize r.unread with
  | error e => rw [hs] at h; cases h
  | ok found =>
    cases found with
    | none => rfl
    | some found => rw [hs] at h; cases h

/-- The buffer is refused if the bytes held are. -/
theorem split_of_take?_error {e : Error} (h : r.take? = .error e) :
    split r.maxSize r.unread = .error e := by
  unfold take? at h
  cases hs : split r.maxSize r.unread with
  | error e' => rw [hs] at h; cases h; rfl
  | ok found => rw [hs] at h; cases h

/-- A call keeps the limit of its reader, and does on the buffer what `Call` does on the bytes. -/
theorem nextFrame_call (r : Reader) (s : Stream) :
    (r.nextFrame s).2.1.maxSize = r.maxSize ∧
      ∃ outcomes, Call r.maxSize r.unread s outcomes (r.nextFrame s).1 (r.nextFrame s).2.1.unread
        (r.nextFrame s).2.2 := by
  fun_induction r.nextFrame s with
  | case1 r s e h => exact ⟨rfl, _, .refused (split_of_take?_error h)⟩
  | case2 r s frame r' h =>
    obtain ⟨hs, hmax⟩ := split_of_take? h
    exact ⟨hmax, _, .frame hs⟩
  | case3 r s h s' hread => exact ⟨rfl, _, .failed (split_of_take?_none h) hread⟩
  | case4 r s h s' hread => exact ⟨rfl, _, .ended (split_of_take?_none h) hread⟩
  | case5 r s h b bytes s' hread _ ih =>
    obtain ⟨hmax, outcomes, go⟩ := ih
    exact ⟨hmax, _, .more (split_of_take?_none h) hread go⟩

end Reader

end RemoteConsole.Frame
