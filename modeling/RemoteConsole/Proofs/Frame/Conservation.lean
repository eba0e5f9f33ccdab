import RemoteConsole.Proofs.Frame.Reading

/-!
# Nothing is lost between a stream and its frames

Whatever the pieces in which bytes arrive, and however often reads fail or bring nothing, the frames
that calls return are the frames of the bytes themselves (`Reading.Faithful`). The invariant of a
run of calls is `CutsInto`: the bytes received so far are the frames returned, cut off one after the
other, and the bytes held. One call keeps it (`Call.cutsInto`), and a call that returns no frame
uses up something of the stream or has come to a point where all further calls agree
(`Call.progress`).
-/

namespace RemoteConsole.Frame

/-- The frame that a call returns, if it returns one. -/
def frameOf : Except Error (Option Bytes) → List Bytes
  | .ok (some frame) => [frame]
  | _ => []

/-- The frames that some calls return. -/
def framesOf (results : List (Except Error (Option Bytes))) : List Bytes :=
  results.flatMap frameOf

/-- What a call finds wrong with the bytes, if it refuses them. -/
def faultOf {α : Type} : Except Error α → Option Malformed
  | .error (.malformedPacket cause) => some cause
  | _ => none

/-- The first thing that some calls find wrong with the bytes. -/
def firstFault (results : List (Except Error (Option Bytes))) : Option Malformed :=
  results.findSome? faultOf

namespace Call

variable {maxSize : Nat} {held held' : Bytes} {s s' : Stream} {outcomes : List (Option Bytes)}
  {result : Except Error (Option Bytes)}

/-- The outcomes are those of the next reads of the stream, and nothing else happens to it. -/
theorem readTimes (h : Call maxSize held s outcomes result held' s') :
    s.readTimes outcomes.length = (outcomes, s') ∧ s'.reads = s.reads + outcomes.length := by
  induction h with
  | frame _ => exact ⟨rfl, rfl⟩
  | refused _ => exact ⟨rfl, rfl⟩
  | failed _ read => exact ⟨by simp [Stream.readTimes, read], Stream.reads_read read⟩
  | ended _ read => exact ⟨by simp [Stream.readTimes, read], Stream.reads_read read⟩
  | more _ read _ ih =>
    refine ⟨by simp [Stream.readTimes, read, ih.1], ?_⟩
    rw [ih.2, Stream.reads_read read, List.length_cons]
    omega

/-- The frame, if there is one, is cut off what was held and received, and the rest is held. -/
theorem cutsInto (h : Call maxSize held s outcomes result held' s') :
    CutsInto maxSize (held ++ received outcomes) (frameOf result) held' := by
  induction h with
  | frame h => simpa [frameOf] using CutsInto.cons h (.nil _)
  | refused h => simpa [frameOf] using CutsInto.nil _
  | failed _ _ => simpa [frameOf] using CutsInto.nil _
  | ended _ _ => simpa [frameOf] using CutsInto.nil _
  | more _ _ _ ih => simpa using ih

/-- A read is made only where what is held and received so far decides nothing. -/
theorem undecided (h : Call maxSize held s outcomes result held' s') {i : Nat}
    (hi : i < outcomes.length) :
    split maxSize (held ++ received (outcomes.take i)) = .ok none := by
  induction h generalizing i with
  | frame _ => simp at hi
  | refused _ => simp at hi
  | failed h _ =>
    obtain rfl : i = 0 := by simpa using hi
    simpa using h
  | ended h _ =>
    obtain rfl : i = 0 := by simpa using hi
    simpa using h
  | more h _ _ ih =>
    cases i with
    | zero => simpa using h
    | succ i => simpa using ih (by simpa using hi)

/-- A call returns nothing exactly if its last read brings nothing. -/
theorem eq_none_iff (h : Call maxSize held s outcomes result held' s') :
    result = .ok none ↔ outcomes.getLast? = some (some []) := by
  induction h with
  | frame _ => simp
  | refused _ => simp
  | failed _ _ => simp
  | ended _ _ => simp
  | more _ _ _ ih => rw [ih, List.getLast?_cons]; cases List.getLast? _ <;> simp

/-- A call reports the network exactly if its last read fails. -/
theorem eq_io_iff (h : Call maxSize held s outcomes result held' s') :
    result = .error .io ↔ outcomes.getLast? = some none := by
  induction h with
  | frame _ => simp
  | refused h =>
    obtain ⟨cause, rfl⟩ := exists_malformed_of_split h
    simp
  | failed _ _ => simp
  | ended _ _ => simp
  | more _ _ _ ih => rw [ih, List.getLast?_cons]; cases List.getLast? _ <;> simp

/-- The bytes at the end of a call decide of a fault what the call does. -/
theorem fault_eq (h : Call maxSize held s outcomes result held' s') (hf : frameOf result = []) :
    faultOf result = faultOf (split maxSize held') := by
  induction h with
  | frame _ => simp [frameOf] at hf
  | refused h => rw [h]; cases ‹Error› <;> rfl
  | failed h _ => rw [h]; rfl
  | ended h _ => rw [h]; rfl
  | more _ _ _ ih => exact ih hf

/-- What a call does is determined by the bytes held and the stream. -/
theorem unique (h : Call maxSize held s outcomes result held' s') {outcomes₂ : List (Option Bytes)}
    {result₂ : Except Error (Option Bytes)} {held₂ : Bytes} {s₂ : Stream}
    (h₂ : Call maxSize held s outcomes₂ result₂ held₂ s₂) :
    result = result₂ ∧ held' = held₂ ∧ s' = s₂ := by
  induction h generalizing outcomes₂ with
  | frame h => cases h₂ <;> simp_all
  | refused h => cases h₂ <;> simp_all
  | failed h read => cases h₂ <;> simp_all
  | ended h read => cases h₂ <;> simp_all
  | more h read go ih =>
    cases h₂ with
    | more h' read' go' =>
      rw [read] at read'
      cases read'
      exact ih go'
    | _ => simp_all

/-- A call that returns a frame leaves less than there was. One that does not uses up an arrival, or
the bytes are refused, or nothing is to come and nothing is complete. -/
theorem progress (h : Call maxSize held s outcomes result held' s') :
    s'.weight + held'.length < s.weight + held.length ∨
      (∃ e, split maxSize held' = .error e ∧ result = .error e) ∨
        (result = .ok none ∧ s'.pending = [] ∧ split maxSize held' = .ok none) := by
  induction h with
  | frame h =>
    have := length_rest_lt_of_split h
    omega
  | refused h => exact .inr (.inl ⟨_, h, rfl⟩)
  | failed h read =>
    rcases Stream.weight_read_lt_or (by decide) read rfl with hlt | ⟨hsome, -⟩
    · omega
    · cases hsome
  | ended h read =>
    rcases Stream.weight_read_lt_or (by decide) read rfl with hlt | ⟨-, -, hp⟩
    · omega
    · exact .inr (.inr ⟨rfl, hp, h⟩)
  | more _ read _ ih =>
    have hw := Stream.weight_read read
    rcases ih with hlt | hdone
    · rw [List.length_append] at hlt
      simp only [Option.getD_some] at hw
      omega
    · exact .inr hdone

end Call

/-- The bytes that reads bring are the first of those to come. -/
theorem Stream.allBytes_readTimes (s : Stream) (n : Nat) :
    Arrival.allBytes s.pending =
      received (s.readTimes n).1 ++ Arrival.allBytes (s.readTimes n).2.pending := by
  induction n generalizing s with
  | zero => rfl
  | succ n ih =>
    have hread : s.read readLength = ((s.read readLength).1, (s.read readLength).2) := rfl
    rw [Stream.allBytes_read hread, ih (s.read readLength).2]
    simp [readTimes]

/-- A reader and the stream that it reads from. -/
structure Reading where
  /-- The reader. -/
  reader : Reader
  /-- The stream. -/
  stream : Stream
deriving Repr, DecidableEq

namespace Reading

/-- A new reader on a stream with a script. -/
def start (maxSize : Nat) (script : List Arrival) : Reading :=
  { reader := { maxSize }, stream := { pending := script } }

/-- A reader that holds some bytes, on a stream. -/
def holding (maxSize : Nat) (bytes : Bytes) (stream : Stream) : Reading :=
  { reader := { buffer := bytes, maxSize }, stream }

/-- What the next call returns. -/
def result (x : Reading) : Except Error (Option Bytes) :=
  (x.reader.nextFrame x.stream).1

/-- The reader and the stream after the next call. -/
def next (x : Reading) : Reading :=
  { reader := (x.reader.nextFrame x.stream).2.1, stream := (x.reader.nextFrame x.stream).2.2 }

/-- The reader and the stream after some calls. -/
def after (x : Reading) : (calls : Nat) → Reading
  | 0 => x
  | calls + 1 => x.next.after calls

/-- What some calls return. -/
def results (x : Reading) : (calls : Nat) → List (Except Error (Option Bytes))
  | 0 => []
  | calls + 1 => x.result :: x.next.results calls

/-- The outcomes of the reads from one point to a later one. -/
def outcomesTo (x y : Reading) : List (Option Bytes) :=
  (x.stream.readTimes (y.stream.reads - x.stream.reads)).1

/-- The outcomes of the reads of the next calls. -/
def reads (x : Reading) (calls : Nat) : List (Option Bytes) :=
  x.outcomesTo (x.after calls)

/-- The bytes that are not part of a returned frame yet. -/
def held (x : Reading) : Bytes :=
  x.reader.unread

variable {x y : Reading}

/-- The call after some others. -/
theorem after_succ (x : Reading) (n : Nat) : x.after (n + 1) = (x.after n).next := by
  induction n generalizing x with
  | zero => rfl
  | succ n ih => exact ih x.next

/-- Calls that follow one another. -/
theorem after_add (x : Reading) (m n : Nat) : x.after (m + n) = (x.after m).after n := by
  induction n with
  | zero => rfl
  | succ n ih => rw [← Nat.add_assoc, after_succ, after_succ, ih]

theorem results_succ (x : Reading) (n : Nat) :
    x.results (n + 1) = x.results n ++ [(x.after n).result] := by
  induction n generalizing x with
  | zero => rfl
  | succ n ih => rw [results, ih x.next]; rfl

theorem maxSize_next (x : Reading) : x.next.reader.maxSize = x.reader.maxSize :=
  (x.reader.nextFrame_call x.stream).1

theorem maxSize_after (x : Reading) (n : Nat) : (x.after n).reader.maxSize = x.reader.maxSize := by
  induction n with
  | zero => rfl
  | succ n ih => rw [after_succ, maxSize_next, ih]

/-- The next call, on the bytes held, with the outcomes of its reads. -/
theorem call (x : Reading) :
    Call x.reader.maxSize x.held x.stream (x.outcomesTo x.next) x.result x.next.held
      x.next.stream := by
  obtain ⟨-, outcomes, h⟩ := x.reader.nextFrame_call x.stream
  have houtcomes : x.outcomesTo x.next = outcomes := by
    obtain ⟨htimes, hreads⟩ := h.readTimes
    have : x.next.stream.reads - x.stream.reads = outcomes.length := by
      rw [next, hreads]
      omega
    rw [outcomesTo, this, htimes]
  rw [houtcomes]
  exact h

/-- Calls that hold the same bytes on the same stream return the same and go on alike. -/
theorem results_congr (hmax : x.reader.maxSize = y.reader.maxSize) (hheld : x.held = y.held)
    (hstream : x.stream = y.stream) (n : Nat) : x.results n = y.results n := by
  induction n generalizing x y with
  | zero => rfl
  | succ n ih =>
    have hy := y.call
    rw [← hmax, ← hheld, ← hstream] at hy
    obtain ⟨hresult, hheld', hstream'⟩ := x.call.unique hy
    rw [results, results, hresult, ih (by rw [maxSize_next, maxSize_next, hmax]) hheld' hstream']

/-- The stream of one point is reached from that of another by reads alone. -/
def Precedes (x y : Reading) : Prop :=
  x.stream.reads ≤ y.stream.reads ∧
    (x.stream.readTimes (y.stream.reads - x.stream.reads)).2 = y.stream

/-- A call only reads. -/
theorem precedes_next (x : Reading) : x.Precedes x.next := by
  obtain ⟨htimes, hreads⟩ := x.call.readTimes
  refine ⟨by omega, ?_⟩
  rw [hreads, Nat.add_sub_cancel_left, htimes]

/-- The outcomes up to a point and those after it are the outcomes up to a later point. -/
theorem outcomesTo_append {z : Reading} (hxy : x.Precedes y) (hyz : y.Precedes z) :
    x.outcomesTo z = x.outcomesTo y ++ y.outcomesTo z := by
  obtain ⟨hle, hy⟩ := hxy
  obtain ⟨hle', -⟩ := hyz
  have : z.stream.reads - x.stream.reads =
      (y.stream.reads - x.stream.reads) + (z.stream.reads - y.stream.reads) := by omega
  rw [outcomesTo, this, Stream.readTimes_add, hy]
  rfl

theorem Precedes.trans {z : Reading} (hxy : x.Precedes y) (hyz : y.Precedes z) : x.Precedes z := by
  obtain ⟨hle, hy⟩ := hxy
  obtain ⟨hle', hz⟩ := hyz
  refine ⟨Nat.le_trans hle hle', ?_⟩
  have : z.stream.reads - x.stream.reads =
      (y.stream.reads - x.stream.reads) + (z.stream.reads - y.stream.reads) := by omega
  rw [this, Stream.readTimes_add, hy]
  exact hz

/-- Calls only read. -/
theorem precedes_after (x : Reading) (n : Nat) : x.Precedes (x.after n) := by
  induction n with
  | zero => exact ⟨Nat.le_refl _, by simp [after, Stream.readTimes]⟩
  | succ n ih =>
    rw [after_succ]
    exact ih.trans (precedes_next _)

/-- The bytes held and received are cut into the frames returned and the bytes held in the end. -/
theorem cutsInto_after (x : Reading) (n : Nat) :
    CutsInto x.reader.maxSize (x.held ++ received (x.outcomesTo (x.after n)))
      (framesOf (x.results n)) (x.after n).held := by
  induction n with
  | zero => simpa [after, results, outcomesTo, Stream.readTimes, framesOf] using CutsInto.nil _
  | succ n ih =>
    have hcall := (x.after n).call.cutsInto
    rw [maxSize_after, ← after_succ] at hcall
    have houtcomes := outcomesTo_append (x.precedes_after n) (x.after n).precedes_next
    rw [← after_succ] at houtcomes
    rw [houtcomes, received_append, ← List.append_assoc, results_succ, framesOf,
      List.flatMap_append]
    simpa [framesOf] using (ih.append _).trans hcall

/-- Once the bytes are refused, every call refuses them and reads nothing. -/
theorem next_of_refused {e : Error} (h : split x.reader.maxSize x.held = .error e) :
    x.result = .error e ∧ x.next = x := by
  have htake : x.reader.take? = .error e := by
    unfold Reader.take?
    rw [held] at h
    rw [h]
    rfl
  have hnext : x.reader.nextFrame x.stream = (.error e, x.reader, x.stream) := by
    rw [Reader.nextFrame, htake]
  rw [result, next, hnext]
  exact ⟨rfl, rfl⟩

/-- Once the bytes are refused, all calls return the same and nothing changes. -/
theorem after_of_refused {e : Error} (h : split x.reader.maxSize x.held = .error e) (n : Nat) :
    x.results n = List.replicate n (.error e) ∧ x.after n = x := by
  obtain ⟨hresult, hnext⟩ := next_of_refused h
  induction n with
  | zero => exact ⟨rfl, rfl⟩
  | succ n ih => rw [results, after, hresult, hnext, ih.1, ih.2]; exact ⟨rfl, rfl⟩

/-- Once nothing is to come and no frame is complete, calls return nothing. -/
theorem results_of_drained (hp : x.stream.pending = [])
    (h : split x.reader.maxSize x.held = .ok none) (n : Nat) :
    x.results n = List.replicate n (.ok none) := by
  induction n generalizing x with
  | zero => rfl
  | succ n ih =>
    have hread : x.stream.read readLength =
        (some [], { x.stream with reads := x.stream.reads + 1 }) := by
      simp [Stream.read, hp]
    obtain ⟨hresult, hheld, hstream⟩ := x.call.unique (.ended h hread)
    rw [results, hresult, ih (by rw [hstream]; exact hp) (by rw [maxSize_next, hheld]; exact h)]
    rfl

/-- The bytes held and those to come. -/
def total (x : Reading) : Bytes :=
  x.held ++ Arrival.allBytes x.stream.pending

/-- A call returns the next frame of all bytes, if it returns one. -/
theorem splitAll_total (x : Reading) :
    splitAll x.reader.maxSize x.total =
      (frameOf x.result ++ (splitAll x.reader.maxSize x.next.total).1,
        (splitAll x.reader.maxSize x.next.total).2) := by
  have hbytes := Stream.allBytes_readTimes x.stream (x.next.stream.reads - x.stream.reads)
  rw [x.precedes_next.2] at hbytes
  have hcut := x.call.cutsInto.append (Arrival.allBytes x.next.stream.pending)
  rw [List.append_assoc, outcomesTo, ← hbytes] at hcut
  exact hcut.splitAll_eq

/-- Enough calls return all frames of the bytes, and find what is wrong with what is left. -/
theorem results_of_lt (x : Reading) {n : Nat} (hn : x.stream.weight + x.held.length < n) :
    framesOf (x.results n) = (splitAll x.reader.maxSize x.total).1 ∧
      firstFault (x.results n) =
        faultOf (split x.reader.maxSize (splitAll x.reader.maxSize x.total).2) := by
  induction n generalizing x with
  | zero => omega
  | succ n ih =>
    have hnext := ih x.next
    rw [maxSize_next] at hnext
    rw [splitAll_total, results, framesOf, List.flatMap_cons, firstFault, List.findSome?_cons]
    rw [framesOf, firstFault] at hnext
    by_cases hframe : frameOf x.result = []
    · have hfault := x.call.fault_eq hframe
      cases hs : split x.reader.maxSize x.next.held with
      | error e =>
        -- The bytes are refused from here on, with whatever may still arrive.
        have htotal := split_append_error hs (Arrival.allBytes x.next.stream.pending)
        obtain ⟨cause, rfl⟩ := exists_malformed_of_split hs
        rw [hs] at hfault
        rw [← maxSize_next] at hs
        rw [(after_of_refused hs n).1, hframe, hfault,
          splitAll_eq_nil (by rw [total, htotal]; simp)]
        exact ⟨by simp [frameOf], by rw [total, htotal]; rfl⟩
      | ok found =>
        rw [hs] at hfault
        have hfault' : faultOf x.result = none := hfault
        rw [hfault']
        rcases x.call.progress with hlt | ⟨e, he, -⟩ | ⟨-, hp, hnone⟩
        · obtain ⟨hframes, hfirst⟩ := hnext (by omega)
          exact ⟨by rw [hframes], hfirst⟩
        · rw [hs] at he
          cases he
        · have htotal : x.next.total = x.next.held := by
            rw [total, hp]
            exact List.append_nil _
          rw [results_of_drained hp (by rw [maxSize_next]; exact hnone), htotal,
            splitAll_eq_nil (by rw [hnone]; simp), hframe, hnone]
          exact ⟨by simp [frameOf], by simp [faultOf]⟩
    · have hfault : faultOf x.result = none := by
        cases hr : x.result with
        | error e => rw [hr] at hframe; exact absurd rfl hframe
        | ok found => rfl
      rw [hfault]
      rcases x.call.progress with hlt | ⟨e, -, hr⟩ | ⟨hr, -⟩
      · obtain ⟨hframes, hfirst⟩ := hnext (by omega)
        exact ⟨by rw [hframes], hfirst⟩
      · rw [hr] at hframe
        exact absurd rfl hframe
      · rw [hr] at hframe
        exact absurd rfl hframe

/-- What the calls of a reader keep to that starts with no bytes. -/
structure Faithful (x : Reading) : Prop where
  /-- Calls do nothing to the stream but read from it. -/
  precedes : ∀ n, x.Precedes (x.after n)
  /-- The bytes received are the frames returned and as many bytes as the reader says it holds. -/
  conserved : ∀ n,
    received (x.reads n) = (framesOf (x.results n)).flatten ++ (x.after n).held ∧
      (x.after n).held.length = (x.after n).reader.buffered
  /-- The frames returned are the first frames of the bytes received. -/
  ordered : ∀ n,
    framesOf (x.results n) <+: (splitAll x.reader.maxSize (received (x.reads n))).1
  /-- A call reads only while what is held and received decides nothing. -/
  undecided : ∀ n i, i < ((x.after n).reads 1).length →
    split x.reader.maxSize ((x.after n).held ++ received (((x.after n).reads 1).take i)) = .ok none
  /-- A call returns nothing exactly if its last read brought nothing. -/
  eq_none_iff : ∀ n, (x.after n).result = .ok none ↔ ((x.after n).reads 1).getLast? = some (some [])
  /-- A call reports the network exactly if its last read failed. -/
  eq_io_iff : ∀ n, (x.after n).result = .error .io ↔ ((x.after n).reads 1).getLast? = some none
  /-- A call that returns no frame costs no byte, and the calls after it return what they would if
  nothing had happened but that its bytes were received. -/
  carries_on : ∀ n, frameOf (x.after n).result = [] →
    (x.after (n + 1)).held = (x.after n).held ++ received ((x.after n).reads 1) ∧
      ∀ m, (x.after (n + 1)).results m =
        (holding x.reader.maxSize ((x.after n).held ++ received ((x.after n).reads 1))
          (x.after (n + 1)).stream).results m
  /-- Once the bytes are refused, every call refuses them in the same way and reads nothing. -/
  settled : ∀ n cause, (x.after n).result = .error (.malformedPacket cause) →
    ∀ m, (x.after (n + 1 + m)).result = .error (.malformedPacket cause) ∧
      (x.after (n + 1 + m)).reads 1 = []
  /-- Enough calls return all frames of the bytes to come, and then what is wrong with the rest. -/
  complete : ∃ N, ∀ n, N ≤ n →
    framesOf (x.results n) = (splitAll x.reader.maxSize (Arrival.allBytes x.stream.pending)).1 ∧
      firstFault (x.results n) = faultOf (split x.reader.maxSize
        (splitAll x.reader.maxSize (Arrival.allBytes x.stream.pending)).2)

/-- Every reader that starts with no bytes is faithful to its stream. -/
theorem faithful_start (maxSize : Nat) (script : List Arrival) :
    (start maxSize script).Faithful := by
  generalize hx : start maxSize script = x
  have hheld : x.held = [] := by rw [← hx]; rfl
  have hcut : ∀ n, CutsInto x.reader.maxSize (received (x.reads n)) (framesOf (x.results n))
      (x.after n).held := by
    intro n
    have := x.cutsInto_after n
    rw [hheld, List.nil_append] at this
    exact this
  have hcall : ∀ n, Call x.reader.maxSize (x.after n).held (x.after n).stream ((x.after n).reads 1)
      (x.after n).result (x.after (n + 1)).held (x.after (n + 1)).stream := by
    intro n
    rw [after_succ, ← x.maxSize_after n]
    exact (x.after n).call
  refine ⟨x.precedes_after, fun n => ⟨(hcut n).flatten_append.symm, Reader.length_unread _⟩, ?_,
    fun n i hi => (hcall n).undecided hi, fun n => (hcall n).eq_none_iff,
    fun n => (hcall n).eq_io_iff, ?_, ?_, ?_⟩
  · intro n
    rw [(hcut n).splitAll_eq]
    exact List.prefix_append _ _
  · intro n hframe
    have hkept : (x.after (n + 1)).held = (x.after n).held ++ received ((x.after n).reads 1) := by
      have := (hcall n).cutsInto.flatten_append
      rw [hframe] at this
      exact this
    refine ⟨hkept, fun m => ?_⟩
    rw [← hkept]
    refine results_congr ?_ ?_ ?_ m
    · exact x.maxSize_after _
    · rfl
    · rfl
  · intro n cause hresult m
    have hrefused : split (x.after (n + 1)).reader.maxSize (x.after (n + 1)).held =
        .error (.malformedPacket cause) := by
      have hfault := (hcall n).fault_eq (by rw [hresult]; rfl)
      rw [hresult] at hfault
      rw [x.maxSize_after]
      cases hs : split x.reader.maxSize (x.after (n + 1)).held with
      | ok found => rw [hs] at hfault; cases hfault
      | error e =>
        obtain ⟨cause', rfl⟩ := exists_malformed_of_split hs
        rw [hs] at hfault
        cases hfault
        rfl
    have hsame : x.after (n + 1 + m) = x.after (n + 1) := by
      rw [after_add]
      exact (after_of_refused hrefused m).2
    rw [hsame]
    obtain ⟨hagain, hstill⟩ := next_of_refused hrefused
    have hone : (x.after (n + 1)).after 1 = x.after (n + 1) := hstill
    refine ⟨hagain, ?_⟩
    rw [reads, hone, outcomesTo, Nat.sub_self]
    rfl
  · have htotal : x.total = Arrival.allBytes x.stream.pending := by
      rw [total, hheld]
      rfl
    refine ⟨x.stream.weight + x.held.length + 1, fun n hn => ?_⟩
    rw [← htotal]
    exact x.results_of_lt (by omega)

/-- Readers are faithful to their streams, and any two scripts with the same bytes give the same
frames and the same first fault over enough calls, however they cut the bytes and whatever fails
between them. -/
theorem faithful_and_agree (maxSize : Nat) :
    (∀ script, (start maxSize script).Faithful) ∧
      ∀ script script', Arrival.allBytes script = Arrival.allBytes script' →
        ∃ N, ∀ n n', N ≤ n → N ≤ n' →
          framesOf ((start maxSize script).results n) =
              framesOf ((start maxSize script').results n') ∧
            firstFault ((start maxSize script).results n) =
              firstFault ((start maxSize script').results n') := by
  refine ⟨faithful_start maxSize, fun script script' hbytes => ?_⟩
  obtain ⟨N, hN⟩ := (faithful_start maxSize script).complete
  obtain ⟨N', hN'⟩ := (faithful_start maxSize script').complete
  have hpending : Arrival.allBytes (start maxSize script).stream.pending =
      Arrival.allBytes (start maxSize script').stream.pending := hbytes
  refine ⟨max N N', fun n n' hn hn' => ?_⟩
  obtain ⟨hframes, hfault⟩ := hN n (by omega)
  obtain ⟨hframes', hfault'⟩ := hN' n' (by omega)
  rw [hframes, hfault, hframes', hfault', hpending]
  exact ⟨rfl, rfl⟩

end Reading

end RemoteConsole.Frame
