import RemoteConsole.Connection.Pipeline
import RemoteConsole.Proofs.Connection.Closing
import RemoteConsole.Proofs.Frame.Conservation

/-!
# Delivery before the end

However the steps of the pump and the dispatcher interleave, the frames dispatched are the first of
those that the stream brings before it ends (`framesBeforeEnd`). If nobody else closes the
connection, the two tasks come to an end after a number of steps that the frames bound, and then all
of them have been dispatched and the connection has been closed once (`delivers_before_closing`).

The proof looks at the frames that are dispatched, in the queue, with the pump, or still to come, in
this order (`account`). No step changes them, except that a task which is aborted may drop the last
of them (`Turn.account_prefix`). A pipeline that nobody disturbs is `Steady`: as long as its
dispatcher is at work the connection is open, and once it is not, there is nothing left to dispatch.
-/

namespace RemoteConsole

namespace Frame

variable {maxSize limit : Nat} {s s' : Stream} {held held' : Bytes}
  {outcomes : List (Option Bytes)} {result : Except Error (Option Bytes)}

/-- The bytes that arrive before the first read that fails or brings nothing. -/
def Arrival.beforeEnd : List Arrival → Bytes
  | .data (b :: bytes) :: rest => b :: bytes ++ beforeEnd rest
  | _ => []

/-- The complete frames in front of the end of what arrives: the first read that fails or brings
nothing, or a size field that cannot be right. -/
def framesBeforeEnd (maxSize : Nat) (script : List Arrival) : List Bytes :=
  (splitAll maxSize (Arrival.beforeEnd script)).1

theorem Arrival.beforeEnd_data {bytes : Bytes} (hbytes : bytes ≠ []) (rest : List Arrival) :
    beforeEnd (.data bytes :: rest) = bytes ++ beforeEnd rest := by
  cases bytes with
  | nil => exact absurd rfl hbytes
  | cons b bytes => rfl

/-- A read that brings bytes takes them from those before the end. -/
theorem Stream.beforeEnd_of_read {b : UInt8} {bytes : Bytes}
    (h : s.read limit = (some (b :: bytes), s')) :
    Arrival.beforeEnd s.pending = b :: bytes ++ Arrival.beforeEnd s'.pending := by
  unfold read at h
  split at h
  · cases h
  · cases h
  · rename_i data rest hp
    split_ifs at h with hle
    · cases h
      rw [hp, Arrival.beforeEnd]
    · obtain ⟨hbytes, rfl⟩ := Prod.mk.inj h
      -- The read takes less than there is, so there is more before the end.
      have hmore : data.drop limit ≠ [] := by
        intro hnil
        exact hle (List.drop_eq_nil_iff.mp hnil)
      have hdata : data ≠ [] := by
        rintro rfl
        exact hle (Nat.zero_le _)
      rw [hp, Arrival.beforeEnd_data hdata, Arrival.beforeEnd_data hmore, ← List.append_assoc,
        ← Option.some.inj hbytes, List.take_append_drop]

/-- A read that fails or brings nothing is the end. -/
theorem Stream.beforeEnd_of_end {outcome : Option Bytes} (hlimit : 0 < limit)
    (h : s.read limit = (outcome, s')) (hempty : outcome.getD [] = []) :
    Arrival.beforeEnd s.pending = [] := by
  unfold read at h
  split at h
  · rename_i hp
    rw [hp, Arrival.beforeEnd]
    exact fun _ _ _ hcons => by cases hcons
  · rename_i hp
    rw [hp]
    rfl
  · rename_i data rest hp
    split_ifs at h with hle
    · cases h
      obtain rfl : data = [] := hempty
      rw [hp]
      rfl
    · cases h
      have hlength : (data.take limit).length = 0 := congrArg List.length hempty
      rw [List.length_take] at hlength
      omega

namespace Reader

/-- The frames that calls will return before the end of the stream. -/
def toCome (r : Reader) (s : Stream) : List Bytes :=
  (splitAll r.maxSize (r.unread ++ Arrival.beforeEnd s.pending)).1

end Reader

namespace Call

/-- A call returns the first frame that is still to come, and the others are to come after it. -/
theorem splitAll_of_frame {frame : Bytes}
    (h : Call maxSize held s outcomes (.ok (some frame)) held' s') :
    (splitAll maxSize (held ++ Arrival.beforeEnd s.pending)).1 =
      frame :: (splitAll maxSize (held' ++ Arrival.beforeEnd s'.pending)).1 := by
  generalize hresult : (Except.ok (some frame) : Except Error (Option Bytes)) = result at h
  induction h with
  | frame h =>
    obtain rfl := Option.some.inj (Except.ok.inj hresult)
    rw [splitAll_of_split (split_append h _)]
  | refused h => cases hresult
  | failed h read => cases hresult
  | ended h read => cases hresult
  | more h read go ih =>
    rw [Stream.beforeEnd_of_read read, ← List.append_assoc]
    exact ih hresult

/-- A call that returns no frame has come to the end, and nothing was to come. -/
theorem splitAll_of_end (h : Call maxSize held s outcomes result held' s')
    (hresult : frameOf result = []) :
    (splitAll maxSize (held ++ Arrival.beforeEnd s.pending)).1 = [] := by
  have hread : 0 < readLength := by decide
  induction h with
  | frame h => cases hresult
  | refused h => rw [splitAll_eq_nil (by simp [split_append_error h])]
  | failed h read =>
    rw [Stream.beforeEnd_of_end hread read rfl, List.append_nil, splitAll_eq_nil (by simp [h])]
  | ended h read =>
    rw [Stream.beforeEnd_of_end hread read rfl, List.append_nil, splitAll_eq_nil (by simp [h])]
  | more h read go ih =>
    rw [Stream.beforeEnd_of_read read, ← List.append_assoc]
    exact ih hresult

end Call

/-- A call returns the next of the frames to come, if there is one. -/
theorem Reader.toCome_eq {r r' : Reader} (h : r.nextFrame s = (result, r', s')) :
    r.toCome s = match result with
      | .ok (some frame) => frame :: r'.toCome s'
      | _ => [] := by
  obtain ⟨hmax, outcomes, hcall⟩ := r.nextFrame_call s
  rw [h] at hmax hcall
  have hmax' : r'.maxSize = r.maxSize := hmax
  unfold toCome
  rw [hmax']
  match result with
  | .ok (some frame) => exact hcall.splitAll_of_frame
  | .ok none | .error e => exact hcall.splitAll_of_end rfl

end Frame

/-- How many steps a pump and the dispatcher can take for the frames that are not in the queue yet:
three for each frame to come, and some for the end. -/
def Pump.stepsLeft (toCome : Nat) : Pump → Nat
  | reading => 3 * toCome + 3
  | holding (.ok _) => 3 * toCome + 5
  | holding (.error _) => 2
  | stopped => 0

namespace Pipeline

open RemoteConsole.Frame (Arrival framesBeforeEnd)

/-- A pipeline that has not done anything yet, on a connection that has just been made. -/
def start (script : List Arrival) (made : Link) : Pipeline where
  stream := { pending := script }
  reader := { maxSize := made.conn.routing.maxSize }
  link := made

/-- A connection that has taken in some frames. -/
def shown (made : Link) (frames : List Bytes) : Link :=
  frames.foldl (fun l frame => (l.frameReceived frame).2) made

/-- The frames among some items of the queue. -/
def framesOf (items : List QueueItem) : List Bytes :=
  items.filterMap Except.toOption

/-- The frames that the pump has not put into the queue yet. -/
def unqueued (p : Pipeline) : List Bytes :=
  match p.pump with
  | .reading => p.reader.toCome p.stream
  | .holding item => framesOf [item] ++ if item.isOk then p.reader.toCome p.stream else []
  | .stopped => []

/-- All frames of a pipeline, wherever they have got to. -/
def account (p : Pipeline) : List Bytes :=
  p.dispatched ++ framesOf p.queue ++ p.unqueued

variable {p p' : Pipeline} {action : Action} {actions : List Action} {made : Link}
  {frames : List Bytes}

/-! ## One step -/

/-- What a step can do. -/
inductive Turn (p : Pipeline) : Action → Pipeline → Prop where
  /-- The pump gets a frame. -/
  | got {frame : Bytes} {reader : Frame.Reader} {stream : Frame.Stream} (pump : p.pump = .reading)
      (next : p.reader.nextFrame p.stream = (.ok (some frame), reader, stream)) :
    Turn p .read { p with pump := .holding (.ok frame), reader, stream }
  /-- The pump comes to the end of the stream. -/
  | ended {reader : Frame.Reader} {stream : Frame.Stream} (pump : p.pump = .reading)
      (next : p.reader.nextFrame p.stream = (.ok none, reader, stream)) :
    Turn p .read { p with pump := .stopped, reader, stream }
  /-- The pump cannot go on. -/
  | failed {e : Error} {reader : Frame.Reader} {stream : Frame.Stream} (pump : p.pump = .reading)
      (next : p.reader.nextFrame p.stream = (.error e, reader, stream)) :
    Turn p .read { p with pump := .holding (.error e), reader, stream }
  /-- The pump puts a frame into the queue. -/
  | pushed {frame : Bytes} (pump : p.pump = .holding (.ok frame)) (working : p.dispatching = true)
      (room : p.queue.length < queueLimit) :
    Turn p .push { p with pump := .reading, queue := p.queue ++ [.ok frame] }
  /-- The pump puts into the queue why there are no more frames, and is done. -/
  | gaveUp {e : Error} (pump : p.pump = .holding (.error e)) (working : p.dispatching = true)
      (room : p.queue.length < queueLimit) :
    Turn p .push { p with pump := .stopped, queue := p.queue ++ [.error e] }
  /-- The pump finds that the dispatcher is gone. -/
  | orphaned {item : QueueItem} (pump : p.pump = .holding item) (gone : p.dispatching = false) :
    Turn p .push { p.close with pump := .stopped }
  /-- The dispatcher takes a frame out of the queue. -/
  | popped {frame : Bytes} {queue : List QueueItem} (working : p.dispatching = true)
      (front : p.queue = .ok frame :: queue) :
    Turn p .pop { p with
      queue, link := (p.link.frameReceived frame).2, dispatched := p.dispatched ++ [frame] }
  /-- The dispatcher learns why there are no more frames. -/
  | learned {e : Error} {queue : List QueueItem} (working : p.dispatching = true)
      (front : p.queue = .error e :: queue) :
    Turn p .pop { p.close with queue, dispatching := false }
  /-- The dispatcher finds nothing left. -/
  | drained (working : p.dispatching = true) (empty : p.queue = []) (pump : p.pump = .stopped) :
    Turn p .finish { p.close with dispatching := false }
  /-- Somebody else closes the connection. -/
  | aborted : Turn p .abort { p.close with aborted := true }
  /-- The pump is aborted. -/
  | pumpDropped (aborted : p.aborted = true) : Turn p .dropPump { p with pump := .stopped }
  /-- The dispatcher is aborted. -/
  | dispatcherDropped (aborted : p.aborted = true) (working : p.dispatching = true) :
    Turn p .dropDispatcher { p.close with dispatching := false }

theorem turn_of_step (h : p.step action = some p') : Turn p action p' := by
  cases action with
  | read =>
    dsimp only [step] at h
    split at h
    · rename_i hpump
      obtain rfl := Option.some.inj h
      cases hnext : p.reader.nextFrame p.stream with
      | mk result rest =>
        match result with
        | .ok (some frame) => exact .got hpump hnext
        | .ok none => exact .ended hpump hnext
        | .error e => exact .failed hpump hnext
    · cases h
  | push =>
    dsimp only [step] at h
    split at h
    · rename_i item hpump
      split_ifs at h with hgone hfull
      · obtain rfl := Option.some.inj h
        exact .orphaned hpump (by simpa using hgone)
      · have hworking : p.dispatching = true := by simpa using hgone
        obtain rfl := Option.some.inj h
        cases item with
        | ok frame => exact .pushed hpump hworking (Nat.lt_of_not_le hfull)
        | error e => exact .gaveUp hpump hworking (Nat.lt_of_not_le hfull)
    · cases h
  | pop =>
    dsimp only [step] at h
    split at h
    · rename_i hworking hfront
      obtain rfl := Option.some.inj h
      exact .popped hworking hfront
    · rename_i hworking hfront
      obtain rfl := Option.some.inj h
      exact .learned hworking hfront
    · cases h
  | finish =>
    dsimp only [step] at h
    split at h
    · rename_i hworking hempty hpump
      obtain rfl := Option.some.inj h
      exact .drained hworking hempty hpump
    · cases h
  | abort =>
    obtain rfl := Option.some.inj h
    exact .aborted
  | dropPump =>
    dsimp only [step] at h
    split_ifs at h with haborted
    obtain rfl := Option.some.inj h
    exact .pumpDropped haborted
  | dropDispatcher =>
    dsimp only [step] at h
    split_ifs at h with hboth
    obtain ⟨haborted, hworking⟩ := Bool.and_eq_true_iff.mp hboth
    obtain rfl := Option.some.inj h
    exact .dispatcherDropped haborted hworking

theorem framesOf_append (items more : List QueueItem) :
    framesOf (items ++ more) = framesOf items ++ framesOf more :=
  List.filterMap_append

/-- While the dispatcher is at work and the pump is not aborted, a step moves a frame on or none. -/
theorem Turn.account_eq (turn : Turn p action p') (working : p.dispatching = true)
    (kept : action ≠ .dropPump) : p'.account = p.account := by
  cases turn with
  | got pump next =>
    have htoCome := Frame.Reader.toCome_eq next
    simp only [account, unqueued, pump]
    rw [htoCome]
    rfl
  | ended pump next =>
    have htoCome := Frame.Reader.toCome_eq next
    simp only [account, unqueued, pump]
    rw [htoCome]
  | failed pump next =>
    have htoCome := Frame.Reader.toCome_eq next
    simp only [account, unqueued, pump]
    rw [htoCome]
    rfl
  | pushed pump working room =>
    simp only [account, unqueued, pump, framesOf_append, List.append_assoc]
    rfl
  | gaveUp pump working room =>
    simp only [account, unqueued, pump, framesOf_append, List.append_assoc]
    rfl
  | orphaned pump gone =>
    rw [working] at gone
    cases gone
  | popped working front =>
    simp only [account, front, framesOf, List.filterMap_cons, List.append_assoc]
    rfl
  | learned working front =>
    simp only [account, front, framesOf, List.filterMap_cons]
    rfl
  | drained working empty pump => rfl
  | aborted => rfl
  | pumpDropped aborted => exact absurd rfl kept
  | dispatcherDropped aborted working => rfl

/-- A pump that stops may drop frames that it has not put into the queue, and no step drops others.
-/
theorem Turn.account_prefix (turn : Turn p action p') : p'.account <+: p.account := by
  have hstop {p : Pipeline} : { p with pump := .stopped }.account <+: p.account := by
    simp only [account, unqueued, List.append_nil]
    exact List.prefix_append _ _
  by_cases hworking : p.dispatching = true
  · by_cases hkept : action = .dropPump
    · subst hkept
      cases turn
      exact hstop
    · have haccount := turn.account_eq hworking hkept
      exact haccount ▸ List.prefix_rfl
  · -- Without a dispatcher, nothing is taken out of the queue and nothing is put into it.
    cases turn with
    | orphaned pump gone => exact hstop (p := p.close)
    | pumpDropped aborted => exact hstop
    | got pump next | ended pump next | failed pump next =>
      have htoCome := Frame.Reader.toCome_eq next
      simp only [account, unqueued, pump, htoCome]
      exact List.prefix_refl _
    | aborted => exact List.prefix_refl _
    | pushed _ working _ | gaveUp _ working _ | popped working _ | learned working _
    | drained working _ _ | dispatcherDropped _ working => exact absurd working hworking

theorem close_of_open (isOpen : p.link.conn.closed = false) :
    p.close = { p with link := p.link.close.2, closings := p.closings + 1 } := by
  unfold close
  rw [isOpen]
  rfl

theorem close_of_closed (closed : p.link.conn.closed = true) : p.close = p := by
  unfold close
  rw [Link.close_of_closed closed, closed]
  rfl

/-- What holds of every pipeline on a stream with some frames before its end. -/
structure Orderly (frames : List Bytes) (p : Pipeline) : Prop where
  /-- Its frames are the first of the stream. -/
  account : p.account <+: frames
  /-- The queue is never longer than it may be. -/
  bounded : p.queue.length ≤ queueLimit
  /-- A connection is closed once. -/
  closings : p.closings = if p.link.conn.closed then 1 else 0

/-- Whoever closes a connection, it is closed once. -/
theorem closings_close (h : p.closings = if p.link.conn.closed then 1 else 0) :
    p.close.closings = if p.close.link.conn.closed then 1 else 0 := by
  cases hclosed : p.link.conn.closed with
  | true =>
    rw [close_of_closed hclosed]
    exact h
  | false =>
    have hafter : p.link.close.2.conn.closed = true := by rw [Link.close_of_open hclosed]
    rw [close_of_open hclosed]
    dsimp only
    rw [h, hclosed, hafter]
    rfl

theorem Orderly.turn (orderly : Orderly frames p) (turn : Turn p action p') :
    Orderly frames p' where
  account := turn.account_prefix.trans orderly.account
  bounded := by
    have hbounded := orderly.bounded
    cases turn with
    | pushed pump working room | gaveUp pump working room =>
      rw [List.length_append, List.length_singleton]
      omega
    | popped working front | learned working front =>
      rw [front, List.length_cons] at hbounded
      exact Nat.le_of_succ_le hbounded
    | _ => exact hbounded
  closings := by
    have hclose := closings_close orderly.closings
    cases turn with
    | got | ended | failed | pushed | gaveUp | pumpDropped => exact orderly.closings
    | @popped frame queue working front =>
      have hclosed := (Link.stays_frameReceived p.link frame).closed
      dsimp only
      rw [hclosed]
      exact orderly.closings
    | orphaned | learned | drained | aborted | dispatcherDropped => exact hclose

/-- Taking in frames does not close a connection. -/
theorem closed_shown (made : Link) (frames : List Bytes) :
    (shown made frames).conn.closed = made.conn.closed := by
  unfold shown
  induction frames generalizing made with
  | nil => rfl
  | cons frame frames ih =>
    rw [List.foldl_cons, ih]
    exact (Link.stays_frameReceived made frame).closed

/-! ## A pipeline that nobody disturbs -/

/-- The dispatcher is at work, and nobody has closed the connection. -/
structure AtWork (frames : List Bytes) (made : Link) (p : Pipeline) : Prop where
  undisturbed : p.aborted = false
  working : p.dispatching = true
  /-- No frame is lost. -/
  account : p.account = frames
  /-- An error stands behind all frames in the queue, and nothing comes after it. -/
  queue_eq : ∃ (front : List Bytes) (fault : Option Error),
    p.queue = front.map .ok ++ fault.toList.map .error ∧ (fault ≠ none → p.pump = .stopped)
  /-- The connection has taken in what was dispatched, and nothing else has happened to it. -/
  link_eq : p.link = shown made p.dispatched
  closings : p.closings = 0

/-- The two tasks are done, and they have closed the connection behind all frames. -/
structure Over (frames : List Bytes) (made : Link) (p : Pipeline) : Prop where
  undisturbed : p.aborted = false
  gone : p.dispatching = false
  stopped : p.pump = .stopped
  empty : p.queue = []
  dispatched : p.dispatched = frames
  link_eq : p.link = (shown made frames).close.2
  closings : p.closings = 1

/-- The connection is open while the dispatcher is at work. -/
theorem AtWork.isOpen (work : AtWork frames made p) (isOpen : made.conn.closed = false) :
    p.link.conn.closed = false := by
  rw [work.link_eq, closed_shown, isOpen]

/-- The connection is closed when the two tasks are done. -/
theorem Over.closed (done : Over frames made p) (isOpen : made.conn.closed = false) :
    p.link.conn.closed = true := by
  have hopen : (shown made frames).conn.closed = false := by rw [closed_shown, isOpen]
  rw [done.link_eq, Link.close_of_open hopen]

/-- When the pump has stopped and no frame is left in the queue, the dispatcher closes the
connection behind all frames. -/
theorem AtWork.finish (work : AtWork frames made p) (isOpen : made.conn.closed = false)
    (stopped : p.pump = .stopped) (none : framesOf p.queue = []) :
    Over frames made { p.close with queue := [], dispatching := false } := by
  have hdispatched : p.dispatched = frames := by
    have haccount := work.account
    simp only [Pipeline.account, unqueued, stopped, none, List.append_nil] at haccount
    exact haccount
  have hlink := work.link_eq
  rw [hdispatched] at hlink
  rw [close_of_open (work.isOpen isOpen)]
  exact {
    undisturbed := work.undisturbed
    gone := rfl
    stopped := stopped
    empty := rfl
    dispatched := hdispatched
    link_eq := by rw [hlink]
    closings := by rw [work.closings] }

/-- Every step of the two tasks leaves the dispatcher at work, or they are done. -/
theorem AtWork.turn (work : AtWork frames made p) (isOpen : made.conn.closed = false)
    (turn : Turn p action p') (alone : action ≠ .abort) :
    AtWork frames made p' ∨ Over frames made p' := by
  have hundisturbed := work.undisturbed
  have hworking := work.working
  have hlink := work.link_eq
  have hclosings := work.closings
  obtain ⟨front, fault, hqueue, hfault⟩ := work.queue_eq
  have hkept (kept : action ≠ .dropPump) : p'.account = frames :=
    (turn.account_eq hworking kept).trans work.account
  -- There is no error in the queue of a pump that is still at work.
  have hnone (hpump : p.pump ≠ .stopped) : fault = none := by
    by_contra hsome
    exact hpump (hfault hsome)
  cases turn with
  | got pump next | ended pump next | failed pump next =>
    obtain rfl := hnone (by rw [pump]; exact Pump.noConfusion)
    exact .inl ⟨hundisturbed, hworking, hkept (by decide),
      ⟨front, none, hqueue, fun h => absurd rfl h⟩, hlink, hclosings⟩
  | @pushed frame pump working room =>
    obtain rfl := hnone (by rw [pump]; exact Pump.noConfusion)
    exact .inl ⟨hundisturbed, hworking, hkept (by decide),
      ⟨front ++ [frame], none, by simp [hqueue], fun h => absurd rfl h⟩, hlink, hclosings⟩
  | @gaveUp e pump working room =>
    obtain rfl := hnone (by rw [pump]; exact Pump.noConfusion)
    exact .inl ⟨hundisturbed, hworking, hkept (by decide),
      ⟨front, some e, by simp [hqueue], fun _ => rfl⟩, hlink, hclosings⟩
  | orphaned pump gone =>
    rw [hworking] at gone
    cases gone
  | @popped frame queue working hfront =>
    -- What is in front of the queue is a frame, so the frames before an error are not used up.
    obtain ⟨front', rfl, hrest⟩ : ∃ front', front = frame :: front' ∧
        queue = front'.map .ok ++ fault.toList.map .error := by
      rw [hqueue] at hfront
      cases front with
      | nil => cases fault <;> simp at hfront
      | cons frame' front' =>
        obtain ⟨hframe, hrest⟩ := List.cons.inj hfront
        exact ⟨front', by rw [Except.ok.inj hframe], hrest.symm⟩
    have hshown : (p.link.frameReceived frame).2 = shown made (p.dispatched ++ [frame]) := by
      rw [hlink, shown, shown, List.foldl_append]
      rfl
    exact .inl ⟨hundisturbed, hworking, hkept (by decide), ⟨front', fault, hrest, hfault⟩, hshown,
      hclosings⟩
  | @learned e queue working hfront =>
    -- The error is the last in the queue, so no frame is left there.
    obtain ⟨rfl, hstopped⟩ : queue = [] ∧ p.pump = .stopped := by
      rw [hqueue] at hfront
      cases front with
      | nil =>
        cases fault with
        | none => simp at hfront
        | some e' => exact ⟨(List.cons.inj hfront).2.symm, hfault (by simp)⟩
      | cons frame' front' => simp at hfront
    have hleft : framesOf p.queue = [] := by
      rw [hfront]
      rfl
    exact .inr (work.finish isOpen hstopped hleft)
  | drained working empty pump =>
    have hleft : framesOf p.queue = [] := by
      rw [empty]
      rfl
    have hclose : { p.close with dispatching := false } =
        { p.close with queue := [], dispatching := false } := by
      rw [← empty]
      rfl
    rw [hclose]
    exact .inr (work.finish isOpen pump hleft)
  | aborted => exact absurd rfl alone
  | pumpDropped aborted | dispatcherDropped aborted =>
    rw [hundisturbed] at aborted
    cases aborted

/-- When the two tasks are done, neither can take a step. -/
theorem Over.not_turn (done : Over frames made p) (turn : Turn p action p') : action = .abort := by
  cases turn with
  | aborted => rfl
  | got pump | ended pump | failed pump | orphaned pump =>
    rw [done.stopped] at pump
    cases pump
  | pushed _ working | gaveUp _ working | popped working | learned working | drained working =>
    rw [done.gone] at working
    cases working
  | pumpDropped aborted | dispatcherDropped aborted =>
    rw [done.undisturbed] at aborted
    cases aborted

/-- As long as the dispatcher is at work, one of the tasks can take a step: the dispatcher if there
is something in the queue, and the pump or the dispatcher if there is not. -/
theorem AtWork.exists_step (work : AtWork frames made p) :
    ∃ action, action ≠ .abort ∧ p.step action ≠ none := by
  cases hqueue : p.queue with
  | cons item queue =>
    refine ⟨.pop, by decide, ?_⟩
    cases item <;> simp [step, work.working, hqueue]
  | nil =>
    cases hpump : p.pump with
    | reading => exact ⟨.read, by decide, by simp [step, hpump]⟩
    | holding item =>
      refine ⟨.push, by decide, ?_⟩
      simp [step, hpump, hqueue, work.working, queueLimit]
    | stopped => exact ⟨.finish, by decide, by simp [step, hpump, hqueue, work.working]⟩

/-- How many steps the two tasks can still take, if nobody disturbs them. -/
def stepsLeft (p : Pipeline) : Nat :=
  p.pump.stepsLeft (p.reader.toCome p.stream).length + p.queue.length + p.dispatching.toNat

/-- Every step of the two tasks leaves fewer to take. -/
theorem AtWork.stepsLeft_lt (work : AtWork frames made p) (turn : Turn p action p')
    (alone : action ≠ .abort) : p'.stepsLeft < p.stepsLeft := by
  unfold stepsLeft
  cases turn with
  | got pump next =>
    have htoCome := Frame.Reader.toCome_eq next
    dsimp only at htoCome ⊢
    rw [pump, htoCome, List.length_cons, Pump.stepsLeft, Pump.stepsLeft]
    omega
  | ended pump next | failed pump next =>
    rw [pump]
    simp only [Pump.stepsLeft]
    omega
  | pushed pump working room | gaveUp pump working room =>
    rw [pump, List.length_append, List.length_singleton]
    simp only [Pump.stepsLeft]
    omega
  | orphaned pump gone =>
    rw [work.working] at gone
    cases gone
  | popped working front =>
    rw [front, List.length_cons]
    dsimp only
    omega
  | learned working front =>
    have hclose : p.close.pump.stepsLeft (p.close.reader.toCome p.close.stream).length =
        p.pump.stepsLeft (p.reader.toCome p.stream).length := rfl
    rw [front, List.length_cons, hclose, working, Bool.toNat_true, Bool.toNat_false]
    dsimp only
    omega
  | drained working empty pump =>
    have hclose : p.close.pump.stepsLeft (p.close.reader.toCome p.close.stream).length =
        p.pump.stepsLeft (p.reader.toCome p.stream).length := rfl
    have hqueue : p.close.queue = p.queue := rfl
    rw [hclose, hqueue, working, Bool.toNat_true, Bool.toNat_false]
    omega
  | aborted => exact absurd rfl alone
  | pumpDropped aborted | dispatcherDropped aborted =>
    rw [work.undisturbed] at aborted
    cases aborted

/-! ## Every run -/

theorem Orderly.run (orderly : Orderly frames p) (h : p.run actions = some p') :
    Orderly frames p' := by
  induction actions generalizing p with
  | nil =>
    obtain rfl := Option.some.inj h
    exact orderly
  | cons action actions ih =>
    obtain ⟨q, hstep, hrun⟩ := Option.bind_eq_some_iff.mp h
    exact ih (orderly.turn (turn_of_step hstep)) hrun

/-- Nobody disturbs a pipeline in a run in which nobody else closes the connection, and every step
of the run uses up one of those that were left. -/
theorem AtWork.run (work : AtWork frames made p) (isOpen : made.conn.closed = false)
    (h : p.run actions = some p') (alone : Action.abort ∉ actions) :
    (AtWork frames made p' ∨ Over frames made p') ∧
      actions.length + p'.stepsLeft ≤ p.stepsLeft := by
  induction actions generalizing p with
  | nil =>
    obtain rfl := Option.some.inj h
    exact ⟨.inl work, by simp⟩
  | cons action actions ih =>
    obtain ⟨q, hstep, hrun⟩ := Option.bind_eq_some_iff.mp h
    have hne : action ≠ .abort := fun heq => alone (heq ▸ List.mem_cons_self)
    have halone : Action.abort ∉ actions := fun hmem => alone (List.mem_cons_of_mem _ hmem)
    have hturn := turn_of_step hstep
    have hlt := work.stepsLeft_lt hturn hne
    rw [List.length_cons]
    obtain hwork | hover := work.turn isOpen hturn hne
    · obtain ⟨hend, hle⟩ := ih hwork hrun halone
      exact ⟨hend, by omega⟩
    · -- The tasks are done, so this was the last step.
      cases actions with
      | nil =>
        obtain rfl := Option.some.inj hrun
        refine ⟨.inr hover, ?_⟩
        rw [List.length_nil]
        omega
      | cons next actions =>
        obtain ⟨r, hnext, -⟩ := Option.bind_eq_some_iff.mp hrun
        have habort := hover.not_turn (turn_of_step hnext)
        rw [habort] at halone
        exact absurd List.mem_cons_self halone

/-- A pipeline begins with all frames of its stream to come. -/
theorem account_start (script : List Arrival) (made : Link) :
    (start script made).account = framesBeforeEnd made.conn.routing.maxSize script :=
  rfl

/-- The frames that a pipeline dispatches are the first of those before the end of its stream. If
nobody else closes the connection, the two tasks can only take so many steps; they cannot go on
exactly when the connection is closed, and by then all frames have been dispatched, and the
connection was closed once and behind the last of them. -/
theorem delivers_before_closing (script : List Arrival) (made : Link)
    (isOpen : made.conn.closed = false) (actions : List Action) (p : Pipeline)
    (h : (start script made).run actions = some p) :
    let frames := framesBeforeEnd made.conn.routing.maxSize script
    p.dispatched <+: frames ∧ p.queue.length ≤ queueLimit ∧
      p.closings = (if p.link.conn.closed then 1 else 0) ∧
      (.abort ∉ actions →
        actions.length ≤ 3 * frames.length + 4 ∧
        ((∀ action, action ≠ .abort → p.step action = none) ↔ p.link.conn.closed = true) ∧
        (p.link.conn.closed = false → p.link = shown made p.dispatched) ∧
        (p.link.conn.closed = true →
          p.dispatched = frames ∧ p.link = (shown made frames).close.2)) := by
  intro frames
  have hstart : Orderly frames (start script made) := by
    refine ⟨List.prefix_refl _, Nat.zero_le _, ?_⟩
    show 0 = if made.conn.closed then 1 else 0
    rw [isOpen]
    rfl
  have horderly := hstart.run h
  have hdispatched : p.dispatched <+: frames := by
    refine List.IsPrefix.trans ?_ horderly.account
    rw [account, List.append_assoc]
    exact List.prefix_append _ _
  refine ⟨hdispatched, horderly.bounded, horderly.closings, fun alone => ?_⟩
  have hwork : AtWork frames made (start script made) :=
    ⟨rfl, rfl, account_start script made, ⟨[], none, rfl, fun h => absurd rfl h⟩, rfl, rfl⟩
  obtain ⟨hend, hlength⟩ := hwork.run isOpen h alone
  have hleft : (start script made).stepsLeft = 3 * frames.length + 4 := rfl
  refine ⟨by omega, ?_⟩
  obtain hwork | hover := hend
  · have hopen := hwork.isOpen isOpen
    rw [hopen]
    refine ⟨⟨fun hstuck => ?_, fun hclosed => by cases hclosed⟩, fun _ => hwork.link_eq,
      fun hclosed => by cases hclosed⟩
    obtain ⟨action, hne, hstep⟩ := hwork.exists_step
    exact absurd (hstuck action hne) hstep
  · have hclosed := hover.closed isOpen
    rw [hclosed]
    refine ⟨⟨fun _ => rfl, fun _ action hne => ?_⟩, fun hopen => absurd hopen (by decide),
      fun _ => ⟨hover.dispatched, hover.link_eq⟩⟩
    rw [Option.eq_none_iff_forall_not_mem]
    intro q hq
    exact hne (hover.not_turn (turn_of_step hq))

/-- The answer to a request and another packet arrive in pieces before a read fails. The request is
answered, and a listener registers another for each of the two, before the connection is closed:
although the pump has read the failure before the second packet is taken out of the queue. -/
theorem delivers_before_closing_failure :
    let answer : Bytes := [12, 0, 0, 0, 4, 0, 0, 0, 0, 0, 0, 0, 104, 105, 0, 0]
    let other : Bytes := [11, 0, 0, 0, 5, 0, 0, 0, 0, 0, 0, 0, 103, 0, 0]
    let script : List Arrival := [.data (answer.take 2), .data (answer.drop 2 ++ other.take 5),
      .data (other.drop 5 ++ [9]), .failure, .data [0, 0, 0, 0]]
    let listener := Listener.ofReact fun
      | .packet p => { registrations := [(.disconnected, .noting p.body)] }
      | _ => {}
    let requests : RequestTable :=
      { pending := [{ slot := 0, id := 4, multi := false }], order := [4], issued := 1 }
    let made : Link :=
      { conn := { generation := 1, requests }
        cell := .start 1
        listeners := { packets := [listener] } }
    let actions : List Action := [.read, .push, .read, .pop, .push, .read, .push, .pop, .pop]
    made.conn.closed = false ∧
      ∃ p, (start script made).run actions = some p ∧ .abort ∉ actions ∧
        p.link.conn.closed = true ∧ p.closings = 1 ∧ p.dispatched = [answer, other] ∧
        p.link = (shown made [answer, other]).close.2 ∧
        (shown made [answer, other]).conn.requests.pending = [] ∧
        p.link.listeners.disconnected.map (·.hear .disconnected) =
          [⟨.disconnected, ["hi"]⟩, ⟨.disconnected, ["g"]⟩] := by
  intro answer other script listener requests made actions
  have hrun : ((start script made).run actions).map (fun p => p.link.conn.closed) = some true := by
    decide +kernel
  obtain ⟨p, hp, hclosed⟩ := Option.map_eq_some_iff.mp hrun
  have halone : Action.abort ∉ actions := by decide
  have hframes : framesBeforeEnd made.conn.routing.maxSize script = [answer, other] := by
    decide +kernel
  obtain ⟨-, -, hclosings, hrest⟩ := delivers_before_closing script made rfl actions p hp
  obtain ⟨hdispatched, hlink⟩ := (hrest halone).2.2.2 hclosed
  rw [hframes] at hdispatched hlink
  refine ⟨rfl, p, hp, halone, hclosed, ?_, hdispatched, hlink, by decide +kernel, ?_⟩
  · rw [hclosings, if_pos hclosed]
  · rw [hlink]
    decide +kernel

end Pipeline

end RemoteConsole
