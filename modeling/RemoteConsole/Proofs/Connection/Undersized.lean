import RemoteConsole.Proofs.Connection.Audience
import RemoteConsole.Proofs.Frame.Conservation
import RemoteConsole.Proofs.Packet.Format

/-!
# Frames that are too small for a packet

A size field may be right for a frame and too small for a packet. Cutting frames off a stream and
reading packets out of them look at the size field separately, and agree on where a frame ends: what
was cut off is a packet exactly if its size is that of one (`decode_of_split`). So a stream may hold
any number of smaller frames, which cost nothing but their own bytes: each is cut off like any
other, and the connection skips it (`undersized_invisible`).
-/

namespace RemoteConsole

/-- A list into which further elements of some kind were put, anywhere and any number of them. -/
inductive Interspersed {α : Type} (P : α → Prop) : List α → List α → Prop
  /-- Nothing is left. -/
  | nil : Interspersed P [] []
  /-- An element of both lists. -/
  | keep {as bs : List α} (a : α) (tail : Interspersed P as bs) : Interspersed P (a :: as) (a :: bs)
  /-- An element that was put in. -/
  | put {as bs : List α} {b : α} (head : P b) (tail : Interspersed P as bs) :
      Interspersed P as (b :: bs)

namespace Interspersed

variable {α β : Type} {P : α → Prop} {Q : β → Prop} {as bs : List α}

theorem refl (as : List α) : Interspersed P as as := by
  induction as with
  | nil => exact .nil
  | cons a as ih => exact .keep a ih

theorem map {f : α → β} (hf : ∀ a, P a → Q (f a)) (h : Interspersed P as bs) :
    Interspersed Q (as.map f) (bs.map f) := by
  induction h with
  | nil => exact .nil
  | keep a _ ih => exact .keep (f a) ih
  | put hb _ ih => exact .put (hf _ hb) ih

theorem append_right (h : Interspersed P as bs) (cs : List α) :
    Interspersed P (as ++ cs) (bs ++ cs) := by
  induction h with
  | nil => exact refl cs
  | keep a _ ih => exact .keep a ih
  | put hb _ ih => exact .put hb ih

/-- What holds of the first list and of all that was put in holds of the second. -/
theorem forall_mem {R : α → Prop} (h : Interspersed P as bs) (hR : ∀ a ∈ as, R a)
    (hP : ∀ b, P b → R b) : ∀ b ∈ bs, R b := by
  induction h with
  | nil => exact hR
  | keep a _ ih =>
    obtain ⟨ha, has⟩ := List.forall_mem_cons.mp hR
    exact List.forall_mem_cons.mpr ⟨ha, ih has⟩
  | put hb _ ih => exact List.forall_mem_cons.mpr ⟨hP _ hb, ih hR⟩

end Interspersed

namespace Frame

variable {maxSize : Nat} {buf frame rest tail : Bytes} {frames frames' : List Bytes}

/-- A frame and nothing else, within the limit of a reader. -/
def IsFrame (maxSize : Nat) (frame : Bytes) : Prop :=
  split maxSize frame = .ok (some (frame, []))

instance (maxSize : Nat) (frame : Bytes) : Decidable (IsFrame maxSize frame) :=
  inferInstanceAs (Decidable (_ = _))

/-- A frame whose size is not that of a packet. -/
structure Undersized (maxSize : Nat) (frame : Bytes) : Prop where
  /-- It is a frame. -/
  isFrame : IsFrame maxSize frame
  /-- Its size is between 0 and 9. -/
  small : declaredSize frame < 10

/-- A frame that was cut off a buffer has the length that it declares. -/
theorem length_of_split (h : split maxSize buf = .ok (some (frame, rest))) :
    4 ≤ frame.length ∧ declaredSize frame = (frame.length : Int) - 4 := by
  obtain ⟨hfield, hrange, hlength, hframe, -⟩ := split_eq_frame_iff.mp h
  have hlen : frame.length = 4 + (declaredSize buf).toNat := by
    rw [hframe]
    exact List.length_take_of_le hlength
  have hfour : Packet.sizeFieldLength ≤ frame.length := by
    rw [hlen]
    exact Nat.le_add_right _ _
  have hsize : declaredSize buf = declaredSize frame := by
    rw [← append_of_split h, declaredSize_append hfour]
  refine ⟨hfour, ?_⟩
  rw [← hsize]
  omega

/-- What was cut off a buffer is a packet exactly if its size is that of one. -/
theorem framed_iff_of_split (h : split maxSize buf = .ok (some (frame, rest))) :
    Packet.Framed frame ↔ 10 ≤ declaredSize frame := by
  obtain ⟨hfour, hlength⟩ := length_of_split h
  exact ⟨fun framed => framed.2.1, fun hmin => ⟨hfour, hmin, Int.le_of_eq hlength⟩⟩

/-- It can be read exactly then, and is refused for its form otherwise. -/
theorem decode_of_split (h : split maxSize buf = .ok (some (frame, rest))) (e : Encoding) :
    ((∃ p, Packet.decode frame e = .ok p) ↔ 10 ≤ declaredSize frame) ∧
      (declaredSize frame < 10 →
        ∃ cause, Packet.decode frame e = .error (.malformedPacket cause)) := by
  rw [← Int.not_le, ← framed_iff_of_split h]
  refine ⟨⟨?_, fun framed => ⟨_, Packet.decode_of_framed framed e⟩⟩,
    fun unframed => Packet.decode_of_not_framed unframed e⟩
  rintro ⟨p, hp⟩
  by_contra unframed
  obtain ⟨cause, hcause⟩ := Packet.decode_of_not_framed unframed e
  cases hp.symm.trans hcause

/-- Frames that stand one after the other are cut off one after the other. -/
theorem cutsInto_flatten (h : ∀ frame ∈ frames, IsFrame maxSize frame) (tail : Bytes) :
    CutsInto maxSize (frames.flatten ++ tail) frames tail := by
  induction frames with
  | nil => exact .nil tail
  | cons frame frames ih =>
    obtain ⟨hframe, hframes⟩ := List.forall_mem_cons.mp h
    rw [List.flatten_cons, List.append_assoc]
    exact .cons (split_append hframe _) (ih hframes)

/-- What was put between the frames of a stream is found among its frames, and nothing else is
different. -/
theorem splitAll_interspersed (h : Interspersed (Undersized maxSize) frames frames')
    (hframes : ∀ frame ∈ frames, IsFrame maxSize frame) (tail : Bytes) :
    Interspersed (Undersized maxSize) (splitAll maxSize (frames.flatten ++ tail)).1
        (splitAll maxSize (frames'.flatten ++ tail)).1 ∧
      (splitAll maxSize (frames.flatten ++ tail)).2 =
        (splitAll maxSize (frames'.flatten ++ tail)).2 := by
  have hframes' := h.forall_mem hframes fun _ hu => hu.isFrame
  rw [(cutsInto_flatten hframes tail).splitAll_eq, (cutsInto_flatten hframes' tail).splitAll_eq]
  exact ⟨h.append_right _, rfl⟩

end Frame

namespace Link

open RemoteConsole.Frame

variable {maxSize : Nat} {frame : Bytes} {ops ops' : List Op}

/-- A frame arrives that is too small for a packet. -/
def Op.Undersized (maxSize : Nat) : Op → Prop
  | .frame bytes => Frame.Undersized maxSize bytes
  | _ => False

/-- A frame that is too small for a packet is skipped. -/
theorem frameReceived_undersized (h : Frame.Undersized maxSize frame) (l : Link) :
    l.frameReceived frame = ({}, l) := by
  obtain ⟨cause, hcause⟩ := (decode_of_split h.isFrame l.conn.routing.encoding).2 h.small
  exact frameReceived_of_error hcause

/-- So a history brings about the same, and leaves the same behind, if such frames arrive in
between. -/
theorem after_interspersed (h : Interspersed (Op.Undersized maxSize) ops ops') (l : Link) :
    l.effects ops = l.effects ops' ∧ l.after ops = l.after ops' := by
  induction h generalizing l with
  | nil => exact ⟨rfl, rfl⟩
  | keep op _ ih =>
    obtain ⟨heffects, hafter⟩ := ih (l.apply op).2.2
    rw [effects_cons, effects_cons, heffects]
    exact ⟨rfl, hafter⟩
  | @put ops ops' op hop _ ih =>
    cases op with
    | frame bytes =>
      have hskipped : l.apply (.frame bytes) = (.nothing, {}, l) := by
        rw [apply, frameReceived_undersized hop]
      obtain ⟨heffects, hafter⟩ := ih l
      rw [effects_cons, after, hskipped]
      exact ⟨heffects, hafter⟩
    | _ => exact hop.elim

/-- What was cut off a buffer can be read as a packet exactly if its size is at least 10, and is
refused for its form otherwise. And frames of a smaller size are not noticed on any connection,
whatever is in them: a history of operations brings about the same and leaves the same behind if
such frames arrive anywhere in between; and so do two streams of which one is the other with such
frames put between its frames, or before whatever follows these, in whatever pieces each arrives and
whatever fails in between. (Bytes that are put into the middle of a frame are a part of that frame,
and no frame of their own.) -/
theorem undersized_invisible (maxSize : Nat) :
    (∀ buf frame rest, split maxSize buf = .ok (some (frame, rest)) → ∀ e,
        ((∃ p, Packet.decode frame e = .ok p) ↔ 10 ≤ declaredSize frame) ∧
          (declaredSize frame < 10 →
            ∃ cause, Packet.decode frame e = .error (.malformedPacket cause))) ∧
      (∀ ops ops', Interspersed (Op.Undersized maxSize) ops ops' →
        ∀ l : Link, l.effects ops = l.effects ops' ∧ l.after ops = l.after ops') ∧
      ∀ frames frames' tail, (∀ frame ∈ frames, IsFrame maxSize frame) →
        Interspersed (Undersized maxSize) frames frames' →
          ∀ script script', Arrival.allBytes script = frames.flatten ++ tail →
            Arrival.allBytes script' = frames'.flatten ++ tail →
              ∃ N, ∀ n n', N ≤ n → N ≤ n' →
                let results := (Reading.start maxSize script).results n
                let results' := (Reading.start maxSize script').results n'
                firstFault results = firstFault results' ∧
                  ∀ l : Link,
                    l.effects ((framesOf results).map .frame) =
                        l.effects ((framesOf results').map .frame) ∧
                      l.after ((framesOf results).map .frame) =
                        l.after ((framesOf results').map .frame) := by
  refine ⟨fun buf frame rest h e => decode_of_split h e, fun ops ops' h l => after_interspersed h l,
    fun frames frames' tail hframes h script script' hbytes hbytes' => ?_⟩
  obtain ⟨N, hN⟩ := (Reading.faithful_start maxSize script).complete
  obtain ⟨N', hN'⟩ := (Reading.faithful_start maxSize script').complete
  refine ⟨max N N', fun n n' hn hn' => ?_⟩
  obtain ⟨hread, hfault⟩ := hN n (Nat.le_trans (Nat.le_max_left N N') hn)
  obtain ⟨hread', hfault'⟩ := hN' n' (Nat.le_trans (Nat.le_max_right N N') hn')
  have hpending : Arrival.allBytes (Reading.start maxSize script).stream.pending =
      frames.flatten ++ tail := hbytes
  have hpending' : Arrival.allBytes (Reading.start maxSize script').stream.pending =
      frames'.flatten ++ tail := hbytes'
  have hmax : (Reading.start maxSize script).reader.maxSize = maxSize := rfl
  have hmax' : (Reading.start maxSize script').reader.maxSize = maxSize := rfl
  rw [hpending, hmax] at hread hfault
  rw [hpending', hmax'] at hread' hfault'
  obtain ⟨hcut, hleft⟩ := splitAll_interspersed h hframes tail
  dsimp only
  rw [hread, hread', hfault, hfault', hleft]
  exact ⟨rfl, after_interspersed (hcut.map fun _ hu => hu)⟩

/-- A response with a frame of no bytes before it and one of four bytes behind it, in pieces that do
not end where frames do. -/
theorem undersized_invisible_between :
    let response : Bytes := [10, 0, 0, 0, 1, 0, 0, 0, 0, 0, 0, 0, 0, 0]
    let script : List Arrival := [.data response]
    let script' : List Arrival := [.data [0, 0], .failure, .data ([0, 0] ++ response ++ [4, 0]),
      .data [], .data [0, 0, 1, 2, 3, 4]]
    (∃ cause, Packet.decode [4, 0, 0, 0, 1, 2, 3, 4] .utf8 = .error (.malformedPacket cause)) ∧
      (∀ l : Link, l.after [.register 1 false, .frame response] =
        l.after [.register 1 false, .frame [0, 0, 0, 0], .frame response]) ∧
      ∃ N, ∀ n n', N ≤ n → N ≤ n' → ∀ l : Link,
        l.effects ((framesOf ((Reading.start 4200 script).results n)).map .frame) =
          l.effects ((framesOf ((Reading.start 4200 script').results n')).map .frame) := by
  intro response script script'
  obtain ⟨hdecode, hops, hstreams⟩ := undersized_invisible 4200
  have hempty : Frame.Undersized 4200 [0, 0, 0, 0] := ⟨by decide, by decide⟩
  have hfour : Frame.Undersized 4200 [4, 0, 0, 0, 1, 2, 3, 4] := ⟨by decide, by decide⟩
  refine ⟨(hdecode _ _ _ hfour.isFrame .utf8).2 hfour.small, fun l => ?_, ?_⟩
  · have hskipped : Op.Undersized 4200 (.frame [0, 0, 0, 0]) := hempty
    exact (hops _ _ (.keep _ (.put hskipped (.keep _ .nil))) l).2
  · obtain ⟨N, hN⟩ := hstreams [response] _ [] (by decide)
      (.put hempty (.keep response (.put hfour .nil))) script script' (by decide) (by decide)
    exact ⟨N, fun n n' hn hn' l => ((hN n n' hn hn').2 l).1⟩

end Link

end RemoteConsole
