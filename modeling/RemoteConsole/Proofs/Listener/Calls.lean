import RemoteConsole.Proofs.Listener.Notes
import Mathlib.Data.List.Nodup

/-!
# Who is called

A call of a listener is told by the listener's place among those of its sort, in order of
registration. Places last: listeners are added behind the others and never taken away, so a place
means the same listener in every registry that comes later (`Extends`). What is heard when a packet
arrives or a connection closes is what the listeners that are called take note of, call by call.
-/

namespace RemoteConsole.Registry

/-- A call of a listener. -/
structure Call where
  /-- The place of the listener among those of its sort. -/
  place : Nat
  /-- What it is called with. -/
  event : Event
deriving DecidableEq

/-- The calls of an event: one of each listener of its sort. -/
def calls (r : Registry) (event : Event) : List Call :=
  (List.range (r.ofSort event.sort).length).map (⟨·, event⟩)

/-- The calls of a packet, those of the listeners to bodies last. -/
def packetCalls (r : Registry) (p : Packet) : List Call :=
  r.calls (.packet p) ++
    if p.body == "" then [] else (r.notify (.packet p)).2.calls (.body p.body)

/-- What is heard of a call, with what the listener that is called takes note of. -/
def notesOf (r : Registry) (call : Call) : List Heard :=
  (r.ofSort call.event.sort)[call.place]?.toList.map (·.hear call.event)

/-- A registry has the listeners of another, in the same places, and perhaps more. -/
def Extends (r r' : Registry) : Prop :=
  ∀ sort, r.ofSort sort <+: r'.ofSort sort

variable {r r' r'' : Registry} {call : Call}

theorem Extends.refl (r : Registry) : Extends r r :=
  fun _ => List.prefix_rfl

theorem Extends.trans (h : Extends r r') (h' : Extends r' r'') : Extends r r'' :=
  fun sort => (h sort).trans (h' sort)

theorem extends_register (r : Registry) (added : ListenerSort) (l : Listener) :
    Extends r (r.register added l) := by
  intro sort
  cases added <;> cases sort <;> first | exact List.prefix_rfl | exact List.prefix_append ..

theorem extends_registerAll (r : Registry) (added : List (ListenerSort × Listener)) :
    Extends r (r.registerAll added) := by
  induction added generalizing r with
  | nil => exact .refl r
  | cons a added ih => exact (extends_register r a.1 a.2).trans (ih _)

/-- Listeners that are registered while one is called come last. -/
theorem extends_call (r : Registry) (event : Event) (l : Listener) :
    Extends r (r.call event l).2 :=
  extends_registerAll r _

theorem extends_callAll (r : Registry) (event : Event) (ls : List Listener) :
    Extends r (r.callAll event ls).2 := by
  induction ls generalizing r with
  | nil => exact .refl r
  | cons l ls ih => exact (extends_call r event l).trans (ih _)

theorem extends_notify (r : Registry) (event : Event) : Extends r (r.notify event).2 :=
  extends_callAll r event _

theorem extends_packetReceived (r : Registry) (p : Packet) : Extends r (r.packetReceived p).2 := by
  rw [packetReceived_snd]
  split
  · exact extends_notify r _
  · exact (extends_notify r _).trans (extends_notify _ _)

/-- The listener that is called is the same in every registry that comes later. -/
theorem notesOf_of_extends (h : Extends r r')
    (there : call.place < (r.ofSort call.event.sort).length) : r'.notesOf call = r.notesOf call := by
  obtain ⟨added, hadded⟩ := h call.event.sort
  rw [notesOf, notesOf, ← hadded, List.getElem?_append_left there]

/-- The listeners that an event calls hear of it in order of registration. -/
theorem flatMap_range_getElem? {α β : Type} (l : List α) (f : α → β) :
    (List.range l.length).flatMap (fun i => l[i]?.toList.map f) = l.map f := by
  induction l with
  | nil => rfl
  | cons a l ih =>
    rw [List.length_cons, List.range_succ_eq_map, List.flatMap_cons, List.flatMap_map]
    have hrest (i : Nat) : (a :: l)[i.succ]?.toList.map f = l[i]?.toList.map f := rfl
    simp only [hrest, ih]
    rfl

/-- What is heard of an event is what the listeners that are called take note of. -/
theorem notify_eq_calls (h : Extends r r') (event : Event) :
    (r.notify event).1 = (r.calls event).flatMap r'.notesOf := by
  have hnotes : ∀ i ∈ List.range (r.ofSort event.sort).length,
      r'.notesOf ⟨i, event⟩ = r.notesOf ⟨i, event⟩ := fun i hi =>
    notesOf_of_extends h (List.mem_range.mp hi)
  rw [notify_fst, calls, List.flatMap_map, List.flatMap_congr hnotes]
  exact (flatMap_range_getElem? (r.ofSort event.sort) (·.hear event)).symm

/-- So is what is heard of a packet. -/
theorem packetReceived_eq_calls {p : Packet} (h : Extends (r.packetReceived p).2 r') :
    (r.packetReceived p).1 = (r.packetCalls p).flatMap r'.notesOf := by
  have hr' := (extends_packetReceived r p).trans h
  rw [packetReceived_snd] at h
  rw [packetReceived_fst, packetCalls, List.flatMap_append, ← notify_eq_calls hr']
  split at h
  · rename_i hempty
    rw [if_pos hempty, if_pos hempty, List.flatMap_nil, List.append_nil]
  · rename_i hbody
    rw [if_neg hbody, if_neg hbody, ← notify_eq_calls ((extends_notify _ _).trans h)]

/-- Whether a call is one of the packet listener at a place. -/
def Call.isOf (place : Nat) (call : Call) : Bool :=
  call.place == place && call.event.sort == .packet

/-- A packet calls a packet listener once, and with the packet. -/
theorem filter_packetCalls {place : Nat} (there : place < r.packets.length) (p : Packet) :
    (r.packetCalls p).filter (Call.isOf place) = [⟨place, .packet p⟩] := by
  have hplace : (r.calls (.packet p)).filter (Call.isOf place) = [⟨place, .packet p⟩] := by
    have hone : (List.range r.packets.length).filter (· == place) = [place] := by
      have hcount := List.count_eq_one_of_mem List.nodup_range (List.mem_range.mpr there)
      rw [List.filter_beq, hcount, List.replicate_one]
    have hisOf : (Call.isOf place ∘ fun i => (⟨i, .packet p⟩ : Call)) = (· == place) := by
      funext i
      exact Bool.and_true _
    rw [calls, List.filter_map, hisOf]
    exact congrArg (List.map _) hone
  have hbody : (if p.body == "" then [] else (r.notify (.packet p)).2.calls (.body p.body)).filter
      (Call.isOf place) = [] := by
    split
    · rfl
    · rw [List.filter_eq_nil_iff]
      intro call hcall
      obtain ⟨i, -, rfl⟩ := List.mem_map.mp hcall
      simp [Call.isOf, Event.sort]
  rw [packetCalls, List.filter_append, hplace, hbody, List.append_nil]

/-- The end of a connection calls no packet listener. -/
theorem filter_calls_disconnected (r : Registry) (place : Nat) :
    (r.calls .disconnected).filter (Call.isOf place) = [] := by
  rw [List.filter_eq_nil_iff]
  intro call hcall
  obtain ⟨i, -, rfl⟩ := List.mem_map.mp hcall
  simp [Call.isOf, Event.sort]

end RemoteConsole.Registry
