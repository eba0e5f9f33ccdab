import RemoteConsole.Listener.Registry

/-!
# What is heard of an event

An event calls the listeners of its sort that are registered when it happens, each once and in order
of registration (`notify_fst`). What one of them takes note of depends neither on the others nor on
who is registered.
-/

namespace RemoteConsole

/-- A call of a listener, with what the listener takes note of by itself. -/
def Listener.hear (l : Listener) (event : Event) : Heard where
  event
  notes := (l.react event).notes

namespace Registry

variable {r : Registry} {event : Event} {h : Heard}

/-- A listener that is called takes its notes, and registers what it registers, whoever else is
registered. -/
theorem call_eq (r : Registry) (event : Event) (l : Listener) :
    r.call event l = (l.hear event, r.registerAll (l.react event).registrations) :=
  rfl

/-- Each listener takes its own notes, one listener after the other. -/
theorem callAll_fst (r : Registry) (event : Event) (ls : List Listener) :
    (r.callAll event ls).1 = ls.map (·.hear event) := by
  induction ls generalizing r with
  | nil => rfl
  | cons l ls ih =>
    have hcons : (r.callAll event (l :: ls)).1 =
        (r.call event l).1 :: ((r.call event l).2.callAll event ls).1 := rfl
    rw [hcons, call_eq, ih, List.map_cons]

/-- An event calls the listeners of its sort, each once. -/
theorem notify_fst (r : Registry) (event : Event) :
    (r.notify event).1 = (r.ofSort event.sort).map (·.hear event) :=
  callAll_fst r event _

/-- An event calls listeners with nothing but itself. -/
theorem event_of_notify (hh : h ∈ (r.notify event).1) : h.event = event := by
  rw [notify_fst] at hh
  obtain ⟨l, -, rfl⟩ := List.mem_map.mp hh
  rfl

/-- What is heard of a packet: first what those to packets hear, and then those to bodies. -/
theorem packetReceived_fst (r : Registry) (p : Packet) :
    (r.packetReceived p).1 =
      if p.body == "" then (r.notify (.packet p)).1
      else (r.notify (.packet p)).1 ++ ((r.notify (.packet p)).2.notify (.body p.body)).1 :=
  apply_ite Prod.fst ..

/-- What a packet makes of a registry. -/
theorem packetReceived_snd (r : Registry) (p : Packet) :
    (r.packetReceived p).2 =
      if p.body == "" then (r.notify (.packet p)).2
      else ((r.notify (.packet p)).2.notify (.body p.body)).2 :=
  apply_ite Prod.snd ..

/-- A packet calls no listener to the end of a connection. -/
theorem event_of_packetReceived {p : Packet} (hh : h ∈ (r.packetReceived p).1) :
    h.event ≠ .disconnected := by
  have hpacket (hp : h ∈ (r.notify (.packet p)).1) : h.event ≠ .disconnected := by
    rw [event_of_notify hp]
    exact Event.noConfusion
  rw [packetReceived_fst] at hh
  split at hh
  · exact hpacket hh
  · rcases List.mem_append.mp hh with hh | hh
    · exact hpacket hh
    · rw [event_of_notify hh]
      exact Event.noConfusion

end Registry

end RemoteConsole
