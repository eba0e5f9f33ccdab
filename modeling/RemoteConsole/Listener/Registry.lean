import RemoteConsole.Listener.Behaviour

/-!
# Listeners

Who is told what arrives on a connection. An event calls the listeners that are registered when it
comes to their sort, in order of registration, so a listener that registers others while it is
called is never overtaken by its own registrations.
-/

namespace RemoteConsole

/-- What is heard of a call of a listener. -/
structure Heard where
  /-- What the listener was called with. -/
  event : Event
  /-- What it took note of. -/
  notes : List String := []
deriving Repr, DecidableEq

/-- The registered listeners, each sort in order of registration. -/
structure Registry where
  /-- The listeners to the end of a connection. -/
  disconnected : List Listener := []
  /-- The listeners to packets. -/
  packets : List Listener := []
  /-- The listeners to bodies. -/
  bodies : List Listener := []

namespace Registry

/-- The listeners of one sort. -/
def ofSort (r : Registry) : ListenerSort → List Listener
  | .packet => r.packets
  | .body => r.bodies
  | .disconnected => r.disconnected

/-- Registers a listener after those of its sort. -/
def register (r : Registry) (sort : ListenerSort) (l : Listener) : Registry :=
  match sort with
  | .packet => { r with packets := r.packets ++ [l] }
  | .body => { r with bodies := r.bodies ++ [l] }
  | .disconnected => { r with disconnected := r.disconnected ++ [l] }

/-- Registers some listeners, one after the other. -/
def registerAll (r : Registry) : List (ListenerSort × Listener) → Registry
  | [] => r
  | (sort, l) :: more => (r.register sort l).registerAll more

/-- Calls one listener, which may register others: the call, and the registry after it. -/
def call (r : Registry) (event : Event) (l : Listener) : Heard × Registry :=
  let response := l.react event
  ({ event, notes := response.notes }, r.registerAll response.registrations)

/-- Calls some listeners, one after the other. -/
def callAll (r : Registry) (event : Event) : List Listener → List Heard × Registry
  | [] => ([], r)
  | l :: ls =>
    let (heard, r) := r.call event l
    let (more, r) := r.callAll event ls
    (heard :: more, r)

/-- Calls the listeners that are registered for an event now. -/
def notify (r : Registry) (event : Event) : List Heard × Registry :=
  r.callAll event (r.ofSort event.sort)

/-- Tells of a packet: first the listeners to packets, then, unless the body is empty, those to
bodies that are registered by then. -/
def packetReceived (r : Registry) (p : Packet) : List Heard × Registry :=
  let (calls, r) := r.notify (.packet p)
  if p.body == "" then (calls, r)
  else
    let (more, r) := r.notify (.body p.body)
    (calls ++ more, r)

/-- Tells that a connection closed. -/
def connectionClosed (r : Registry) : List Heard × Registry :=
  r.notify .disconnected

/-- The number of listeners of each sort, as a text. -/
def describe (r : Registry) : String :=
  s!"Listeners \x7b disconnected: {r.disconnected.length}, packets: {r.packets.length}, "
    ++ s!"bodies: {r.bodies.length} \x7d"

end Registry

end RemoteConsole
