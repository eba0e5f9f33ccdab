import RemoteConsole.Listener.Parser
import RemoteConsole.Packet

/-!
# What listeners do

A listener is called with an event. It may take note of whatever it likes, and it may register any
number of other listeners of any sort, made from what it was called with.

What a listener does is a tree: what it does with each event, what the listeners that it registers
then do with theirs, and so on. Such a tree may go on without end, since a listener may register
another one like itself whenever it is called. So a tree is given by its nodes, and the way to a
node is the events that lead to it, each with the number of the registration that is followed. What
is done with an event is then read off the tree (`Listener.react`), and it may be anything
(`Listener.ofReact`).
-/

namespace RemoteConsole

/-- The sorts of listeners. -/
inductive ListenerSort where
  /-- Called with every packet. -/
  | packet
  /-- Called with every body that is not empty. -/
  | body
  /-- Called when a connection closes. -/
  | disconnected
deriving Repr, DecidableEq

/-- What a listener is called with. -/
inductive Event where
  /-- A packet. -/
  | packet (p : Packet)
  /-- A body. -/
  | body (text : String)
  /-- The end of a connection. -/
  | disconnected
deriving Repr, DecidableEq

/-- The sort of listeners that an event calls. -/
def Event.sort : Event → ListenerSort
  | packet _ => .packet
  | body _ => .body
  | disconnected => .disconnected

/-- What is done in a call of a listener. -/
structure Response (L : Type) where
  /-- What is taken note of. -/
  notes : List String := []
  /-- The listeners that are registered, in order, with their sorts. -/
  registrations : List (ListenerSort × L) := []

/-- The same response, with other listeners in place of those that are registered. -/
def Response.map {L L' : Type} (f : L → L') (response : Response L) : Response L' where
  notes := response.notes
  registrations := response.registrations.map (Prod.map id f)

/-- A listener. -/
structure Listener where
  /-- What is done with an event at the end of a way. The listener itself stands at the end of the
  empty way, and the one that it registers with number `i` when it is called with `event` is found
  on the ways that begin with `(event, i)`. -/
  respond : List (Event × Nat) → Event → Response Unit

namespace Listener

/-- The listener that is registered with a number in a call of another. -/
def child (l : Listener) (event : Event) (number : Nat) : Listener where
  respond way := l.respond ((event, number) :: way)

/-- What a listener does with an event. -/
def react (l : Listener) (event : Event) : Response Listener where
  notes := (l.respond [] event).notes
  registrations := (l.respond [] event).registrations.zipIdx.map fun a =>
    (a.1.1, l.child event a.2)

/-- The listener that does with each event what is said. -/
def ofReact (react : Event → Response Listener) : Listener where
  respond
    | [], event => (react event).map fun _ => ()
    | (first, i) :: way, event =>
      match (react first).registrations[i]? with
      | some (_, l) => l.respond way event
      | none => {}

/-- A listener that takes note of being called. -/
def noting (note : String) : Listener :=
  ofReact fun _ => { notes := [note] }

/-- The listener that does something with the value of a body, if the parser finds one. -/
def listen {α : Type} (parser : Parser α) (callback : α → Response Listener) : Listener :=
  ofReact fun
    | .body text => (parser.tryParse text).elim {} callback
    | .packet _ | .disconnected => {}

end Listener

end RemoteConsole
