import RemoteConsole.Connection.State
import RemoteConsole.Listener.Registry
import RemoteConsole.Request.Table

/-!
# Connections

One connection: its pending requests, the authentication that waits for a verdict, and the tasks
that end with it. Packets are shown to the listeners first and then routed: a verdict to the
authentication, everything else to the requests. The two never mix.

A connection closes once, in five steps: it is marked closed, its tasks are aborted, its requests
fail, its authentication is dropped, and the client's state and listeners are told.
-/

namespace RemoteConsole

/-- The part of a client's configuration that decides how packets are routed. -/
structure Routing where
  /-- What ends a response of several packets. -/
  terminator : Terminator := .emptyEcho
  /-- Whether a response must repeat the id of its command. -/
  strict : Bool := true
  /-- The encoding of bodies. -/
  encoding : Encoding := .utf8
  /-- The largest packet, in either direction. -/
  maxSize : Nat := Packet.defaultMaxSize
deriving Repr, DecidableEq

/-- The end of an authentication's wait. -/
structure Verdict where
  /-- The number of the authentication on its connection. -/
  attempt : Nat
  /-- Whether the password was accepted, or `none` if there will be no answer. -/
  accepted : Option Bool
deriving Repr, DecidableEq

/-- What an operation on a connection brings about outside of it. -/
structure Effects where
  /-- The request slots that ended. -/
  ended : List Settlement := []
  /-- The authentications that ended. -/
  verdicts : List Verdict := []
  /-- The tasks that were aborted. -/
  aborted : List Nat := []
  /-- The calls of listeners. -/
  heard : List Heard := []
deriving Repr, DecidableEq

/-- Two operations, one after the other. -/
def Effects.append (a b : Effects) : Effects where
  ended := a.ended ++ b.ended
  verdicts := a.verdicts ++ b.verdicts
  aborted := a.aborted ++ b.aborted
  heard := a.heard ++ b.heard

instance : Append Effects := ⟨Effects.append⟩

/-- The state of one connection. -/
structure Connection where
  /-- The attempt to connect that it belongs to. -/
  generation : Nat
  /-- How packets are routed. -/
  routing : Routing := {}
  /-- The pending requests. -/
  requests : RequestTable := {}
  /-- The number of the authentication that waits for a verdict. -/
  auth : Option Nat := none
  /-- The number of authentications ever begun. -/
  attempts : Nat := 0
  /-- Whether it has been closed. -/
  closed : Bool := false
  /-- Whether a task watches it. -/
  watched : Bool := false
  /-- The tasks that closing it aborts. -/
  tasks : List Nat := []
  /-- The number of tasks ever tied to it. -/
  tracked : Nat := 0
deriving Repr, DecidableEq

namespace Connection

/-- Registers a request. -/
def register (c : Connection) (id : Int32) (multi : Bool) : Effects × Connection :=
  let (requests, ended) := c.requests.register id multi
  ({ ended := ended.toList }, { c with requests })

/-- Takes a request back. -/
def remove (c : Connection) (id : Int32) : Effects × Connection :=
  let (requests, ended) := c.requests.remove id
  ({ ended := ended.toList }, { c with requests })

/-- The end of the authentication that waits for a verdict. -/
def verdict (c : Connection) (accepted : Option Bool) : List Verdict :=
  c.auth.toList.map fun attempt => ⟨attempt, accepted⟩

/-- Begins an authentication in place of one that may still wait. -/
def beginAuth (c : Connection) : Effects × Connection :=
  ({ verdicts := c.verdict none }, { c with auth := some c.attempts, attempts := c.attempts + 1 })

/-- Drops the authentication that waits for a verdict. -/
def cancelAuth (c : Connection) : Effects × Connection :=
  ({ verdicts := c.verdict none }, { c with auth := none })

/-- Gives the verdict to the authentication that waits for one. A verdict nobody waits for is
ignored. -/
def resolveAuth (c : Connection) (accepted : Bool) : Effects × Connection :=
  ({ verdicts := c.verdict (some accepted) }, { c with auth := none })

/-- Ties one more task to the connection, without looking whether it is closed. -/
def addTask (c : Connection) : Connection :=
  { c with tasks := c.tasks ++ [c.tracked], tracked := c.tracked + 1 }

/-- Ties one more task to the connection, and aborts it if the connection is closed by then. -/
def track (c : Connection) : Effects × Connection :=
  let c' := c.addTask
  ({ aborted := if c'.closed then [c.tracked] else [] }, c')

/-- Whether the caller is the first who wants to watch the connection, and so the one that may. -/
def claimWatch (c : Connection) : Bool × Connection :=
  (!c.watched, { c with watched := true })

/-- Routes a packet. While an authentication waits, an empty response with its id is the preamble
that some servers send ahead of the verdict. -/
def dispatch (c : Connection) (p : Packet) : Effects × Connection :=
  if p.type = .authResponse then c.resolveAuth (p.id != Packet.authFailedId)
  else if p.type = .response ∧ p.id = Packet.authId ∧ p.body = "" ∧ c.auth.isSome then ({}, c)
  else
    let (_, requests, ended) :=
      c.requests.deliver p.id p.body c.routing.strict c.routing.terminator
    ({ ended := ended.toList }, { c with requests })

/-- Aborts every task. -/
def abortTasks (c : Connection) : Effects × Connection :=
  ({ aborted := c.tasks }, { c with tasks := [] })

/-- Fails every request. -/
def failRequests (c : Connection) : Effects × Connection :=
  let (requests, ended) := c.requests.failAll .connectionClosed
  ({ ended }, { c with requests })

end Connection

/-- A connection together with what it reports to. -/
structure Link where
  /-- The connection. -/
  conn : Connection
  /-- The client's state. -/
  cell : StateCell
  /-- The client's listeners. -/
  listeners : Registry

namespace Link

/-- An operation that concerns the connection alone. -/
def within (l : Link) (f : Connection → Effects × Connection) : Effects × Link :=
  let (effects, conn) := f l.conn
  (effects, { l with conn })

/-- Tells the client's state and the listeners that the connection is closed. -/
def report (l : Link) : Effects × Link :=
  let (calls, listeners) := l.listeners.connectionClosed
  ({ heard := calls }, { l with cell := l.cell.set l.conn.generation .disconnected, listeners })

/-- Closes the connection, unless it is closed already. -/
def close (l : Link) : Effects × Link :=
  if l.conn.closed then ({}, l)
  else
    -- the mark comes first, so that a task that is tied from here on is aborted by who ties it
    let l : Link := { l with conn := { l.conn with closed := true } }
    let (aborted, l) := l.within (·.abortTasks)
    let (failed, l) := l.within (·.failRequests)
    let (dropped, l) := l.within (·.cancelAuth)
    let (told, l) := l.report
    (aborted ++ failed ++ dropped ++ told, l)

/-- Shows a packet to the listeners and routes it. -/
def packetReceived (l : Link) (p : Packet) : Effects × Link :=
  let (calls, listeners) := l.listeners.packetReceived p
  let (effects, conn) := l.conn.dispatch p
  ({ heard := calls } ++ effects, { l with conn, listeners })

/-- Takes in a frame. A frame that is no packet is skipped. -/
def frameReceived (l : Link) (frame : Bytes) : Effects × Link :=
  match Packet.decode frame l.conn.routing.encoding with
  | .ok p => l.packetReceived p
  | .error _ => ({}, l)

end Link

end RemoteConsole
