import RemoteConsole.Client.Call
import RemoteConsole.Client.Ids
import RemoteConsole.Config

/-!
# Clients

The state that the callers of a client share: its password, its state, its listeners, the counter of
ids, every connection it ever had, and the two locks. The connect lock lets one caller connect at a
time; the session lock makes looking for the connection, registering and writing one unit. Closing a
connection takes neither.
-/

namespace RemoteConsole

/-- How far the connection check of a connection has come. -/
inductive Watch where
  /-- There is none. -/
  | off
  /-- It sleeps until the next check. -/
  | sleeping
  /-- It waits for the session lock. -/
  | awaitLock
  /-- It has the session lock, and is about to look whether its connection is in place. -/
  | looking
  /-- It is about to register its request. -/
  | registering
  /-- It writes its request. -/
  | writing (id : Int32) (slot : Nat) (packet : Packet) (bytes : Bytes)
  /-- It waits for the answer. -/
  | awaitAnswer (id : Int32) (slot : Nat)
  /-- It is over. -/
  | over
deriving Repr, DecidableEq

/-- A connection of a client, with what was written on it and what has become of those who waited.
-/
structure Session where
  /-- The connection. -/
  conn : Connection
  /-- The bytes written. -/
  written : Bytes := []
  /-- The packets of the writes that succeeded. -/
  sent : List Packet := []
  /-- The requests that ended. -/
  ended : List Settlement := []
  /-- The authentications that ended. -/
  verdicts : List Verdict := []
  /-- The connection check. -/
  watch : Watch := .off
  /-- Whether frames may still arrive. -/
  dispatching : Bool := true
deriving Repr, DecidableEq

/-- How a request ended, if it did. -/
def Session.outcome? (s : Session) (slot : Nat) : Option Outcome :=
  (s.ended.find? (·.slot == slot)).map Settlement.outcome

/-- How an authentication ended, if it did. -/
def Session.verdict? (s : Session) (attempt : Nat) : Option (Option Bool) :=
  (s.verdicts.find? (·.attempt == attempt)).map Verdict.accepted

/-- Who has the session lock. -/
inductive Holder where
  /-- The call with a number. -/
  | call (n : Nat)
  /-- The connection check of a connection. -/
  | watch (generation : Nat)
deriving Repr, DecidableEq

/-- A client. -/
structure Client where
  /-- The configuration. -/
  config : Config
  /-- The password for the next authentication that names none. -/
  password : String
  /-- The state, and the generation it belongs to. -/
  cell : StateCell := {}
  /-- The listeners. -/
  listeners : Registry := {}
  /-- The next packet id. -/
  nextId : Int32 := 1
  /-- The number of attempts to get a stream. -/
  generation : Nat := 0
  /-- Every connection that was put in place, oldest first. -/
  sessions : List Session := []
  /-- The generation of the connection in place. -/
  current : Option Nat := none
  /-- The call that has the connect lock. -/
  connectLock : Option Nat := none
  /-- Who has the session lock. -/
  sessionLock : Option Holder := none
  /-- The calls, in the order in which they were made. -/
  calls : List Call := []
  /-- The calls of listeners. -/
  heard : List Heard := []

namespace Client

/-- A client that has not done anything yet. -/
def ofConfig (config : Config) : Client :=
  { config, password := config.password }

/-- The connection of a generation. -/
def session? (c : Client) (generation : Nat) : Option Session :=
  c.sessions.find? (·.conn.generation == generation)

/-- Whether the connection of a generation is open. -/
def isOpen (c : Client) (generation : Nat) : Bool :=
  (c.session? generation).any fun s => !s.conn.closed

/-- The generation of the connection in place, if that is open. -/
def open? (c : Client) : Option Nat :=
  c.current.filter c.isOpen

/-- The number of requests pending on the connection in place. -/
def pendingCommands (c : Client) : Nat :=
  ((c.current.bind c.session?).map fun s => s.conn.requests.size).getD 0

/-- Changes the connection of a generation. -/
def modifySession (c : Client) (generation : Nat) (f : Session → Session) : Client :=
  { c with sessions := c.sessions.map fun s => if s.conn.generation == generation then f s else s }

/-- Runs an operation on the connection of a generation, and keeps what it brings about. -/
def onLink (c : Client) (generation : Nat) (f : Link → Effects × Link) : Client :=
  match c.session? generation with
  | none => c
  | some s =>
    let (effects, link) := f ⟨s.conn, c.cell, c.listeners⟩
    let c := { c with
      cell := link.cell
      listeners := link.listeners
      heard := c.heard ++ effects.heard }
    c.modifySession generation fun s => { s with
      conn := link.conn
      ended := s.ended ++ effects.ended
      verdicts := s.verdicts ++ effects.verdicts }

/-- Runs an operation that concerns the connection alone. -/
def onConn (c : Client) (generation : Nat) (f : Connection → Effects × Connection) : Client :=
  c.onLink generation (·.within f)

/-- Closes the connection of a generation. -/
def close (c : Client) (generation : Nat) : Client :=
  c.onLink generation (·.close)

/-- Takes over a state from a generation. -/
def setState (c : Client) (generation : Nat) (state : ConnectionState) : Client :=
  { c with cell := c.cell.set generation state }

/-- Moves a call to another stage. -/
def setStage (c : Client) (n : Nat) (stage : Stage) : Client :=
  { c with calls := c.calls.modify n fun call => { call with stage } }

/-- Moves the connection check of a connection on. -/
def setWatch (c : Client) (generation : Nat) (watch : Watch) : Client :=
  c.modifySession generation fun s => { s with watch }

/-- Gives the session lock to somebody, if nobody has it. -/
def lockSession (c : Client) (holder : Holder) : Option Client :=
  if c.sessionLock.isNone then some { c with sessionLock := some holder } else none

/-- Takes the session lock from somebody who may have it. -/
def unlockSession (c : Client) (holder : Holder) : Client :=
  if c.sessionLock = some holder then { c with sessionLock := none } else c

/-- Takes the connect lock from a call that may have it. -/
def unlockConnect (c : Client) (n : Nat) : Client :=
  if c.connectLock = some n then { c with connectLock := none } else c

/-- Takes both locks from a call that may have them. -/
def unlock (c : Client) (n : Nat) : Client :=
  (c.unlockSession (.call n)).unlockConnect n

/-- Ends a call. -/
def finish (c : Client) (n : Nat) (answer : Answer) : Client :=
  (c.unlock n).setStage n (.finished answer)

/-- A connection that has just been made, with the two tasks that read from it. -/
def newSession (c : Client) (generation : Nat) : Session :=
  let conn : Connection := { generation, routing := c.config.routing }
  { conn := conn.track.2.track.2 }

end Client

end RemoteConsole
