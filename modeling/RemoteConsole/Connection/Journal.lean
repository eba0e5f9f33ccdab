import RemoteConsole.Connection
import RemoteConsole.Request.Journal

/-!
# A connection under observation

Operations on a connection as data, so that a whole history can be run, and what an observer sees of
each.
-/

namespace RemoteConsole

namespace Link

/-- An operation on a connection or on the state it reports to. -/
inductive Op where
  /-- Registers a request. -/
  | register (id : Int32) (multi : Bool)
  /-- Takes a request back. -/
  | remove (id : Int32)
  /-- Begins an authentication. -/
  | beginAuth
  /-- Drops the authentication that waits. -/
  | cancelAuth
  /-- Takes in a frame. -/
  | frame (bytes : Bytes)
  /-- Routes a packet that no listener is shown. -/
  | packet (p : Packet)
  /-- Closes the connection. -/
  | close
  /-- Asks to be the one that watches the connection. -/
  | claimWatch
  /-- Ties a task to the connection. -/
  | track
  /-- Changes the client's state. -/
  | state (op : StateCell.Op)
deriving Repr, DecidableEq

/-- What an operation returns. -/
inductive Reply where
  /-- Nothing. -/
  | nothing
  /-- The number of a slot, an authentication or a task. -/
  | number (n : Nat)
  /-- Whether there was something to take back or to claim. -/
  | flag (b : Bool)
deriving Repr, DecidableEq

/-- Runs one operation. -/
def apply (l : Link) : Op → Reply × Effects × Link
  | .register id multi => (.number l.conn.requests.issued, l.within (·.register id multi))
  | .remove id =>
    let (effects, l) := l.within (·.remove id)
    (.flag (!effects.ended.isEmpty), effects, l)
  | .beginAuth => (.number l.conn.attempts, l.within (·.beginAuth))
  | .cancelAuth => (.nothing, l.within (·.cancelAuth))
  | .frame bytes => (.nothing, l.frameReceived bytes)
  | .packet p => (.nothing, l.within (·.dispatch p))
  | .close => (.nothing, l.close)
  | .claimWatch =>
    let (first, conn) := l.conn.claimWatch
    (.flag first, {}, { l with conn })
  | .track => (.number l.conn.tracked, l.within (·.track))
  | .state op => (.nothing, {}, { l with cell := l.cell.apply op })

/-- Runs a history: what each operation returned, brought about and left behind. -/
def run (l : Link) : List Op → List (Reply × Effects × Link)
  | [] => []
  | op :: ops =>
    let (reply, effects, l) := l.apply op
    (reply, effects, l) :: l.run ops

end Link

end RemoteConsole
