/-!
# Connection state

Where a client stands with its server. Every attempt to connect begins a new generation, and news
from the connection of an older generation does not count any more.
-/

namespace RemoteConsole

/-- The stages of a client's connection. -/
inductive ConnectionState where
  /-- There is no connection. -/
  | disconnected
  /-- A connection is being made. -/
  | connecting
  /-- There is a connection that is not authenticated yet. -/
  | authenticating
  /-- There is an authenticated connection. -/
  | ready
deriving Repr, DecidableEq, Inhabited

/-- Whether there is a connection. -/
def ConnectionState.isConnected : ConnectionState → Bool
  | authenticating | ready => true
  | disconnected | connecting => false

/-- The name of a state, as it is shown to a user. -/
def ConnectionState.name : ConnectionState → String
  | disconnected => "Disconnected"
  | connecting => "Connecting"
  | authenticating => "Authenticating"
  | ready => "Ready"

/-- The state of a client and the generation it belongs to. -/
structure StateCell where
  /-- The latest generation that was begun. -/
  generation : Nat := 0
  /-- The state. -/
  state : ConnectionState := .disconnected
deriving Repr, DecidableEq

/-- Begins a generation. -/
def StateCell.start (generation : Nat) : StateCell :=
  { generation, state := .connecting }

/-- Takes over a state, if it is of the current generation. -/
def StateCell.set (cell : StateCell) (generation : Nat) (state : ConnectionState) : StateCell :=
  if cell.generation = generation then { cell with state } else cell

/-- A change of a client's state. -/
inductive StateCell.Op where
  /-- A generation begins. -/
  | start (generation : Nat)
  /-- A generation reports a state. -/
  | set (generation : Nat) (state : ConnectionState)
deriving Repr, DecidableEq

/-- Makes one change. -/
def StateCell.apply (cell : StateCell) : StateCell.Op → StateCell
  | .start generation => .start generation
  | .set generation state => cell.set generation state

/-- The states before the first change and after each. -/
def StateCell.history (cell : StateCell) (ops : List StateCell.Op) : List ConnectionState :=
  match ops with
  | [] => [cell.state]
  | op :: rest => cell.state :: (cell.apply op).history rest

end RemoteConsole
