import RemoteConsole.Connection

/-!
# Tasks and a closing connection

Tying a task to a connection takes two steps, and so does aborting the tasks of one that closes, and
the steps of different callers may come in any order. Looking at the mark after the task is tied,
and marking before the tasks are aborted, is what leaves no task behind.
-/

namespace RemoteConsole

/-- What a caller does next. -/
inductive TeardownPhase where
  /-- Ties a new task to the connection. -/
  | tie
  /-- Looks whether the connection is closed by now, and aborts the task if so. -/
  | look (task : Nat)
  /-- Marks the connection closed, and is done if it was already. -/
  | mark
  /-- Aborts the tasks. -/
  | abortAll
  /-- Nothing. -/
  | finished
deriving Repr, DecidableEq

/-- A connection, its aborted tasks, and the callers at work on it. -/
structure Teardown where
  /-- The connection. -/
  conn : Connection
  /-- The tasks that were aborted. -/
  aborted : List Nat := []
  /-- What each caller does next. -/
  callers : List TeardownPhase
deriving Repr, DecidableEq

namespace Teardown

/-- The next step of a caller, and the phase after it. -/
def stepPhase (t : Teardown) : TeardownPhase → Option (Teardown × TeardownPhase)
  | .tie => some ({ t with conn := t.conn.addTask }, .look t.conn.tracked)
  | .look task =>
    some (if t.conn.closed then { t with aborted := t.aborted ++ [task] } else t, .finished)
  | .mark =>
    if t.conn.closed then some (t, .finished)
    else some ({ t with conn := { t.conn with closed := true } }, .abortAll)
  | .abortAll =>
    let (effects, conn) := t.conn.abortTasks
    some ({ t with conn, aborted := t.aborted ++ effects.aborted }, .finished)
  | .finished => none

/-- The next step of the caller with a number. -/
def step (t : Teardown) (caller : Nat) : Option Teardown := do
  let phase ← t.callers[caller]?
  let (t, phase) ← t.stepPhase phase
  return { t with callers := t.callers.set caller phase }

/-- Some steps of the callers with these numbers, if each can be taken. -/
def run (t : Teardown) : List Nat → Option Teardown
  | [] => some t
  | caller :: callers => (t.step caller).bind (·.run callers)

end Teardown

end RemoteConsole
