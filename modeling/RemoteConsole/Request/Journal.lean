import RemoteConsole.Request.Table

/-!
# A table under observation

Operations on a table as data, so that a whole history can be run, and what an observer of the slots
sees of each. An observer may stop looking at a slot, which changes nothing for the table.
-/

namespace RemoteConsole

namespace RequestTable

/-- An operation on a table. -/
inductive Op where
  /-- Registers a request. -/
  | register (id : Int32) (multi : Bool)
  /-- Takes a request back. -/
  | remove (id : Int32)
  /-- The observer stops looking at a slot. -/
  | forget (slot : Nat)
  /-- Delivers a body. -/
  | deliver (id : Int32) (body : String) (strict : Bool) (terminator : Terminator)
  /-- Ends every request with an error. -/
  | failAll (error : Error)
deriving Repr, DecidableEq

/-- What an operation returns. -/
inductive Reply where
  /-- The slot of a new request. -/
  | slot (n : Nat)
  /-- Whether there was a request to take back. -/
  | removed (found : Bool)
  /-- Nothing. -/
  | forgotten
  /-- What became of a body. -/
  | delivery (d : Delivery)
  /-- How many requests failed. -/
  | failed (count : Nat)
deriving Repr, DecidableEq

/-- Runs one operation: what it returns, the table after it, and the slots it ended. -/
def apply (t : RequestTable) : Op → Reply × RequestTable × List Settlement
  | .register id multi =>
    let (t', ended) := t.register id multi
    (.slot t.issued, t', ended.toList)
  | .remove id =>
    let (t', ended) := t.remove id
    (.removed ended.isSome, t', ended.toList)
  | .forget _ => (.forgotten, t, [])
  | .deliver id body strict terminator =>
    let (delivery, t', ended) := t.deliver id body strict terminator
    (.delivery delivery, t', ended.toList)
  | .failAll error =>
    let (t', ended) := t.failAll error
    (.failed ended.length, t', ended)

end RequestTable

/-- Settlements in the order of their slots. -/
def Settlement.inOrder (ended : List Settlement) : List Settlement :=
  ended.mergeSort fun a b => a.slot ≤ b.slot

/-- A table and the slots that its observer no longer looks at. -/
structure RequestJournal where
  /-- The table. -/
  table : RequestTable := {}
  /-- The slots not looked at. -/
  forgotten : List Nat := []
deriving Repr, DecidableEq

namespace RequestJournal

/-- What the observer sees of an operation. -/
structure Entry where
  /-- What the operation returned. -/
  reply : RequestTable.Reply
  /-- The number of pending requests after it. -/
  size : Nat
  /-- The slots that ended, in order. -/
  ended : List Settlement
deriving Repr, DecidableEq

/-- The settlements that the observer sees, in the order of their slots. -/
def visible (j : RequestJournal) (ended : List Settlement) : List Settlement :=
  Settlement.inOrder (ended.filter fun s => !j.forgotten.contains s.slot)

/-- Runs one operation. -/
def step (j : RequestJournal) (op : RequestTable.Op) : Entry × RequestJournal :=
  let (reply, table, ended) := j.table.apply op
  let forgotten := match op with
    | .forget slot => slot :: j.forgotten
    | _ => j.forgotten
  ({ reply, size := table.size, ended := j.visible ended }, { table, forgotten })

/-- Runs a history. -/
def run (j : RequestJournal) : List RequestTable.Op → List Entry × RequestJournal
  | [] => ([], j)
  | op :: ops =>
    let (entry, j) := j.step op
    let (entries, j) := j.run ops
    (entry :: entries, j)

end RequestJournal

end RemoteConsole
