import RemoteConsole.Error
import RemoteConsole.Request.Terminator

/-!
# Pending requests

The commands of a connection that wait for their response, by packet id. Each registered request has
a slot, numbered in order of registration, and every operation says which slots it ends and how.

Beside the requests the table keeps a queue of ids in order of registration. It finds the oldest
request for servers that answer every command with id 0. An id stays in the queue after its request
was replaced, and may stand there more than once.
-/

namespace RemoteConsole

/-- How a slot ends. -/
inductive Outcome where
  /-- The response is complete. -/
  | answered (body : String)
  /-- There will be no response. -/
  | failed (error : Error)
  /-- The request was taken back. -/
  | dropped
deriving Repr, DecidableEq

/-- The end of a slot. -/
structure Settlement where
  /-- The slot. -/
  slot : Nat
  /-- How it ended. -/
  outcome : Outcome
deriving Repr, DecidableEq

/-- What became of a body that was delivered. -/
inductive Delivery where
  /-- It completed the response to the request with this id. -/
  | completed (id : Int32)
  /-- It was added to the response to the request with this id. -/
  | buffered (id : Int32)
  /-- No request waits for it. -/
  | unmatched
  /-- It is no part of any response. -/
  | discarded
deriving Repr, DecidableEq

/-- A request that waits for its response. -/
structure Request where
  /-- The number of the request. -/
  slot : Nat
  /-- The packet id. -/
  id : Int32
  /-- Whether the response may span several packets. -/
  multi : Bool
  /-- What has arrived of the response. -/
  body : String := ""
deriving Repr, DecidableEq

/-- The pending requests of a connection. -/
structure RequestTable where
  /-- The requests, at most one for each id. -/
  pending : List Request := []
  /-- The ids in order of registration, some of them of requests that have ended. -/
  order : List Int32 := []
  /-- The number of requests ever registered. -/
  issued : Nat := 0
deriving Repr, DecidableEq

namespace RequestTable

/-- The id that servers use which do not repeat ids. -/
def unmatchedId : Int32 := 0

/-- The pending request with an id. -/
def find? (t : RequestTable) (id : Int32) : Option Request :=
  t.pending.find? (·.id == id)

/-- Whether a request with this id is pending. -/
def contains (t : RequestTable) (id : Int32) : Bool :=
  (t.find? id).isSome

/-- The number of pending requests. -/
def size (t : RequestTable) : Nat :=
  t.pending.length

/-- The pending requests without the one with an id. -/
def without (t : RequestTable) (id : Int32) : List Request :=
  t.pending.filter (·.id != id)

/-- Registers a request under the next slot. A pending request with the same id fails. -/
def register (t : RequestTable) (id : Int32) (multi : Bool) : RequestTable × Option Settlement :=
  ({ pending := t.without id ++ [{ slot := t.issued, id, multi }]
     order := t.order ++ [id]
     issued := t.issued + 1 },
   (t.find? id).map fun replaced => ⟨replaced.slot, .failed .connectionClosed⟩)

/-- Takes a request back, if it is pending, and forgets every mention of its id. -/
def remove (t : RequestTable) (id : Int32) : RequestTable × Option Settlement :=
  ({ t with pending := t.without id, order := t.order.filter (· != id) },
   (t.find? id).map fun request => ⟨request.slot, .dropped⟩)

/-- Ends every request with an error. -/
def failAll (t : RequestTable) (error : Error) : RequestTable × List Settlement :=
  ({ t with pending := [], order := [] },
   t.pending.map fun request => ⟨request.slot, .failed error⟩)

/-- The table without the ids at the front of the queue whose requests have ended. -/
def dropStale (t : RequestTable) : RequestTable :=
  { t with order := t.order.dropWhile fun id => !t.contains id }

/-- The queue without an id whose request is complete: only its first mention if that is at the
front, every mention otherwise. -/
def orderWithout (order : List Int32) (id : Int32) : List Int32 :=
  match order with
  | [] => []
  | first :: rest => if first == id then rest else order.filter (· != id)

/-- The table without a request that is complete. -/
def complete (t : RequestTable) (id : Int32) : RequestTable :=
  { t with pending := t.without id, order := orderWithout t.order id }

/-- The table with a longer response to one request. -/
def append (t : RequestTable) (id : Int32) (body : String) : RequestTable :=
  { t with pending := t.pending.map fun request =>
      if request.id == id then { request with body := request.body ++ body } else request }

/-- The id of the request that a body with this id is meant for, and the table after looking for it:
the request with the id, or the oldest one where ids need not match and the id is 0. -/
def route (t : RequestTable) (id : Int32) (strict : Bool) : Option Int32 × RequestTable :=
  if t.contains id then (some id, t)
  else if !strict && id == unmatchedId then
    -- the queue is not tidied where a request has ended, but here, where it is looked at
    let t := t.dropStale
    (t.order.head?, t)
  else (none, t)

/-- Hands a body to the request it is meant for. -/
def deliver (t : RequestTable) (id : Int32) (body : String) (strict : Bool)
    (terminator : Terminator) : Delivery × RequestTable × Option Settlement :=
  if terminator.discards body then (.discarded, t, none)
  else
    let (target, t) := t.route id strict
    match target.bind t.find? with
    | none => (.unmatched, t, none)
    | some request =>
      if request.multi && !terminator.endsWith body then
        (.buffered request.id, t.append request.id body, none)
      else
        -- what ends a response of several packets is no part of it
        let response := if request.multi then request.body else request.body ++ body
        (.completed request.id, t.complete request.id, some ⟨request.slot, .answered response⟩)

end RequestTable

end RemoteConsole
