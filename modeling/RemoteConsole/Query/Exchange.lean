import RemoteConsole.Error

/-!
# Exchanges of datagrams

A query is a short conversation: a request, a reply or none, perhaps another request. An `Exchange`
is that conversation before anything is sent, so it can be held with a real server as well as with a
list of replies.
-/

namespace RemoteConsole.Query

/-- A conversation that ends in a value or an error. -/
inductive Exchange (α : Type) where
  /-- The conversation is over. -/
  | done (result : Except Error α)
  /-- A request, and how it goes on after the reply to it or the failure to get one. -/
  | request (datagram : Bytes) (next : Except Error Bytes → Exchange α)

/-- The largest reply that is read; what exceeds it is cut off. -/
def maxReplyLength : Nat := 8192

namespace Exchange

/-- A conversation that goes on with the reply, if there is one. -/
def ask {α : Type} (datagram : Bytes) (next : Bytes → Exchange α) : Exchange α :=
  .request datagram fun
    | .ok reply => next reply
    | .error e => .done (.error e)

/-- The same conversation with its value changed. -/
def map {α β : Type} (f : α → β) : Exchange α → Exchange β
  | .done result => .done (result.map f)
  | .request datagram next => .request datagram fun reply => (next reply).map f

/-- Holds a conversation in which the receives have the given outcomes, and time out after them: the
requests sent, and how it ends. -/
def run {α : Type} : Exchange α → List (Except Error Bytes) → List Bytes × Except Error α
  | .done result, _ => ([], result)
  | .request datagram next, [] =>
    let (requests, result) := (next (.error .timeout)).run []
    (datagram :: requests, result)
  | .request datagram next, outcome :: outcomes =>
    let (requests, result) := (next outcome).run outcomes
    (datagram :: requests, result)

/-- Receives that are not listed time out. -/
theorem run_nil {α : Type} (x : Exchange α) : x.run [] = x.run [.error .timeout] := by
  cases x <;> rfl

/-- A reply is what the conversation goes on with. -/
theorem run_ask_ok {α : Type} (datagram : Bytes) (next : Bytes → Exchange α) (reply : Bytes)
    (outcomes : List (Except Error Bytes)) :
    (ask datagram next).run (.ok reply :: outcomes) =
      (datagram :: ((next reply).run outcomes).1, ((next reply).run outcomes).2) :=
  rfl

/-- A receive that fails ends the conversation. -/
theorem run_ask_error {α : Type} (datagram : Bytes) (next : Bytes → Exchange α) (e : Error)
    (outcomes : List (Except Error Bytes)) :
    (ask datagram next).run (.error e :: outcomes) = ([datagram], .error e) :=
  rfl

/-- A server that answers its n-th datagram with the n-th entry of a list, by no, one or several
datagrams. Those wait in order until they are received. -/
structure Responder where
  /-- The answers to the datagrams to come. -/
  answers : List (List Bytes)
  /-- The datagrams on their way. -/
  waiting : List Bytes := []
deriving Repr, DecidableEq

/-- The server gets a datagram. -/
def Responder.hear (r : Responder) : Responder where
  answers := r.answers.tail
  waiting := r.waiting ++ r.answers.headD []

/-- The next datagram is received, or the receive runs out of time. -/
def Responder.reply (r : Responder) : Except Error Bytes × Responder :=
  match r.waiting with
  | [] => (.error .timeout, r)
  | datagram :: waiting => (.ok (datagram.take maxReplyLength), { r with waiting })

/-- Holds a conversation with such a server: the requests it gets, how the conversation ends, and
the server after it. -/
def converse {α : Type} : Exchange α → Responder → List Bytes × Except Error α × Responder
  | .done result, r => ([], result, r)
  | .request datagram next, r =>
    let (reply, r) := r.hear.reply
    let (requests, result, r) := (next reply).converse r
    (datagram :: requests, result, r)

end Exchange

end RemoteConsole.Query
