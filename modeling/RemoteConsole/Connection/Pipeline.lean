import RemoteConsole.Connection
import RemoteConsole.Frame.Reader

/-!
# From a stream to a connection

Two tasks carry frames from a stream to a connection: a pump that reads them into a bounded queue,
and a dispatcher that takes them out and closes the connection after the last one. Each step of
either is an action of its own, so a sequence of actions is an interleaving. Somebody else may close
the connection at any time, which aborts both tasks; a task that is aborted stops sooner or later.
-/

namespace RemoteConsole

/-- What the pump puts into the queue: a frame, or why there are no more. -/
abbrev QueueItem := Except Error Bytes

/-- Where the pump is. -/
inductive Pump where
  /-- It is about to read a frame. -/
  | reading
  /-- It has something for the queue. -/
  | holding (item : QueueItem)
  /-- It is done, and nothing will be put into the queue any more. -/
  | stopped
deriving Repr

/-- The two tasks of a connection, and what they work on. -/
structure Pipeline where
  /-- The stream. -/
  stream : Frame.Stream
  /-- The bytes on their way to become frames. -/
  reader : Frame.Reader
  /-- Where the pump is. -/
  pump : Pump := .reading
  /-- The queue, oldest first. -/
  queue : List QueueItem := []
  /-- Whether the dispatcher is at work. -/
  dispatching : Bool := true
  /-- The frames dispatched so far. -/
  dispatched : List Bytes := []
  /-- The connection. -/
  link : Link
  /-- How often the connection went from open to closed. -/
  closings : Nat := 0
  /-- Whether somebody else closed the connection. -/
  aborted : Bool := false

namespace Pipeline

/-- The number of frames that may be read ahead of the dispatcher. -/
def queueLimit : Nat := 64

/-- Closes the connection. -/
def close (p : Pipeline) : Pipeline :=
  let (_, link) := p.link.close
  { p with link, closings := if p.link.conn.closed then p.closings else p.closings + 1 }

/-- The steps of the two tasks and of others. -/
inductive Action where
  /-- The pump reads a frame. -/
  | read
  /-- The pump puts what it has into the queue, or finds that the dispatcher is gone. -/
  | push
  /-- The dispatcher takes something out of the queue. -/
  | pop
  /-- The dispatcher finds that the queue is empty and the pump is done. -/
  | finish
  /-- Somebody else closes the connection. -/
  | abort
  /-- The pump notices that it is aborted. -/
  | dropPump
  /-- The dispatcher notices that it is aborted. -/
  | dropDispatcher
deriving Repr, DecidableEq

/-- Takes a step, if it can be taken. -/
def step (p : Pipeline) : Action → Option Pipeline
  | .read =>
    match p.pump with
    | .reading =>
      let (result, reader, stream) := p.reader.nextFrame p.stream
      let pump := match result with
        | .ok (some frame) => Pump.holding (.ok frame)
        | .ok none => .stopped
        | .error e => .holding (.error e)
      some { p with pump, reader, stream }
    | _ => none
  | .push =>
    match p.pump with
    | .holding item =>
      -- nobody but the pump is left to close the connection then
      if !p.dispatching then some { p.close with pump := .stopped }
      else if queueLimit ≤ p.queue.length then none
      else
        let pump := match item with
          | .ok _ => Pump.reading
          | .error _ => .stopped
        some { p with pump, queue := p.queue ++ [item] }
    | _ => none
  | .pop =>
    match p.dispatching, p.queue with
    | true, .ok frame :: queue =>
      let (_, link) := p.link.frameReceived frame
      some { p with queue, link, dispatched := p.dispatched ++ [frame] }
    | true, .error _ :: queue => some { p.close with queue, dispatching := false }
    | _, _ => none
  | .finish =>
    match p.dispatching, p.queue, p.pump with
    | true, [], .stopped => some { p.close with dispatching := false }
    | _, _, _ => none
  | .abort => some { p.close with aborted := true }
  | .dropPump => if p.aborted then some { p with pump := .stopped } else none
  | .dropDispatcher =>
    if p.aborted && p.dispatching then some { p.close with dispatching := false } else none

/-- Takes some steps, if each can be taken. -/
def run (p : Pipeline) : List Action → Option Pipeline
  | [] => some p
  | action :: actions => (p.step action).bind (·.run actions)

end Pipeline

end RemoteConsole
