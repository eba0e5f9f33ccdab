import RemoteConsole.Client.Need
import RemoteConsole.Frame.Reader

/-!
# A client and a scripted server

A world in which one client meets a server that follows a script, on a network that works or does
not. Everything at work takes its steps in a fixed order, and the clock moves only when nothing else
can, so what happens in the world follows from the script and from what is asked of the client.
-/

namespace RemoteConsole.Rehearsal

/-- What a server can be told to do. -/
inductive ServerAction where
  /-- To take the next connection. -/
  | accept
  /-- To read some frames. -/
  | expect (count : Nat)
  /-- To send some bytes. -/
  | send (bytes : Bytes)
  /-- To end the stream after what was sent. -/
  | close
deriving Repr, DecidableEq

/-- What a server got to see. -/
inductive Sighting where
  /-- A frame. -/
  | frame (bytes : Bytes)
  /-- No connection to take. -/
  | noConnection
  /-- No frame where one was expected. -/
  | nothing
deriving Repr, DecidableEq

/-- The network between a client and its server. -/
inductive Network where
  /-- Every attempt to get a stream fails. -/
  | unreachable
  /-- Every attempt to get a stream succeeds. -/
  | reachable
deriving Repr, DecidableEq

/-- A stream between the client and the server. -/
structure Wire where
  /-- The generation of the connection that it belongs to. -/
  generation : Nat
  /-- How many bytes of the client the server has read. -/
  taken : Nat := 0
  /-- The bytes of the server on their way to the client. -/
  reader : Frame.Reader
  /-- Whether the server has ended the stream. -/
  ended : Bool := false
deriving Repr, DecidableEq

/-- What a world waits for when nothing else can happen. -/
inductive Timer where
  /-- A call at a stage. -/
  | call (n : Nat) (stage : Stage)
  /-- A connection check. -/
  | watch (generation : Nat) (watch : Watch)
  /-- The server, with so many actions to go. -/
  | server (left : Nat)
deriving Repr, DecidableEq

/-- A client, the network and the server. -/
structure World where
  /-- The client. -/
  client : Client
  /-- The network. -/
  network : Network
  /-- The streams, oldest first. -/
  wires : List Wire := []
  /-- The number of streams that the server has taken. -/
  accepted : Nat := 0
  /-- What the server is still to do. -/
  script : List ServerAction := []
  /-- What the server got to see. -/
  sightings : List Sighting := []
  /-- The time, in milliseconds. -/
  now : Nat := 0
  /-- When the time of those who wait is up. -/
  deadlines : List (Timer × Nat) := []

namespace World

/-- How long the server waits for a connection or a frame, in milliseconds. -/
def patience : Nat := 60000

/-- The stream that the server took last. -/
def attended? (w : World) : Option Wire :=
  if w.accepted = 0 then none else w.wires[w.accepted - 1]?

/-- Changes the stream of a generation. -/
def modifyWire (w : World) (generation : Nat) (f : Wire → Wire) : World :=
  { w with wires := w.wires.map fun wire => if wire.generation == generation then f wire else wire }

/-- Lets the client take a step. -/
def act (w : World) (action : Client.Action) : Option World :=
  (w.client.step action).map fun client => { w with client }

/-- The first result of some attempts. -/
def firstOf {α : Type} (f : α → Option World) : List α → Option World
  | [] => none
  | a :: rest => (f a).or (firstOf f rest)

/-- The end of a call's attempt to get a stream. A network that works takes some time for it. -/
def stepDial (w : World) (n generation : Nat) : Option World :=
  match w.network with
  | .unreachable => w.act (.dial n .refused)
  | .reachable =>
    -- an attempt that may not take any time ends before there is a stream
    if w.client.config.connectTimeout = 0 then w.act (.dial n .timedOut)
    else
      (w.act (.dial n .stream)).map fun w =>
        let reader : Frame.Reader := { maxSize := w.client.config.maxPacketSize }
        { w with wires := w.wires ++ [{ generation, reader }] }

/-- A step of a call. One that has no time to wait does not wait for others to take a step. -/
def stepCall (w : World) (n : Nat) : Option World := do
  let call ← w.client.calls[n]?
  match call.stage with
  | .dialing generation => w.stepDial n generation
  | .writingAuth .. | .writingCommand .. => w.act (.write n .written)
  | _ =>
    (w.act (.advance n)).or <|
      if call.patience? w.client.config = some 0 then w.act (Client.timeUp n call.stage) else none

/-- A step of a connection check, unless it sleeps. -/
def stepWatch (w : World) (s : Session) : Option World :=
  let generation := s.conn.generation
  match s.watch with
  | .sleeping => none
  | .writing .. => (w.act (.watch generation)).or (w.act (.watchWrite generation .written))
  | _ => w.act (.watch generation)

/-- A step of a stream: its next frame or its end reaches the client. -/
def stepWire (w : World) (wire : Wire) : Option World := do
  let s ← w.client.session? wire.generation
  -- a connection that is closed takes nothing more from its stream
  if s.conn.closed then w.act (.hangUp wire.generation)
  else
    match wire.reader.take? with
    | .error _ => w.act (.hangUp wire.generation)
    | .ok (some (frame, reader)) =>
      (w.act (.frame wire.generation frame)).map
        (·.modifyWire wire.generation fun wire => { wire with reader := reader.compact })
    | .ok none => if wire.ended then w.act (.hangUp wire.generation) else none

/-- The next frame of the client on a stream that the server has not read. -/
def unreadFrame? (w : World) (wire : Wire) : Option Bytes := do
  let s ← w.client.session? wire.generation
  let unread := s.written.drop wire.taken
  match Frame.split unread.length unread with
  | .ok (some (frame, _)) => some frame
  | _ => none

/-- Gives up the server's next action. -/
def giveUp (w : World) : World :=
  match w.script with
  | .accept :: script => { w with script, sightings := w.sightings ++ [.noConnection] }
  | .expect count :: script =>
    { w with script, sightings := w.sightings ++ List.replicate count .nothing }
  | _ :: script => { w with script }
  | [] => w

/-- The server's next action, if it can be done now. -/
def stepServer (w : World) : Option World :=
  match w.script with
  | [] => none
  | .accept :: script =>
    if w.accepted < w.wires.length then some { w with script, accepted := w.accepted + 1 } else none
  | .expect 0 :: script => some { w with script }
  | .expect (count + 1) :: script => do
    let wire ← w.attended?
    let frame ← w.unreadFrame? wire
    let w := w.modifyWire wire.generation fun wire =>
      { wire with taken := wire.taken + frame.length }
    some { w with
      script := .expect count :: script
      sightings := w.sightings ++ [.frame frame] }
  | .send bytes :: script =>
    let w := { w with script }
    match w.attended? with
    | some wire =>
      if wire.ended then some w
      else
        some (w.modifyWire wire.generation fun wire =>
          { wire with reader := wire.reader.feed bytes })
    | none => some w
  | .close :: script =>
    let w := { w with script }
    match w.attended? with
    | some wire => some (w.modifyWire wire.generation fun wire => { wire with ended := true })
    | none => some w

/-- A step that takes no time, if there is one: of a call, a connection check, a stream or the
server, in this order. -/
def step? (w : World) : Option World :=
  (firstOf w.stepCall (List.range w.client.calls.length)).or <|
    (firstOf w.stepWatch w.client.sessions).or <|
      (firstOf w.stepWire w.wires).or w.stepServer

/-- Those who wait, and for how long. -/
def waiting (w : World) : List (Timer × Nat) :=
  let config := w.client.config
  let calls := (List.range w.client.calls.length).filterMap fun n => do
    let call ← w.client.calls[n]?
    let duration ← call.patience? config
    return (.call n call.stage, duration)
  let watches := w.client.sessions.filterMap fun s =>
    match s.watch with
    | .sleeping => some (.watch s.conn.generation s.watch, config.checkInterval.getD 0)
    | .awaitAnswer .. => some (.watch s.conn.generation s.watch, config.commandTimeout)
    | _ => none
  let server := if w.script.isEmpty then [] else [(.server w.script.length, patience)]
  calls ++ watches ++ server

/-- The time of somebody who waits is up. -/
def fire (w : World) : Timer → World
  | .call n stage => (w.act (Client.timeUp n stage)).getD w
  | .watch generation watch =>
    match watch with
    | .sleeping => (w.act (.watch generation)).getD w
    | _ => (w.act (.watchExpire generation)).getD w
  | .server _ => w.giveUp

/-- The earliest of some deadlines. -/
def earliest : List (Timer × Nat) → Option (Timer × Nat)
  | [] => none
  | first :: rest =>
    match earliest rest with
    | none => some first
    | some other => if other.2 < first.2 then some other else some first

/-- Moves the clock to the next deadline, if there is one. Nobody has waited longer than since the
clock last moved who has no deadline yet. -/
def tick? (w : World) : Option World :=
  let deadlines := w.waiting.map fun (timer, duration) =>
    ((w.deadlines.find? (·.1 == timer)).getD (timer, w.now + duration))
  let w := { w with deadlines }
  (earliest deadlines).map fun (timer, deadline) =>
    ({ w with now := deadline, deadlines := deadlines.filter (·.1 != timer) }).fire timer

/-- What the world is run for. -/
inductive Goal where
  /-- The end of some calls. -/
  | calls (ns : List Nat)
  /-- The end of the connection. -/
  | disconnected
deriving Repr, DecidableEq

/-- Whether a goal is reached. -/
def reached (w : World) : Goal → Bool
  | .calls ns => ns.all fun n => (w.client.calls[n]?).all Call.isOver
  | .disconnected => w.client.cell.state == .disconnected

/-- When to stop the world. -/
inductive Until where
  /-- When the goal is reached, the script is done, and nothing else can happen at once. -/
  | allDone
  /-- When the goal is reached, and nothing else can happen at once. -/
  | goalReached
  /-- When the goal is reached or the script is done, and nothing else can happen at once. -/
  | eitherDone
deriving Repr, DecidableEq

/-- Whether to stop the world, in which nothing can happen at once. -/
def stops (w : World) (goal : Goal) : Until → Bool
  | .allDone => w.reached goal && w.script.isEmpty
  | .goalReached => w.reached goal
  | .eitherDone => w.reached goal || w.script.isEmpty

/-- Runs the world for at most `steps` steps. -/
def runFor (goal : Goal) (stop : Until) : (steps : Nat) → World → World
  | 0, w => w
  | steps + 1, w =>
    match w.step? with
    | some w => runFor goal stop steps w
    | none =>
      if w.stops goal stop then w
      else
        match w.tick? with
        | some w => runFor goal stop steps w
        | none => w

/-- More steps than any script that ends takes. -/
def stepLimit : Nat := 10000000

/-- Runs the world until it is to stop, or forever. -/
def run (w : World) (goal : Goal) (stop : Until) : World :=
  runFor goal stop stepLimit w

/-- Makes some calls; their numbers come with the world. -/
def callAll (w : World) (errands : List Errand) : List Nat × World :=
  let first := w.client.calls.length
  (List.range' first errands.length,
    { w with client := errands.foldl (fun client errand => client.makeCall errand) w.client })

end World

end RemoteConsole.Rehearsal
