import RemoteConsole.Client

/-!
# Steps of a client

Everything that can happen to a client, one step at a time. A call goes on by itself where it can
(`advance`), and by an outcome where it waits for the network or the clock. Connections get their
frames and come to their end whenever it pleases the other side. `step` says which steps can be
taken in a state and what each leads to, so a list of actions is one interleaving of everything at
work.
-/

namespace RemoteConsole.Client

/-- How an attempt to get a stream ends. -/
inductive DialOutcome where
  /-- There is a stream. -/
  | stream
  /-- The network fails. -/
  | refused
  /-- The time is up. -/
  | timedOut
deriving Repr, DecidableEq

/-- How a write ends. A write that fails may have sent a part of its bytes. -/
inductive WriteOutcome where
  /-- All is written. -/
  | written
  /-- The network fails after some bytes. -/
  | broken (count : Nat)
  /-- The time is up after some bytes. -/
  | timedOut (count : Nat)
deriving Repr, DecidableEq

/-- What can happen to a client. -/
inductive Action where
  /-- A caller makes a call. -/
  | call (errand : Errand)
  /-- A caller changes the password. -/
  | setPassword (password : String)
  /-- A call takes its next step. -/
  | advance (n : Nat)
  /-- The attempt of a call to get a stream ends. -/
  | dial (n : Nat) (outcome : DialOutcome)
  /-- The write of a call ends. -/
  | write (n : Nat) (outcome : WriteOutcome)
  /-- The time of a call that waits for an answer is up. -/
  | expire (n : Nat)
  /-- A caller drops its call, of whose write some bytes may be sent. -/
  | abandon (n count : Nat)
  /-- A frame arrives on a connection. -/
  | frame (generation : Nat) (bytes : Bytes)
  /-- No more frames arrive on a connection, which closes it. -/
  | hangUp (generation : Nat)
  /-- A connection check takes its next step. -/
  | watch (generation : Nat)
  /-- The write of a connection check ends. -/
  | watchWrite (generation : Nat) (outcome : WriteOutcome)
  /-- The time of a connection check that waits for an answer is up. -/
  | watchExpire (generation : Nat)
deriving Repr, DecidableEq

/-- Whether an action comes about by itself, and is not something that a user of the client does. -/
def Action.comesAbout : Action → Bool
  | .call _ | .setPassword _ | .abandon .. => false
  | _ => true

/-- The text that a connection check sends, which servers take for a comment. -/
def watchCommand : String := "//ping"

/-- Makes a call. A command that is blank ends at once, and one that needs an authenticated
connection may have to make it first. -/
def makeCall (c : Client) (errand : Errand) : Client :=
  let stage : Stage := match errand with
    | .connect => .awaitConnectLock
    | .authenticate password => .awaitAuthLock password
    | .command text _ _ =>
      if Text.isBlankText text then .finished (.failed .emptyCommand)
      else if c.config.autoConnect && c.cell.state != .ready then .awaitConnectLock
      else .awaitCommandLock
    | .disconnect => .awaitDisconnectLock
  let password := match errand with
    | .authenticate password => password
    | _ => c.password
  { c with password, calls := c.calls ++ [{ errand, stage }] }

/-- A call that is connected and authenticated is over, unless it was only getting ready for a
command. -/
def proceed (c : Client) (n : Nat) (errand : Errand) : Client :=
  match errand with
  | .command .. => (c.unlock n).setStage n .awaitCommandLock
  | _ => c.finish n .done

/-- Ends a call whose authentication failed. -/
def refuse (c : Client) (n : Nat) (errand : Errand) (error : AuthError) : Client :=
  c.finish n <| match errand with
    | .authenticate _ => .refused error
    | _ => .failed error.toError

/-- Starts the connection check of a connection, if the client is configured to have one and the
connection has none. A check of a connection that is closed already does not get to run. -/
def startWatch (c : Client) (generation : Nat) : Client :=
  match c.config.checkInterval, c.session? generation with
  | some _, some s =>
    let (first, conn) := s.conn.claimWatch
    let c := c.modifySession generation fun s => { s with conn }
    if first then
      let watch : Watch := if conn.closed then .over else .sleeping
      (c.onConn generation (·.track)).setWatch generation watch
    else c
  | _, _ => c

/-- Writes on a connection. A write that fails closes it. -/
def put (c : Client) (generation : Nat) (packets : List Packet) (bytes : Bytes)
    (outcome : WriteOutcome) : Client × Option Error :=
  let sendPart (count : Nat) : Client :=
    (c.modifySession generation fun s =>
      { s with written := s.written ++ bytes.take count }).close generation
  match outcome with
  | .written =>
    (c.modifySession generation fun s =>
      { s with written := s.written ++ bytes, sent := s.sent ++ packets }, none)
  | .broken count => (sendPart count, some .io)
  | .timedOut count => (sendPart count, some .timeout)

/-- The next step of a call that does not wait for anything, or has got what it waits for. -/
def advance (c : Client) (n : Nat) : Option Client := do
  let call ← c.calls[n]?
  match call.stage with
  | .awaitConnectLock =>
    if c.connectLock.isNone then
      some ({ c with connectLock := some n }.setStage n .lookAtState)
    else none
  | .lookAtState =>
    match c.cell.state with
    | .ready => some (c.proceed n call.errand)
    | .authenticating => some (c.setStage n (.awaitAuthLock c.password))
    | .disconnected | .connecting =>
      let generation := c.generation + 1
      some ({ c with generation, cell := .start generation }.setStage n (.dialing generation))
  | .dialed generation =>
    return (← c.lockSession (.call n)).setStage n (.replacing generation)
  | .replacing generation =>
    -- the connection in place ends before there is another one
    let c := match c.current with
      | some previous => { c.close previous with current := none }
      | none => c
    some (c.setStage n (.installing generation))
  | .installing generation =>
    let c := { c with sessions := c.sessions ++ [c.newSession generation], current := generation }
    let c := (c.setState generation .authenticating).unlockSession (.call n)
    some (c.setStage n (.awaitAuthLock c.password))
  | .awaitAuthLock password =>
    return (← c.lockSession (.call n)).setStage n (.lookForAuth password)
  | .lookForAuth password =>
    match c.open? with
    | some generation => some (c.setStage n (.beginningAuth generation password))
    | none => some (c.refuse n call.errand (.fatal .notConnected))
  | .beginningAuth generation password =>
    let s ← c.session? generation
    let c := c.onConn generation (·.beginAuth)
    let packet : Packet := ⟨Packet.authId, .auth, password⟩
    match packet.encode s.conn.routing.encoding s.conn.routing.maxSize with
    | .ok bytes => some (c.setStage n (.writingAuth generation s.conn.attempts packet bytes))
    | .error e =>
      some ((c.onConn generation (·.cancelAuth)).refuse n call.errand (.fatal e))
  | .awaitVerdict generation attempt =>
    match ← (← c.session? generation).verdict? attempt with
    | some true =>
      -- the verdict counts even if the connection has closed since it came
      some (((c.setState generation .ready).startWatch generation).proceed n call.errand)
    | some false =>
      some ((c.setState generation .authenticating).refuse n call.errand .invalidPassword)
    | none => some (c.refuse n call.errand (.fatal .connectionClosed))
  | .awaitCommandLock =>
    return (← c.lockSession (.call n)).setStage n .lookForCommand
  | .lookForCommand =>
    match c.open?.filter fun _ => c.cell.state == .ready with
    | some generation => some (c.setStage n (.registering generation))
    | none => some (c.finish n (.failed .notConnected))
  | .registering generation =>
    let s ← c.session? generation
    match call.errand with
    | .command text multi _ =>
      -- the id is used up even if the command turns out to be too large
      let id := c.nextId
      let c := { c with nextId := succId id }.onConn generation (·.register id multi)
      let packets : List Packet :=
        ⟨id, .execCommand, text⟩ :: if multi then [⟨id, .response, ""⟩] else []
      match Packet.encodeAll s.conn.routing.encoding s.conn.routing.maxSize packets with
      | .ok bytes =>
        some (c.setStage n (.writingCommand generation id s.conn.requests.issued packets bytes))
      | .error e => some ((c.onConn generation (·.remove id)).finish n (.failed e))
    | _ => none
  | .awaitResponse generation _ slot =>
    match ← (← c.session? generation).outcome? slot with
    | .answered body => some (c.finish n (.response (Text.trimEnd body)))
    | .failed e => some (c.finish n (.failed e))
    | .dropped => some (c.finish n (.failed .connectionClosed))
  | .awaitDisconnectLock =>
    if c.sessionLock.isSome then none
    else
      match c.current with
      | some generation =>
        some ({ c with current := none }.setStage n (.shuttingDown generation))
      | none => some (c.finish n .done)
  | .shuttingDown generation => some ((c.close generation).finish n .done)
  | .dialing _ | .writingAuth .. | .writingCommand .. | .finished _ | .abandoned => none

/-- The end of a call's attempt to get a stream. -/
def dial (c : Client) (n : Nat) (outcome : DialOutcome) : Option Client := do
  let call ← c.calls[n]?
  match call.stage with
  | .dialing generation =>
    let fail (e : Error) := (c.setState generation .disconnected).finish n (.failed e)
    match outcome with
    | .stream => some (c.setStage n (.dialed generation))
    | .refused => some (fail .io)
    | .timedOut => some (fail .timeout)
  | _ => none

/-- The end of a call's write. -/
def write (c : Client) (n : Nat) (outcome : WriteOutcome) : Option Client := do
  let call ← c.calls[n]?
  match call.stage with
  | .writingAuth generation attempt packet bytes =>
    let (c, error) := c.put generation [packet] bytes outcome
    match error with
    | none => some ((c.unlockSession (.call n)).setStage n (.awaitVerdict generation attempt))
    | some e => some ((c.onConn generation (·.cancelAuth)).refuse n call.errand (.fatal e))
  | .writingCommand generation id slot packets bytes =>
    let (c, error) := c.put generation packets bytes outcome
    match error with
    | none => some ((c.unlockSession (.call n)).setStage n (.awaitResponse generation id slot))
    | some e => some ((c.onConn generation (·.remove id)).finish n (.failed e))
  | _ => none

/-- The end of a call's time to wait for an answer, if the answer is not there yet. -/
def expire (c : Client) (n : Nat) : Option Client := do
  let call ← c.calls[n]?
  match call.stage with
  | .awaitVerdict generation attempt =>
    if ((← c.session? generation).verdict? attempt).isSome then none
    else some ((c.onConn generation (·.cancelAuth)).refuse n call.errand (.fatal .timeout))
  | .awaitResponse generation id slot =>
    if ((← c.session? generation).outcome? slot).isSome then none
    else some ((c.onConn generation (·.remove id)).finish n (.failed .timeout))
  | _ => none

/-- The end of a call that is dropped where it waits: for a lock, for the network or for an answer.
A connection that it has taken away is closed; a write is left as it is. -/
def abandon (c : Client) (n count : Nat) : Option Client := do
  let call ← c.calls[n]?
  let leave (c : Client) : Option Client := some ((c.unlock n).setStage n .abandoned)
  let sendPart (generation : Nat) (bytes : Bytes) : Client :=
    c.modifySession generation fun s => { s with written := s.written ++ bytes.take count }
  match call.stage with
  | .awaitConnectLock | .dialing _ | .dialed _ | .awaitAuthLock _ | .awaitVerdict ..
  | .awaitCommandLock | .awaitResponse .. | .awaitDisconnectLock => leave c
  | .writingAuth generation _ _ bytes => leave (sendPart generation bytes)
  | .writingCommand generation _ _ _ bytes => leave (sendPart generation bytes)
  | .shuttingDown generation => leave (c.close generation)
  | .lookAtState | .replacing _ | .installing _ | .lookForAuth _ | .beginningAuth ..
  | .lookForCommand | .registering _ | .finished _ | .abandoned => none

/-- A frame arrives on a connection. -/
def receive (c : Client) (generation : Nat) (bytes : Bytes) : Option Client := do
  let s ← c.session? generation
  if s.dispatching then some (c.onLink generation (·.frameReceived bytes)) else none

/-- No more frames arrive on a connection. -/
def hangUp (c : Client) (generation : Nat) : Option Client := do
  let s ← c.session? generation
  if s.dispatching then
    some ((c.modifySession generation fun s => { s with dispatching := false }).close generation)
  else none

/-- The next step of a connection check. One whose connection is closed ends where it would wait. -/
def advanceWatch (c : Client) (generation : Nat) : Option Client := do
  let s ← c.session? generation
  let leave : Client := (c.unlockSession (.watch generation)).setWatch generation .over
  match s.watch with
  | .sleeping => some (if s.conn.closed then leave else c.setWatch generation .awaitLock)
  | .awaitLock =>
    if s.conn.closed then some leave
    else return (← c.lockSession (.watch generation)).setWatch generation .looking
  | .looking =>
    if c.open? = some generation then some (c.setWatch generation .registering) else some leave
  | .registering =>
    let id := c.nextId
    let packet : Packet := ⟨id, .execCommand, watchCommand⟩
    let c := { c with nextId := succId id }.onConn generation (·.register id false)
    match packet.encode s.conn.routing.encoding s.conn.routing.maxSize with
    | .ok bytes => some (c.setWatch generation (.writing id s.conn.requests.issued packet bytes))
    | .error _ => some ((c.unlockSession (.watch generation)).setWatch generation .over)
  | .writing .. => if s.conn.closed then some leave else none
  | .awaitAnswer _ slot =>
    if s.conn.closed then some leave
    else
      match ← s.outcome? slot with
      | .answered _ => some (c.setWatch generation .sleeping)
      | _ => some leave
  | .off | .over => none

/-- The end of a connection check's write. -/
def writeWatch (c : Client) (generation : Nat) (outcome : WriteOutcome) : Option Client := do
  let s ← c.session? generation
  match s.watch with
  | .writing id slot packet bytes =>
    let (c, error) := c.put generation [packet] bytes outcome
    let c := c.unlockSession (.watch generation)
    match error with
    | none => some (c.setWatch generation (.awaitAnswer id slot))
    | some _ => some (c.setWatch generation .over)
  | _ => none

/-- The end of a connection check's time to wait for an answer, which closes the connection. -/
def expireWatch (c : Client) (generation : Nat) : Option Client := do
  let s ← c.session? generation
  match s.watch with
  | .awaitAnswer id slot =>
    if (s.outcome? slot).isSome then none
    else
      let c := (c.onConn generation (·.remove id)).close generation
      some (c.setWatch generation .over)
  | _ => none

/-- Takes a step, if it can be taken. -/
def step (c : Client) : Action → Option Client
  | .call errand => some (c.makeCall errand)
  | .setPassword password => some { c with password }
  | .advance n => c.advance n
  | .dial n outcome => c.dial n outcome
  | .write n outcome => c.write n outcome
  | .expire n => c.expire n
  | .abandon n count => c.abandon n count
  | .frame generation bytes => c.receive generation bytes
  | .hangUp generation => c.hangUp generation
  | .watch generation => c.advanceWatch generation
  | .watchWrite generation outcome => c.writeWatch generation outcome
  | .watchExpire generation => c.expireWatch generation

/-- Takes some steps, if each can be taken. -/
def run (c : Client) : List Action → Option Client
  | [] => some c
  | action :: actions => (c.step action).bind (·.run actions)

/-- The client is dropped, and with it the connection in place. -/
def drop (c : Client) : Client :=
  match c.current with
  | some generation => { c.close generation with current := none }
  | none => c

end RemoteConsole.Client
