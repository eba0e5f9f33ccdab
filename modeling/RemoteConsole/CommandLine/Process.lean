import RemoteConsole.Client.Step
import RemoteConsole.CommandLine.Conversation

/-!
# The program at work

The program with its client, one step at a time. Somebody types a password or enters a line, the
client is called for what is asked of it and the answer is taken, and meanwhile anything may happen
to the client that the network, the server and the clock bring about. A list of events is one
interleaving of all that.
-/

namespace RemoteConsole.CommandLine

/-- The program at work. -/
structure Process where
  /-- The address of the server, with its port. -/
  address : String
  /-- The client. -/
  client : Client
  /-- What the program asks for. -/
  turn : Turn
  /-- The call that sees to it, if one has been made. -/
  call : Option Nat := none
  /-- Whether the program has asked for a line, and the end of the connection is noted. -/
  noting : Bool := false
  /-- The demands that have been replied to, and the replies. -/
  log : List Exchange := []
  /-- What has been shown. -/
  shown : List Output := []

namespace Process

/-- What can happen to the program. -/
inductive Event where
  /-- A password is typed. -/
  | typed (password : String)
  /-- A line is entered, or there is none. -/
  | entered (input : Except InputError (Option String))
  /-- The program looks at the state of the connection. -/
  | looked
  /-- The program calls its client. -/
  | called
  /-- The program takes the answer. -/
  | answered
  /-- Something happens to the client. -/
  | happened (action : Client.Action)
  /-- The end of the connection ends the program. -/
  | cut

/-- The password that is typed, if one is. -/
def Event.typed? : Event → Option String
  | .typed password => some password
  | _ => none

/-- The line that is entered, or that there is none, if that is what happens. -/
def Event.entered? : Event → Option (Except InputError (Option String))
  | .entered input => some input
  | _ => none

/-- The program shows something and asks for the next thing. From the first line on, the end of the
connection is noted. -/
def turnTo (p : Process) (turn : Turn) : Process :=
  let first := turn.demand == .line && !p.noting
  { p with
    client := if first then Program.noteEnd p.client else p.client
    turn
    call := none
    noting := p.noting || first
    shown := p.shown ++ turn.outputs }

/-- The program at its start. -/
def start (config : Config) : Process :=
  let turn := Program.start config.address
  { address := config.address, client := .ofConfig config, turn, shown := turn.outputs }

/-- The program goes on after the reply to a demand. -/
def goOn (p : Process) (demand : Demand) (reply : demand.Reply) : Process :=
  let p' : Process := { p with log := p.log ++ [⟨demand, reply⟩] }
  p'.turnTo (Program.proceed p.address p.client demand reply)

/-- The program calls its client, if it asks for something that the client sees to. -/
def makeCall (p : Process) : Option Process := do
  let errand ← p.turn.demand.errand? p.client.config
  if p.call.isSome then none
  else
    some { p with
      client := (p.turn.demand.prepare p.client).makeCall errand
      call := some p.client.calls.length }

/-- The program takes the answer to its call, if there is one. -/
def takeAnswer (p : Process) : Option Process := do
  let call ← p.client.calls[← p.call]?
  let reply ← p.turn.demand.reply? (← call.answer?)
  some (p.goOn p.turn.demand reply)

/-- Whether the program has exited. -/
def isOver (p : Process) : Bool :=
  match p.turn.demand with
  | .exit _ => true
  | _ => false

/-- Takes a step, if it can be taken. -/
def step (p : Process) : Event → Option Process
  | .typed password =>
    match p.turn.demand with
    | .password again => some (p.goOn (.password again) password)
    | _ => none
  | .entered input => if p.turn.demand = .line then some (p.goOn .line input) else none
  | .looked =>
    if p.turn.demand = .state then some (p.goOn .state p.client.cell.state) else none
  | .called => p.makeCall
  | .answered => p.takeAnswer
  | .happened action =>
    if action.comesAbout && !p.isOver then
      (p.client.step action).map fun client => { p with client }
    else none
  | .cut =>
    -- a program that closes the connection itself does not end with it
    if p.noting ∧ p.client.heard ≠ [] ∧ p.turn.demand ≠ .disconnect ∧ p.isOver = false then
      some (p.turnTo Program.cut)
    else none

/-- Takes some steps, if each can be taken. -/
def run (p : Process) : List Event → Option Process
  | [] => some p
  | event :: events => (p.step event).bind (·.run events)

end Process

end RemoteConsole.CommandLine
