import RemoteConsole.CommandLine.Errands
import RemoteConsole.CommandLine.Input
import RemoteConsole.Rehearsal.Play

/-!
# The program at a terminal

The interactive program with everything it asks for at hand: passwords that are typed one after the
other, an input, and a client in a world with a scripted server.
-/

namespace RemoteConsole.Rehearsal

open CommandLine

/-- The surroundings of a program. -/
structure Terminal where
  /-- The client and its server. -/
  world : World
  /-- The passwords to come. -/
  passwords : List String := []
  /-- The lines to come. -/
  input : List (Except InputError String) := []
  /-- Whether the input stays open after its last line. -/
  hold : Bool := false
  /-- What the program has shown. -/
  outputs : List Output := []

namespace Terminal

/-- Changes the client. -/
def onClient (t : Terminal) (f : Client → Client) : Terminal :=
  { t with world := { t.world with client := f t.world.client } }

/-- Makes a call and waits for its end, if it comes to one. -/
def call (t : Terminal) (errand : Errand) : Option (Answer × Terminal) :=
  let (ns, w) := t.world.callAll [errand]
  let w := w.run (.calls ns) .goalReached
  (ns.head?.bind w.answer?).map (·, { t with world := w })

/-- Answers a demand, or nothing if there is no answer to come. -/
def perform (t : Terminal) : (demand : Demand) → Option (demand.Reply × Terminal)
  | .password _ =>
    match t.passwords with
    | [] => none
    | typed :: passwords => some (typed, { t with passwords })
  | .line =>
    let t := { t with world := t.world.run (.calls []) .goalReached }
    match t.input with
    | .ok line :: input => some (.ok (some line), { t with input })
    | .error e :: input => some (.error e, { t with input })
    | [] => if t.hold then none else some (.ok none, t)
  | .state => some (t.world.client.cell.state, t)
  | demand => do
    let (answer, t) ← (t.onClient demand.prepare).call (← demand.errand? t.world.client.config)
    return (← demand.reply? answer, t)

/-- The terminal after the program has shown something. -/
def showAll (t : Terminal) (outputs : List Output) : Terminal :=
  { t with outputs := t.outputs ++ outputs }

/-- Runs the loop over lines for at most `steps` demands, up to the one to disconnect. -/
def runLines (address : String) : (steps : Nat) → Turn → Terminal → Terminal
  | 0, _, t => t
  | steps + 1, turn, t =>
    let t := t.showAll turn.outputs
    match turn.demand with
    | .disconnect => t
    | demand =>
      match t.perform demand with
      | none => t
      | some (reply, t) =>
        runLines address steps (Program.resume address demand reply) t

/-- The terminal after the program has shown what it shows in a turn. From the first line on, the
end of the connection is noted. -/
def shows (t : Terminal) (noting : Bool) (turn : Turn) : Terminal :=
  let t := t.showAll turn.outputs
  if !noting && turn.demand == .line then t.onClient Program.noteEnd else t

/-- The terminal when the connection has ended. -/
def awaitEnd (t : Terminal) : Terminal :=
  { t with world := t.world.run .disconnected .goalReached }

/-- The exit code of a program that has crashed. -/
def crashCode : Nat := 101

/-- Runs the program for at most `steps` demands: its exit code, and the terminal after it. Once it
reads lines, the end of the connection ends it, unless it is what the program asked for. -/
def runProgram (address : String) : (steps : Nat) → (noting : Bool) → Turn → Terminal →
    Nat × Terminal
  | 0, _, _, t => (crashCode, t)
  | steps + 1, noting, turn, t =>
    let t := t.shows noting turn
    match turn.demand with
    | .exit code => (code, t)
    | demand =>
      let noting := noting || demand == .line
      match t.perform demand with
      | none =>
        -- no reply comes, so only the end of the connection can end a program that reads lines
        if noting && demand != .disconnect then
          let t := t.awaitEnd
          if t.world.client.heard.isEmpty then (crashCode, t)
          else runProgram address steps noting Program.cut t
        else (crashCode, t)
      | some (reply, t) =>
        runProgram address steps noting (Program.proceed address t.world.client demand reply) t

/-- More demands than the program makes: a password is tried once, and a line asks for one thing at
most. -/
def demandLimit (t : Terminal) : Nat :=
  3 * (t.passwords.length + t.input.length) + 8

/-- Runs the loop over lines with a prompt. -/
def lines (t : Terminal) (address : String) : Terminal :=
  runLines address t.demandLimit (Program.ask address []) t

/-- Runs the whole program. The server does the rest of its script after it. -/
def program (t : Terminal) (address : String) : Nat × Terminal :=
  let (code, t) := runProgram address t.demandLimit false (Program.start address) t
  let world := { t.world with client := t.world.client.drop }
  (code, { t with world := world.run (.calls []) .allDone })

/-- The texts that a program has shown to its user, with the log lines among them. -/
def stdout (t : Terminal) : String :=
  String.join <| t.outputs.filterMap fun
    | .print text => some text
    | .info text => some (text ++ "\n")
    | .complain _ | .error _ => none

/-- The texts that a program has shown about what went wrong, without the log. -/
def complaints (t : Terminal) : String :=
  String.join <| t.outputs.filterMap fun
    | .complain text => some text
    | _ => none

/-- The texts that a program has shown about what went wrong, with the log lines among them. -/
def stderr (t : Terminal) : String :=
  String.join <| t.outputs.filterMap fun
    | .complain text => some text
    | .error text => some (text ++ "\n")
    | .print _ | .info _ => none

end Terminal

end RemoteConsole.Rehearsal
