import RemoteConsole.CommandLine.Style
import RemoteConsole.Connection.State
import RemoteConsole.Error
import RemoteConsole.Text.Blank
import RemoteConsole.Text.Search

/-!
# The interactive program

The program as a conversation with its surroundings: it shows something, asks for one thing at a
time (a password, a line, the response to a command), and goes on with the reply. It first tries
passwords until one is accepted, and then reads lines until it is told to quit. What a terminal and
a server do is left to whoever answers its demands.
-/

namespace RemoteConsole.CommandLine

/-- What the program shows. -/
inductive Output where
  /-- A text for the user. -/
  | print (text : String)
  /-- A text about something that went wrong. -/
  | complain (text : String)
  /-- A line of the log. -/
  | info (text : String)
  /-- A line of the log about something that ends the program. -/
  | error (text : String)
deriving Repr, DecidableEq

/-- What the program asks for. -/
inductive Demand where
  /-- A password, again if one was rejected. -/
  | password (again : Bool)
  /-- To connect and authenticate with a password. -/
  | connect (password : String)
  /-- To authenticate with another password. -/
  | authenticate (password : String)
  /-- The next line of the input. -/
  | line
  /-- The state of the connection. -/
  | state
  /-- The response to a command. -/
  | send (command : String)
  /-- To close the connection. -/
  | disconnect
  /-- To end with an exit code. -/
  | exit (code : Nat)
deriving Repr, DecidableEq

/-- Why a line cannot be read. -/
inductive InputError where
  /-- It is not UTF-8. -/
  | notText
deriving Repr, DecidableEq

/-- The wording of why a line cannot be read. -/
def InputError.message : InputError → String
  | notText => "stream did not contain valid UTF-8"

/-- What answers a demand. -/
@[reducible] def Demand.Reply : Demand → Type
  | password _ => String
  | connect _ => Except Error Unit
  | authenticate _ => Except AuthError Unit
  | line => Except InputError (Option String)
  | state => ConnectionState
  | send _ => Except Error String
  | disconnect => Unit
  | exit _ => Empty

/-- What the program shows, and what it asks for then. -/
structure Turn where
  /-- What it shows. -/
  outputs : List Output := []
  /-- What it asks for. -/
  demand : Demand
deriving Repr, DecidableEq

namespace Program

/-- The name of the program. -/
def name : String := "source-rcon-cli"

/-- The version of the program. -/
def version : String := "0.1.0"

/-- The prompt for a password. -/
def passwordPrompt (address : String) : String :=
  s!"{address}'s password: "

/-- The prompt for a line. -/
def linePrompt (address : String) : String :=
  Colour.brightGreen.paint address ++ "> "

/-- What the program knows to do by itself. -/
def help : String :=
  String.join [
    Colour.green.paint name, " ", version, "\n",
    "\n",
    Colour.yellow.paint "BUILTINS", "\n",
    "    !help                View this help listing\n",
    "    !status              Show the connection state\n",
    "    !quit                Disconnect and exit\n",
    "    ", Colour.green.paint "<COMMAND> [ARGS...]", "  Run a command on the server\n"]

/-- What a line asks for. -/
inductive Entry where
  /-- Nothing. -/
  | blank
  /-- The help. -/
  | help
  /-- The state of the connection. -/
  | status
  /-- The end of the program. -/
  | quit
  /-- Something the program does not know. -/
  | unknown
  /-- A command for the server. -/
  | command (text : String)
deriving Repr, DecidableEq

/-- What a line asks for. After an exclamation mark it is for the program itself. -/
def Entry.ofLine (line : String) : Entry :=
  let line := Text.trim line
  if line = "" then blank
  else
    match Text.after? line "!" with
    | none => command line
    | some builtin =>
      match Text.trim builtin with
      | "help" => help
      | "status" => status
      | "quit" => quit
      | _ => unknown

/-- Asks for the next line, after showing something. -/
def ask (address : String) (outputs : List Output) : Turn where
  outputs := outputs ++ [.print (linePrompt address)]
  demand := .line

/-- The program is connected. -/
def greet (address : String) : Turn :=
  ask address [
    .info s!"Authenticated with {address}",
    .info s!"Connected. View builtins with `!help`. {name} {version}"]

/-- The server rejected a password. -/
def reject (address : String) : Turn where
  outputs := [.print ("Invalid password.\n" ++ passwordPrompt address)]
  demand := .password true

/-- The program could not connect. -/
def fail (e : Error) : Turn where
  outputs := [.error s!"Connection failed: {e.message}"]
  demand := .exit 1

/-- What a line leads to. -/
def enter (address line : String) : Turn :=
  match Entry.ofLine line with
  | .blank => ask address []
  | .help => ask address [.print help]
  | .status => { demand := .state }
  | .quit => { demand := .disconnect }
  | .unknown => ask address [.complain "Unknown builtin.\n"]
  | .command text => { demand := .send text }

/-- The start of the program. -/
def start (address : String) : Turn where
  outputs := [.print (passwordPrompt address)]
  demand := .password false

/-- How the program goes on after the reply to a demand. -/
def resume (address : String) : (demand : Demand) → demand.Reply → Turn
  | .password false, typed => { demand := .connect typed }
  | .password true, typed => { demand := .authenticate typed }
  | .connect _, result =>
    match result with
    | .ok () => greet address
    | .error .authenticationFailed => reject address
    | .error e => fail e
  | .authenticate _, result =>
    match result with
    | .ok () => greet address
    | .error .invalidPassword => reject address
    | .error (.fatal e) => fail e
  | .line, input =>
    match input with
    | .ok (some line) => enter address line
    | .ok none => { demand := .disconnect }
    | .error e => ⟨[.error s!"Failed to read input: {e.message}"], .disconnect⟩
  | .state, state => ask address [.print (state.name ++ "\n")]
  | .send _, result =>
    match result with
    | .ok "" => ask address []
    | .ok response => ask address [.print (response ++ "\n")]
    | .error e => ask address [.complain s!"An error occurred: {e.message}\n"]
  | .disconnect, () => { demand := .exit 0 }

/-- The server closed the connection, which ends the program. -/
def cut : Turn where
  outputs := [.complain "\r", .error "Connection closed by the server"]
  demand := .exit 1

end Program

end RemoteConsole.CommandLine
