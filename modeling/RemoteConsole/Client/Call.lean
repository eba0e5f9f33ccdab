import RemoteConsole.Error
import RemoteConsole.Listener.Parser
import RemoteConsole.Packet

/-!
# Calls

What callers ask of a client, and how far each call has come. The stages of a call are the places
where other calls, the network or the clock can come between two of its steps.
-/

namespace RemoteConsole

/-- What a caller asks of a client. -/
inductive Errand where
  /-- To connect, and authenticate with the client's password. -/
  | connect
  /-- To authenticate with another password, which becomes the client's. -/
  | authenticate (password : String)
  /-- To send a command, and wait for its response for a time. -/
  | command (text : String) (multi : Bool) (timeout : Nat)
  /-- To close the connection. -/
  | disconnect
deriving Repr, DecidableEq

/-- How a call ends. -/
inductive Answer where
  /-- It did what it was asked to. -/
  | done
  /-- The response to a command. -/
  | response (text : String)
  /-- It failed. -/
  | failed (error : Error)
  /-- An authentication failed. -/
  | refused (error : AuthError)
deriving Repr, DecidableEq

/-- How far a call has come. -/
inductive Stage where
  /-- It waits for the connect lock. -/
  | awaitConnectLock
  /-- It has the connect lock, and is about to look at the client's state. -/
  | lookAtState
  /-- It waits for a stream, as the attempt of a generation. -/
  | dialing (generation : Nat)
  /-- It has a stream, and waits for the session lock. -/
  | dialed (generation : Nat)
  /-- It has the session lock, and is about to close the connection in place. -/
  | replacing (generation : Nat)
  /-- It is about to put the new connection in place. -/
  | installing (generation : Nat)
  /-- It waits for the session lock to authenticate. -/
  | awaitAuthLock (password : String)
  /-- It has the session lock, and is about to look for a connection to authenticate. -/
  | lookForAuth (password : String)
  /-- It has found the connection, and is about to begin the authentication. -/
  | beginningAuth (generation : Nat) (password : String)
  /-- It writes the authentication. -/
  | writingAuth (generation attempt : Nat) (packet : Packet) (bytes : Bytes)
  /-- It waits for the verdict. -/
  | awaitVerdict (generation attempt : Nat)
  /-- It waits for the session lock to send a command. -/
  | awaitCommandLock
  /-- It has the session lock, and is about to look for a connection to send the command on. -/
  | lookForCommand
  /-- It has found the connection, and is about to register the request. -/
  | registering (generation : Nat)
  /-- It writes the command. -/
  | writingCommand (generation : Nat) (id : Int32) (slot : Nat) (packets : List Packet)
      (bytes : Bytes)
  /-- It waits for the response. -/
  | awaitResponse (generation : Nat) (id : Int32) (slot : Nat)
  /-- It waits for the session lock to take the connection away. -/
  | awaitDisconnectLock
  /-- It has taken the connection away, and is about to close it. -/
  | shuttingDown (generation : Nat)
  /-- It is over. -/
  | finished (answer : Answer)
  /-- Its caller has dropped it. -/
  | abandoned
deriving Repr, DecidableEq

/-- A call. -/
structure Call where
  /-- What it is to do. -/
  errand : Errand
  /-- How far it has come. -/
  stage : Stage
deriving Repr, DecidableEq

/-- How a finished call has ended. -/
def Call.answer? (call : Call) : Option Answer :=
  match call.stage with
  | .finished answer => some answer
  | _ => none

/-- Whether nothing more is to be done for a call. -/
def Call.isOver (call : Call) : Bool :=
  match call.stage with
  | .finished _ | .abandoned => true
  | _ => false

/-- An answer as the text that came with it, or the error. -/
def Answer.text : Answer → Except Error String
  | done => .ok ""
  | response text => .ok text
  | failed error => .error error
  | refused error => .error error.toError

/-- An answer as the verdict on a password. -/
def Answer.verdict : Answer → Except AuthError Unit
  | done | response _ => .ok ()
  | failed error => .error (.fatal error)
  | refused error => .error error

/-- What the answer to a command is as a value of a parser. -/
def Answer.parsed {α : Type} (parser : Parser α) (answer : Answer) : Except Error α := do
  match parser.tryParse (← answer.text) with
  | some value => return value
  | none => throw .parse

end RemoteConsole
