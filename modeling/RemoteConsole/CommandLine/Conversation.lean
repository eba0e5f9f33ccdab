import RemoteConsole.CommandLine.Errands

/-!
# Conversations with the program

The program asks for one thing, gets a reply, and asks for the next. What has been asked for and
replied so far is a log, and the log determines what the program asks for now.
-/

namespace RemoteConsole.CommandLine

/-- A demand, and the reply to it. -/
structure Exchange where
  /-- The demand. -/
  demand : Demand
  /-- The reply. -/
  reply : demand.Reply

namespace Exchange

/-- The line that was read, or why there was none, if it was a line that was asked for. -/
def read? : Exchange → Option (Except InputError (Option String))
  | ⟨.line, input⟩ => some input
  | _ => none

/-- The response to a command, or the error, if it was that which was asked for. -/
def outcome? : Exchange → Option (Except Error String)
  | ⟨.send _, result⟩ => some result
  | _ => none

/-- The state of the connection, if it was asked for. -/
def state? : Exchange → Option ConnectionState
  | ⟨.state, state⟩ => some state
  | _ => none

end Exchange

/-- What was read in some exchanges. -/
def readIn (log : List Exchange) : List (Except InputError (Option String)) :=
  log.filterMap Exchange.read?

namespace Turn

/-- The turn after some exchanges, if each is about what is asked for by then. -/
def after? (address : String) (turn : Turn) : List Exchange → Option Turn
  | [] => some turn
  | e :: log =>
    if e.demand = turn.demand then (Program.resume address e.demand e.reply).after? address log
    else none

/-- What has been asked for, the last of which has no reply yet. -/
def asked (log : List Exchange) (turn : Turn) : List Demand :=
  log.map Exchange.demand ++ [turn.demand]

end Turn

end RemoteConsole.CommandLine
