import RemoteConsole.CommandLine.Report
import RemoteConsole.Rehearsal.World

/-!
# Queries in a rehearsal

Queries held with a server that answers from a list. Such a server needs a network that works; on
one that does not, it cannot be set up, and nothing is asked.
-/

namespace RemoteConsole.Rehearsal

open Query (Exchange Family)

/-- A query held with a server: the requests that the server got, and how the query ended. -/
structure Inquiry (α : Type) where
  /-- The datagrams that the server got. -/
  requests : List Bytes
  /-- How the query ended. -/
  result : Except Error α

/-- Holds a query with a server, if the server can be set up. -/
def Network.inquire {α : Type} (network : Network) (exchange : Exchange α)
    (responder : Exchange.Responder) : Option (Inquiry α × Exchange.Responder) :=
  match network with
  | .unreachable => none
  | .reachable =>
    let (requests, result, responder) := exchange.converse responder
    some (⟨requests, result⟩, responder)

/-- Runs the program's query of a server, if the server can be set up. The datagrams that answer the
first query and were not received are lost with its socket. -/
def Network.report (network : Network) (family : Family) (session : Int32)
    (answers : List (List Bytes)) : Option CommandLine.Report.Result := do
  let (inquiry, responder) ← network.inquire (Query.info family session) { answers }
  let askPlayers (_ : Unit) :=
    (Query.Source.players.converse { answers := responder.answers }).2.1
  return CommandLine.Report.ofInfo askPlayers inquiry.result

end RemoteConsole.Rehearsal
