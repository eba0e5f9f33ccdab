import RemoteConsole.Address.Socket
import RemoteConsole.Client
import RemoteConsole.CommandLine.Arguments
import RemoteConsole.CommandLine.Program

/-!
# Errands of the program

How the interactive program uses a client: the client's configuration, the errand behind each demand
and the reply in its answer, and the end of the connection, which a program that reads lines does
not outlive.
-/

namespace RemoteConsole.CommandLine

/-- The configuration that some arguments stand for. -/
def Arguments.config (a : Arguments) : Config where
  address := Address.withDefaultPort a.address
  multiPacket := a.multiPacket
  connectTimeout := 1000 * a.timeout
  commandTimeout := 1000 * a.timeout

/-- The client as a demand needs it. The first password is a part of its configuration. -/
def Demand.prepare (demand : Demand) (c : Client) : Client :=
  match demand with
  | .connect typed => { c with config := { c.config with password := typed }, password := typed }
  | _ => c

/-- The errand behind a demand, if it is one for the client. -/
def Demand.errand? (config : Config) : Demand → Option Errand
  | .connect _ => some .connect
  | .authenticate typed => some (.authenticate typed)
  | .send command => some (.command command config.multiPacket config.commandTimeout)
  | .disconnect => some .disconnect
  | .password _ | .line | .state | .exit _ => none

/-- The reply to a demand that the answer to the errand behind it is. -/
def Demand.reply? (answer : Answer) : (demand : Demand) → Option demand.Reply
  | .connect _ => some (answer.text.map fun _ => ())
  | .authenticate _ => some answer.verdict
  | .send _ => some answer.text
  | .disconnect => some ()
  | .password _ | .line | .state | .exit _ => none

namespace Program

/-- The client with a listener that notes the end of a connection. -/
def noteEnd (c : Client) : Client :=
  { c with listeners := c.listeners.register .disconnected (.noting "end") }

/-- How the program goes on after the reply to a demand. The end of the connection cuts it off,
unless it has asked for it. -/
def proceed (address : String) (c : Client) (demand : Demand) (reply : demand.Reply) : Turn :=
  if demand ≠ .disconnect ∧ c.heard ≠ [] then cut else resume address demand reply

end Program

end RemoteConsole.CommandLine
