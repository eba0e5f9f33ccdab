import RemoteConsole.Connection

/-!
# Configuration

What a client needs to know before it connects. Times are in milliseconds.
-/

namespace RemoteConsole

/-- The configuration of a client. -/
structure Config where
  /-- The address of the server, with its port. -/
  address : String := ""
  /-- The password. -/
  password : String := ""
  /-- How long a connection may take to be made. -/
  connectTimeout : Nat := 5000
  /-- How long to wait for a write, a verdict or a response, where nothing else is said. -/
  commandTimeout : Nat := 5000
  /-- Whether every command is followed by an empty packet, so that a response may span several. -/
  multiPacket : Bool := false
  /-- What ends a response of several packets. -/
  terminator : Terminator := .emptyEcho
  /-- Whether a response must repeat the id of its command. -/
  strict : Bool := true
  /-- Whether a command connects and authenticates first where that is needed. -/
  autoConnect : Bool := false
  /-- The encoding of bodies. -/
  encoding : Encoding := .utf8
  /-- The largest packet, in either direction. -/
  maxPacketSize : Nat := Packet.defaultMaxSize
  /-- How often to check that the server still answers, if at all. -/
  checkInterval : Option Nat := none
deriving Repr, DecidableEq

/-- The part of a configuration that decides how packets are routed. -/
def Config.routing (config : Config) : Routing where
  terminator := config.terminator
  strict := config.strict
  encoding := config.encoding
  maxSize := config.maxPacketSize

end RemoteConsole
