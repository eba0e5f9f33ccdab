import RemoteConsole.Address.Ip
import RemoteConsole.Text.Decimal
import RemoteConsole.Text.Search

/-!
# Server addresses

An IP address with a port, and what a user may leave out: an address without a port gets the port
that game servers listen on.
-/

namespace RemoteConsole.Address

/-- An IP address with a port. -/
structure Socket where
  /-- The IP address. -/
  ip : Ip
  /-- The port. -/
  port : UInt16
  /-- The number of the network interface that an IPv6 address is meant for, or zero. -/
  scope : UInt32 := 0
deriving Repr, DecidableEq

/-- A port. -/
def Socket.scanPort : Scan UInt16 := fun cs => do
  let (_, cs) ← Scan.char ':' cs
  let (n, cs) ← Scan.number 10 none true UInt16.size cs
  return (UInt16.ofNat n, cs)

/-- The number of a network interface. -/
def Socket.scanScope : Scan UInt32 := fun cs => do
  let (_, cs) ← Scan.char '%' cs
  let (n, cs) ← Scan.number 10 none true UInt32.size cs
  return (UInt32.ofNat n, cs)

/-- An IPv4 address with a port. -/
def Socket.scanV4 : Scan Socket := fun cs => do
  let (ip, cs) ← IPv4.scan cs
  let (port, cs) ← scanPort cs
  return ({ ip := .v4 ip, port }, cs)

/-- An IPv6 address in brackets, perhaps with an interface, with a port. -/
def Socket.scanV6 : Scan Socket := fun cs => do
  let (_, cs) ← Scan.char '[' cs
  let (ip, cs) ← IPv6.scan cs
  let (scope, cs) := (scanScope cs).getD (0, cs)
  let (_, cs) ← Scan.char ']' cs
  let (port, cs) ← scanPort cs
  return ({ ip := .v6 ip, port, scope }, cs)

/-- The IP address with a port that a text is. -/
def Socket.parse? (s : String) : Option Socket :=
  Scan.whole (fun cs => (scanV4 cs).or (scanV6 cs)) s

/-- The text of an IP address with a port. -/
def Socket.text (s : Socket) : String :=
  match s.ip with
  | .v4 ip => s!"{ip.text}:{s.port.toNat}"
  | .v6 ip =>
    let scope := if s.scope = 0 then "" else s!"%{s.scope.toNat}"
    s!"[{ip.text}{scope}]:{s.port.toNat}"

/-- The port that game servers listen on. -/
def defaultPort : UInt16 := 27015

/-- An address with the default port, if it carries none. A text with a colon that is no IP address
is taken for a name with a port. -/
def withDefaultPort (address : String) : String :=
  if (Socket.parse? address).isSome then address
  else
    match Ip.parse? address with
    | some ip => { ip, port := defaultPort : Socket }.text
    | none =>
      if Text.contains address ":" then address else s!"{address}:{defaultPort.toNat}"

/-- Where to find a server. -/
inductive Endpoint where
  /-- At an IP address with a port. -/
  | socket (socket : Socket)
  /-- At a port of the host with a name, which is still to be looked up. -/
  | named (host : String) (port : UInt16)
deriving Repr, DecidableEq

/-- The host and the port that the last colon of a text separates. -/
def Endpoint.parseNamed? (s : String) : Option Endpoint :=
  let reversed := s.toList.reverse
  match reversed.dropWhile (· != ':') with
  | [] => none
  | _ :: host => do
    let digits := (reversed.takeWhile (· != ':')).reverse
    let port ← Text.natural? UInt16.size (String.ofList digits)
    return .named (String.ofList host.reverse) (UInt16.ofNat port)

/-- Where a text says that a server is, if it says so. -/
def Endpoint.parse? (s : String) : Option Endpoint :=
  ((Socket.parse? s).map .socket).or (parseNamed? s)

end RemoteConsole.Address
