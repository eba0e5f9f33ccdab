import RemoteConsole.Client.Need
import RemoteConsole.CommandLine.Errands
import RemoteConsole.CommandLine.Input
import RemoteConsole.CommandLine.Log
import RemoteConsole.CommandLine.Report
import RemoteConsole.CommandLine.Usage
import RemoteConsole.Frame.Reader
import RemoteConsole.Query.Family
import Std.Async.DNS
import Std.Async.TCP
import Std.Async.Timer
import Std.Async.UDP
import Std.Sync.Channel
import Std.Time

/-!
# The program

The outer layer: it reads the arguments, the terminal and the sockets, and lets `Program` and
`Client` decide. What happens outside reaches it as events, and it handles one after the other, so
the client takes its steps one at a time.
-/

namespace RemoteConsole.CommandLine

open Std.Async Std.Net

/-- What happens outside. -/
inductive Console.Event where
  /-- The attempt of a call to get a stream has ended. -/
  | dialed (n : Nat) (socket : Option TCP.Socket.Client)
  /-- A call's write has ended. -/
  | written (n : Nat) (complete : Bool)
  /-- A call has been at a stage for as long as it may. -/
  | timeUp (n : Nat) (stage : Stage)
  /-- Bytes have come on the connection of a generation. -/
  | received (generation : Nat) (bytes : Bytes)
  /-- No more bytes come on the connection of a generation. -/
  | ended (generation : Nat)
  /-- A line has been entered, or the input has ended. -/
  | line (line : Except InputError (Option String))

instance : Inhabited Console.Event := ⟨.ended 0⟩

/-- The program's surroundings. -/
structure Console where
  /-- The address of the server, with its port. -/
  address : String
  /-- The client. -/
  client : IO.Ref Client
  /-- The bytes on their way to become frames. -/
  reader : IO.Ref Frame.Reader
  /-- The latest stream. -/
  socket : IO.Ref (Option TCP.Socket.Client)
  /-- The lines that nobody has asked for yet. -/
  lines : IO.Ref (List (Except InputError (Option String)))
  /-- Whether lines are being read, and the end of the connection is noted. -/
  reading : IO.Ref Bool
  /-- What has happened outside. -/
  events : Std.Channel.Sync Console.Event

namespace Console

/-! ## Sockets -/

/-- A duration of some milliseconds, cut off at some million years. -/
def duration (milliseconds : Nat) : Std.Time.Millisecond.Offset :=
  .ofNat (min milliseconds (UInt64.size / 128))

/-- The socket addresses that a text stands for. -/
def resolve (address : String) : Async (List SocketAddress) := do
  let place (port : UInt16) : IPAddr → SocketAddress
    | .v4 addr => .v4 ⟨addr, port⟩
    | .v6 addr => .v6 ⟨addr, port⟩
  match Address.Endpoint.parse? address with
  | none => throw (.userError "invalid socket address")
  | some (.socket s) =>
    match s.ip with
    | .v4 ip => return [.v4 ⟨.ofParts ip.a ip.b ip.c ip.d, s.port⟩]
    | .v6 ip => return (IPv6Addr.ofString ip.text).toList.map fun addr => .v6 ⟨addr, s.port⟩
  | some (.named host port) => return (← DNS.getAddrInfo host "").toList.map (place port)

/-- A stream to the first of some addresses that takes one. -/
def dialFirst : List SocketAddress → Async (Option TCP.Socket.Client)
  | [] => return none
  | addr :: rest => do
    try
      let socket ← TCP.Socket.Client.mk
      socket.connect addr
      try socket.noDelay catch _ => pure ()
      return some socket
    catch _ => dialFirst rest

/-- Lets something happen outside, which leads to an event. -/
def start (p : Console) (work : Async Event) : IO Unit :=
  discard (Async.toIO (do p.events.send (← work)))

/-- Hands on what comes on a stream, up to its end. -/
partial def pump (p : Console) (generation : Nat) (socket : TCP.Socket.Client) : Async Unit := do
  let bytes ← try socket.recv? (UInt64.ofNat Frame.readLength) catch _ => pure none
  match bytes with
  | some bytes =>
    p.events.send (.received generation bytes.data.toList)
    p.pump generation socket
  | none => p.events.send (.ended generation)

/-! ## Input -/

/-- The bytes of the next line of the input, and whether a line feed has ended it. -/
partial def readLine (input : IO.FS.Stream) (front : Bytes) : IO (Bytes × Bool) := do
  match (← input.read 1).data.toList with
  | [] => return (front.reverse, false)
  | 10 :: _ => return (front.reverse, true)
  | b :: _ => readLine input (b :: front)

/-- Hands on the lines of the input, up to its end. A line that is being read is waited for before
the program can end. -/
partial def readLines (p : Console) (input : IO.FS.Stream) : IO Unit := do
  let line ← readLine input []
  if line = ([], false) then
    p.events.send (.line (.ok none))
  else
    p.events.send (.line ((Input.text line).map some))
    p.readLines input

/-- A password from the terminal. It cannot be hidden while it is typed. -/
def readPassword : IO String := do
  let line ← (← IO.FS.Handle.mk "/dev/tty" .read).getLine
  if line.isEmpty then
    throw (.userError "no password")
  return String.ofList (line.toList.filter fun c => c != '\n' && c != '\r')

/-! ## Output -/

/-- The number of seconds since a midnight. -/
def seconds : IO Nat := do
  return (← Std.Time.Timestamp.now).toSecondsSinceUnixEpoch.val.toNat

/-- Shows a text. -/
def put (out : IO.FS.Stream) (text : String) : IO Unit := do
  out.putStr text
  out.flush

/-- Shows an output of the program. -/
def display (output : Output) : IO Unit := do
  match output with
  | .print text => put (← IO.getStdout) text
  | .info text => put (← IO.getStdout) (Log.line (← seconds) "INFO" text)
  | .complain text => put (← IO.getStderr) text
  | .error text => put (← IO.getStderr) (Log.line (← seconds) "ERROR" text)

/-! ## Events -/

/-- Lets the client take a step, if it can. -/
def act (p : Console) (action : Client.Action) : IO Unit :=
  p.client.modify fun c => (c.step action).getD c

/-- Hands the complete frames among the bytes received to the client. -/
partial def deliver (p : Console) (generation : Nat) : IO Unit := do
  match (← p.reader.get).take? with
  | .error _ => p.act (.hangUp generation)
  | .ok none => p.reader.modify Frame.Reader.compact
  | .ok (some (frame, reader)) =>
    p.reader.set reader
    p.act (.frame generation frame)
    p.deliver generation

/-- Takes in an event. -/
def handle (p : Console) : Event → IO Unit
  | .dialed n none => p.act (.dial n .refused)
  | .dialed n (some socket) => do
    match ((← p.client.get).calls[n]?).bind Call.need? with
    | some (.stream generation) =>
      p.socket.set (some socket)
      p.reader.set { maxSize := (← p.client.get).config.maxPacketSize }
      p.act (.dial n .stream)
      -- nothing is read from a stream that came too late
      discard (p.pump generation socket).toIO
    | _ => pure ()
  | .written n complete => p.act (.write n (if complete then .written else .broken 0))
  | .timeUp n stage => do
    if ((← p.client.get).calls[n]?).map Call.stage = some stage then
      p.act (Client.timeUp n stage)
  | .received generation bytes => do
    p.reader.modify (·.feed bytes)
    p.deliver generation
  | .ended generation => p.act (.hangUp generation)
  | .line line => p.lines.modify (· ++ [line])

/-- Sees to what a call needs, and to the end of its time. -/
def provide (p : Console) (n : Nat) (call : Call) : IO Unit := do
  match call.need? with
  | some (.stream _) =>
    p.start do
      let socket ← try dialFirst (← resolve p.address) catch _ => pure none
      return .dialed n socket
  | some (.write _ bytes) =>
    let socket ← p.socket.get
    p.start do
      try
        socket.forM (·.send ⟨bytes.toArray⟩)
        return .written n socket.isSome
      catch _ => return .written n false
  | some (.shutdown _) =>
    try
      (← p.socket.get).forM fun socket => socket.shutdown.block
    catch _ => pure ()
    p.act (.advance n)
  | _ => pure ()
  if let some patience := call.patience? (← p.client.get).config then
    p.start do
      (← Sleep.mk (duration patience)).wait
      return .timeUp n call.stage

/-- Waits for the end of a call, or for the end of a connection that is noted. What the call needs
at a stage is seen to once. -/
partial def await (p : Console) (n : Nat) (seen : Option Stage) : IO (Option Answer) := do
  p.client.modify (·.settle n)
  let c ← p.client.get
  match c.calls[n]? with
  | none => return none
  | some call =>
    match call.answer? with
    | some answer => return some answer
    | none =>
      -- a program that reads lines ends with the connection, whatever a call still waits for
      if call.errand ≠ .disconnect ∧ c.heard ≠ [] then
        return none
      if seen ≠ some call.stage then
        p.provide n call
      else
        p.handle (← p.events.recv)
      p.await n (some call.stage)

/-- Waits for a line, or for the end of the connection. -/
partial def nextLine (p : Console) : IO (Option (Except InputError (Option String))) := do
  if (← p.client.get).heard ≠ [] then
    return none
  match ← p.lines.get with
  | line :: rest =>
    p.lines.set rest
    return some line
  | [] =>
    p.handle (← p.events.recv)
    p.nextLine

/-- Answers a demand, or nothing if the connection has ended instead. -/
def perform (p : Console) : (demand : Demand) → IO (Option demand.Reply)
  | .password _ => return some (← readPassword)
  | .line => do
    unless ← p.reading.modifyGet fun reading => (reading, true) do
      p.client.modify Program.noteEnd
      let input ← IO.getStdin
      discard (IO.asTask (p.readLines input) .dedicated)
    p.nextLine
  | .state => return some (← p.client.get).cell.state
  | demand => do
    p.client.modify demand.prepare
    let c ← p.client.get
    match demand.errand? c.config with
    | none => return none
    | some errand =>
      p.client.set (c.makeCall errand)
      return (← p.await c.calls.length none).bind fun answer => demand.reply? answer

/-- Runs the program to its end: the exit code. -/
partial def run (p : Console) (turn : Turn) : IO UInt32 := do
  turn.outputs.forM display
  match turn.demand with
  | .exit code => return UInt32.ofNat code
  | demand =>
    match ← p.perform demand with
    | none => p.run Program.cut
    | some reply => p.run (Program.proceed p.address (← p.client.get) demand reply)

/-- Holds a session with a server. -/
def interact (config : Config) : IO UInt32 := do
  let p : Console := {
    address := config.address
    client := ← IO.mkRef (.ofConfig config)
    reader := ← IO.mkRef { maxSize := config.maxPacketSize }
    socket := ← IO.mkRef none
    lines := ← IO.mkRef []
    reading := ← IO.mkRef false
    events := ← Std.Channel.Sync.new }
  p.run (Program.start config.address)

/-! ## Queries -/

/-- A socket for datagrams that only come from a server. -/
def connectDatagrams (address : String) : Async UDP.Socket := do
  match ← resolve address with
  | [] => throw (.userError "no address")
  | remote :: _ =>
    let here : SocketAddress := match remote with
      | .v4 _ => .v4 ⟨.ofParts 0 0 0 0, 0⟩
      | .v6 _ => .v6 ⟨.ofParts 0 0 0 0 0 0 0 0, 0⟩
    let socket ← UDP.Socket.mk
    socket.bind here
    socket.connect remote
    return socket

/-- Sends a request and waits for the reply. -/
def request (socket : UDP.Socket) (timeout : Nat) (datagram : Bytes) :
    Async (Except Error Bytes) := do
  try
    socket.send ⟨datagram.toArray⟩
    Selectable.one #[
      .case (socket.recvSelector (UInt64.ofNat Query.maxReplyLength)) fun (reply, _) =>
        return .ok reply.data.toList,
      .case (← Selector.sleep (duration timeout)) fun () => return .error .timeout]
  catch _ => return .error .io

/-- Holds a conversation through a socket. -/
def converse {α : Type} (socket : UDP.Socket) (timeout : Nat) :
    Query.Exchange α → Async (Except Error α)
  | .done result => return result
  | .request datagram next => do
    converse socket timeout (next (← request socket timeout datagram))

/-- Holds a conversation with a server. -/
def ask {α : Type} (config : Config) (exchange : Query.Exchange α) : IO (Except Error α) := do
  let conversation : Async (Except Error α) := do
    converse (← connectDatagrams config.address) config.commandTimeout exchange
  try conversation.block catch _ => return .error .io

/-- Queries a server, and shows the report. -/
def query (config : Config) (family : Query.Family) : IO UInt32 := do
  let seed := Int32.ofNat (← IO.rand 0 Client.maxId.toInt.toNat)
  let session := seed &&& Query.Minecraft.sessionMask
  let info ← ask config (Query.info family session)
  let players ← match info with
    | .ok (.source _) => ask config Query.Source.players
    | _ => pure (.ok [])
  let result := Report.ofInfo (fun () => players) info
  display (.print result.output)
  match result.error with
  | none => return 0
  | some e =>
    display (.error (Report.failure e))
    return 1

end Console

/-- What the program does with its arguments. -/
def Console.main (args : List String) : IO UInt32 := do
  match Arguments.parse args with
  | .ok arguments =>
    let config := arguments.config
    match arguments.query with
    | some family => query config family
    | none => interact config
  | .error e =>
    e.turn.outputs.forM display
    match e.turn.demand with
    | .exit code => return UInt32.ofNat code
    | _ => return 0

end RemoteConsole.CommandLine

/-- Runs the program. -/
def main (args : List String) : IO UInt32 :=
  RemoteConsole.CommandLine.Console.main args
