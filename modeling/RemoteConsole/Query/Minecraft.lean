import RemoteConsole.Query.Cursor
import RemoteConsole.Query.Exchange
import RemoteConsole.Text.Blank
import RemoteConsole.Text.Decimal

/-!
# Minecraft server queries

A handshake that yields a token, and a request for the full status that carries it. Numbers in the
frame of a message are big-endian; inside they are decimal texts.
-/

namespace RemoteConsole.Query.Minecraft

/-- The bytes in front of every request. -/
def magic : Bytes := [0xFE, 0xFD]

/-- The kind of a handshake. -/
def handshakeKind : UInt8 := 0x09

/-- The kind of a status. -/
def statusKind : UInt8 := 0x00

/-- The bits of a session's number that servers look at. -/
def sessionMask : Int32 := 0x0F0F0F0F

/-- The number of bytes before a status's values: kind, session and a constant. -/
def statusHeaderLength : Nat := 16

/-- The number of bytes between a status's values and its players. -/
def playersPaddingLength : Nat := 10

/-- The first request of a session. -/
def handshakeRequest (session : Int32) : Bytes :=
  magic ++ [handshakeKind] ++ Bytes.ofInt32BE session

/-- The request for the full status, which four more bytes tell from the one for a short status. -/
def statusRequest (session token : Int32) : Bytes :=
  magic ++ [statusKind] ++ Bytes.ofInt32BE session ++ Bytes.ofInt32BE token ++ [0, 0, 0, 0]

/-- Reads the front of a reply and checks that it is of the kind and the session asked for. -/
def header (kind : UInt8) (session : Int32) : Reading Unit := do
  let actualKind ← Reading.byte
  if actualKind ≠ kind then
    throw (.malformedPacket (.unexpectedKind kind actualKind))
  let actualSession ← Reading.int32BE
  if actualSession ≠ session then
    throw (.malformedPacket (.foreignSession actualSession session))

/-- The signed 32-bit number that a token's text stands for. -/
def token? (text : String) : Option Int32 :=
  (Text.integer? 2147483648 (Text.trim text)).map Int32.ofInt

/-- Reads the reply to a handshake. -/
def tokenReading (session : Int32) : Reading Int32 := do
  header handshakeKind session
  let text ← Reading.text
  match token? text with
  | some token => return token
  | none => throw (.malformedPacket (.invalidToken text))

/-- The token in the reply to a handshake. -/
def parseToken (reply : Bytes) (session : Int32) : Except Error Int32 :=
  (tokenReading session).run reply

/-- What a server says about itself. -/
structure Info where
  /-- The message of the day. -/
  motd : String
  /-- The type of game. -/
  gameType : String
  /-- The game. -/
  gameId : String
  /-- The version of the game. -/
  version : String
  /-- The plugins. -/
  plugins : String
  /-- The map. -/
  map : String
  /-- The number of players. -/
  numPlayers : Nat
  /-- The number of players there is room for. -/
  maxPlayers : Nat
  /-- The port to play on. -/
  hostPort : Nat
  /-- The address to play on. -/
  hostIp : String
  /-- The names of the players. -/
  players : List String
deriving Repr, DecidableEq

/-- Reads keys with their values up to an empty key. -/
def values (c : Cursor) : Except Error (List (String × String) × Cursor) :=
  match h : Reading.text c with
  | .error e => .error e
  | .ok (key, c₁) =>
    if key = "" then .ok ([], c₁)
    else
      match h₁ : Reading.text c₁ with
      | .error e => .error e
      | .ok (value, c₂) =>
        have := Reading.rest_lt_of_text h
        have := Reading.rest_lt_of_text h₁
        (values c₂).map fun (rest, c') => ((key, value) :: rest, c')
termination_by c.rest.length

/-- Reads names up to an empty one or the end of the reply. -/
def names (c : Cursor) : Except Error (List String × Cursor) :=
  if c.isEmpty then .ok ([], c)
  else
    match h : Reading.text c with
    | .error e => .error e
    | .ok (name, c₁) =>
      if name = "" then .ok ([], c₁)
      else
        have := Reading.rest_lt_of_text h
        (names c₁).map fun (rest, c') => (name :: rest, c')
termination_by c.rest.length

/-- The last value given for a key. -/
def lookup? (pairs : List (String × String)) (key : String) : Option String :=
  (pairs.reverse.find? (·.1 == key)).map Prod.snd

/-- The last value given for a key, which must be there. -/
def require (pairs : List (String × String)) (key : String) : Except Error String :=
  match lookup? pairs key with
  | some value => .ok value
  | none => .error (.malformedPacket (.missingValue key))

/-- The number below `bound` that a value stands for. -/
def number (bound : Nat) (value : String) : Except Error Nat :=
  match Text.natural? bound (Text.trim value) with
  | some n => .ok n
  | none => .error (.malformedPacket (.notANumber value))

/-- The information in the values of a status. The first value that is missing or no number, in this
order, is the one reported. -/
def Info.ofValues (pairs : List (String × String)) (players : List String) :
    Except Error Info := do
  let motd ← require pairs "hostname"
  let gameType ← require pairs "gametype"
  let gameId ← require pairs "game_id"
  let version ← require pairs "version"
  let plugins := (lookup? pairs "plugins").getD ""
  let map ← require pairs "map"
  let numPlayers ← number UInt32.size (← require pairs "numplayers")
  let maxPlayers ← number UInt32.size (← require pairs "maxplayers")
  let hostPort ← number UInt16.size (← require pairs "hostport")
  let hostIp ← require pairs "hostip"
  return { motd, gameType, gameId, version, plugins, map, numPlayers, maxPlayers, hostPort, hostIp
           players }

/-- Reads a full status. -/
def Info.reading (session : Int32) : Reading Info := do
  header statusKind session
  Reading.skip (statusHeaderLength - 5)
  let pairs ← values
  Reading.skip playersPaddingLength
  let players ← names
  ofValues pairs players

/-- The information in a full status. -/
def Info.parse (reply : Bytes) (session : Int32) : Except Error Info :=
  (Info.reading session).run reply

/-- The query for a server's information in a session. -/
def info (session : Int32) : Exchange Info :=
  .ask (handshakeRequest session) fun reply =>
    match parseToken reply session with
    | .error e => .done (.error e)
    | .ok token =>
      .ask (statusRequest session token) fun reply => .done (Info.parse reply session)

end RemoteConsole.Query.Minecraft
