import RemoteConsole.Query.Cursor
import RemoteConsole.Query.Exchange

/-!
# Source server queries

The A2S queries of Source servers: general information, and the list of players. A server may answer
a request with a challenge, four bytes that the next request has to carry.
-/

namespace RemoteConsole.Query.Source

/-- The header of a datagram that is a whole message. -/
def simpleHeader : Bytes := [0xFF, 0xFF, 0xFF, 0xFF]

/-- The header of a datagram that is a part of a message. -/
def splitHeader : Bytes := [0xFE, 0xFF, 0xFF, 0xFF]

/-- The kind of a request for information. -/
def infoRequestKind : UInt8 := 0x54

/-- The kind of a request for the players. -/
def playersRequestKind : UInt8 := 0x55

/-- The kind of a reply with information. -/
def infoKind : UInt8 := 0x49

/-- The kind of a reply with the players. -/
def playersKind : UInt8 := 0x44

/-- The kind of a challenge. -/
def challengeKind : UInt8 := 0x41

/-- The text in a request for information, with its zero byte. -/
def infoText : Bytes := Text.Utf8.encode "Source Engine Query" ++ [0]

/-- What stands for a challenge where there is none yet. -/
def noChallenge : Bytes := [0xFF, 0xFF, 0xFF, 0xFF]

/-- How many challenges are taken up before a query is given up. -/
def maxChallenges : Nat := 3

/-- A request for information, with the challenge if there is one. -/
def infoRequest (challenge : Option Bytes) : Bytes :=
  simpleHeader ++ [infoRequestKind] ++ infoText ++ challenge.getD []

/-- A request for the players. -/
def playersRequest (challenge : Bytes) : Bytes :=
  simpleHeader ++ [playersRequestKind] ++ challenge

/-- What a datagram says. -/
inductive Reply where
  /-- The next request must carry these four bytes. -/
  | challenge (token : Bytes)
  /-- A message of some kind. -/
  | payload (kind : UInt8) (bytes : Bytes)
deriving Repr, DecidableEq

/-- Reads the front of a datagram, and the token of a challenge. -/
def Reply.reading : Reading Reply := do
  let header ← Reading.bytes 4
  if header = splitHeader then
    throw (.malformedPacket .splitReply)
  if header ≠ simpleHeader then
    throw (.malformedPacket (.unexpectedHeader header))
  let kind ← Reading.byte
  if kind = challengeKind then
    return .challenge (← Reading.bytes 4)
  return .payload kind (← get).rest

/-- What a datagram says. -/
def Reply.parse (datagram : Bytes) : Except Error Reply :=
  Reply.reading.run datagram

/-- The kind of a server. -/
inductive ServerType where
  /-- A server of its own. -/
  | dedicated
  /-- A server inside a player's game. -/
  | nonDedicated
  /-- A relay for spectators. -/
  | sourceTv
  /-- Another kind. -/
  | unknown (code : UInt8)
deriving Repr, DecidableEq

/-- The kind that a byte stands for. -/
def ServerType.ofByte (code : UInt8) : ServerType :=
  if code = 'd'.toUInt8 then dedicated
  else if code = 'l'.toUInt8 then nonDedicated
  else if code = 'p'.toUInt8 then sourceTv
  else unknown code

/-- The name of a kind of server. -/
def ServerType.name : ServerType → String
  | dedicated => "Dedicated"
  | nonDedicated => "NonDedicated"
  | sourceTv => "SourceTv"
  | unknown code => s!"Unknown({code.toNat})"

/-- The operating system of a server. -/
inductive Environment where
  /-- Linux. -/
  | linux
  /-- Windows. -/
  | windows
  /-- Mac, by either of its two codes. -/
  | mac
  /-- Another one. -/
  | unknown (code : UInt8)
deriving Repr, DecidableEq

/-- The operating system that a byte stands for. -/
def Environment.ofByte (code : UInt8) : Environment :=
  if code = 'l'.toUInt8 then linux
  else if code = 'w'.toUInt8 then windows
  else if code = 'm'.toUInt8 ∨ code = 'o'.toUInt8 then mac
  else unknown code

/-- The name of an operating system. -/
def Environment.name : Environment → String
  | linux => "Linux"
  | windows => "Windows"
  | mac => "Mac"
  | unknown code => s!"Unknown({code.toNat})"

/-- What a server says about itself. -/
structure Info where
  /-- The version of the protocol. -/
  protocol : UInt8
  /-- The server's name. -/
  name : String
  /-- The map. -/
  map : String
  /-- The folder of the game. -/
  folder : String
  /-- The game. -/
  game : String
  /-- The game's number. -/
  appId : Int16
  /-- The number of players. -/
  players : UInt8
  /-- The number of players there is room for. -/
  maxPlayers : UInt8
  /-- The number of players that are bots. -/
  bots : UInt8
  /-- The kind of server. -/
  serverType : ServerType
  /-- The operating system. -/
  environment : Environment
  /-- Whether a password is needed to play. -/
  isPrivate : Bool
  /-- Whether cheaters are banned. -/
  vacSecured : Bool
deriving Repr, DecidableEq

/-- Reads a server's information, after the kind. -/
def Info.reading : Reading Info := do
  let protocol ← Reading.byte
  let name ← Reading.text
  let map ← Reading.text
  let folder ← Reading.text
  let game ← Reading.text
  let appId ← Reading.int16
  let players ← Reading.byte
  let maxPlayers ← Reading.byte
  let bots ← Reading.byte
  let serverType ← Reading.byte
  let environment ← Reading.byte
  let locked ← Reading.byte
  let vacSecured ← Reading.byte
  return {
    protocol, name, map, folder, game, appId, players, maxPlayers, bots
    serverType := .ofByte serverType
    environment := .ofByte environment
    isPrivate := locked != 0
    vacSecured := vacSecured != 0 }

/-- A server's information in a payload. -/
def Info.parse (payload : Bytes) : Except Error Info :=
  Info.reading.run payload

/-- A player on a server. -/
structure Player where
  /-- The player's number. -/
  index : UInt8
  /-- The player's name. -/
  name : String
  /-- The score. -/
  score : Int32
  /-- The bits of the number of seconds spent on the server, a 32-bit floating point number. -/
  duration : UInt32
deriving Repr, DecidableEq

/-- Reads one player. -/
def Player.reading : Reading Player := do
  let index ← Reading.byte
  let name ← Reading.text
  let score ← Reading.int32
  let duration ← Reading.float32Bits
  return { index, name, score, duration }

/-- Reads a number of players. -/
def Player.readingList : Nat → Reading (List Player)
  | 0 => return []
  | n + 1 => do
    let player ← Player.reading
    return player :: (← Player.readingList n)

/-- Reads a list of players with its length in front. -/
def Player.readingAll : Reading (List Player) := do
  let count ← Reading.byte
  Player.readingList count.toNat

/-- The players in a payload. -/
def Player.parseAll (payload : Bytes) : Except Error (List Player) :=
  Player.readingAll.run payload

/-- A query that takes up to `rounds` requests: `request` makes a request from the latest challenge,
and `parse` reads a payload of the kind asked for. -/
def query {α : Type} (kind : UInt8) (parse : Bytes → Except Error α)
    (request : Option Bytes → Bytes) : (rounds : Nat) → (challenge : Option Bytes) → Exchange α
  | 0, _ => .done (.error (.malformedPacket .endlessChallenges))
  | rounds + 1, challenge =>
    .ask (request challenge) fun datagram =>
      match Reply.parse datagram with
      | .error e => .done (.error e)
      | .ok (.challenge token) => query kind parse request rounds (some token)
      | .ok (.payload actual payload) =>
        if actual = kind then .done (parse payload)
        else .done (.error (.malformedPacket (.unexpectedKind kind actual)))

/-- The query for a server's information. -/
def info : Exchange Info :=
  query infoKind Info.parse infoRequest (maxChallenges + 1) none

/-- The query for a server's players. -/
def players : Exchange (List Player) :=
  query playersKind Player.parseAll (fun challenge => playersRequest (challenge.getD noChallenge))
    (maxChallenges + 1) none

end RemoteConsole.Query.Source
