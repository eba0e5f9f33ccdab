import RemoteConsole.Error
import RemoteConsole.Text.Encoding

/-!
# Packets

The unit of the protocol: a size field, an id, a type, a body and two zero bytes. The size field
counts everything after itself. Numbers are signed, of 32 bits and little-endian.
-/

namespace RemoteConsole

/-- The type of a packet. A server's answer to an authentication and a client's command share their
number on the wire; what a client receives is never a command. -/
inductive PacketType where
  /-- A response to a command, or part of one. -/
  | response
  /-- A command. -/
  | execCommand
  /-- The verdict on an authentication. -/
  | authResponse
  /-- A password. -/
  | auth
  /-- Any number, named or not. -/
  | unknown (wire : Int32)
deriving Repr, DecidableEq, Inhabited

/-- The number of a type on the wire. -/
def PacketType.toWire : PacketType → Int32
  | response => 0
  | execCommand | authResponse => 2
  | auth => 3
  | unknown wire => wire

/-- The type that a received number stands for. -/
def PacketType.ofWire (wire : Int32) : PacketType :=
  if wire = 0 then response
  else if wire = 2 then authResponse
  else if wire = 3 then auth
  else unknown wire

/-- A packet. -/
structure Packet where
  /-- The number that ties a response to its command. -/
  id : Int32
  /-- The type. -/
  type : PacketType
  /-- The text. -/
  body : String
deriving Repr, DecidableEq, Inhabited

namespace Packet

/-- The id of an authentication. -/
def authId : Int32 := 0

/-- The id of a verdict that rejects the password. -/
def authFailedId : Int32 := -1

/-- The length of the size field. -/
def sizeFieldLength : Nat := 4

/-- The least size: an id, a type and two zero bytes. -/
def minSize : Nat := 10

/-- The size that is allowed where nothing else is said. -/
def defaultMaxSize : Nat := 4200

/-- The bytes of a packet, or an error if its size would be above `maxSize`. -/
def encode (p : Packet) (e : Encoding) (maxSize : Nat) : Except Error Bytes :=
  let body := e.encode p.body
  let size := minSize + body.length
  if maxSize < size then .error (.packetTooLarge size maxSize)
  else
    -- the size field holds what is left of a size beyond four bytes
    .ok (Bytes.ofNat 4 size ++ Bytes.ofInt32 p.id ++ Bytes.ofInt32 p.type.toWire ++ body ++ [0, 0])

/-- The packet at the start of a buffer. The two bytes after the body are not looked at, and a body
that the encoding cannot read counts as empty, so that it does not cost the connection. -/
def decode (buf : Bytes) (e : Encoding) : Except Error Packet :=
  if buf.length < sizeFieldLength then .error (.malformedPacket .noSizeField)
  else
    let size := (Bytes.toInt32 buf).toInt
    if size < 0 ∨ (buf.length : Int) - sizeFieldLength < size then
      .error (.malformedPacket (.sizeDoesNotFit size buf.length))
    else if size.toNat < minSize then
      .error (.malformedPacket (.sizeBelowMinimum size.toNat minSize))
    else
      -- the body starts after the size, the id and the type
      let body := (buf.drop 12).take (size.toNat - minSize)
      .ok {
        id := Bytes.toInt32 (buf.drop 4)
        type := .ofWire (Bytes.toInt32 (buf.drop 8))
        body := (e.decode body).toOption.getD "" }

/-- The bytes of some packets, or the error of the first one that is too large. -/
def encodeAll (e : Encoding) (maxSize : Nat) : List Packet → Except Error Bytes
  | [] => .ok []
  | p :: ps => do
    let bytes ← p.encode e maxSize
    return bytes ++ (← encodeAll e maxSize ps)

end Packet

end RemoteConsole
