import RemoteConsole.Bytes
import RemoteConsole.Text.Quoted

/-!
# Errors

The ways an operation can fail, as causes. The wording of each is in `Malformed.reason` and
`Error.message`, and nowhere else.
-/

namespace RemoteConsole

/-- What is wrong with a packet, a frame or a query's reply. -/
inductive Malformed where
  /-- A packet's buffer is shorter than a size field. -/
  | noSizeField
  /-- A packet's size field is negative or promises more than its buffer of `length` bytes holds. -/
  | sizeDoesNotFit (size : Int) (length : Nat)
  /-- A packet's size field is below `minimum`. -/
  | sizeBelowMinimum (size minimum : Nat)
  /-- A frame's size field is negative or above `max`. -/
  | frameSizeOutOfRange (size : Int) (max : Nat)
  /-- A reply of `length` bytes ends before `expected` bytes are read. -/
  | replyEnded (length expected : Nat)
  /-- A reply ends inside a text. -/
  | unterminatedText
  /-- A reply is cut into several datagrams. -/
  | splitReply
  /-- A reply starts with other bytes than it should. -/
  | unexpectedHeader (header : Bytes)
  /-- A reply is of another type than the one asked for. -/
  | unexpectedKind (expected actual : UInt8)
  /-- A reply belongs to another session. -/
  | foreignSession (actual expected : Int32)
  /-- A handshake's token is not a number. -/
  | invalidToken (text : String)
  /-- A number is missing or out of range. -/
  | notANumber (text : String)
  /-- A status lacks a value. -/
  | missingValue (key : String)
  /-- A server answers each request with another challenge. -/
  | endlessChallenges
  /-- A cause in other words. -/
  | described (text : String)
deriving Repr, DecidableEq

/-- The wording of what is wrong. -/
def Malformed.reason : Malformed → String
  | noSizeField => "buffer does not contain a size field"
  | sizeDoesNotFit size length =>
    s!"declared size {size} does not fit in a buffer of {length} bytes"
  | sizeBelowMinimum size minimum => s!"declared size {size} is below the minimum of {minimum}"
  | frameSizeOutOfRange size max => s!"frame size {size} outside of 0..={max}"
  | replyEnded length expected => s!"reply ended after {length} bytes, expected at least {expected}"
  | unterminatedText => "unterminated string in reply"
  | splitReply => "split replies spanning several datagrams are not supported"
  | unexpectedHeader header => "unexpected reply header " ++ Text.hexList header
  | unexpectedKind expected actual =>
    "expected reply type 0x" ++ Text.hexByte expected ++ ", got 0x" ++ Text.hexByte actual
  | foreignSession actual expected =>
    s!"reply for session {actual.toInt} while waiting for {expected.toInt}"
  | invalidToken text => "invalid challenge token " ++ Text.quote text
  | notANumber text => "expected a number, got " ++ Text.quote text
  | missingValue key => s!"full stat reply is missing `{key}`"
  | endlessChallenges => "server kept answering with new challenges"
  | described text => text

/-- The ways an operation can fail. -/
inductive Error where
  /-- The network failed. -/
  | io
  /-- A packet, a frame or a reply breaks the format. -/
  | malformedPacket (cause : Malformed)
  /-- A packet is larger than the connection allows. -/
  | packetTooLarge (size max : Nat)
  /-- The server rejected the password. -/
  | authenticationFailed
  /-- The server did not answer in time. -/
  | timeout
  /-- The connection was closed while something waited on it. -/
  | connectionClosed
  /-- There is no connection that is authenticated. -/
  | notConnected
  /-- A command is blank. -/
  | emptyCommand
  /-- No query protocol has this name. -/
  | unknownQueryFamily (name : String)
  /-- A response could not be turned into a value. -/
  | parse
deriving Repr, DecidableEq

/-- The wording of an error. -/
def Error.message : Error → String
  | io => "IO error"
  | malformedPacket cause => "malformed packet: " ++ cause.reason
  | packetTooLarge size max => s!"packet of {size} bytes exceeds the maximum of {max} bytes"
  | authenticationFailed => "authentication failed: invalid password"
  | timeout => "timed out waiting for the server"
  | connectionClosed => "connection closed"
  | notConnected => "not connected"
  | emptyCommand => "command must not be empty"
  | unknownQueryFamily name => s!"unknown query server family `{name}`"
  | parse => "failed to parse server response"

/-- Whether the server did not answer in time. -/
def Error.isTimeout : Error → Bool
  | timeout => true
  | _ => false

/-- Whether the connection was closed. -/
def Error.isConnectionClosed : Error → Bool
  | connectionClosed => true
  | _ => false

/-- Whether the server rejected the password. -/
def Error.isAuthFailed : Error → Bool
  | authenticationFailed => true
  | _ => false

/-- How an authentication fails. -/
inductive AuthError where
  /-- The server rejected the password; another one can be tried on the same connection. -/
  | invalidPassword
  /-- Anything else. -/
  | fatal (error : Error)
deriving Repr, DecidableEq

/-- The wording of a failed authentication. -/
def AuthError.message : AuthError → String
  | invalidPassword => "invalid password"
  | fatal error => error.message

/-- A failed authentication as an error of the operation that needed it. -/
def AuthError.toError : AuthError → Error
  | invalidPassword => .authenticationFailed
  | fatal error => error

end RemoteConsole
