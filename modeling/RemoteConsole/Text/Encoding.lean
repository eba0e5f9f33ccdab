import RemoteConsole.Text.Utf8

/-!
# Text encodings

The three ways a packet's body can be written. Two of them have one byte per character and write a
question mark for a character they have no byte for.
-/

namespace RemoteConsole

/-- The encoding of the bodies on a connection. -/
inductive Encoding where
  /-- UTF-8, which has bytes for every character. -/
  | utf8
  /-- The 128 characters of ASCII. -/
  | ascii
  /-- The first 256 characters, each as the byte of its number. -/
  | latin1
deriving Repr, DecidableEq, Inhabited

namespace Encoding

/-- The number of characters that a one-byte encoding has a byte for. -/
def limit : Encoding → Nat
  | utf8 => 0x110000
  | ascii => 0x80
  | latin1 => 0x100

/-- Whether the encoding has bytes for a character. -/
def represents (e : Encoding) (c : Char) : Bool :=
  c.toNat < e.limit

/-- The byte of a character in an encoding of one byte per character. -/
def encodeByte (e : Encoding) (c : Char) : UInt8 :=
  if e.represents c then UInt8.ofNat c.toNat else '?'.toUInt8

/-- The bytes of a text. -/
def encode (e : Encoding) (s : String) : List UInt8 :=
  match e with
  | utf8 => Text.Utf8.encode s
  | ascii | latin1 => s.toList.map e.encodeByte

/-- Why bytes are not a text. -/
inductive Fault where
  /-- They are not UTF-8. -/
  | utf8 (fault : Text.Utf8.Fault)
  /-- A byte is not ASCII; the first one stands at `offset`. -/
  | nonAscii (offset : Nat)
deriving Repr, DecidableEq

/-- The wording of a fault. -/
def Fault.message : Fault → String
  | utf8 fault => fault.message
  | nonAscii offset => s!"non-ASCII byte at offset {offset}"

/-- The text in which each byte is the character of its number. -/
def ofBytes (bytes : List UInt8) : String :=
  String.ofList (bytes.map fun b => Char.ofNat b.toNat)

/-- The text of the bytes, or the first fault. -/
def decode (e : Encoding) (bytes : List UInt8) : Except Fault String :=
  match e with
  | utf8 => (Text.Utf8.decode bytes).mapError Fault.utf8
  | ascii =>
    match bytes.findIdx? (0x80 ≤ ·) with
    | some offset => .error (.nonAscii offset)
    | none => .ok (ofBytes bytes)
  | latin1 => .ok (ofBytes bytes)

end Encoding

end RemoteConsole
