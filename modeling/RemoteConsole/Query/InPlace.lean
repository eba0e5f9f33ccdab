import RemoteConsole.Query.Cursor

/-!
# Operations in place

The operations on a cursor as they are carried out on machine words. The cursor is moved in place,
and stays where it was moved even if an operation fails afterwards. A slice that is out of range and
a copy between unequal lengths stop an operation with a fault. A sum or a difference that is no
machine word does so too where the program is built with checked arithmetic, and wraps where it is
not.
-/

namespace RemoteConsole.Query

/-- How a program is built. -/
inductive Arithmetic where
  /-- A sum or a difference that is no machine word is a fault. -/
  | checked
  /-- Sums and differences wrap. -/
  | wrapping
deriving Repr, DecidableEq

/-- What an operation asks for that there is not. -/
inductive Fault where
  /-- A sum. -/
  | sum
  /-- A difference. -/
  | difference
  /-- Some bytes. -/
  | slice
  /-- A copy between places of unequal lengths. -/
  | copy
deriving Repr, DecidableEq

/-- What stops an operation. -/
inductive Stop where
  /-- It fails. -/
  | failure (e : Error)
  /-- The whole program stops at a fault. -/
  | fault (f : Fault)
deriving Repr, DecidableEq

/-- A reading that moves the cursor in place. -/
abbrev InPlace (α : Type) := EStateM Stop Cursor α

namespace InPlace

variable (arithmetic : Arithmetic)

/-- A sum of machine words. -/
def sum (a b : Nat) : InPlace Nat :=
  if a + b < UInt64.size then return a + b
  else
    match arithmetic with
    | .checked => throw (.fault .sum)
    | .wrapping => return (a + b) % UInt64.size

/-- A difference of machine words. -/
def difference (a b : Nat) : InPlace Nat :=
  if b ≤ a then return a - b
  else
    match arithmetic with
    | .checked => throw (.fault .difference)
    | .wrapping => return UInt64.size + a - b

/-- The bytes between two places, if these are in range and in order. -/
def slice (buf : Bytes) (i j : Nat) : InPlace Bytes :=
  if i ≤ j ∧ j ≤ buf.length then return (buf.take j).drop i else throw (.fault .slice)

/-- The next `n` bytes. -/
def bytes (n : Nat) : InPlace Bytes := do
  let c ← get
  if (← difference arithmetic c.buf.length c.pos) < n then
    -- Nothing bounds this sum, which only the text of the failure needs.
    let expected ← sum arithmetic c.pos n
    throw (.failure (.malformedPacket (.replyEnded c.buf.length expected)))
  let span ← slice c.buf c.pos (← sum arithmetic c.pos n)
  set { c with pos := ← sum arithmetic c.pos n }
  return span

/-- Passes over `n` bytes. -/
def skip (n : Nat) : InPlace Unit := do
  let _ ← bytes arithmetic n

/-- A byte. -/
def byte : InPlace UInt8 := do
  match (← bytes arithmetic 1)[0]? with
  | some b => return b
  | none => throw (.fault .slice)

/-- A copy of the next `n` bytes to a place of that length. -/
def array (n : Nat) : InPlace Bytes := do
  let span ← bytes arithmetic n
  if span.length = n then return span else throw (.fault .copy)

/-- A signed 16-bit number. -/
def int16 : InPlace Int16 := do
  return Bytes.toInt16 (← array arithmetic 2)

/-- A signed 32-bit number. -/
def int32 : InPlace Int32 := do
  return Bytes.toInt32 (← array arithmetic 4)

/-- The bits of a 32-bit floating point number. -/
def float32Bits : InPlace UInt32 := do
  return UInt32.ofNat (Bytes.toNat (← array arithmetic 4))

/-- A text that ends with a zero byte, which is read too. -/
def text : InPlace String := do
  let c ← get
  let rest ← slice c.buf (min c.pos c.buf.length) c.buf.length
  match rest.findIdx? (· == 0) with
  | none => throw (.failure (.malformedPacket .unterminatedText))
  | some n =>
    let s := Text.Utf8.decodeLossy (← slice rest 0 n)
    set { c with pos := ← sum arithmetic c.pos (← sum arithmetic n 1) }
    return s

end InPlace

namespace Cursor

/-- An operation on a cursor. -/
inductive Op where
  /-- Reads a byte. -/
  | byte
  /-- Reads a signed 16-bit number. -/
  | int16
  /-- Reads a signed 32-bit number. -/
  | int32
  /-- Reads the bits of a 32-bit floating point number. -/
  | float32
  /-- Reads four bytes. -/
  | word
  /-- Reads some bytes. -/
  | bytes (n : UInt64)
  /-- Passes over some bytes. -/
  | skip (n : UInt64)
  /-- Reads a text. -/
  | text
deriving Repr, DecidableEq

/-- What an operation reads. -/
inductive Value where
  /-- A number. -/
  | number (n : Int)
  /-- Bytes. -/
  | bytes (b : Bytes)
  /-- A text. -/
  | text (s : String)
  /-- Nothing. -/
  | nothing
deriving Repr, DecidableEq

/-- What is done in an operation. -/
def Op.inPlace (arithmetic : Arithmetic) : Op → InPlace Value
  | .byte => return .number (← InPlace.byte arithmetic).toNat
  | .int16 => return .number (← InPlace.int16 arithmetic).toInt
  | .int32 => return .number (← InPlace.int32 arithmetic).toInt
  | .float32 => return .number (← InPlace.float32Bits arithmetic).toNat
  | .word => return .bytes (← InPlace.array arithmetic 4)
  | .bytes n => return .bytes (← InPlace.bytes arithmetic n.toNat)
  | .skip n => do
    InPlace.skip arithmetic n.toNat
    return .nothing
  | .text => return .text (← InPlace.text arithmetic)

/-- Runs one operation: what it reads or what stops it, and the cursor after it. -/
def apply (arithmetic : Arithmetic) (c : Cursor) (op : Op) : Except Stop Value × Cursor :=
  match op.inPlace arithmetic c with
  | .ok v c' => (.ok v, c')
  | .error e c' => (.error e, c')

/-- Runs some operations: what each comes to, and the cursor after it. -/
def run (arithmetic : Arithmetic) (c : Cursor) : List Op → List (Except Stop Value × Cursor)
  | [] => []
  | op :: ops => c.apply arithmetic op :: (c.apply arithmetic op).2.run arithmetic ops

end Cursor

end RemoteConsole.Query
