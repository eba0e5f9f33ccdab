import RemoteConsole.Error
import RemoteConsole.Text.Utf8

/-!
# Reading a reply

A cursor walks over the bytes of a reply from the front. Every operation says how many bytes it
needs, fails if the reply has fewer left, and stands right after the bytes it has read otherwise.
-/

namespace RemoteConsole.Query

/-- A place in a reply. -/
structure Cursor where
  /-- The reply. -/
  buf : Bytes
  /-- The number of bytes already read. -/
  pos : Nat := 0
deriving Repr, DecidableEq

namespace Cursor

/-- The bytes not read yet. -/
def rest (c : Cursor) : Bytes :=
  c.buf.drop c.pos

/-- Whether every byte is read. -/
def isEmpty (c : Cursor) : Bool :=
  c.buf.length ≤ c.pos

end Cursor

/-- A value read from a reply at a cursor, and the cursor after it. -/
abbrev Reading (α : Type) := StateT Cursor (Except Error) α

namespace Reading

/-- The next `n` bytes. If there are fewer, the place where they should have ended is told as a
machine word: `InPlace.bytes` says what comes of a place that is none. -/
def bytes (n : Nat) : Reading Bytes := fun c =>
  if c.buf.length - c.pos < n then
    .error (.malformedPacket (.replyEnded c.buf.length ((c.pos + n) % UInt64.size)))
  else .ok (c.rest.take n, { c with pos := c.pos + n })

/-- Passes over `n` bytes. -/
def skip (n : Nat) : Reading Unit := do
  let _ ← bytes n

/-- A byte. -/
def byte : Reading UInt8 := do
  return UInt8.ofNat (Bytes.toNat (← bytes 1))

/-- A signed 16-bit number. -/
def int16 : Reading Int16 := do
  return Bytes.toInt16 (← bytes 2)

/-- A signed 32-bit number. -/
def int32 : Reading Int32 := do
  return Bytes.toInt32 (← bytes 4)

/-- A signed 32-bit number, highest byte first. -/
def int32BE : Reading Int32 := do
  return Bytes.toInt32BE (← bytes 4)

/-- The bits of a 32-bit floating point number. -/
def float32Bits : Reading UInt32 := do
  return UInt32.ofNat (Bytes.toNat (← bytes 4))

/-- A text that ends with a zero byte, which is read too. What is not UTF-8 is replaced. -/
def text : Reading String := fun c =>
  match c.rest.findIdx? (· == 0) with
  | none => .error (.malformedPacket .unterminatedText)
  | some n => .ok (Text.Utf8.decodeLossy (c.rest.take n), { c with pos := c.pos + n + 1 })

/-- Reading a text leaves less to read. -/
theorem rest_lt_of_text {c c' : Cursor} {s : String} (h : text c = .ok (s, c')) :
    c'.rest.length < c.rest.length := by
  unfold text at h
  split at h
  · cases h
  · rename_i n hn
    cases h
    have hlt : n < c.rest.length := (List.findIdx?_eq_some_iff_findIdx_eq.1 hn).1
    simp only [Cursor.rest, List.length_drop] at *
    omega

/-- Reads a whole reply. Bytes that are left do not matter. -/
def run {α : Type} (r : Reading α) (reply : Bytes) : Except Error α :=
  (r { buf := reply }).map Prod.fst

end Reading

end RemoteConsole.Query
