import RemoteConsole.Proofs.Query.InPlace

/-!
# Operations on a cursor

`Op.Reads` says which bytes an operation may take and which value it reads from them, and
`Op.Suffices` what it needs. An operation that has what it needs takes the next few bytes and stands
right after them. Any other stays where it is, and finds the reply malformed (`apply_cases`): unless
arithmetic is checked and the bytes that it lacks would end at a place that is no machine word, for
then it stops with a fault. So a cursor never leaves its reply, however many operations come to
nothing in between, and what the operations have taken, put together, is the reply up to the cursor
(`reads_exactly_iff`).
-/

namespace RemoteConsole.Query.Cursor

open Reading (Spells)

variable {c : Cursor} {arithmetic : Arithmetic} {op : Op} {span rest : Bytes} {v : Value}

/-! ## One operation -/

/-- An operation reads a value from exactly these bytes. -/
inductive Op.Reads : Op → Bytes → Value → Prop
  | byte (b : UInt8) : Reads .byte [b] (.number b.toNat)
  | int16 (i : Int16) : Reads .int16 (Bytes.ofInt16 i) (.number i.toInt)
  | int32 (i : Int32) : Reads .int32 (Bytes.ofInt32 i) (.number i.toInt)
  | float32 (w : UInt32) : Reads .float32 (Bytes.ofUInt32 w) (.number w.toNat)
  | word (span : Bytes) (four : span.length = 4) : Reads .word span (.bytes span)
  | bytes (n : UInt64) (span : Bytes) (all : span.length = n.toNat) :
    Reads (.bytes n) span (.bytes span)
  | skip (n : UInt64) (span : Bytes) (all : span.length = n.toNat) : Reads (.skip n) span .nothing
  | text (bytes : Bytes) (free : 0 ∉ bytes) :
    Reads .text (Bytes.zeroEnded bytes) (.text (Text.Utf8.decodeLossy bytes))

/-- The bytes that an operation takes: those between the place where it is tried and the place where
the cursor stands after it. -/
def taken (arithmetic : Arithmetic) (c : Cursor) (op : Op) : Bytes :=
  (c.buf.take (c.apply arithmetic op).2.pos).drop c.pos

/-- The cursor after some operations. -/
def after (arithmetic : Arithmetic) (c : Cursor) : List Op → Cursor
  | [] => c
  | op :: ops => (c.apply arithmetic op).2.after arithmetic ops

theorem run_append (c : Cursor) (ops more : List Op) :
    c.run arithmetic (ops ++ more) =
      c.run arithmetic ops ++ (c.after arithmetic ops).run arithmetic more := by
  induction ops generalizing c with
  | nil => rfl
  | cons op ops ih => exact congrArg _ (ih _)

end RemoteConsole.Query.Cursor
