/-!
# UTF-8

A character is written as one to four bytes. Reading goes byte by byte: between characters, or
inside one with a `Partial` that says which byte may come next. Bytes that are not UTF-8 are found
at the first byte that cannot be right, so a fault covers the longest beginning of a character that
stands there (a maximal subpart), or, at the end of the bytes, a character that is cut short.
-/

namespace RemoteConsole.Text.Utf8

/-- The bytes of one character. -/
def encodeChar (c : Char) : List UInt8 :=
  let n := c.toNat
  let last (k : Nat) : UInt8 := UInt8.ofNat (0x80 + k % 0x40)
  if n < 0x80 then [UInt8.ofNat n]
  else if n < 0x800 then [UInt8.ofNat (0xC0 + n / 0x40), last n]
  else if n < 0x10000 then [UInt8.ofNat (0xE0 + n / 0x1000), last (n / 0x40), last n]
  else [UInt8.ofNat (0xF0 + n / 0x40000), last (n / 0x1000), last (n / 0x40), last n]

/-- The bytes of a text. -/
def encode (s : String) : List UInt8 :=
  s.toList.flatMap encodeChar

/-- A character of which `taken` bytes are read and `missing + 1` bytes are to come. -/
structure Partial where
  /-- The bits read so far. -/
  value : Nat
  /-- The number of bytes read so far. -/
  taken : Nat
  /-- The number of bytes after the next one. -/
  missing : Nat
  /-- The least next byte. -/
  low : Nat
  /-- The greatest next byte. -/
  high : Nat
deriving Repr, DecidableEq

/-- What one more byte makes of a character. -/
inductive Step where
  /-- The character is complete. -/
  | done (c : Char)
  /-- More bytes are to come. -/
  | more (p : Partial)
  /-- The byte cannot stand there. -/
  | refused
deriving Repr, DecidableEq

/-- The first byte of a character. The range of the second byte keeps out long forms, surrogates and
numbers above `10FFFF`. -/
def start (b : UInt8) : Step :=
  let n := b.toNat
  if n < 0x80 then .done (Char.ofNat n)
  -- `C0` and `C1` could only begin a long form of one of those
  else if n < 0xC2 then .refused
  else if n < 0xE0 then .more ⟨n - 0xC0, 1, 0, 0x80, 0xBF⟩
  else if n < 0xF0 then
    .more ⟨n - 0xE0, 1, 1, if n = 0xE0 then 0xA0 else 0x80, if n = 0xED then 0x9F else 0xBF⟩
  else if n < 0xF5 then
    .more ⟨n - 0xF0, 1, 2, if n = 0xF0 then 0x90 else 0x80, if n = 0xF4 then 0x8F else 0xBF⟩
  else .refused

/-- A further byte of a character. -/
def Partial.add (p : Partial) (b : UInt8) : Step :=
  let n := b.toNat
  if p.low ≤ n ∧ n ≤ p.high then
    let value := p.value * 0x40 + (n - 0x80)
    match p.missing with
    | 0 => .done (Char.ofNat value)
    | k + 1 => .more ⟨value, p.taken + 1, k, 0x80, 0xBF⟩
  else .refused

/-- Where bytes stop being UTF-8. -/
structure Fault where
  /-- The index of the first byte of the faulty character. -/
  index : Nat
  /-- How many bytes it has, or `none` if the bytes end inside it. -/
  length : Option Nat
deriving Repr, DecidableEq

/-- The wording of a fault. -/
def Fault.message (f : Fault) : String :=
  match f.length with
  | some n => s!"invalid utf-8 sequence of {n} bytes from index {f.index}"
  | none => s!"incomplete utf-8 byte sequence from index {f.index}"

/-- The characters of the bytes, where the current character begins at `index` and `state` is what
is read of it. -/
def decodeFrom (index : Nat) (state : Option Partial) : List UInt8 → Except Fault (List Char)
  | [] =>
    match state with
    | none => .ok []
    | some _ => .error ⟨index, none⟩
  | b :: rest =>
    match state with
    | none =>
      match start b with
      | .done c => (decodeFrom (index + 1) none rest).map (c :: ·)
      | .more p => decodeFrom index (some p) rest
      | .refused => .error ⟨index, some 1⟩
    | some p =>
      match p.add b with
      | .done c => (decodeFrom (index + p.taken + 1) none rest).map (c :: ·)
      | .more p' => decodeFrom index (some p') rest
      | .refused => .error ⟨index, some p.taken⟩

/-- The text of the bytes, or the first fault. -/
def decode (bytes : List UInt8) : Except Fault String :=
  (decodeFrom 0 none bytes).map String.ofList

/-- The character that stands for bytes that are not UTF-8. -/
def replacement : Char := '\uFFFD'

/-- The characters of the bytes, with one `replacement` for each fault. A byte that breaks a
character off begins the next one. -/
def decodeLossyFrom (state : Option Partial) : List UInt8 → List Char
  | [] =>
    match state with
    | none => []
    | some _ => [replacement]
  | b :: rest =>
    let fresh (_ : Unit) : List Char :=
      match start b with
      | .done c => c :: decodeLossyFrom none rest
      | .more p => decodeLossyFrom (some p) rest
      | .refused => replacement :: decodeLossyFrom none rest
    match state with
    | none => fresh ()
    | some p =>
      match p.add b with
      | .done c => c :: decodeLossyFrom none rest
      | .more p' => decodeLossyFrom (some p') rest
      | .refused => replacement :: fresh ()

/-- The text of the bytes, with what is not UTF-8 replaced. -/
def decodeLossy (bytes : List UInt8) : String :=
  String.ofList (decodeLossyFrom none bytes)

end RemoteConsole.Text.Utf8
