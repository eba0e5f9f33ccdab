import RemoteConsole.Address.Scan

/-!
# IP addresses

Reading and writing the two kinds of IP addresses. An IPv6 address can be written in many ways and
is always shown in one: small letters, no zeros in front, the first of the longest runs of two or
more zero groups left out, and an IPv4 address that is mapped into it shown as such.
-/

namespace RemoteConsole.Address

/-- An IPv4 address, by its four numbers. -/
structure IPv4 where
  /-- The first number. -/
  a : UInt8
  /-- The second number. -/
  b : UInt8
  /-- The third number. -/
  c : UInt8
  /-- The fourth number. -/
  d : UInt8
deriving Repr, DecidableEq

/-- An IPv6 address, by its eight groups of 16 bits. -/
structure IPv6 where
  /-- The groups. -/
  groups : List UInt16
  /-- There are eight of them. -/
  length_eq : groups.length = 8
deriving Repr, DecidableEq

/-- An IP address of either kind. -/
inductive Ip where
  /-- An IPv4 address. -/
  | v4 (ip : IPv4)
  /-- An IPv6 address. -/
  | v6 (ip : IPv6)
deriving Repr, DecidableEq

/-- One of the four numbers of an IPv4 address. -/
def IPv4.octet (first : Bool) : Scan UInt8 := fun cs =>
  (Scan.separated first '.' (Scan.number 10 (some 3) false 256) cs).map fun (n, cs) =>
    (UInt8.ofNat n, cs)

/-- An IPv4 address. -/
def IPv4.scan : Scan IPv4 := fun cs => do
  let (a, cs) ← octet true cs
  let (b, cs) ← octet false cs
  let (c, cs) ← octet false cs
  let (d, cs) ← octet false cs
  return (⟨a, b, c, d⟩, cs)

/-- The text of an IPv4 address. -/
def IPv4.text (ip : IPv4) : String :=
  s!"{ip.a.toNat}.{ip.b.toNat}.{ip.c.toNat}.{ip.d.toNat}"

/-- The two groups that an IPv4 address fills in an IPv6 address. -/
def IPv4.groups (ip : IPv4) : List UInt16 :=
  [UInt16.ofNat (ip.a.toNat * 256 + ip.b.toNat), UInt16.ofNat (ip.c.toNat * 256 + ip.d.toNat)]

namespace IPv6

/-- Up to `limit` groups. The last two may be written as an IPv4 address, which ends the groups; the
flag says that they were. -/
def scanGroups (first : Bool) : (limit : Nat) → List Char → List UInt16 × Bool × List Char
  | 0, cs => ([], false, cs)
  | limit + 1, cs =>
    let embedded := if limit = 0 then none else Scan.separated first ':' IPv4.scan cs
    match embedded with
    | some (ip, rest) => (ip.groups, true, rest)
    | none =>
      match Scan.separated first ':' (Scan.number 16 (some 4) true 65536) cs with
      | none => ([], false, cs)
      | some (n, rest) =>
        let (more, isEmbedded, rest) := scanGroups false limit rest
        (UInt16.ofNat n :: more, isEmbedded, rest)

/-- The address with these groups at its front and back and zeros between. -/
def ofParts? (front back : List UInt16) : Option IPv6 :=
  let groups := front ++ List.replicate (8 - front.length - back.length) 0 ++ back
  if h : groups.length = 8 then some ⟨groups, h⟩ else none

/-- An IPv6 address. Two colons stand for one or more zero groups. -/
def scan : Scan IPv6 := fun cs => do
  let (front, isEmbedded, cs) := scanGroups true 8 cs
  if front.length = 8 then
    return (← ofParts? front [], cs)
  -- an IPv4 address is the end of an IPv6 address
  if isEmbedded then
    none
  let (_, cs) ← Scan.char ':' cs
  let (_, cs) ← Scan.char ':' cs
  -- the two colons stand for one group at least
  let (back, _, cs) := scanGroups true (7 - front.length) cs
  return (← ofParts? front back, cs)

/-- The IPv4 address that is mapped into an IPv6 address. -/
def mapped? (ip : IPv6) : Option IPv4 :=
  match ip.groups with
  | [0, 0, 0, 0, 0, 0xFFFF, hi, lo] =>
    some ⟨UInt8.ofNat (hi.toNat / 256), UInt8.ofNat (hi.toNat % 256),
      UInt8.ofNat (lo.toNat / 256), UInt8.ofNat (lo.toNat % 256)⟩
  | _ => none

/-- The number of zero groups at the front of a list. -/
def zeroRun (groups : List UInt16) : Nat :=
  (groups.takeWhile (· == 0)).length

/-- Where the first of the longest runs of zero groups starts, and how long it is. -/
def longestZeroRun : List UInt16 → Nat × Nat
  | [] => (0, 0)
  | group :: groups =>
    let (start, length) := longestZeroRun groups
    let here := zeroRun (group :: groups)
    if length ≤ here && 0 < here then (0, here) else (start + 1, length)

/-- The text of some groups, with colons between. -/
def groupsText (groups : List UInt16) : String :=
  ":".intercalate (groups.map fun group => String.ofList (Nat.toDigits 16 group.toNat))

/-- The text of an IPv6 address. -/
def text (ip : IPv6) : String :=
  match ip.mapped? with
  | some v4 => "::ffff:" ++ v4.text
  | none =>
    let (start, length) := longestZeroRun ip.groups
    if length ≤ 1 then groupsText ip.groups
    else
      groupsText (ip.groups.take start) ++ "::" ++ groupsText (ip.groups.drop (start + length))

end IPv6

/-- An IP address of either kind. -/
def Ip.scan : Scan Ip := fun cs =>
  match IPv4.scan cs with
  | some (ip, rest) => some (.v4 ip, rest)
  | none => (IPv6.scan cs).map fun (ip, rest) => (.v6 ip, rest)

/-- The IP address that a text is. -/
def Ip.parse? (s : String) : Option Ip :=
  Scan.whole Ip.scan s

end RemoteConsole.Address
