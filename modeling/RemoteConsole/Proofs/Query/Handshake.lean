import RemoteConsole.Proofs.Query.Status
import RemoteConsole.Proofs.Text.Digits

/-!
# Handshakes of Minecraft servers

A reply belongs to a query if it starts with the kind that is waited for and the session; any other
is malformed (`header_cases`). The token in the reply to a handshake is a number in decimal, and the
request for the status carries the same number in four bytes (`handshake_carries_token`).
-/

namespace RemoteConsole.Query.Minecraft

open Reading (Spells)
open Text.Utf8 (encode)

variable {kind : UInt8} {session : Int32} {c : Cursor} {reply : Bytes}

/-- The bytes that a reply of a kind to a session starts with. -/
def headerBytes (kind : UInt8) (session : Int32) : Bytes :=
  [kind] ++ Bytes.ofInt32BE session

/-! ## Headers -/

theorem byte_cases (c : Cursor) :
    (∃ cause, Reading.byte c = .error (.malformedPacket cause)) ∨
      ∃ b rest, c.rest = [b] ++ rest := by
  cases hrest : c.rest with
  | nil =>
    have hprefix : c.rest <+: [0] := hrest ▸ List.nil_prefix
    exact .inl ((Reading.spells_byte 0).cut c hprefix (by rw [hrest]; exact nofun))
  | cons b rest => exact .inr ⟨b, rest, rfl⟩

theorem int32BE_cases (c : Cursor) :
    (∃ cause, Reading.int32BE c = .error (.malformedPacket cause)) ∨
      ∃ i rest, c.rest = Bytes.ofInt32BE i ++ rest := by
  by_cases hshort : c.rest.length < 4
  · have hlength := c.length_rest
    have hbytes : Reading.bytes 4 c = .error _ := if_pos (by omega)
    exact .inl ⟨_, Reading.bind_of_error hbytes⟩
  · have hback := Bytes.ofInt32BE_toInt32BE (List.length_take_of_le (Nat.le_of_not_lt hshort))
    exact .inr ⟨_, c.rest.drop 4, by rw [hback, List.take_append_drop]⟩

/-- A reply is malformed unless it is of the kind and the session asked for. -/
theorem header_cases (kind : UInt8) (session : Int32) (c : Cursor) :
    (∃ cause, header kind session c = .error (.malformedPacket cause)) ∨
      ∃ rest, c.rest = headerBytes kind session ++ rest := by
  rcases byte_cases c with ⟨cause, hcause⟩ | ⟨actualKind, rest, hc⟩
  · exact .inl ⟨cause, Reading.bind_of_error hcause⟩
  have hkind := (Reading.spells_byte actualKind).reads c rest hc
  have hrest : (c.advance [actualKind].length).rest = rest := by
    rw [Cursor.rest_advance, hc, List.drop_left]
  rw [header, Reading.bind_of_ok hkind]
  by_cases hk : actualKind = kind
  · rw [if_neg (not_not_intro hk)]
    rcases int32BE_cases (c.advance [actualKind].length) with ⟨cause, hcause⟩ | ⟨actual, rest', hc'⟩
    · exact .inl ⟨cause, Reading.bind_of_error hcause⟩
    have hactual := (Reading.spells_int32BE actual).reads _ rest' hc'
    by_cases hs : actual = session
    · rw [hrest] at hc'
      exact .inr ⟨rest', by rw [hc, hc', hk, hs, headerBytes, List.append_assoc]⟩
    · refine .inl ⟨.foreignSession actual session, (Reading.bind_of_ok hactual).trans ?_⟩
      rw [if_pos hs]
      rfl
  · exact .inl ⟨.unexpectedKind kind actualKind, by rw [if_pos hk]; rfl⟩

/-- A reply that starts otherwise is malformed, whatever is to be read after the start. -/
theorem run_header_of_not_prefix {α : Type} (k : Unit → Reading α)
    (h : ¬ headerBytes kind session <+: reply) :
    ∃ cause, (header kind session >>= k).run reply = .error (.malformedPacket cause) := by
  rcases header_cases kind session { buf := reply } with ⟨cause, hcause⟩ | ⟨rest, hreply⟩
  · exact ⟨cause, by rw [Reading.run, Reading.bind_of_error hcause]; rfl⟩
  · exact absurd ⟨rest, hreply.symm⟩ h

theorem parseToken_of_not_prefix (h : ¬ headerBytes handshakeKind session <+: reply) :
    ∃ cause, parseToken reply session = .error (.malformedPacket cause) :=
  run_header_of_not_prefix _ h

/-- Whatever is read after a start, the reply has that start. -/
theorem prefix_of_run_header {α : Type} {k : Unit → Reading α} {a : α}
    (h : (header kind session >>= k).run reply = .ok a) : headerBytes kind session <+: reply := by
  by_contra hprefix
  obtain ⟨cause, hcause⟩ := run_header_of_not_prefix k hprefix
  rw [hcause] at h
  cases h

theorem prefix_of_parseToken {t : Int32} (h : parseToken reply session = .ok t) :
    headerBytes handshakeKind session <+: reply :=
  prefix_of_run_header h

theorem prefix_of_parse {info : Info} (h : Info.parse reply session = .ok info) :
    headerBytes statusKind session <+: reply :=
  prefix_of_run_header h

/-- The start of a reply says which session it belongs to. -/
theorem session_eq_of_start {other : Int32} {rest : Bytes}
    (h : headerBytes kind session <+: headerBytes kind other ++ rest) : session = other := by
  obtain ⟨tail, htail⟩ := h
  have hlength : (headerBytes kind session).length = (headerBytes kind other).length := rfl
  have hids : Bytes.ofInt32BE session = Bytes.ofInt32BE other :=
    (List.cons.inj (List.append_inj htail hlength).1).2
  rw [← Bytes.toInt32BE_ofInt32BE session, hids, Bytes.toInt32BE_ofInt32BE]

/-! ## Tokens -/

theorem token?_toString (t : Int32) : token? (toString t.toInt) = some t := by
  have hblank (c : Char) (hc : c ∈ (toString t.toInt).toList) : Text.isBlank c = false := by
    rcases Text.mem_toString hc with rfl | ⟨d, hd, rfl⟩
    · rfl
    · have digits : ∀ d < 10, Text.isBlank (Nat.digitChar d) = false := by decide
      exact digits d hd
  have hinteger : Text.integer? 2147483648 (toString t.toInt) = some t.toInt :=
    Text.integer?_toString t.le_toInt t.toInt_lt
  rw [token?, Text.trim_eq_self hblank, hinteger, Option.map_some, Int32.ofInt_toInt]

/-- The reply to a handshake gives the token that it names in decimal. -/
theorem parseToken_toString (session t : Int32) (rest : Bytes) :
    parseToken (headerBytes handshakeKind session ++ encode (toString t.toInt) ++ [0] ++ rest)
      session = .ok t := by
  have hfree : '\x00' ∉ (toString t.toInt).toList := by
    intro h
    rcases Text.mem_toString h with h | ⟨d, hd, h⟩
    · cases h
    · have digits : ∀ d < 10, '\x00' ≠ Nat.digitChar d := by decide
      exact digits d hd h
  have hspells : Spells (tokenReading session)
      (headerBytes handshakeKind session ++ Bytes.ofText (toString t.toInt)) t := by
    refine (spells_header handshakeKind session).bind ?_
    refine (Reading.spells_ofText hfree).bind_last ?_
    rw [token?_toString]
    exact Spells.pure t
  have hrun := hspells.run rest
  rwa [Bytes.ofText, Bytes.zeroEnded, ← List.append_assoc] at hrun

/-! ## Both rounds -/

/-- How a query goes in a session whose bytes are `id`, by the outcomes of its two receives. -/
structure Carries (session : Int32) (id : Bytes) (first second : Except Error Bytes)
    (requests : List Bytes) (result : Except Error Info) : Prop where
  /-- A token is carried by the one request that follows. -/
  granted : ∀ reply t, first = .ok reply → parseToken reply session = .ok t →
    ∃ token, Bytes.BigEndian token t ∧
      requests = [[0xFE, 0xFD, 0x09] ++ id, [0xFE, 0xFD, 0x00] ++ id ++ token ++ [0, 0, 0, 0]]
  /-- Without a token no other request follows. -/
  denied : (∀ reply t, first = .ok reply → parseToken reply session ≠ .ok t) →
    requests = [[0xFE, 0xFD, 0x09] ++ id]
  /-- Information comes from a reply of the right kind and session, and so did the token. -/
  informed : ∀ info, result = .ok info → ∃ rest rest', first = .ok ([0x09] ++ id ++ rest) ∧
    second = .ok ([0x00] ++ id ++ rest')

theorem run_info_of_token {t : Int32} (h : parseToken reply session = .ok t)
    (second : Except Error Bytes) : (info session).run [.ok reply, second] =
      ([handshakeRequest session, statusRequest session t],
        second.bind fun reply' => Info.parse reply' session) := by
  rw [info, Exchange.run_ask_ok, h]
  cases second <;> rfl

theorem run_info_of_no_token {first : Except Error Bytes}
    (h : ∀ reply t, first = .ok reply → parseToken reply session ≠ .ok t)
    (second : Except Error Bytes) :
    ∃ e, (info session).run [first, second] = ([handshakeRequest session], .error e) := by
  cases first with
  | error e => exact ⟨e, Exchange.run_ask_error ..⟩
  | ok reply =>
    cases htoken : parseToken reply session with
    | error e => exact ⟨e, by rw [info, Exchange.run_ask_ok, htoken]; rfl⟩
    | ok t => exact absurd htoken (h reply t rfl)

theorem run_info_carries (session : Int32) (first second : Except Error Bytes) :
    Carries session (Bytes.ofInt32BE session) first second
      ((info session).run [first, second]).1 ((info session).run [first, second]).2 := by
  by_cases hfirst : ∃ reply t, first = .ok reply ∧ parseToken reply session = .ok t
  · obtain ⟨reply, t, rfl, htoken⟩ := hfirst
    rw [run_info_of_token htoken second]
    refine ⟨fun reply' t' hreply ht => ?_, fun h => absurd htoken (h reply t rfl), fun info h => ?_⟩
    · obtain rfl := Except.ok.inj hreply
      obtain rfl := Except.ok.inj (htoken.symm.trans ht)
      exact ⟨Bytes.ofInt32BE t, Bytes.bigEndian_iff.mpr rfl, rfl⟩
    · cases second with
      | error e => cases h
      | ok reply' =>
        obtain ⟨rest, hrest⟩ := prefix_of_parseToken htoken
        obtain ⟨rest', hrest'⟩ := prefix_of_parse h
        exact ⟨rest, rest', congrArg Except.ok hrest.symm, congrArg Except.ok hrest'.symm⟩
  · have hnone (reply : Bytes) (t : Int32) (h : first = .ok reply) :
        parseToken reply session ≠ .ok t := fun ht => hfirst ⟨reply, t, h, ht⟩
    obtain ⟨e, hrun⟩ := run_info_of_no_token hnone second
    rw [hrun]
    exact ⟨fun reply t h ht => absurd ht (hnone reply t h), fun _ => rfl, nofun⟩

/-- What the token of a handshake is in decimal, the request for the status carries in four bytes.
The reply to a handshake is malformed if it is of another kind or another session. Whatever is
received, there is a second request exactly if the first reply gives a token, and information only
if both replies are of their kind and of the session. -/
theorem handshake_carries_token (session : Int32) (id : Bytes) (hid : Bytes.BigEndian id session) :
    (∀ (t : Int32) (rest : Bytes),
      parseToken ([0x09] ++ id ++ encode (toString t.toInt) ++ [0] ++ rest) session = .ok t) ∧
    (∀ (kind : UInt8) (rest : Bytes), kind ≠ 0x09 →
      ∃ cause, parseToken (kind :: rest) session = .error (.malformedPacket cause)) ∧
    (∀ (other : Int32) (id' rest : Bytes), other ≠ session → Bytes.BigEndian id' other →
      ∃ cause, parseToken ([0x09] ++ id' ++ rest) session = .error (.malformedPacket cause)) ∧
    ∀ first second : Except Error Bytes,
      Carries session id first second ((info session).run [first, second]).1
        ((info session).run [first, second]).2 := by
  obtain rfl := Bytes.bigEndian_iff.mp hid
  refine ⟨parseToken_toString session, fun kind rest hkind => ?_,
    fun other id' rest hother hid' => ?_, run_info_carries session⟩
  · refine parseToken_of_not_prefix fun ⟨tail, htail⟩ => hkind ?_
    exact (List.cons.inj htail).1.symm
  · obtain rfl := Bytes.bigEndian_iff.mp hid'
    exact parseToken_of_not_prefix fun h => hother (session_eq_of_start h).symm

/-- The lowest token, with a byte after it, in a negative session; a reply of the wrong kind and one
to another session. -/
theorem handshake_carries_token_lowest :
    let id : Bytes := [0xFF, 0xFF, 0xFF, 0xFB]
    let reply : Bytes := [0x09] ++ id ++ encode "-2147483648" ++ [0] ++ [0x31]
    Bytes.BigEndian id (-5) ∧ parseToken reply (-5) = .ok (-2147483648) ∧
      ((info (-5)).run [.ok reply, .error .timeout]).1 =
        [[0xFE, 0xFD, 0x09] ++ id, [0xFE, 0xFD, 0x00] ++ id ++ [0x80, 0, 0, 0] ++ [0, 0, 0, 0]] ∧
      ((0x00 : UInt8) ≠ 0x09 ∧
        ∃ cause, parseToken (0x00 :: id) (-5) = .error (.malformedPacket cause)) ∧
      ((5 : Int32) ≠ -5 ∧ Bytes.BigEndian [0, 0, 0, 5] 5 ∧
        ∃ cause, parseToken ([0x09] ++ [0, 0, 0, 5] ++ [0x31, 0]) (-5) =
          .error (.malformedPacket cause)) := by
  intro id reply
  have hid : Bytes.BigEndian id (-5) := Bytes.bigEndian_iff.mpr (by decide)
  have hother : Bytes.BigEndian [0, 0, 0, 5] 5 := Bytes.bigEndian_iff.mpr (by decide)
  obtain ⟨token, kinds, sessions, carries⟩ := handshake_carries_token (-5) id hid
  have htoken : parseToken reply (-5) = .ok (-2147483648) := token (-2147483648) [0x31]
  obtain ⟨bytes, hbytes, hrequests⟩ :=
    (carries (.ok reply) (.error .timeout)).granted reply _ rfl htoken
  have hlowest : bytes = [0x80, 0, 0, 0] := (Bytes.bigEndian_iff.mp hbytes).trans (by decide)
  rw [hlowest] at hrequests
  exact ⟨hid, htoken, hrequests, ⟨by decide, kinds 0x00 id (by decide)⟩, by decide, hother,
    sessions 5 [0, 0, 0, 5] [0x31, 0] (by decide) hother⟩

end RemoteConsole.Query.Minecraft
