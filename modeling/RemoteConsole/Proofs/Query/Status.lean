import RemoteConsole.Proofs.Query.Reading
import RemoteConsole.Proofs.Query.Values

/-!
# Full statuses of Minecraft servers

The layout of a full status, and what is read from it. The part up to the players is taken as a
whole (`spells_frontReading`); the players are the one part that may end with the reply, and only
between two names. So a whole status says what its values describe (`parse_follows_values`),
and one that is cut short either is malformed or has the first few of its players
(`parse_of_cut_short`).
-/

namespace RemoteConsole.Query.Minecraft

open Reading (Spells)
open Text.Utf8 (encode decodeLossy)

/-- The bytes of a key with its value. -/
def pairBytes (p : Bytes × Bytes) : Bytes :=
  Bytes.zeroEnded p.1 ++ Bytes.zeroEnded p.2

/-- A full status as it is laid out. -/
structure Status where
  /-- The session that it answers. -/
  session : Int32
  /-- What stands before the values. -/
  constant : Bytes
  /-- The keys with their values. -/
  pairs : List (Bytes × Bytes)
  /-- What stands before the players. -/
  padding : Bytes
  /-- The names of the players. -/
  names : List Bytes
  length_constant : constant.length = 11
  length_padding : padding.length = 10
  key_ne_nil : ∀ p ∈ pairs, p.1 ≠ []
  pairs_free : ∀ p ∈ pairs, 0 ∉ p.1 ∧ 0 ∉ p.2
  name_ne_nil : ∀ name ∈ names, name ≠ []
  names_free : ∀ name ∈ names, 0 ∉ name

namespace Status

/-- The bytes up to the players. An empty key ends the values. -/
def front (s : Status) : Bytes :=
  [statusKind] ++ Bytes.ofInt32BE s.session ++ s.constant ++ s.pairs.flatMap pairBytes ++ [0] ++
    s.padding

/-- The bytes up to the player after the first `k`. -/
def upTo (s : Status) (k : Nat) : Bytes :=
  s.front ++ (s.names.take k).flatMap Bytes.zeroEnded

/-- The bytes of a status. An empty name ends the players. -/
def bytes (s : Status) : Bytes :=
  s.front ++ s.names.flatMap Bytes.zeroEnded ++ [0]

/-- The keys and values as they are read. -/
def values (s : Status) : List (String × String) :=
  s.pairs.map fun p => (decodeLossy p.1, decodeLossy p.2)

/-- The players as they are read. -/
def players (s : Status) : List String :=
  s.names.map decodeLossy

end Status

/-- The texts of a status. -/
structure Status.Texts where
  /-- The keys with their values. -/
  pairs : List (String × String)
  /-- The players. -/
  players : List String
  key_ne_empty : ∀ p ∈ pairs, p.1 ≠ ""
  pairs_free : ∀ p ∈ pairs, '\x00' ∉ p.1.toList ∧ '\x00' ∉ p.2.toList
  player_ne_empty : ∀ player ∈ players, player ≠ ""
  players_free : ∀ player ∈ players, '\x00' ∉ player.toList

theorem encode_ne_nil {s : String} (h : s ≠ "") : encode s ≠ [] := fun hnil =>
  h (by rw [← Text.Utf8.decodeLossy_encode s]; exact Text.Utf8.decodeLossy_eq_empty_iff.mpr hnil)

theorem encode_free {s : String} (h : '\x00' ∉ s.toList) : 0 ∉ encode s := fun hzero =>
  h (Text.Utf8.zero_mem_encode_iff.mp hzero)

/-- The status with some texts. -/
def Status.ofTexts (session : Int32) (constant padding : Bytes)
    (length_constant : constant.length = 11) (length_padding : padding.length = 10) (t : Texts) :
    Status where
  session := session
  constant := constant
  pairs := t.pairs.map fun p => (encode p.1, encode p.2)
  padding := padding
  names := t.players.map encode
  length_constant := length_constant
  length_padding := length_padding
  key_ne_nil := List.forall_mem_map.mpr fun p hp => encode_ne_nil (t.key_ne_empty p hp)
  pairs_free := List.forall_mem_map.mpr fun p hp =>
    ⟨encode_free (t.pairs_free p hp).1, encode_free (t.pairs_free p hp).2⟩
  name_ne_nil := List.forall_mem_map.mpr fun player hplayer =>
    encode_ne_nil (t.player_ne_empty player hplayer)
  names_free := List.forall_mem_map.mpr fun player hplayer =>
    encode_free (t.players_free player hplayer)

/-! ## Up to the players -/

theorem spells_header (kind : UInt8) (session : Int32) :
    Spells (header kind session) ([kind] ++ Bytes.ofInt32BE session) () := by
  refine (Reading.spells_byte kind).bind ?_
  rw [if_neg (not_not_intro rfl)]
  refine (Reading.spells_int32BE session).bind_last ?_
  rw [if_neg (not_not_intro rfl)]
  exact Spells.pure ()

/-- A reply to another session is refused. -/
theorem header_of_foreign {kind : UInt8} {session actual : Int32} (hne : actual ≠ session)
    {c : Cursor} {rest : Bytes} (h : c.rest = [kind] ++ (Bytes.ofInt32BE actual ++ rest)) :
    header kind session c = .error (.malformedPacket (.foreignSession actual session)) := by
  have hkind := (Reading.spells_byte kind).reads c _ h
  have hrest : (c.advance [kind].length).rest = Bytes.ofInt32BE actual ++ rest := by
    rw [Cursor.rest_advance, h, List.drop_left]
  have hactual := (Reading.spells_int32BE actual).reads _ rest hrest
  rw [header, Reading.bind_of_ok hkind, if_neg (not_not_intro rfl)]
  refine (Reading.bind_of_ok hactual).trans ?_
  rw [if_pos hne]
  rfl

theorem values_eq : values = (do
    let key ← Reading.text
    if key = "" then return []
    let value ← Reading.text
    let rest ← values
    return (key, value) :: rest : Reading (List (String × String))) := by
  funext c
  rw [values]
  split
  case h_1 e hkey => exact (Reading.bind_of_error hkey).symm
  case h_2 key c₁ hkey =>
    rw [Reading.bind_of_ok hkey]
    split_ifs with hempty
    · rfl
    · split
      case h_1 e hvalue => exact (Reading.bind_of_error hvalue).symm
      case h_2 value c₂ hvalue =>
        rw [Reading.bind_of_ok hvalue]
        exact (Reading.bind_pure_eq_map fun rest => (key, value) :: rest).symm

/-- Pairs are read up to an empty key. -/
theorem spells_values (pairs : List (Bytes × Bytes)) (key_ne_nil : ∀ p ∈ pairs, p.1 ≠ [])
    (free : ∀ p ∈ pairs, 0 ∉ p.1 ∧ 0 ∉ p.2) :
    Spells values (pairs.flatMap pairBytes ++ [0])
      (pairs.map fun p => (decodeLossy p.1, decodeLossy p.2)) := by
  induction pairs with
  | nil =>
    have hend : Spells Reading.text (Bytes.zeroEnded []) "" := Reading.spells_text List.not_mem_nil
    rw [values_eq]
    exact hend.bind_last (Spells.pure [])
  | cons p pairs ih =>
    obtain ⟨hne, hrestne⟩ := List.forall_mem_cons.mp key_ne_nil
    obtain ⟨⟨hkey, hvalue⟩, hrest⟩ := List.forall_mem_cons.mp free
    have hdecoded : decodeLossy p.1 ≠ "" := fun h =>
      hne (Text.Utf8.decodeLossy_eq_empty_iff.mp h)
    rw [values_eq, List.flatMap_cons, pairBytes, List.append_assoc, List.append_assoc]
    refine (Reading.spells_text hkey).bind ?_
    -- What is read for a key is only empty if its bytes are, so this key does not end the values.
    rw [if_neg hdecoded]
    refine (Reading.spells_text hvalue).bind ?_
    exact (ih hrestne hrest).bind_last (Spells.pure _)

/-- Reads a status up to its players. -/
def frontReading (session : Int32) : Reading (List (String × String)) := do
  header statusKind session
  Reading.skip (statusHeaderLength - 5)
  let pairs ← values
  Reading.skip playersPaddingLength
  return pairs

theorem reading_eq (session : Int32) : Info.reading session = (do
    let pairs ← frontReading session
    let players ← names
    Info.ofValues pairs players) := by
  simp only [Info.reading, frontReading, bind_assoc, pure_bind]

theorem Status.spells_frontReading (s : Status) :
    Spells (frontReading s.session) s.front s.values := by
  have hbytes : s.front = ([statusKind] ++ Bytes.ofInt32BE s.session) ++ (s.constant ++
      ((s.pairs.flatMap pairBytes ++ [0]) ++ s.padding)) := by
    simp [front]
  have hconstant := Reading.spells_skip s.constant
  have hpadding := Reading.spells_skip s.padding
  rw [s.length_constant] at hconstant
  rw [s.length_padding] at hpadding
  rw [hbytes]
  refine (spells_header statusKind s.session).bind ?_
  refine hconstant.bind ?_
  refine (spells_values s.pairs s.key_ne_nil s.pairs_free).bind ?_
  exact hpadding.bind_last (Spells.pure s.values)

/-! ## The players -/

theorem names_of_rest_nil {c : Cursor} (h : c.rest = []) : names c = .ok ([], c) := by
  rw [names, if_pos (c.isEmpty_iff.mpr h)]

theorem names_of_rest_ne_nil {c : Cursor} (h : c.rest ≠ []) : names c = (do
    let name ← Reading.text
    if name = "" then return []
    let rest ← names
    return name :: rest : Reading (List String)) c := by
  rw [names, if_neg fun hempty => h (c.isEmpty_iff.mp hempty)]
  split
  case h_1 e hname => exact (Reading.bind_of_error hname).symm
  case h_2 name c₁ hname =>
    rw [Reading.bind_of_ok hname]
    split_ifs with hempty
    · rfl
    · exact (Reading.bind_pure_eq_map fun rest => name :: rest).symm

/-- An empty name ends the players. -/
theorem names_of_rest_zero {c : Cursor} {rest : Bytes} (h : c.rest = 0 :: rest) :
    ∃ c', names c = .ok ([], c') := by
  have htext : Reading.text c = .ok (decodeLossy [], c.advance 1) :=
    Reading.text_of_rest List.not_mem_nil h
  refine ⟨c.advance 1, ?_⟩
  rw [names_of_rest_ne_nil (by rw [h]; exact List.cons_ne_nil 0 rest), Reading.bind_of_ok htext]
  rfl

/-- The reply may not end inside a name. -/
theorem names_of_zero_not_mem {c : Cursor} (hne : c.rest ≠ []) (free : 0 ∉ c.rest) :
    names c = .error (.malformedPacket .unterminatedText) := by
  rw [names_of_rest_ne_nil hne, Reading.bind_of_error (Reading.text_of_zero_not_mem free)]

/-- Some names are read one after the other, and it goes on after them. -/
theorem names_of_rest_append (ns : List Bytes) (name_ne_nil : ∀ name ∈ ns, name ≠ [])
    (free : ∀ name ∈ ns, 0 ∉ name) {c : Cursor} {rest : Bytes}
    (h : c.rest = ns.flatMap Bytes.zeroEnded ++ rest) :
    ∃ c', c'.rest = rest ∧
      names c = (names c').map fun p => (ns.map decodeLossy ++ p.1, p.2) := by
  induction ns generalizing c with
  | nil =>
    refine ⟨c, h, ?_⟩
    cases names c <;> rfl
  | cons name ns ih =>
    obtain ⟨hne, hrestne⟩ := List.forall_mem_cons.mp name_ne_nil
    obtain ⟨hname, hrest⟩ := List.forall_mem_cons.mp free
    have hdecoded : decodeLossy name ≠ "" := fun h =>
      hne (Text.Utf8.decodeLossy_eq_empty_iff.mp h)
    rw [List.flatMap_cons, List.append_assoc] at h
    have hnonempty : c.rest ≠ [] := by
      rw [h, Bytes.zeroEnded]
      simp
    have hnext : (c.advance (name.length + 1)).rest = ns.flatMap Bytes.zeroEnded ++ rest := by
      rw [Cursor.rest_advance, h, ← Bytes.length_zeroEnded, List.drop_left]
    obtain ⟨c', hc', hnames⟩ := ih hrestne hrest hnext
    refine ⟨c', hc', ?_⟩
    rw [names_of_rest_ne_nil hnonempty, Reading.bind_of_ok (Reading.text_of_rest hname h),
      if_neg hdecoded]
    refine (Reading.bind_pure_eq_map fun rest => decodeLossy name :: rest).trans ?_
    rw [hnames]
    cases names c' <;> rfl

/-- A start of some names and of the empty name after them is a few of these names, and the start of
another one. -/
theorem exists_take_of_prefix (ns : List Bytes) (free : ∀ name ∈ ns, 0 ∉ name) {p : Bytes}
    (h : p <+: ns.flatMap Bytes.zeroEnded ++ [0]) (hne : p ≠ ns.flatMap Bytes.zeroEnded ++ [0]) :
    ∃ k ≤ ns.length, ∃ tail, 0 ∉ tail ∧ p = (ns.take k).flatMap Bytes.zeroEnded ++ tail := by
  induction ns generalizing p with
  | nil =>
    have hp : p <+: [] := (List.prefix_concat_iff.mp h).resolve_left hne
    obtain rfl := List.prefix_nil.mp hp
    exact ⟨0, Nat.le_refl 0, [], List.not_mem_nil, rfl⟩
  | cons name ns ih =>
    obtain ⟨hname, hrest⟩ := List.forall_mem_cons.mp free
    rw [List.flatMap_cons, List.append_assoc] at h hne
    -- It ends inside the first name or goes on after its zero byte.
    rcases Reading.prefix_append_cases h with ⟨hp, hspan⟩ | ⟨q, rfl, hq⟩
    · have hstart : p <+: name := (List.prefix_concat_iff.mp hp).resolve_left hspan
      exact ⟨0, Nat.zero_le _, p, fun h0 => hname (hstart.subset h0), rfl⟩
    · obtain ⟨k, hk, tail, htail, rfl⟩ := ih hrest hq fun heq => hne (by rw [heq])
      exact ⟨k + 1, Nat.succ_le_succ hk, tail, htail, by
        rw [List.take_succ_cons, List.flatMap_cons, List.append_assoc]⟩

/-! ## Whole replies -/

namespace Status

variable (s : Status) {session : Int32} {tail : Bytes} {info : Info}

/-- What is said depends on the players that are read after the front. -/
theorem parse_of_names {players : List String}
    (h : ∀ c : Cursor, c.rest = tail → ∃ c', Minecraft.names c = .ok (players, c')) :
    Info.parse (s.front ++ tail) s.session = Info.ofValues s.values players := by
  have hfront := s.spells_frontReading.reads { buf := s.front ++ tail } tail rfl
  obtain ⟨c', hnames⟩ := h (Cursor.advance { buf := s.front ++ tail } s.front.length)
    (by rw [Cursor.rest_advance]; exact List.drop_left)
  rw [Info.parse, Reading.run, reading_eq, Reading.bind_of_ok hfront, Reading.bind_of_ok hnames]
  cases hvalues : Info.ofValues s.values players <;> rfl

/-- An error among the players is one of the status. -/
theorem parse_of_names_error {e : Error}
    (h : ∀ c : Cursor, c.rest = tail → Minecraft.names c = .error e) :
    Info.parse (s.front ++ tail) s.session = .error e := by
  have hfront := s.spells_frontReading.reads { buf := s.front ++ tail } tail rfl
  have hnames := h (Cursor.advance { buf := s.front ++ tail } s.front.length)
    (by rw [Cursor.rest_advance]; exact List.drop_left)
  rw [Info.parse, Reading.run, reading_eq, Reading.bind_of_ok hfront,
    Reading.bind_of_error hnames]
  rfl

/-- A reply that ends before its players is malformed. -/
theorem parse_of_cut_front {cut : Bytes} (hcut : cut <+: s.front) (hne : cut ≠ s.front) :
    ∃ cause, Info.parse cut s.session = .error (.malformedPacket cause) := by
  obtain ⟨cause, hcause⟩ := s.spells_frontReading.cut { buf := cut } hcut hne
  refine ⟨cause, ?_⟩
  rw [Info.parse, Reading.run, reading_eq, Reading.bind_of_error hcause]
  rfl

/-- A whole status, whatever follows it. -/
theorem parse_bytes (rest : Bytes) :
    Info.parse (s.bytes ++ rest) s.session = Info.ofValues s.values s.players := by
  rw [bytes, List.append_assoc, List.append_assoc]
  refine s.parse_of_names fun c h => ?_
  obtain ⟨c', hc', hnames⟩ := names_of_rest_append s.names s.name_ne_nil s.names_free h
  obtain ⟨c'', hend⟩ := names_of_rest_zero hc'
  refine ⟨c'', ?_⟩
  rw [hnames, hend, players, Except.map, List.append_nil]

/-- The first few players are read, and it goes on after them. -/
theorem names_of_take {c : Cursor} (k : Nat)
    (h : c.rest = (s.names.take k).flatMap Bytes.zeroEnded ++ tail) :
    ∃ c', c'.rest = tail ∧
      Minecraft.names c = (Minecraft.names c').map fun p => (s.players.take k ++ p.1, p.2) := by
  rw [players, ← List.map_take]
  exact names_of_rest_append (s.names.take k)
    (fun name hname => s.name_ne_nil name (List.mem_of_mem_take hname))
    (fun name hname => s.names_free name (List.mem_of_mem_take hname)) h

/-- A status that ends after a few of its players has these. -/
theorem parse_upTo (k : Nat) :
    Info.parse (s.upTo k) s.session = Info.ofValues s.values (s.players.take k) := by
  refine s.parse_of_names fun c h => ?_
  rw [← List.append_nil (List.flatMap _ _)] at h
  obtain ⟨c', hc', hnames⟩ := s.names_of_take k h
  refine ⟨c', ?_⟩
  rw [hnames, names_of_rest_nil hc', Except.map, List.append_nil]

/-- A status that ends inside a player is malformed. -/
theorem parse_upTo_append (k : Nat) (hne : tail ≠ []) (free : 0 ∉ tail) :
    Info.parse (s.upTo k ++ tail) s.session = .error (.malformedPacket .unterminatedText) := by
  rw [upTo, List.append_assoc]
  refine s.parse_of_names_error fun c h => ?_
  obtain ⟨c', hc', hnames⟩ := s.names_of_take k h
  rw [hnames, names_of_zero_not_mem (by rwa [hc']) (by rwa [hc'])]
  rfl

/-- Only the session that a status answers can read it. -/
theorem session_eq_of_parse (h : Info.parse s.bytes session = .ok info) : s.session = session := by
  by_contra hne
  obtain ⟨rest, hrest⟩ : ∃ rest, s.bytes = [statusKind] ++ (Bytes.ofInt32BE s.session ++ rest) := by
    simp only [bytes, front, List.append_assoc]
    exact ⟨_, rfl⟩
  have hheader : header statusKind session { buf := s.bytes } = _ :=
    header_of_foreign hne hrest
  rw [Info.parse, Reading.run, Info.reading, Reading.bind_of_error hheader] at h
  cases h

end Status

/-- A status made of texts has the values and the players that these are. -/
theorem Status.parse_ofTexts {session : Int32} {constant padding : Bytes}
    (length_constant : constant.length = 11) (length_padding : padding.length = 10) (t : Texts)
    (rest : Bytes) :
    Info.parse ((ofTexts session constant padding length_constant length_padding t).bytes ++ rest)
      session = Info.ofValues t.pairs t.players := by
  have hparse :=
    (ofTexts session constant padding length_constant length_padding t).parse_bytes rest
  simp only [values, players, ofTexts, List.map_map, Function.comp_def,
    Text.Utf8.decodeLossy_encode, Prod.mk.eta, List.map_id'] at hparse
  exact hparse

/-- A status is read if its values are complete, and says what they describe. Otherwise it is
malformed. Pairs with different keys may change places, and pairs may be added whose keys are not
looked at. -/
theorem parse_follows_values (session : Int32) (constant padding rest : Bytes)
    (length_constant : constant.length = 11) (length_padding : padding.length = 10)
    (t : Status.Texts) :
    let status (t : Status.Texts) : Status :=
      .ofTexts session constant padding length_constant length_padding t
    let parsed (t : Status.Texts) := Info.parse ((status t).bytes ++ rest) session
    ((∃ info, parsed t = .ok info) ↔ Complete t.pairs) ∧
      (∀ info, parsed t = .ok info ↔ Describes t.pairs t.players info) ∧
      (¬ Complete t.pairs → ∃ cause, parsed t = .error (.malformedPacket cause)) ∧
      ∀ t' : Status.Texts, t'.players = t.players →
        ((t.pairs.map Prod.fst).Nodup ∧ t'.pairs.Perm t.pairs ∨ known t'.pairs = known t.pairs) →
          parsed t' = parsed t := by
  intro status parsed
  have hparsed (t : Status.Texts) : parsed t = Info.ofValues t.pairs t.players :=
    Status.parse_ofTexts length_constant length_padding t rest
  refine ⟨?_, fun info => ?_, fun h => ?_, fun t' hplayers h => ?_⟩
  · rw [← exists_describes_iff t.players]
    exact exists_congr fun info => by rw [hparsed, ofValues_eq_ok_iff]
  · rw [hparsed, ofValues_eq_ok_iff]
  · rw [hparsed]
    exact ofValues_of_not_complete t.players h
  · rw [hparsed, hparsed, hplayers]
    rcases h with ⟨distinct, hperm⟩ | hknown
    · exact ofValues_of_perm t.players distinct hperm
    · exact ofValues_of_known_eq t.players hknown

/-- A status with its map given twice, blanks and a plus sign at its numbers, a key that is not
looked at, and bytes after it; without that key it says the same, and without an address nothing. -/
theorem parse_follows_values_map_twice :
    let values : List (String × String) :=
      [("hostname", "A Größe"), ("gametype", "SMP"), ("game_id", "MINECRAFT"), ("version", ""),
        ("map", "old"), ("numplayers", " 2\t"), ("maxplayers", "+020"), ("hostport", "25565"),
        ("map", "world")]
    let full : Status.Texts :=
      ⟨("x", "?") :: values ++ [("hostip", "::1")], ["Ada", "😀"], by decide, by decide, by decide,
        by decide⟩
    let bare : Status.Texts :=
      ⟨values ++ [("hostip", "::1")], ["Ada", "😀"], by decide, by decide, by decide, by decide⟩
    let broken : Status.Texts := ⟨values, [], by decide, by decide, by decide, by decide⟩
    let constant : Bytes := .replicate 11 7
    let padding : Bytes := .replicate 10 0
    let parsed (t : Status.Texts) :=
      Info.parse ((Status.ofTexts (-5) constant padding rfl rfl t).bytes ++ [1]) (-5)
    parsed full = .ok
        { motd := "A Größe", gameType := "SMP", gameId := "MINECRAFT", version := "", plugins := ""
          map := "world", numPlayers := 2, maxPlayers := 20, hostPort := 25565, hostIp := "::1"
          players := ["Ada", "😀"] } ∧
      parsed bare = parsed full ∧ ∃ cause, parsed broken = .error (.malformedPacket cause) := by
  intro values full bare broken constant padding parsed
  obtain ⟨-, hdescribes, -, hsame⟩ := parse_follows_values (-5) constant padding [1] rfl rfl full
  obtain ⟨-, -, hbroken, -⟩ := parse_follows_values (-5) constant padding [1] rfl rfl broken
  refine ⟨(hdescribes _).mpr ?_, hsame bare rfl (.inr (by decide)), hbroken fun h => ?_⟩
  · rw [← ofValues_eq_ok_iff]
    decide
  · exact absurd (h.required "hostip" (by decide)) (by decide)

/-- A status that ends early either ends after a few of its players, and then says the same with
these, or is malformed. -/
theorem parse_of_cut_short (s : Status) (session : Int32) (info : Info)
    (accepted : Info.parse s.bytes session = .ok info) (cut : Bytes) (hcut : cut <+: s.bytes)
    (hne : cut ≠ s.bytes) :
    info.players = s.players ∧
      ((∃ k ≤ s.names.length, cut = s.upTo k ∧
          Info.parse cut session = .ok { info with players := info.players.take k }) ∨
        (∀ k ≤ s.names.length, cut ≠ s.upTo k) ∧
          ∃ cause, Info.parse cut session = .error (.malformedPacket cause)) := by
  obtain rfl := s.session_eq_of_parse accepted
  have describes : Describes s.values s.players info := by
    rw [← ofValues_eq_ok_iff, ← s.parse_bytes [], List.append_nil]
    exact accepted
  have whole (k : Nat) : Info.parse (s.upTo k) s.session =
      .ok { info with players := info.players.take k } := by
    rw [s.parse_upTo, ofValues_eq_ok_iff, describes.players]
    exact { describes with players := rfl }
  -- The two outcomes exclude each other: what ends after a few players is read.
  have not_whole (h : ∃ cause, Info.parse cut s.session = .error (.malformedPacket cause)) :
      ∀ k ≤ s.names.length, cut ≠ s.upTo k := by
    rintro k - rfl
    obtain ⟨cause, hcause⟩ := h
    rw [whole k] at hcause
    cases hcause
  refine ⟨describes.players, ?_⟩
  rw [Status.bytes, List.append_assoc] at hcut hne
  -- The reply ends inside the front, which is taken as a whole, or among the players.
  rcases Reading.prefix_append_cases hcut with ⟨hfront, hshort⟩ | ⟨q, rfl, hq⟩
  · have malformed := s.parse_of_cut_front hfront hshort
    exact .inr ⟨not_whole malformed, malformed⟩
  · obtain ⟨k, hk, tail, free, rfl⟩ := exists_take_of_prefix s.names s.names_free hq
      fun heq => hne (by rw [heq])
    have hupTo : s.front ++ ((s.names.take k).flatMap Bytes.zeroEnded ++ tail) = s.upTo k ++ tail :=
      (List.append_assoc ..).symm
    rw [hupTo] at not_whole ⊢
    by_cases hempty : tail = []
    · rw [hempty, List.append_nil]
      exact .inl ⟨k, hk, rfl, whole k⟩
    · have malformed := s.parse_upTo_append k hempty free
      exact .inr ⟨not_whole ⟨_, malformed⟩, _, malformed⟩

/-- A status with two players, one of them not UTF-8, cut between the two and inside the second. -/
theorem parse_of_cut_short_two_players :
    let key (name : String) (value : Bytes) : Bytes × Bytes := (encode name, value)
    let s : Status :=
      ⟨1, .replicate 11 7,
        [key "hostname" [], key "gametype" [0xFF], key "game_id" [], key "version" [],
          key "map" [], key "numplayers" [0x32], key "maxplayers" [0x34], key "hostport" [0x39],
          key "hostip" []],
        .replicate 10 0, [[0x41], [0x42, 0xFF]], rfl, rfl, by decide, by decide, by decide,
        by decide⟩
    let info : Info :=
      { motd := "", gameType := "\uFFFD", gameId := "", version := "", plugins := "", map := ""
        numPlayers := 2, maxPlayers := 4, hostPort := 9, hostIp := "", players := ["A", "B\uFFFD"] }
    Info.parse s.bytes 1 = .ok info ∧
      (s.upTo 1 <+: s.bytes ∧ s.upTo 1 ≠ s.bytes) ∧
      Info.parse (s.upTo 1) 1 = .ok { info with players := ["A"] } ∧
      (s.upTo 1 ++ [0x42] <+: s.bytes ∧ s.upTo 1 ++ [0x42] ≠ s.bytes) ∧
      ∃ cause, Info.parse (s.upTo 1 ++ [0x42]) 1 = .error (.malformedPacket cause) := by
  intro key s info
  have accepted : Info.parse s.bytes 1 = .ok info := by
    rw [← List.append_nil s.bytes]
    refine (s.parse_bytes []).trans ?_
    decide
  have hbetween : s.upTo 1 <+: s.bytes ∧ s.upTo 1 ≠ s.bytes := by decide
  have hinside : s.upTo 1 ++ [0x42] <+: s.bytes ∧ s.upTo 1 ++ [0x42] ≠ s.bytes := by decide
  refine ⟨accepted, hbetween, ?_, hinside, ?_⟩
  · obtain ⟨-, ⟨k, hk, hcut, hparse⟩ | ⟨hne, -⟩⟩ :=
      parse_of_cut_short s 1 info accepted (s.upTo 1) hbetween.1 hbetween.2
    · have hk1 : k = 1 := by
        have hk2 : k ≤ 2 := hk
        have distinct : ∀ j ≤ 2, s.upTo 1 = s.upTo j → j = 1 := by decide
        exact distinct k hk2 hcut
      rw [hk1] at hparse
      exact hparse
    · exact absurd rfl (hne 1 (by decide))
  · obtain ⟨-, ⟨k, hk, hcut, -⟩ | ⟨-, malformed⟩⟩ :=
      parse_of_cut_short s 1 info accepted (s.upTo 1 ++ [0x42]) hinside.1 hinside.2
    · have hk2 : k ≤ 2 := hk
      have inside : ∀ j ≤ 2, s.upTo 1 ++ [0x42] ≠ s.upTo j := by decide
      exact absurd hcut (inside k hk2)
    · exact malformed

end RemoteConsole.Query.Minecraft
