import Mathlib.Data.List.Basic
import RemoteConsole.Proofs.Query.Reading
import RemoteConsole.Query.Source

/-!
# Payloads that say where they end

A reading delimits itself if, wherever it is tried, it either finds the bytes malformed or spells a
value with the first few of them. The small readings do, whether or not a text is UTF-8, and
readings one after the other do if each of them does (`SelfDelimiting.bind`). So a payload of a
Source server has an end of its own (`payloads_end_themselves`): before it nothing is read, and what
stands after it makes no difference.
-/

namespace RemoteConsole.Query

namespace Reading

variable {α β : Type} {r : Reading α} {k : α → Reading β} {p cut : Bytes} {a a' : α}

/-- A reading finds the bytes malformed or takes the first few of them. -/
def SelfDelimiting (r : Reading α) : Prop :=
  ∀ c : Cursor, (∃ cause, r c = .error (.malformedPacket cause)) ∨
    ∃ span rest a, c.rest = span ++ rest ∧ Spells r span a

/-- What a parser gets out of a payload stands in the first `n` bytes. -/
structure EndsAt (parse : Bytes → Except Error α) (p : Bytes) (a : α) (n : Nat) : Prop where
  /-- The payload has them all. -/
  within : n ≤ p.length
  /-- None of them can be missing. -/
  cut : ∀ cut, cut <+: p → cut.length < n → ∃ cause, parse cut = .error (.malformedPacket cause)
  /-- Whatever comes after them, they are read alike. -/
  followed : ∀ rest, parse (p.take n ++ rest) = .ok a

/-- A reading of a payload is malformed or stops inside it. -/
def StaysWithin (r : Reading α) (p : Bytes) : Prop :=
  (∃ cause, r { buf := p } = .error (.malformedPacket cause)) ∨
    ∃ a n, n ≤ p.length ∧ r { buf := p } = .ok (a, { buf := p, pos := n })

/-! ## Readings one after the other -/

theorem selfDelimiting_pure (a : α) : SelfDelimiting (pure a : Reading α) := fun c =>
  .inr ⟨[], c.rest, a, rfl, Spells.pure a⟩

theorem SelfDelimiting.bind (first : SelfDelimiting r) (second : ∀ a, SelfDelimiting (k a)) :
    SelfDelimiting (r >>= k) := by
  intro c
  rcases first c with ⟨cause, hcause⟩ | ⟨span, rest, a, hc, hspan⟩
  · exact .inl ⟨cause, bind_of_error hcause⟩
  have hread := hspan.reads c rest hc
  have hrest : (c.advance span.length).rest = rest := by
    rw [Cursor.rest_advance, hc, List.drop_left]
  -- The second reading is tried right after the bytes that the first one takes.
  rcases second a (c.advance span.length) with ⟨cause, hcause⟩ | ⟨span', rest', b, hc', hspan'⟩
  · exact .inl ⟨cause, by rw [bind_of_ok hread, hcause]⟩
  · refine .inr ⟨span ++ span', rest', b, ?_, hspan.bind hspan'⟩
    rw [hc, ← hrest, hc', List.append_assoc]

theorem SelfDelimiting.map (f : α → β) (h : SelfDelimiting r) :
    SelfDelimiting (do return f (← r)) :=
  h.bind fun a => selfDelimiting_pure (f a)

/-! ## Small readings -/

theorem selfDelimiting_bytes (n : Nat) : SelfDelimiting (Reading.bytes n) := by
  intro c
  have hlength := c.length_rest
  by_cases hshort : c.rest.length < n
  · exact .inl ⟨_, if_pos (by omega)⟩
  · have htake : (c.rest.take n).length = n := List.length_take_of_le (Nat.le_of_not_lt hshort)
    have hspells := spells_bytes (c.rest.take n)
    rw [htake] at hspells
    exact .inr ⟨_, c.rest.drop n, _, (List.take_append_drop n c.rest).symm, hspells⟩

theorem selfDelimiting_byte : SelfDelimiting byte :=
  (selfDelimiting_bytes 1).map fun bytes => UInt8.ofNat (Bytes.toNat bytes)

theorem selfDelimiting_int16 : SelfDelimiting int16 :=
  (selfDelimiting_bytes 2).map Bytes.toInt16

theorem selfDelimiting_int32 : SelfDelimiting int32 :=
  (selfDelimiting_bytes 4).map Bytes.toInt32

theorem selfDelimiting_float32Bits : SelfDelimiting float32Bits :=
  (selfDelimiting_bytes 4).map fun bytes => UInt32.ofNat (Bytes.toNat bytes)

/-- A text takes the bytes up to the first zero byte, UTF-8 or not. -/
theorem selfDelimiting_text : SelfDelimiting text := by
  intro c
  by_cases hzero : 0 ∈ c.rest
  · obtain ⟨span, rest, hc, hfree⟩ := List.eq_append_cons_of_mem hzero
    refine .inr ⟨Bytes.zeroEnded span, rest, _, ?_, spells_text hfree⟩
    rw [hc, Bytes.zeroEnded, List.append_assoc]
    rfl
  · exact .inl ⟨_, text_of_zero_not_mem hzero⟩

/-! ## Whole payloads -/

theorem SelfDelimiting.staysWithin (h : SelfDelimiting r) (p : Bytes) : StaysWithin r p := by
  rcases h { buf := p } with malformed | ⟨span, rest, a, hp, hspan⟩
  · exact .inl malformed
  · have hp' : p = span ++ rest := hp
    have hread := hspan.reads { buf := p } rest hp
    refine .inr ⟨a, span.length, by simp [hp'], hread.trans ?_⟩
    simp [Cursor.advance]

/-- What is read has an end. -/
theorem SelfDelimiting.exists_endsAt (h : SelfDelimiting r) (hrun : r.run p = .ok a) :
    ∃ n, EndsAt r.run p a n := by
  rcases h { buf := p } with ⟨cause, hcause⟩ | ⟨span, rest, a', hp, hspan⟩
  · rw [run, hcause] at hrun
    cases hrun
  obtain rfl : p = span ++ rest := hp
  obtain rfl : a' = a := Except.ok.inj ((hspan.run rest).symm.trans hrun)
  refine ⟨span.length, by simp, fun cut hcut hshort => ?_, fun rest' => ?_⟩
  · have hprefix : cut <+: span :=
      List.prefix_of_prefix_length_le hcut (List.prefix_append span rest) (Nat.le_of_lt hshort)
    obtain ⟨cause, hcause⟩ := hspan.cut { buf := cut } hprefix fun heq => by
      have heq' : cut = span := heq
      rw [heq'] at hshort
      exact Nat.lt_irrefl _ hshort
    exact ⟨cause, by rw [run, hcause]; rfl⟩
  · rw [List.take_left]
    exact hspan.run rest'

/-- A reading fails in one way only. -/
theorem SelfDelimiting.malformed_of_error (h : SelfDelimiting r) (p : Bytes) (e : Error)
    (hrun : r.run p = .error e) : ∃ cause, e = .malformedPacket cause := by
  rcases h { buf := p } with ⟨cause, hcause⟩ | ⟨span, rest, a, hp, hspan⟩
  · rw [run, hcause] at hrun
    exact ⟨cause, (Except.error.inj hrun).symm⟩
  · obtain rfl : p = span ++ rest := hp
    rw [hspan.run rest] at hrun
    cases hrun

/-- A payload cut short is read as the whole one, if it is read. -/
theorem EndsAt.eq_of_cut {parse : Bytes → Except Error α} {n : Nat} (h : EndsAt parse p a n)
    (hcut : cut <+: p) (hread : parse cut = .ok a') : a' = a := by
  by_cases hshort : cut.length < n
  · obtain ⟨cause, hcause⟩ := h.cut cut hcut hshort
    rw [hcause] at hread
    cases hread
  · obtain ⟨rest, rfl⟩ := hcut
    have htake : (cut ++ rest).take n = cut.take n :=
      List.take_append_of_le_length (Nat.le_of_not_lt hshort)
    have hwhole := h.followed (cut.drop n)
    rw [htake, List.take_append_drop] at hwhole
    exact Except.ok.inj (hread.symm.trans hwhole)

end Reading

namespace Source

open Reading

theorem Info.selfDelimiting_reading : SelfDelimiting Info.reading := by
  refine selfDelimiting_byte.bind fun protocol => ?_
  refine selfDelimiting_text.bind fun name => ?_
  refine selfDelimiting_text.bind fun map => ?_
  refine selfDelimiting_text.bind fun folder => ?_
  refine selfDelimiting_text.bind fun game => ?_
  refine selfDelimiting_int16.bind fun appId => ?_
  refine selfDelimiting_byte.bind fun players => ?_
  refine selfDelimiting_byte.bind fun maxPlayers => ?_
  refine selfDelimiting_byte.bind fun bots => ?_
  refine selfDelimiting_byte.bind fun serverType => ?_
  refine selfDelimiting_byte.bind fun environment => ?_
  refine selfDelimiting_byte.bind fun locked => ?_
  exact selfDelimiting_byte.bind fun vacSecured => selfDelimiting_pure _

theorem Player.selfDelimiting_reading : SelfDelimiting Player.reading := by
  refine selfDelimiting_byte.bind fun index => ?_
  refine selfDelimiting_text.bind fun name => ?_
  refine selfDelimiting_int32.bind fun score => ?_
  exact selfDelimiting_float32Bits.bind fun duration => selfDelimiting_pure _

theorem Player.selfDelimiting_readingList (n : Nat) : SelfDelimiting (readingList n) := by
  induction n with
  | zero => exact selfDelimiting_pure []
  | succ n ih => exact Player.selfDelimiting_reading.bind fun player => ih.map (player :: ·)

theorem Player.selfDelimiting_readingAll : SelfDelimiting readingAll :=
  selfDelimiting_byte.bind fun count => selfDelimiting_readingList count.toNat

/-- A payload that is read, UTF-8 or not, ends at a place of its own. Cut short before that place it
is malformed, cut anywhere it is never read as something else, and whatever follows the place is not
looked at. Every payload is malformed or read without going past its end. -/
theorem payloads_end_themselves :
    (∀ p info, Info.parse p = .ok info →
      (∃ n, EndsAt Info.parse p info n) ∧
        ∀ cut info', cut <+: p → Info.parse cut = .ok info' → info' = info) ∧
      (∀ p players, Player.parseAll p = .ok players →
        (∃ n, EndsAt Player.parseAll p players n) ∧
          ∀ cut players', cut <+: p → Player.parseAll cut = .ok players' → players' = players) ∧
      ∀ p, StaysWithin Info.reading p ∧ StaysWithin Player.readingAll p := by
  refine ⟨fun p info h => ?_, fun p players h => ?_, fun p => ?_⟩
  · obtain ⟨n, ends⟩ := Info.selfDelimiting_reading.exists_endsAt h
    exact ⟨⟨n, ends⟩, fun cut info' => ends.eq_of_cut⟩
  · obtain ⟨n, ends⟩ := Player.selfDelimiting_readingAll.exists_endsAt h
    exact ⟨⟨n, ends⟩, fun cut players' => ends.eq_of_cut⟩
  · exact ⟨Info.selfDelimiting_reading.staysWithin p,
      Player.selfDelimiting_readingAll.staysWithin p⟩

/-- A name that is not UTF-8, a negative number, a list of two players, and a byte after each
payload, which may as well be missing. -/
theorem payloads_end_themselves_not_utf8 :
    let p : Bytes :=
      [17, 0x41, 0xFF, 0, 0, 0, 0xE2, 0x82, 0, 0x26, 0xFD, 1, 2, 0, 0x6F, 0x64, 0, 1, 9]
    let info : Info :=
      { protocol := 17, name := "A\uFFFD", map := "", folder := "", game := "\uFFFD", appId := -730
        players := 1, maxPlayers := 2, bots := 0, serverType := .unknown 0x6F
        environment := .unknown 0x64, isPrivate := false, vacSecured := true }
    let q : Bytes :=
      [2, 0, 0xC3, 0, 0xFF, 0xFF, 0xFF, 0xFF, 0, 0, 0xC0, 0x7F, 7, 0, 1, 0, 0, 0x80, 0, 0, 0, 0, 9]
    let players : List Player := [⟨0, "\uFFFD", -1, 0x7FC00000⟩, ⟨7, "", -2147483647, 0⟩]
    (Info.parse p = .ok info ∧ Info.parse p.dropLast = .ok info ∧
        (∃ n, EndsAt Info.parse p info n) ∧
        ∀ info', Info.parse p.dropLast = .ok info' → info' = info) ∧
      Player.parseAll q = .ok players ∧ Player.parseAll q.dropLast = .ok players ∧
        (∃ n, EndsAt Player.parseAll q players n) ∧
        ∀ players', Player.parseAll q.dropLast = .ok players' → players' = players := by
  intro p info q players
  have hinfo : Info.parse p = .ok info := by decide
  have hplayers : Player.parseAll q = .ok players := by decide
  obtain ⟨infoEnds, playersEnd, -⟩ := payloads_end_themselves
  obtain ⟨ends, same⟩ := infoEnds p info hinfo
  obtain ⟨ends', same'⟩ := playersEnd q players hplayers
  exact ⟨⟨hinfo, by decide, ends, fun info' => same p.dropLast info' (List.dropLast_prefix p)⟩,
    hplayers, by decide, ends', fun players' => same' q.dropLast players' (List.dropLast_prefix q)⟩

end Source

end RemoteConsole.Query
