import RemoteConsole.Proofs.Query.Delimited

/-!
# Queries of Source servers

A server may answer a request with a challenge, and the next request carries its token. The replies
to a query begin with some challenges, whose tokens are all that the requests depend on; the first
reply that is no challenge ends the query, and so does the lack of one (`query_follows`). Neither
query goes beyond four requests (`queries_take_up_challenges`).
-/

namespace RemoteConsole.Query.Source

open Reading (SelfDelimiting)

variable {α : Type} {kind : UInt8} {parse : Bytes → Except Error α} {request : Option Bytes → Bytes}
  {datagram payload token : Bytes} {outcomes : List (Except Error Bytes)}

/-- A datagram that is a whole message. -/
def message (kind : UInt8) (payload : Bytes) : Bytes :=
  [0xFF, 0xFF, 0xFF, 0xFF, kind] ++ payload

/-- The token of a datagram that is a challenge: the four bytes after the kind. -/
def challenge? (datagram : Bytes) : Option Bytes :=
  if datagram.take 5 = message 0x41 [] ∧ 9 ≤ datagram.length then some ((datagram.drop 5).take 4)
  else none

/-- The tokens of the challenges that the outcomes of some receives begin with. -/
def leadingTokens : List (Except Error Bytes) → List Bytes
  | .ok datagram :: outcomes =>
    match challenge? datagram with
    | some token => token :: leadingTokens outcomes
    | none => []
  | _ => []

/-- How a query ends with the outcome of a receive that brought no challenge. -/
inductive Ends (kind : UInt8) (parse : Bytes → Except Error α) :
    Except Error Bytes → Except Error α → Prop
  /-- A receive that fails ends it with its error. -/
  | failed (e : Error) : Ends kind parse (.error e) (.error e)
  /-- A message of the kind asked for that can be read ends it with what it says. -/
  | answered (payload : Bytes) (a : α) (read : parse payload = .ok a) :
      Ends kind parse (.ok (message kind payload)) (.ok a)
  /-- Any other datagram is malformed. -/
  | refused (datagram : Bytes) (cause : Malformed)
      (other : ∀ payload a, datagram = message kind payload → parse payload ≠ .ok a) :
      Ends kind parse (.ok datagram) (.error (.malformedPacket cause))

/-- How a query goes that may send `rounds` requests. -/
structure Follows (kind : UInt8) (parse : Bytes → Except Error α) (rounds : Nat) (plain : Bytes)
    (carrying : Bytes → Bytes) (outcomes : List (Except Error Bytes)) (requests : List Bytes)
    (result : Except Error α) : Prop where
  /-- One request for each challenge follows the first one, as long as there may be one more. -/
  requests : requests = (plain :: (leadingTokens outcomes).map carrying).take rounds
  /-- The first receive that brings no challenge ends the query. -/
  ends : (leadingTokens outcomes).length < rounds →
    Ends kind parse (outcomes.getD (leadingTokens outcomes).length (.error .timeout)) result
  /-- A challenge after each request is too many. -/
  exhausted : rounds ≤ (leadingTokens outcomes).length →
    ∃ cause, result = .error (.malformedPacket cause)

/-! ## What a datagram says -/

theorem message_inj {kind' : UInt8} {payload' : Bytes} :
    message kind payload = message kind' payload' ↔ kind = kind' ∧ payload = payload' := by
  simp [message]

theorem challenge?_message : challenge? (message kind payload) =
    if kind = challengeKind ∧ 4 ≤ payload.length then some (payload.take 4) else none := by
  refine if_congr ?_ rfl rfl
  have htake : (message kind payload).take 5 = [0xFF, 0xFF, 0xFF, 0xFF, kind] := rfl
  have hlength : (message kind payload).length = payload.length + 5 := by simp [message]
  rw [htake, hlength]
  simp [message, challengeKind]

theorem challenge?_eq_none (h : ∀ kind payload, datagram ≠ message kind payload) :
    challenge? datagram = none := by
  refine if_neg fun ⟨hstart, hlength⟩ => h 0x41 (datagram.drop 5) ?_
  have happend := (List.take_append_drop 5 datagram).symm
  rw [hstart] at happend
  exact happend

theorem Reply.parse_message : Reply.parse (message kind payload) =
    if kind = challengeKind then
      if payload.length < 4 then
        .error (.malformedPacket (.replyEnded (payload.length + 5) 9))
      else .ok (.challenge (payload.take 4))
    else .ok (.payload kind payload) := by
  have hheader : Reading.bytes 4 { buf := message kind payload } =
      .ok (simpleHeader, { buf := message kind payload, pos := 4 }) :=
    (Reading.spells_bytes simpleHeader).reads _ ([kind] ++ payload) rfl
  have hkind : Reading.byte { buf := message kind payload, pos := 4 } =
      .ok (kind, { buf := message kind payload, pos := 5 }) :=
    (Reading.spells_byte kind).reads _ payload rfl
  rw [Reply.parse, Reading.run, Reply.reading, Reading.bind_of_ok hheader]
  dsimp only
  rw [if_neg (by decide), if_neg (by decide), Reading.bind_of_ok hkind]
  split_ifs with hchallenge hshort
  · have hbytes : Reading.bytes 4 { buf := message kind payload, pos := 5 } =
        .error (.malformedPacket (.replyEnded (payload.length + 5) 9)) :=
      if_pos (by simp [message]; omega)
    rw [Reading.bind_of_error hbytes]
    rfl
  · have htake : (payload.take 4).length = 4 := List.length_take_of_le (by omega)
    have hbytes := (Reading.spells_bytes (payload.take 4)).reads
      { buf := message kind payload, pos := 5 } (payload.drop 4)
      (List.take_append_drop 4 payload).symm
    rw [htake] at hbytes
    rw [Reading.bind_of_ok hbytes]
    rfl
  · rfl

/-- A datagram that is no whole message is malformed. -/
theorem Reply.parse_of_ne_message (h : ∀ kind payload, datagram ≠ message kind payload) :
    ∃ cause, Reply.parse datagram = .error (.malformedPacket cause) := by
  have hread : (Reply.reading { buf := datagram }).map Prod.fst = Reply.parse datagram := rfl
  by_cases hshort : datagram.length < 4
  · have hbytes : Reading.bytes 4 { buf := datagram } =
        .error (.malformedPacket (.replyEnded datagram.length 4)) := if_pos hshort
    exact ⟨_, by rw [← hread, Reply.reading, Reading.bind_of_error hbytes]; rfl⟩
  obtain ⟨header, tail, rfl, hlength⟩ : ∃ header tail, datagram = header ++ tail ∧
      header.length = 4 :=
    ⟨_, _, (List.take_append_drop 4 datagram).symm, List.length_take_of_le (by omega)⟩
  have hheader := (Reading.spells_bytes header).reads { buf := header ++ tail } tail rfl
  rw [hlength] at hheader
  rw [← hread, Reply.reading, Reading.bind_of_ok hheader]
  dsimp only
  by_cases hsplit : header = splitHeader
  · exact ⟨_, by rw [if_pos hsplit]; rfl⟩
  rw [if_neg hsplit]
  by_cases hsimple : header = simpleHeader
  · -- The header is right, so the reply ends before its kind.
    obtain rfl := hsimple
    cases tail with
    | nil => exact ⟨_, rfl⟩
    | cons kind payload => exact absurd rfl (h kind payload)
  · exact ⟨_, by rw [if_pos hsimple]; rfl⟩

/-! ## Round after round -/

section Follows

variable {n : Nat} {plain : Bytes} {carrying : Bytes → Bytes} {requests : List Bytes}
  {result : Except Error α}

theorem Follows.of_end (h : leadingTokens outcomes = [])
    (ends : Ends kind parse (outcomes.getD 0 (.error .timeout)) result) :
    Follows kind parse (n + 1) plain carrying outcomes [plain] result where
  requests := by rw [h, List.map_nil, List.take_succ_cons, List.take_nil]
  ends _ := by rwa [h]
  exhausted hle := by
    rw [h] at hle
    exact absurd hle (Nat.not_succ_le_zero n)

theorem Follows.of_challenge (h : challenge? datagram = some token)
    (more : Follows kind parse n (carrying token) carrying outcomes requests result) :
    Follows kind parse (n + 1) plain carrying (.ok datagram :: outcomes) (plain :: requests)
      result := by
  have htokens : leadingTokens (.ok datagram :: outcomes) = token :: leadingTokens outcomes := by
    rw [leadingTokens, h]
  refine ⟨?_, fun hlt => ?_, fun hle => ?_⟩
  · rw [htokens, List.map_cons, List.take_succ_cons, more.requests]
  · rw [htokens, List.length_cons] at hlt ⊢
    exact more.ends (Nat.lt_of_succ_lt_succ hlt)
  · rw [htokens, List.length_cons] at hle
    exact more.exhausted (Nat.le_of_succ_le_succ hle)

end Follows

section Rounds

variable (kind parse request)

/-- A challenge is taken up by the next request. -/
theorem run_query_challenge {n : Nat} {challenge : Option Bytes}
    (h : challenge? datagram = some token) :
    (query kind parse request (n + 1) challenge).run (.ok datagram :: outcomes) =
      (request challenge :: ((query kind parse request n (some token)).run outcomes).1,
        ((query kind parse request n (some token)).run outcomes).2) := by
  by_cases hmessage : ∃ actual payload, datagram = message actual payload
  · obtain ⟨actual, payload, rfl⟩ := hmessage
    rw [challenge?_message, Option.ite_none_right_eq_some, Option.some.injEq] at h
    obtain ⟨⟨rfl, hlength⟩, rfl⟩ := h
    have hparse : Reply.parse (message challengeKind payload) =
        .ok (.challenge (payload.take 4)) := by
      rw [Reply.parse_message, if_pos rfl, if_neg (Nat.not_lt.mpr hlength)]
    rw [query, Exchange.run_ask_ok, hparse]
  · rw [challenge?_eq_none fun actual payload heq => hmessage ⟨actual, payload, heq⟩] at h
    cases h

/-- A message that is no challenge ends the query. -/
theorem run_query_message (hkind : kind ≠ challengeKind)
    (malformed : ∀ payload e, parse payload = .error e → ∃ cause, e = .malformedPacket cause)
    {n : Nat} {challenge : Option Bytes} {actual : UInt8}
    (h : challenge? (message actual payload) = none) :
    ∃ result, Ends kind parse (.ok (message actual payload)) result ∧
      (query kind parse request (n + 1) challenge).run (.ok (message actual payload) :: outcomes) =
        ([request challenge], result) := by
  rw [query, Exchange.run_ask_ok, Reply.parse_message]
  by_cases hactual : actual = kind
  · obtain rfl := hactual
    rw [if_neg hkind]
    dsimp only
    rw [if_pos rfl]
    cases hread : parse payload with
    | ok a => exact ⟨_, .answered payload a hread, rfl⟩
    | error e =>
      obtain ⟨cause, rfl⟩ := malformed payload e hread
      refine ⟨_, .refused _ cause fun payload' a heq => ?_, rfl⟩
      obtain ⟨-, rfl⟩ := message_inj.mp heq
      rw [hread]
      nofun
  · have other (payload' : Bytes) (a : α) (heq : message actual payload = message kind payload') :
        parse payload' ≠ .ok a :=
      absurd (message_inj.mp heq).1 hactual
    split_ifs with hchallenge hshort
    · exact ⟨_, .refused _ _ other, rfl⟩
    · rw [challenge?_message, if_pos ⟨hchallenge, Nat.le_of_not_lt hshort⟩] at h
      cases h
    · dsimp only
      rw [if_neg hactual]
      exact ⟨_, .refused _ _ other, rfl⟩

/-- Any outcome but a challenge ends the query. -/
theorem run_query_end (hkind : kind ≠ challengeKind)
    (malformed : ∀ payload e, parse payload = .error e → ∃ cause, e = .malformedPacket cause)
    {n : Nat} {challenge : Option Bytes} (first : Except Error Bytes)
    (h : ∀ datagram, first = .ok datagram → challenge? datagram = none) :
    ∃ result, Ends kind parse first result ∧
      (query kind parse request (n + 1) challenge).run (first :: outcomes) =
        ([request challenge], result) := by
  cases first with
  | error e => exact ⟨.error e, .failed e, Exchange.run_ask_error ..⟩
  | ok datagram =>
    by_cases hmessage : ∃ actual payload, datagram = message actual payload
    · obtain ⟨actual, payload, rfl⟩ := hmessage
      exact run_query_message kind parse request hkind malformed (h _ rfl)
    · have hne (actual : UInt8) (payload : Bytes) : datagram ≠ message actual payload :=
        fun heq => hmessage ⟨actual, payload, heq⟩
      obtain ⟨cause, hparse⟩ := Reply.parse_of_ne_message hne
      refine ⟨_, .refused datagram cause fun payload _ heq _ => hne kind payload heq, ?_⟩
      rw [query, Exchange.run_ask_ok, hparse]
      rfl

/-- The requests of a query carry the tokens of the challenges, and the first reply that is no
challenge ends it. -/
theorem query_follows (hkind : kind ≠ challengeKind)
    (malformed : ∀ payload e, parse payload = .error e → ∃ cause, e = .malformedPacket cause)
    (n : Nat) (challenge : Option Bytes) (outcomes : List (Except Error Bytes)) :
    Follows kind parse n (request challenge) (fun token => request (some token)) outcomes
      ((query kind parse request n challenge).run outcomes).1
      ((query kind parse request n challenge).run outcomes).2 := by
  induction n generalizing challenge outcomes with
  | zero => exact ⟨rfl, nofun, fun _ => ⟨_, rfl⟩⟩
  | succ n ih =>
    cases outcomes with
    | nil =>
      rw [Exchange.run_nil]
      exact Follows.of_end rfl (.failed .timeout)
    | cons first outcomes =>
      by_cases hfirst : ∃ datagram token, first = .ok datagram ∧ challenge? datagram = some token
      · obtain ⟨datagram, token, rfl, htoken⟩ := hfirst
        rw [run_query_challenge kind parse request htoken]
        exact Follows.of_challenge htoken (ih (some token) outcomes)
      · have hnone (datagram : Bytes) (h : first = .ok datagram) : challenge? datagram = none :=
          Option.eq_none_iff_forall_ne_some.mpr fun token ht => hfirst ⟨datagram, token, h, ht⟩
        obtain ⟨result, ends, hrun⟩ :=
          run_query_end kind parse request hkind malformed first hnone
        rw [hrun]
        refine Follows.of_end ?_ ends
        cases first with
        | error e => rfl
        | ok datagram => rw [leadingTokens, hnone datagram rfl]

end Rounds

/-- A query for a server's information sends the plain request, and then one for each challenge that
it gets, which carries the challenge's token after the plain request; a query for its players does
the same with four bytes in place of the token that it does not have yet. There are four requests at
most. -/
theorem queries_take_up_challenges (outcomes : List (Except Error Bytes)) :
    let plain : Bytes := message 0x54 (Text.Utf8.encode "Source Engine Query" ++ [0])
    Follows 0x49 Info.parse 4 plain (plain ++ ·) outcomes (info.run outcomes).1
        (info.run outcomes).2 ∧
      Follows 0x44 Player.parseAll 4 (message 0x55 [0xFF, 0xFF, 0xFF, 0xFF]) (message 0x55)
        outcomes (players.run outcomes).1 (players.run outcomes).2 := by
  intro plain
  have hplain : infoRequest none = plain := by
    simp [plain, infoRequest, message, simpleHeader, infoRequestKind, infoText]
  have hcarrying (token : Bytes) : infoRequest (some token) = plain ++ token := by
    simp [plain, infoRequest, message, simpleHeader, infoRequestKind, infoText]
  constructor
  · have follows := query_follows infoKind Info.parse infoRequest (by decide)
      Info.selfDelimiting_reading.malformed_of_error 4 none outcomes
    rwa [hplain, funext hcarrying] at follows
  · exact query_follows playersKind Player.parseAll
      (fun challenge => playersRequest (challenge.getD noChallenge)) (by decide)
      Player.selfDelimiting_readingAll.malformed_of_error 4 none outcomes

end RemoteConsole.Query.Source
