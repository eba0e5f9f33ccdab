import RemoteConsole.Proofs.Client.Trials

/-!
# Which answer a call is told

The packets that authenticate all have the same id, a server's answer does not say which of them it
is to, and a connection keeps one place for the authentication that waits. So an answer goes to the
one that waits when it arrives, whichever it was meant for. What holds of those that have ended and
of the one that waits is in `Told`, and of the calls behind them in `Tried`; every step keeps both.
The main theorem (`told_next_answer`) says which answer a call is told, and when that is its own:
where every packet before its own had been answered when it began. After an authentication that was
given up unanswered it is not.
-/

namespace RemoteConsole

namespace Link

variable {l : Link}

/-- Whoever is told an answer does not end without one. -/
theorem not_dropped_of_frame (l : Link) (bytes : Bytes) (attempt : Nat) :
    ⟨attempt, none⟩ ∉ (l.apply (.frame bytes)).2.1.verdicts := by
  rw [(settles_apply l (.frame bytes)).verdicts]
  change ⟨attempt, none⟩ ∉ (((Packet.decode bytes
    l.conn.routing.encoding).toOption.bind Packet.verdict?).map some).elim [] l.conn.verdict
  cases (Packet.decode bytes l.conn.routing.encoding).toOption.bind Packet.verdict? with
  | none => exact List.not_mem_nil
  | some accepted =>
    intro hv
    cases (Connection.mem_verdict.mp hv).2

/-- The one that ends where another begins had begun just before. -/
theorem attempts_of_dropped {ended : List Nat} (numbered : l.conn.Numbered ended) {attempt : Nat}
    (hv : ⟨attempt, none⟩ ∈ (l.apply .beginAuth).2.1.verdicts) : l.conn.attempts = attempt + 1 :=
  (numbered.last (Connection.mem_verdict.mp hv).1).1

end Link

namespace Client

open Connection (Numbered)

variable {c c' : Client} {action : Action} {actions : List Action} {g n : Nat} {config : Config}
  {t : Trials}

/-! ## The stages of a call that authenticates -/

/-- A call with the ticket of an authentication writes it or waits for the answer. -/
theorem stage_of_authTicket {stage : Stage} {attempt : Nat}
    (ticket : stage.ticket? = some (g, .authentication attempt)) :
    (∃ packet bytes, stage = .writingAuth g attempt packet bytes) ∨
      stage = .awaitVerdict g attempt := by
  cases stage with
  | writingAuth k a packet bytes =>
    obtain ⟨rfl, ha⟩ := Prod.mk.inj (Option.some.inj ticket)
    obtain rfl := Ticket.authentication.inj ha
    exact .inl ⟨packet, bytes, rfl⟩
  | awaitVerdict k a =>
    obtain ⟨rfl, ha⟩ := Prod.mk.inj (Option.some.inj ticket)
    obtain rfl := Ticket.authentication.inj ha
    exact .inr rfl
  | _ => cases ticket

/-- A call that has begun an authentication had it before the step, and has not taken the step or
has written, or has just begun it. -/
theorem ticket_of_step (h : c.step action = some c') {errand : Errand} {stage' : Stage}
    {attempt : Nat} (hcall' : c'.calls[n]? = some ⟨errand, stage'⟩)
    (ticket : stage'.ticket? = some (g, .authentication attempt)) :
    (c.calls[n]? = some ⟨errand, stage'⟩ ∧ action.call? ≠ some n) ∨
      (∃ packet bytes, action = .write n .written ∧ stage' = .awaitVerdict g attempt ∧
        c.calls[n]? = some ⟨errand, .writingAuth g attempt packet bytes⟩) ∨
      ∃ s password bytes, action = .advance n ∧ c.session? g = some s ∧ attempt = s.conn.attempts ∧
        stage' = .writingAuth g attempt (.ofPassword password) bytes ∧
          c.calls[n]? = some ⟨errand, .beginningAuth g password⟩ := by
  by_cases taker : action.call? = some n
  · obtain ⟨errand₀, stage, hcall, step⟩ := callStep_of_step h taker
    have hmoved {d : Client} {stage'' : Stage} (calls : d.calls = c.calls)
        (hd : (d.setStage n stage'').calls[n]? = some ⟨errand, stage'⟩) :
        errand₀ = errand ∧ stage'' = stage' := by
      have hsame := Option.some.inj ((call_setStage (calls.symm ▸ hcall) stage'').symm.trans hd)
      exact Call.mk.inj hsame
    have hnone {d : Client} {stage'' : Stage} (calls : d.calls = c.calls)
        (hd : (d.setStage n stage'').calls[n]? = some ⟨errand, stage'⟩)
        (none : stage''.ticket? = none) : False := by
      obtain ⟨-, rfl⟩ := hmoved calls hd
      cases none.symm.trans ticket
    cases step with
    | dealt _ _ _ calls silent kept =>
      obtain none | ⟨rfl, kept⟩ := kept
      · exact (hnone calls hcall' none).elim
      · obtain ⟨rfl, rfl⟩ := hmoved calls hcall'
        refine .inr (.inl ?_)
        obtain ⟨packet, bytes, rfl⟩ | rfl := stage_of_authTicket (kept.symm.trans ticket)
        · obtain ⟨packet', bytes', rfl⟩ | rfl := stage_of_authTicket ticket
          · cases (silent g).symm.trans (beq_self_eq_true g)
          · exact ⟨packet, bytes, rfl, rfl, hcall⟩
        · -- A call that waits for an answer does not write.
          replace h : c.write n .written = some _ := h
          rw [write, hcall] at h
          cases h
    | asked _ _ session _ calls _ given _ begins =>
      obtain ⟨rfl, rfl⟩ := hmoved calls hcall'
      obtain ⟨rfl, rfl⟩ := Prod.mk.inj (Option.some.inj (given.symm.trans ticket))
      obtain ⟨password, rfl⟩ := begins attempt rfl
      obtain ⟨_, -, begun⟩ := begun_of_advance hcall session h
      cases begun with
      | goes _ stage =>
        obtain ⟨-, rfl⟩ := Call.mk.inj (Option.some.inj (hcall'.symm.trans stage))
        obtain ⟨-, hattempt⟩ := Prod.mk.inj (Option.some.inj ticket)
        obtain rfl := Ticket.authentication.inj hattempt
        exact .inr (.inr ⟨_, password, _, rfl, session, rfl, rfl, hcall⟩)
      | refused _ stage => cases (stage _ hcall').symm.trans ticket
    | attempted _ _ _ _ calls none | made _ _ _ _ _ calls none =>
      exact (hnone calls hcall' none).elim
  · obtain same | ⟨taker', -⟩ := (moves_of_step h).ticketed hcall' ticket
    · exact .inl ⟨same, taker⟩
    · exact absurd taker' taker

/-! ## Who is told what -/

/-- What the authentications on a connection are told. -/
structure Told (t : Trials) (conn : Connection) (verdicts : List Verdict) : Prop where
  /-- Those that have ended and the one that waits are those that have begun. -/
  numbered : conn.Numbered (verdicts.map Verdict.attempt)
  /-- All of these are known. -/
  begun : t.begun.length = conn.attempts
  /-- No answer has arrived since the one that waits began. -/
  waiting : ∀ attempt, conn.auth = some attempt →
    ∃ m, t.begun[attempt]? = some m ∧ m.answered = t.answers.length
  /-- One that was told an answer was told the first that had arrived since. -/
  ended : ∀ attempt accepted, ⟨attempt, some accepted⟩ ∈ verdicts →
    ∃ m, t.begun[attempt]? = some m ∧ t.answers[m.answered]? = some accepted

/-- What is there stays there when something is added. -/
theorem getElem?_append_of_eq_some {α : Type} {as : List α} {i : Nat} {a : α}
    (h : as[i]? = some a) (bs : List α) : (as ++ bs)[i]? = some a := by
  rw [List.getElem?_append_left (List.getElem?_eq_some_iff.mp h).1, h]

namespace Told

variable {l : Link} {verdicts : List Verdict}

/-- One that has begun and has not ended is the one that waits. -/
theorem waits (told : Told t l.conn verdicts) {attempt : Nat} {m : Trial}
    (begun : t.begun[attempt]? = some m) (unended : ∀ v ∈ verdicts, v.attempt ≠ attempt) :
    l.conn.auth = some attempt := by
  have hlt : attempt < l.conn.attempts := by
    rw [← told.begun]
    exact (List.getElem?_eq_some_iff.mp begun).1
  have hmem := List.mem_range.mpr hlt
  rw [← told.numbered, List.mem_append] at hmem
  obtain hended | hwaits := hmem
  · obtain ⟨v, hv, hattempt⟩ := List.mem_map.mp hended
    exact absurd hattempt (unended v hv)
  · exact Option.mem_toList.mp hwaits

/-- Nobody is told anything before anything has happened. -/
theorem of_new {conn : Connection} (h : t.begun = []) (auth : conn.auth = none)
    (attempts : conn.attempts = 0) : Told t conn [] where
  numbered := by
    rw [Numbered, auth, attempts]
    rfl
  begun := by rw [h, attempts, List.length_nil]
  waiting := fun attempt hwaits => by cases auth.symm.trans hwaits
  ended := fun attempt accepted hv => by cases hv

/-- Where no answer arrives and none begins, nobody is told anything. -/
theorem still (told : Told t l.conn verdicts) {ops : List Link.Op}
    (unheard : Link.Unheard l (l.effects ops) (l.after ops)) :
    Told t (l.after ops).conn (verdicts ++ (l.effects ops).verdicts) where
  numbered := by
    rw [List.map_append]
    exact Link.numbered_after told.numbered ops
  begun := told.begun.trans unheard.attempts.symm
  waiting := fun attempt hwaits => by
    obtain hsame | hnone := unheard.auth
    · exact told.waiting attempt (hsame ▸ hwaits)
    · cases hnone.symm.trans hwaits
  ended := fun attempt accepted hv => by
    obtain hv | hv := List.mem_append.mp hv
    · exact told.ended attempt accepted hv
    · cases (unheard.verdicts _ hv).1

/-- One that is dropped is told nothing. -/
theorem cancel (told : Told t l.conn verdicts) :
    Told t (l.apply .cancelAuth).2.2.conn (verdicts ++ (l.apply .cancelAuth).2.1.verdicts) where
  numbered := by
    rw [List.map_append]
    exact Link.numbered_apply told.numbered .cancelAuth
  begun := told.begun
  waiting := nofun
  ended := fun attempt accepted hv => by
    obtain hv | hv := List.mem_append.mp hv
    · exact told.ended attempt accepted hv
    · obtain ⟨_, -, h⟩ := List.mem_map.mp hv
      cases h

/-- One that begins waits for the next answer. -/
theorem begin (told : Told t l.conn verdicts) {m : Trial}
    (answered : m.answered = t.answers.length) :
    Told { t with begun := t.begun ++ [m] } (l.apply .beginAuth).2.2.conn
      (verdicts ++ (l.apply .beginAuth).2.1.verdicts) where
  numbered := by
    rw [List.map_append]
    exact Link.numbered_apply told.numbered .beginAuth
  begun := by
    rw [List.length_append, told.begun]
    rfl
  waiting := fun attempt hwaits => by
    -- Its number is the number of those that had begun before.
    obtain rfl : l.conn.attempts = attempt := Option.some.inj hwaits
    refine ⟨m, ?_, answered⟩
    rw [← told.begun]
    exact List.getElem?_concat_length
  ended := fun attempt accepted hv => by
    obtain hv | hv := List.mem_append.mp hv
    · obtain ⟨m', hm', hanswer⟩ := told.ended attempt accepted hv
      exact ⟨m', getElem?_append_of_eq_some hm' _, hanswer⟩
    · obtain ⟨_, -, h⟩ := List.mem_map.mp hv
      cases h

/-- A frame that holds an answer tells it to the one that waits. -/
theorem hear (told : Told t l.conn verdicts) (bytes : Bytes) :
    Told { t with answers := t.answers ++
        ((Packet.decode bytes l.conn.routing.encoding).toOption.bind Packet.verdict?).toList }
      (l.apply (.frame bytes)).2.2.conn (verdicts ++ (l.apply (.frame bytes)).2.1.verdicts) := by
  have hnumbered := Link.numbered_apply told.numbered (.frame bytes)
  rw [← List.map_append] at hnumbered
  obtain ⟨hverdicts, hauth, hattempts⟩ := Link.settles_apply l (.frame bytes)
  rw [if_neg nofun] at hauth
  have hend : l.authEnd? (.frame bytes) = ((Packet.decode bytes
      l.conn.routing.encoding).toOption.bind Packet.verdict?).map some := rfl
  rw [hend] at hverdicts hauth
  cases hanswer : (Packet.decode bytes l.conn.routing.encoding).toOption.bind Packet.verdict? with
  | none =>
    rw [hanswer] at hverdicts hauth
    have hnone : (l.apply (.frame bytes)).2.1.verdicts = [] := hverdicts
    rw [hnone] at hnumbered ⊢
    rw [Option.toList_none, List.append_nil, List.append_nil]
    rw [List.append_nil] at hnumbered
    exact ⟨hnumbered, told.begun.trans hattempts.symm, fun attempt hwaits =>
      told.waiting attempt (hauth.symm.trans hwaits), told.ended⟩
  | some accepted =>
    rw [hanswer] at hverdicts hauth
    refine ⟨hnumbered, told.begun.trans hattempts.symm, fun attempt hwaits => ?_,
      fun attempt accepted' hv => ?_⟩
    · cases hauth.symm.trans hwaits
    · rw [hverdicts] at hv
      obtain hv | hv := List.mem_append.mp hv
      · obtain ⟨m, hm, hanswered⟩ := told.ended attempt accepted' hv
        exact ⟨m, hm, getElem?_append_of_eq_some hanswered _⟩
      · -- The one that waits is told the answer that arrives.
        obtain ⟨waited, hwaited, h⟩ := List.mem_map.mp hv
        obtain ⟨rfl, haccepted⟩ := Verdict.mk.inj h
        obtain rfl := Option.some.inj haccepted
        obtain ⟨m, hm, hanswered⟩ := told.waiting waited (Option.mem_toList.mp hwaited)
        refine ⟨m, hm, ?_⟩
        rw [hanswered]
        exact List.getElem?_concat_length

end Told

/-- What is known of the authentications on the connection of a generation, and of the calls that
have begun them. -/
structure Tried (g : Nat) (c : Client) (t : Trials) : Prop where
  /-- What the authentications are told. -/
  told : ∀ s, c.session? g = some s → Told t s.conn s.verdicts
  /-- None has begun before the connection is there. -/
  unbegun : c.session? g = none → t.begun = []
  /-- A call that has begun one is the one that did, and has sent its password. -/
  backed : ∀ (n : Nat) (errand : Errand) (stage : Stage) (attempt : Nat),
    c.calls[n]? = some ⟨errand, stage⟩ → stage.ticket? = some (g, .authentication attempt) →
      ∃ m, t.begun[attempt]? = some m ∧ m.call = n ∧ stage.BackedBy (c.page g) m
  /-- One that a call waits for ends without an answer only where the connection is closed or
  another has begun. -/
  dropped : ∀ (s : Session) (n : Nat) (errand : Errand) (stage : Stage) (attempt : Nat),
    c.session? g = some s → c.calls[n]? = some ⟨errand, stage⟩ →
      stage.ticket? = some (g, .authentication attempt) → ⟨attempt, none⟩ ∈ s.verdicts →
        s.conn.closed = true ∨ attempt + 1 < s.conn.attempts

theorem tried_fresh (config : Config) (listeners : Registry) (g : Nat) :
    Tried g (fresh config listeners) {} where
  told := fun s hs => by cases hs
  unbegun := fun _ => rfl
  backed := fun n errand stage attempt hcall => by cases hcall
  dropped := fun s n errand stage attempt hs => by cases hs

/-- A call that has written has sent its packet. -/
theorem sent_of_write (attended : Attended c) (h : c.write n .written = some c') {errand : Errand}
    {attempt : Nat} {packet : Packet} {bytes : Bytes}
    (hcall : c.calls[n]? = some ⟨errand, .writingAuth g attempt packet bytes⟩) :
    (c'.page g).sent = (c.page g).sent ++ [packet] := by
  obtain ⟨hs, hpost, hdesk, -⟩ := writeEnds_of_write attended h
  obtain ⟨rfl, -, rfl, rfl⟩ := Post.writing.inj ((post_of_call hcall).symm.trans hpost)
  rw [desk_put_of_none hs rfl] at hdesk
  have hpage := (congrArg (Desk.page · g) hdesk).trans (Desk.page_turn c.desk g g _)
  rw [if_pos rfl] at hpage
  rw [page_of_session? hs]
  exact congrArg Page.sent hpage

/-- What a step tells the authentications. -/
theorem Tried.told_step (tried : Tried g c t) (inTurn : InTurn config c) (attended : Attended c)
    (orderly : Orderly c) (h : c.step action = some c') {s' : Session}
    (hs' : c'.session? g = some s') : Told (noteTrials g c action c' t) s'.conn s'.verdicts := by
  cases hs : c.session? g with
  | none =>
    rw [noteTrials_of_none hs h]
    obtain ⟨s, hs₀, -⟩ | rfl := (transition_of_step h).origin hs'
    · cases hs.symm.trans hs₀
    · exact .of_new (tried.unbegun hs) rfl rfl
  | some s =>
    have told := tried.told s hs
    obtain ⟨s'', hs'', tries⟩ := tries_of_step attended orderly hs h
    obtain rfl := Option.some.inj (hs'.symm.trans hs'')
    cases tries with
    | still unnoted unheard becomes =>
      obtain ⟨l, hl, hconn, hverdicts⟩ := becomes
      rw [← hl] at told
      rw [unnoted, hconn, hverdicts]
      exact told.still (unheard l)
    | @heard bytes arrives becomes =>
      obtain ⟨l, hl, hconn, hverdicts⟩ := becomes
      have hencoding : c.config.encoding = l.conn.routing.encoding := by
        rw [hl, inTurn.routing hs, inTurn.configured]
        rfl
      rw [← hl] at told
      rw [arrives, hconn, hverdicts, Link.verdicts_single]
      refine Eq.mp (congrArg (Told · _ _) ?_) (told.hear bytes)
      rw [← hencoding]
      exact (if_pos rfl).symm
    | expired taker call waits becomes =>
      obtain ⟨l, hl, hconn, hverdicts⟩ := becomes
      rw [← hl] at told
      rw [taker, hconn, hverdicts, Link.verdicts_single]
      exact told.cancel
    | began taker call begins =>
      rw [taker, noteTrials_of_beginning call]
      cases begins with
      | goes becomes =>
        obtain ⟨l, hl, hconn, hverdicts⟩ := becomes
        rw [← hl] at told
        rw [hconn, hverdicts, Link.verdicts_single]
        exact told.begin rfl
      | refused becomes =>
        obtain ⟨l, hl, hconn, hverdicts⟩ := becomes
        rw [← hl] at told
        rw [hconn, hverdicts, Link.verdicts_pair, ← List.append_assoc]
        exact (told.begin rfl).cancel

/-- Whoever has begun one has sent it, or writes it. -/
theorem Tried.backed_step (tried : Tried g c t) (inTurn : InTurn config c) (attended : Attended c)
    (orderly : Orderly c) (h : c.step action = some c') {errand : Errand} {stage : Stage}
    {attempt : Nat} (hcall : c'.calls[n]? = some ⟨errand, stage⟩)
    (ticket : stage.ticket? = some (g, .authentication attempt)) :
    ∃ m, (noteTrials g c action c' t).begun[attempt]? = some m ∧ m.call = n ∧
      stage.BackedBy (c'.page g) m := by
  obtain ⟨packets, hsent, hpackets⟩ := sent_of_step attended orderly h g
  have hauths := Page.auths_of_sent hsent
  obtain ⟨before, other⟩ | ⟨packet, bytes, rfl, rfl, before⟩ |
    ⟨s, password, bytes, rfl, hs, rfl, rfl, before⟩ := ticket_of_step h hcall ticket
  · obtain ⟨m, hm, hcaller, backed⟩ := tried.backed n errand stage attempt before ticket
    obtain ⟨more, hmore⟩ := begun_of_noteTrials g c action c' t
    refine ⟨m, hmore ▸ getElem?_append_of_eq_some hm more, hcaller, ?_⟩
    obtain ⟨packet, bytes, rfl⟩ | rfl := stage_of_authTicket ticket
    · -- Whoever writes has the lock, so nobody else has written.
      obtain rfl : packets = [] := by
        obtain hnone | ⟨k, request, written, hactor, hpost⟩ := hpackets
        · exact hnone
        · have hk : k = .call n :=
            inTurn.held.eq (by rw [post_of_call before]; nofun) (by rw [hpost]; nofun)
          exact absurd (Action.call?_of_actor? (hk ▸ hactor)) other
      refine ⟨backed.1, backed.2.trans ?_⟩
      rw [hauths, List.filter_nil, List.append_nil]
    · change (c'.page g).auths[m.posted]? = _
      rw [hauths]
      exact getElem?_append_of_eq_some backed _
  · obtain ⟨m, hm, hcaller, rfl, hposted⟩ := tried.backed n errand _ attempt before ticket
    refine ⟨m, hm, hcaller, ?_⟩
    have hwritten := Page.auths_of_sent (sent_of_write attended h before)
    change (c'.page g).auths[m.posted]? = _
    rw [hwritten, hposted]
    exact List.getElem?_concat_length
  · refine ⟨⟨n, password, (c.page g).auths.length, t.answers.length⟩, ?_, rfl, rfl, ?_⟩
    · rw [noteTrials_of_beginning before, ← (tried.told s hs).begun]
      exact List.getElem?_concat_length
    · -- A call that begins an authentication does not write.
      obtain rfl : packets = [] := by
        obtain hnone | ⟨k, request, written, hactor, hpost⟩ := hpackets
        · exact hnone
        · obtain rfl := Option.some.inj hactor
          cases hpost.symm.trans (post_of_call before)
      rw [hauths, List.filter_nil, List.append_nil]

/-- An authentication that ends without an answer in a step, and that a call still waits for, ends
because the connection closes or because another begins. -/
theorem Tried.dropped_in_step (tried : Tried g c t) (attended : Attended c) (orderly : Orderly c)
    (h : c.step action = some c') {s s' : Session} (hs : c.session? g = some s)
    (hs' : c'.session? g = some s') {errand : Errand} {stage : Stage} {attempt : Nat}
    (hcall : c.calls[n]? = some ⟨errand, stage⟩)
    (ticket : stage.ticket? = some (g, .authentication attempt)) (notUp : action ≠ .expire n)
    (before : ⟨attempt, none⟩ ∉ s.verdicts) (ended : ⟨attempt, none⟩ ∈ s'.verdicts) :
    s'.conn.closed = true ∨ attempt + 1 < s'.conn.attempts := by
  have told := tried.told s hs
  obtain ⟨s'', hs'', tries⟩ := tries_of_step attended orderly hs h
  obtain rfl := Option.some.inj (hs'.symm.trans hs'')
  have hnew {l : Link} {ops : List Link.Op}
      (hverdicts : s'.verdicts = s.verdicts ++ (l.effects ops).verdicts) :
      ⟨attempt, none⟩ ∈ (l.effects ops).verdicts := by
    rw [hverdicts] at ended
    exact (List.mem_append.mp ended).resolve_left before
  obtain ⟨m, hm, hcaller, -⟩ := tried.backed n errand stage attempt hcall ticket
  cases tries with
  | still unnoted unheard becomes =>
    obtain ⟨l, hl, hconn, hverdicts⟩ := becomes
    exact .inl (hconn ▸ ((unheard l).verdicts _ (hnew hverdicts)).2)
  | @heard bytes arrives becomes =>
    obtain ⟨l, hl, hconn, hverdicts⟩ := becomes
    have hv := hnew hverdicts
    rw [Link.verdicts_single] at hv
    exact absurd hv (Link.not_dropped_of_frame l bytes attempt)
  | @expired k waited errand' taker call waits becomes =>
    obtain ⟨l, hl, hconn, hverdicts⟩ := becomes
    have hv := hnew hverdicts
    rw [Link.verdicts_single] at hv
    -- The call whose time is up waits for the same one, so it is the same call.
    obtain ⟨m', hm', hcaller', -⟩ := tried.backed k errand' _ waited call rfl
    have hunended : ∀ v ∈ s.verdicts, v.attempt ≠ waited := fun v hv hattempt =>
      List.find?_eq_none.mp (Option.map_eq_none_iff.mp waits) v hv (beq_iff_eq.mpr hattempt)
    rw [← hl] at told
    have hwaited := told.waits hm' hunended
    obtain rfl : waited = attempt :=
      Option.some.inj (hwaited.symm.trans (Connection.mem_verdict.mp hv).1)
    obtain rfl := Option.some.inj (hm.symm.trans hm')
    exact absurd (taker.trans (by rw [← hcaller, ← hcaller'])) notUp
  | began taker call begins =>
    cases begins with
    | goes becomes =>
      obtain ⟨l, hl, hconn, hverdicts⟩ := becomes
      have hv := hnew hverdicts
      rw [Link.verdicts_single] at hv
      rw [← hl] at told
      have hlast := Link.attempts_of_dropped told.numbered hv
      have hattempts : s'.conn.attempts = l.conn.attempts + 1 := by
        rw [hconn]
        rfl
      exact .inr (by omega)
    | refused becomes =>
      obtain ⟨l, hl, hconn, hverdicts⟩ := becomes
      have hv := hnew hverdicts
      rw [Link.verdicts_pair] at hv
      rw [← hl] at told
      have hattempts : s'.conn.attempts = l.conn.attempts + 1 := by
        rw [hconn]
        rfl
      obtain hv | hv := List.mem_append.mp hv
      · have hlast := Link.attempts_of_dropped told.numbered hv
        exact .inr (by omega)
      · -- The one that has just begun is not the one that the call waits for.
        have hlast : l.conn.attempts = attempt := Option.some.inj (Connection.mem_verdict.mp hv).1
        have hlt := (List.getElem?_eq_some_iff.mp hm).1
        rw [told.begun] at hlt
        omega

/-- An authentication ends without an answer, while a call waits for it, only where the connection
is closed or another has begun. -/
theorem Tried.dropped_step (tried : Tried g c t) (inTurn : InTurn config c) (attended : Attended c)
    (orderly : Orderly c) (h : c.step action = some c') {s' : Session} {errand : Errand}
    {stage : Stage} {attempt : Nat} (hs' : c'.session? g = some s')
    (hcall : c'.calls[n]? = some ⟨errand, stage⟩)
    (ticket : stage.ticket? = some (g, .authentication attempt))
    (ended : ⟨attempt, none⟩ ∈ s'.verdicts) :
    s'.conn.closed = true ∨ attempt + 1 < s'.conn.attempts := by
  have hbefore {stage₀ : Stage} (before : c.calls[n]? = some ⟨errand, stage₀⟩)
      (ticket₀ : stage₀.ticket? = some (g, .authentication attempt))
      (notUp : action ≠ .expire n) : s'.conn.closed = true ∨ attempt + 1 < s'.conn.attempts := by
    obtain ⟨s, hs, -⟩ := attended.issued before ticket₀
    -- Closed connections stay closed, and the count of authentications never goes down.
    by_cases hv : ⟨attempt, none⟩ ∈ s.verdicts
    · obtain ⟨s'', hs'', l, ops, hl, hconn, -⟩ := (transition_of_step h).continued hs
      obtain rfl := Option.some.inj (hs'.symm.trans hs'')
      obtain hclosed | hlater := tried.dropped s n errand stage₀ attempt hs before ticket₀ hv
      · obtain ⟨s'', hs'', hclosed'⟩ := (transition_of_step h).closed ⟨s, hs, hclosed⟩
        obtain rfl := Option.some.inj (hs'.symm.trans hs'')
        exact .inl hclosed'
      · have hattempts : s'.conn.attempts = s.conn.attempts + ops.count .beginAuth := by
          rw [hconn, Link.attempts_after, hl]
        exact .inr (by omega)
    · exact tried.dropped_in_step attended orderly h hs hs' before ticket₀ notUp hv ended
  obtain ⟨before, other⟩ | ⟨packet, bytes, rfl, rfl, before⟩ |
    ⟨s, password, bytes, rfl, hs, rfl, rfl, before⟩ := ticket_of_step h hcall ticket
  · refine hbefore before ticket ?_
    rintro rfl
    exact other rfl
  · exact hbefore before rfl nofun
  · -- One that has just begun waits.
    obtain ⟨s'', hs'', begun⟩ := begun_of_advance before hs h
    obtain rfl := Option.some.inj (hs'.symm.trans hs'')
    cases begun with
    | goes becomes =>
      obtain ⟨l, hl, hconn, -⟩ := becomes
      have hwaits : s'.conn.auth = some s.conn.attempts := by
        rw [hconn, ← hl]
        rfl
      have told := tried.told_step inTurn attended orderly h hs'
      exact absurd (List.mem_map_of_mem ended) (told.numbered.last hwaits).2
    | refused _ stage => cases (stage _ hcall).symm.trans ticket

/-- What every step keeps. -/
theorem Tried.step (tried : Tried g c t) (inTurn : InTurn config c) (attended : Attended c)
    (orderly : Orderly c) (h : c.step action = some c') :
    Tried g c' (noteTrials g c action c' t) where
  told := fun s hs => tried.told_step inTurn attended orderly h hs
  unbegun := fun hnone => by
    cases hs : c.session? g with
    | none =>
      rw [noteTrials_of_none hs h]
      exact tried.unbegun hs
    | some s =>
      obtain ⟨s', hs', -⟩ := (transition_of_step h).continued hs
      cases hnone.symm.trans hs'
  backed := fun n errand stage attempt hcall ticket =>
    tried.backed_step inTurn attended orderly h hcall ticket
  dropped := fun s n errand stage attempt hs hcall ticket ended =>
    tried.dropped_step inTurn attended orderly h hs hcall ticket ended

/-- What is known of the authentications of a run. -/
theorem tried_of_run {listeners : Registry} (h : (fresh config listeners).run actions = some c) :
    Tried g c ((fresh config listeners).trialsOn g actions) :=
  (tally_keeps (p := fun d t => Attended d ∧ Orderly d ∧ InTurn config d ∧ Tried g d t)
    (fun ⟨attended, orderly, inTurn, tried⟩ hstep =>
      ⟨attended.step hstep, orderly.step hstep, inTurn.step attended orderly hstep,
        tried.step inTurn attended orderly hstep⟩)
    ⟨attended_fresh config listeners, orderly_fresh config listeners,
      inTurn_fresh config listeners, tried_fresh config listeners g⟩ h).2.2.2

/-! ## How a call leaves its authentication -/

section Leaving

variable {d : Client} {errand : Errand} {attempt : Nat}

/-- A call that is finished is at its answer, whatever was unlocked for it. -/
theorem call_finish {stage : Stage} (hcall : c.calls[n]? = some ⟨errand, stage⟩)
    (calls : d.calls = c.calls) (answer : Answer) :
    (d.finish n answer).calls[n]? = some ⟨errand, .finished answer⟩ :=
  call_setStage ((calls_unlock d n).trans calls ▸ hcall) _

/-- A call whose authentication has ended goes on as that has ended. -/
theorem settled_of_advance (hcall : c.calls[n]? = some ⟨errand, .awaitVerdict g attempt⟩)
    (h : c.advance n = some c') :
    ∃ s accepted, c.session? g = some s ∧ ⟨attempt, accepted⟩ ∈ s.verdicts ∧
      c'.calls[n]? = some ⟨errand, errand.settled accepted⟩ := by
  unfold advance at h
  obtain ⟨call, hcall', h⟩ := Option.bind_eq_some_iff.mp h
  obtain rfl := Option.some.inj (hcall.symm.trans hcall')
  obtain ⟨s, hs, h⟩ := Option.bind_eq_some_iff.mp h
  obtain ⟨accepted, hverdict, h⟩ := Option.bind_eq_some_iff.mp h
  obtain ⟨v, hv, rfl⟩ := Option.map_eq_some_iff.mp hverdict
  have hfound := List.find?_some hv
  have hattempt : v.attempt = attempt := eq_of_beq hfound
  refine ⟨s, v.accepted, hs, hattempt ▸ List.mem_of_find?_eq_some hv, ?_⟩
  match haccepted : v.accepted with
  | some true =>
    rw [haccepted] at h
    obtain rfl := Option.some.inj h
    have hcalls : ((c.setState g .ready).startWatch g).calls = c.calls := calls_startWatch ..
    cases errand with
    | command => exact call_setStage ((calls_unlock _ n).trans hcalls ▸ hcall) _
    | connect | authenticate | disconnect => exact call_finish hcall hcalls _
  | some false =>
    rw [haccepted] at h
    obtain rfl := Option.some.inj h
    exact call_finish (d := c.setState g .authenticating) hcall rfl _
  | none =>
    rw [haccepted] at h
    obtain rfl := Option.some.inj h
    exact call_finish hcall rfl _

/-- A call whose write ends waits for the answer, or leaves for the error. -/
theorem departs_of_write {packet : Packet} {bytes : Bytes} {outcome : WriteOutcome}
    (hcall : c.calls[n]? = some ⟨errand, .writingAuth g attempt packet bytes⟩)
    (h : c.write n outcome = some c') :
    c'.calls[n]? = some ⟨errand, .awaitVerdict g attempt⟩ ∨
      ∃ stage ∈ errand.departures, c'.calls[n]? = some ⟨errand, stage⟩ := by
  unfold write at h
  obtain ⟨call, hcall', h⟩ := Option.bind_eq_some_iff.mp h
  obtain rfl := Option.some.inj (hcall.symm.trans hcall')
  have hput := calls_put c g [packet] bytes outcome
  have hfailed (e : Error) :
      (((c.put g [packet] bytes outcome).1.onConn g (·.cancelAuth)).refuse n errand
        (.fatal e)).calls[n]? = some ⟨errand, .finished (errand.refusal (.fatal e))⟩ :=
    call_finish hcall ((calls_onConn ..).trans hput) _
  cases outcome with
  | written =>
    obtain rfl := Option.some.inj h
    exact .inl (call_setStage ((calls_unlockSession ..).trans hput ▸ hcall) _)
  | broken count =>
    obtain rfl := Option.some.inj h
    exact .inr ⟨_, by simp [Errand.departures], hfailed .io⟩
  | timedOut count =>
    obtain rfl := Option.some.inj h
    exact .inr ⟨_, by simp [Errand.departures], hfailed .timeout⟩

/-- A call whose time is up leaves. -/
theorem departs_of_expire (hcall : c.calls[n]? = some ⟨errand, .awaitVerdict g attempt⟩)
    (h : c.expire n = some c') :
    ∃ stage ∈ errand.departures, c'.calls[n]? = some ⟨errand, stage⟩ := by
  unfold expire at h
  obtain ⟨call, hcall', h⟩ := Option.bind_eq_some_iff.mp h
  obtain rfl := Option.some.inj (hcall.symm.trans hcall')
  obtain ⟨s, -, h⟩ := Option.bind_eq_some_iff.mp h
  dsimp only at h
  split_ifs at h
  obtain rfl := Option.some.inj h
  exact ⟨.finished (errand.refusal (.fatal .timeout)), by simp [Errand.departures],
    call_finish hcall (calls_onConn ..) _⟩

/-- A call that is dropped leaves. -/
theorem departs_of_abandon {stage : Stage} {count : Nat}
    (hcall : c.calls[n]? = some ⟨errand, stage⟩)
    (ticket : stage.ticket? = some (g, .authentication attempt))
    (h : c.abandon n count = some c') :
    ∃ stage' ∈ errand.departures, c'.calls[n]? = some ⟨errand, stage'⟩ := by
  unfold abandon at h
  obtain ⟨call, hcall', h⟩ := Option.bind_eq_some_iff.mp h
  obtain rfl := Option.some.inj (hcall.symm.trans hcall')
  refine ⟨.abandoned, List.mem_cons_self, ?_⟩
  obtain ⟨packet, bytes, rfl⟩ | rfl := stage_of_authTicket ticket
  · obtain rfl := Option.some.inj h
    exact call_setStage ((calls_unlock ..).trans (calls_modifySession ..) ▸ hcall) _
  · obtain rfl := Option.some.inj h
    exact call_setStage ((calls_unlock ..) ▸ hcall) _

/-- A call that leaves its authentication does so before that has ended, or as it has ended. -/
theorem departs_of_step {stage stage' : Stage} (hcall : c.calls[n]? = some ⟨errand, stage⟩)
    (ticket : stage.ticket? = some (g, .authentication attempt)) (h : c.step action = some c')
    (hcall' : c'.calls[n]? = some ⟨errand, stage'⟩)
    (left : stage'.ticket? ≠ some (g, .authentication attempt)) :
    stage' ∈ errand.departures ∨
      ∃ s accepted, stage = .awaitVerdict g attempt ∧ c.session? g = some s ∧
        ⟨attempt, accepted⟩ ∈ s.verdicts ∧ stage' = errand.settled accepted := by
  have taker : action.call? = some n := by
    by_contra other
    obtain ⟨-, rfl⟩ := Call.mk.inj
      (Option.some.inj (((moves_of_step h).other hcall other).symm.trans hcall'))
    exact left ticket
  have hat {stage'' : Stage} (hcall'' : c'.calls[n]? = some ⟨errand, stage''⟩) : stage'' = stage' :=
    (Call.mk.inj (Option.some.inj (hcall''.symm.trans hcall'))).2
  have hdeparts (departs : ∃ stage ∈ errand.departures, c'.calls[n]? = some ⟨errand, stage⟩) :
      stage' ∈ errand.departures := by
    obtain ⟨stage'', hmem, hcall''⟩ := departs
    exact hat hcall'' ▸ hmem
  cases action with
  | abandon m count =>
    obtain rfl := Option.some.inj taker
    exact .inl (hdeparts (departs_of_abandon hcall ticket h))
  | write m outcome =>
    obtain rfl := Option.some.inj taker
    obtain ⟨packet, bytes, rfl⟩ | rfl := stage_of_authTicket ticket
    · obtain waits | departs := departs_of_write hcall h
      · obtain rfl := hat waits
        exact absurd rfl left
      · exact .inl (hdeparts departs)
    · replace h : c.write m outcome = some c' := h
      rw [write, hcall] at h
      cases h
  | expire m =>
    obtain rfl := Option.some.inj taker
    obtain ⟨packet, bytes, rfl⟩ | rfl := stage_of_authTicket ticket
    · replace h : c.expire m = some c' := h
      rw [expire, hcall] at h
      cases h
    · exact .inl (hdeparts (departs_of_expire hcall h))
  | advance m =>
    obtain rfl := Option.some.inj taker
    obtain ⟨packet, bytes, rfl⟩ | rfl := stage_of_authTicket ticket
    · replace h : c.advance m = some c' := h
      rw [advance, hcall] at h
      cases h
    · obtain ⟨s, accepted, hs, hended, hsettled⟩ := settled_of_advance hcall h
      exact .inr ⟨s, accepted, rfl, hs, hended, (hat hsettled).symm⟩
  | dial m outcome =>
    obtain rfl := Option.some.inj taker
    replace h : c.dial m outcome = some c' := h
    rw [dial, hcall] at h
    obtain ⟨packet, bytes, rfl⟩ | rfl := stage_of_authTicket ticket
    · cases h
    · cases h
  | _ => cases taker

end Leaving

/-- A call that leaves its authentication is told the first answer that arrives on its connection
after it has begun, if it is told one. To a server that answers the packets that authenticate in
order, that is its answer to the packet whose number is the number of the answers that had arrived
when the authentication began: to the call's own packet, if all before it had been answered by then.
(The server may have read packets, after those that were sent, whose writes are not over.) A call is
told that the connection is closed only if it is, or if another authentication has begun since.
Otherwise the call leaves because it is dropped, its write fails or its time is up. -/
theorem told_next_answer (config : Config) (listeners : Registry) (accepts : String → Bool)
    (actions : List Action) (action : Action) (c c' : Client) (g n attempt : Nat) (errand : Errand)
    (stage stage' : Stage) (asked : List Packet)
    (hrun : (fresh config listeners).run actions = some c)
    (reads : (c.page g).auths <+: asked)
    (inOrder : ((fresh config listeners).trialsOn g actions).answers <+:
      asked.map (accepts ·.body))
    (hcall : c.calls[n]? = some ⟨errand, stage⟩)
    (ticket : stage.ticket? = some (g, .authentication attempt))
    (hstep : c.step action = some c') (hcall' : c'.calls[n]? = some ⟨errand, stage'⟩)
    (left : stage'.ticket? ≠ some (g, .authentication attempt)) :
    let t := (fresh config listeners).trialsOn g actions
    ∃ m, t.begun[attempt]? = some m ∧ m.call = n ∧ (stage' ∈ errand.departures ∨
      ∃ accepted, stage' = errand.settled accepted ∧
        asked[m.posted]? = some (.ofPassword m.password) ∧
        (∀ b, accepted = some b → t.answers[m.answered]? = some b ∧
          (∃ p, asked[m.answered]? = some p ∧ accepts p.body = b) ∧
            (m.answered = m.posted → accepts m.password = b)) ∧
        (accepted = none →
          (c.session? g).any (·.conn.closed) = true ∨ attempt + 1 < t.begun.length)) := by
  intro t
  have tried : Tried g c t := tried_of_run hrun
  obtain ⟨m, hm, hcaller, hbacked⟩ := tried.backed n errand stage attempt hcall ticket
  refine ⟨m, hm, hcaller, (departs_of_step hcall ticket hstep hcall' left).imp_right ?_⟩
  rintro ⟨s, accepted, rfl, hs, hended, rfl⟩
  obtain ⟨unread, rfl⟩ := reads
  have hown : ((c.page g).auths ++ unread)[m.posted]? = some (.ofPassword m.password) :=
    getElem?_append_of_eq_some hbacked unread
  refine ⟨accepted, rfl, hown, fun b hb => ?_, fun hnone => ?_⟩
  · subst hb
    obtain ⟨m', hm', hanswer⟩ := (tried.told s hs).ended attempt b hended
    obtain rfl := Option.some.inj (hm.symm.trans hm')
    obtain ⟨more, hmore⟩ := inOrder
    have hjudged := getElem?_append_of_eq_some hanswer more
    rw [hmore, List.getElem?_map] at hjudged
    obtain ⟨p, hp, hb⟩ := Option.map_eq_some_iff.mp hjudged
    refine ⟨hanswer, ⟨p, hp, hb⟩, fun hsame => ?_⟩
    -- The packet that was answered is the call's own.
    rw [hsame] at hp
    obtain rfl := Option.some.inj (hown.symm.trans hp)
    exact hb
  · subst hnone
    obtain hclosed | hlater := tried.dropped s n errand _ attempt hs hcall rfl hended
    · exact .inl (by rw [hs]; exact hclosed)
    · exact .inr ((tried.told s hs).begun ▸ hlater)

/-- A call connects with the password "secret", and the time for the answer is up. -/
def unanswered : List Action :=
  [.call .connect, .advance 0, .advance 0, .dial 0 .stream, .advance 0, .advance 0, .advance 0,
    .advance 0, .advance 0, .advance 0, .write 0 .written, .expire 0]

/-- Another call authenticates with another password. -/
def retried : List Action :=
  [.call (.authenticate "wrong"), .advance 1, .advance 1, .advance 1, .write 1 .written]

/-- The server accepts the password. -/
def acceptance : Action :=
  .frame 1 (Packet.layout Packet.authId .authResponse [])

/-- The server rejects the password. -/
def rejection : Action :=
  .frame 1 (Packet.layout Packet.authFailedId .authResponse [])

/-- If the late answer arrives before the other call begins, that call is told its own. -/
theorem told_next_answer_in_order : ∃ c c' m,
    (fresh { password := "secret" } {}).run (unanswered ++ [acceptance] ++ retried ++ [rejection]) =
        some c ∧
      c.step (.advance 1) = some c' ∧
      ((fresh { password := "secret" } {}).trialsOn 1
        (unanswered ++ [acceptance] ++ retried ++ [rejection])).begun[1]? = some m ∧
      m.answered = m.posted ∧
      c'.calls[1]? = some ⟨.authenticate "wrong", .finished (.refused .invalidPassword)⟩ ∧
        (m.password == "secret") = false := by
  have hrun : ((fresh { password := "secret" } {}).run
      (unanswered ++ [acceptance] ++ retried ++ [rejection])).isSome = true := by decide
  obtain ⟨c, hc⟩ := Option.isSome_iff_exists.mp hrun
  have hbegun : ((fresh { password := "secret" } {}).trialsOn 1
      (unanswered ++ [acceptance] ++ retried ++ [rejection])).begun[1]? =
        some ⟨1, "wrong", 1, 1⟩ := by decide
  have hfacts : (c.page 1).auths = [.ofPassword "secret", .ofPassword "wrong"] ∧
      c.calls[1]? = some ⟨.authenticate "wrong", .awaitVerdict 1 1⟩ ∧
        (c.step (.advance 1)).map (·.calls[1]?) =
          some (some ⟨.authenticate "wrong", .finished (.refused .invalidPassword)⟩) := by
    obtain rfl := Option.get_of_eq_some hrun hc
    clear hc
    refine ⟨?_, ?_, ?_⟩ <;> decide +revert
  obtain ⟨hauths, hcall, hstepped⟩ := hfacts
  obtain ⟨c', hc', hcall'⟩ := Option.map_eq_some_iff.mp hstepped
  obtain ⟨m, hm, -, htold⟩ := told_next_answer { password := "secret" } {} (· == "secret") _
    (.advance 1) c c' 1 1 1 (.authenticate "wrong") _ _
    [.ofPassword "secret", .ofPassword "wrong"] hc (hauths ▸ List.prefix_rfl) (by decide) hcall rfl
    hc' hcall' nofun
  obtain rfl := Option.some.inj (hbegun.symm.trans hm)
  obtain hdeparts | ⟨accepted, hsettled, -, hanswer, -⟩ := htold
  · exact absurd hdeparts (by decide)
  · obtain rfl : accepted = some false := by
      match accepted with
      | some false => rfl
      | some true | none => cases hsettled
    exact ⟨c, c', _, hc, hc', hbegun, rfl, hcall', (hanswer false rfl).2.2 rfl⟩

/-- If it arrives afterwards, the other call takes it for its own, and is told that its password is
accepted. -/
theorem not_told_own_answer : ¬ ∀ (config : Config) (accepts : String → Bool)
    (actions : List Action) (c c' : Client) (g n attempt : Nat) (password : String),
    (fresh config {}).run actions = some c →
      ((fresh config {}).trialsOn g actions).answers <+: (c.page g).auths.map (accepts ·.body) →
      c.calls[n]? = some ⟨.authenticate password, .awaitVerdict g attempt⟩ →
      c.step (.advance n) = some c' →
      c'.calls[n]? = some ⟨.authenticate password, .finished .done⟩ → accepts password = true := by
  intro h
  have hrun : ((fresh { password := "secret" } {}).run
      (unanswered ++ retried ++ [acceptance])).isSome = true := by decide
  obtain ⟨c, hc⟩ := Option.isSome_iff_exists.mp hrun
  have hfacts : (c.page 1).auths = [.ofPassword "secret", .ofPassword "wrong"] ∧
      c.calls[1]? = some ⟨.authenticate "wrong", .awaitVerdict 1 1⟩ ∧
        (c.step (.advance 1)).map (·.calls[1]?) =
          some (some ⟨.authenticate "wrong", .finished .done⟩) := by
    obtain rfl := Option.get_of_eq_some hrun hc
    clear hc
    refine ⟨?_, ?_, ?_⟩ <;> decide +revert
  obtain ⟨hauths, hcall, hstepped⟩ := hfacts
  obtain ⟨c', hc', hcall'⟩ := Option.map_eq_some_iff.mp hstepped
  have haccepts := h { password := "secret" } (· == "secret") _ c c' 1 1 1 "wrong" hc
    (by rw [hauths]; decide) hcall hc' hcall'
  revert haccepts
  decide

end Client

end RemoteConsole
