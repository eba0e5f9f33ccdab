import RemoteConsole.Proofs.Client.Generations

/-!
# Who waits on a closed connection

A call looks whether its connection is open, and registers its request or begins its authentication
in a later step. If the connection is closed between the two, nothing ends what was asked after
that: the call waits until its time runs out. A connection that is closed is `Released` by everybody
who waited on it as long as no step asks anything on it after it was closed, and only so long
(`released_iff`).

Two accounts are kept along a run. Every call has a number that its connection has given out, and
every number that was given out waits or has ended (`Attended`). Nobody waits on a connection that
is closed, until something is asked on it late (`rests_of_step`).
-/

namespace RemoteConsole

/-- Whether a call at a stage waits for an answer on the connection of a generation. -/
def Stage.waitsOn (g : Nat) : Stage → Bool
  | awaitVerdict h _ | awaitResponse h _ _ => h == g
  | _ => false

/-- Whether a call at a stage is about to ask something on the connection of a generation. -/
def Stage.asksNextOn (g : Nat) : Stage → Bool
  | beginningAuth h _ | registering h => h == g
  | _ => false

namespace Link

variable {l : Link} {t : Ticket}

/-- No operation takes a number back. -/
theorem hasIssued_apply (issued : l.conn.HasIssued t) (op : Op) :
    (l.apply op).2.2.conn.HasIssued t := by
  have hdispatch (p : Packet) : (l.conn.dispatch p).2.HasIssued t := by
    unfold Connection.dispatch
    split_ifs
    · exact issued
    · exact issued
    · cases t with
      | request slot =>
        show slot < (l.conn.requests.deliver ..).2.1.issued
        rw [RequestTable.deliver_issued]
        exact issued
      | authentication attempt => exact issued
  cases op with
  | register id multi =>
    cases t with
    | request slot => exact Nat.lt_succ_of_lt issued
    | authentication attempt => exact issued
  | beginAuth =>
    cases t with
    | request slot => exact issued
    | authentication attempt => exact Nat.lt_succ_of_lt issued
  | frame bytes =>
    change (l.frameReceived bytes).2.conn.HasIssued t
    unfold frameReceived
    split
    · exact hdispatch _
    · exact issued
  | packet p => exact hdispatch p
  | close =>
    change l.close.2.conn.HasIssued t
    cases hclosed : l.conn.closed with
    | true =>
      rw [close_of_closed hclosed]
      exact issued
    | false =>
      rw [close_of_open hclosed]
      cases t with
      | request slot | authentication attempt => exact issued
  | remove id =>
    cases t with
    | request slot | authentication attempt => exact issued
  | cancelAuth | claimWatch | track | state op => exact issued

theorem hasIssued_after (issued : l.conn.HasIssued t) (ops : List Op) :
    (l.after ops).conn.HasIssued t := by
  induction ops generalizing l with
  | nil => exact issued
  | cons op ops ih => exact ih (hasIssued_apply issued op)

end Link

namespace Client

open Connection (Rests)

variable {c c' : Client} {action : Action} {actions : List Action} {g n : Nat}

/-! ## What a step makes of a connection -/

/-- A connection is what some operations make of another, and so is what was reported of it. -/
def Continues (s s' : Session) : Prop :=
  ∃ (l : Link) (ops : List Link.Op), l.conn = s.conn ∧ s'.conn = (l.after ops).conn ∧
    s'.ended = s.ended ++ (l.effects ops).ended ∧
      s'.verdicts = s.verdicts ++ (l.effects ops).verdicts

/-- Nothing happens to a connection. -/
theorem Continues.refl (s : Session) : Continues s s :=
  ⟨⟨s.conn, {}, {}⟩, [], rfl, rfl, (List.append_nil _).symm, (List.append_nil _).symm⟩

/-- What is found under a generation once a connection was put in place. -/
theorem session?_append {s : Session} (sessions : c'.sessions = c.sessions ++ [s]) (h : Nat) :
    c'.session? h = (c.session? h).or (if s.conn.generation = h then some s else none) := by
  rw [session?, sessions, List.find?_append, List.find?_singleton]
  simp only [beq_iff_eq]
  rfl

/-- Every connection that there is after a step was there before, or has just been made. -/
theorem Transition.origin (transition : Transition c action c') {s' : Session}
    (hs' : c'.session? g = some s') :
    (∃ s, c.session? g = some s ∧ Continues s s') ∨ s' = c.newSession g := by
  have hsame (hs : c.session? g = some s') :
      (∃ s, c.session? g = some s ∧ Continues s s') ∨ s' = c.newSession g :=
    .inl ⟨s', hs, .refl s'⟩
  have hdeals {k : Nat} {ops : List Link.Op} (deals : Deals k ops c c') :
      (∃ s, c.session? g = some s ∧ Continues s s') ∨ s' = c.newSession g := by
    obtain hs | ⟨-, s, hs, haccount⟩ := deals.session_cases hs'
    · exact hsame hs
    · exact .inl ⟨s, hs, (c.account s).link, ops, rfl, congrArg (·.link.conn) haccount,
        congrArg (·.ended) haccount, congrArg (·.verdicts) haccount⟩
  cases transition with
  | dealt _ _ _ deals => exact hdeals deals
  | asked _ _ _ deals => exact hdeals deals
  | attempted _ _ sessions =>
    rw [session?, sessions] at hs'
    exact hsame hs'
  | @made k _ _ _ sessions =>
    have hnew : (c.newSession k).conn.generation = k := rfl
    rw [session?_append sessions, hnew] at hs'
    obtain hold | ⟨-, hmade⟩ := Option.or_eq_some_iff.mp hs'
    · exact hsame hold
    · split_ifs at hmade with hk
      exact .inr (hk ▸ (Option.some.inj hmade).symm)

/-- Every connection that there is before a step is there afterwards. -/
theorem Transition.continued (transition : Transition c action c') {s : Session}
    (hs : c.session? g = some s) : ∃ s', c'.session? g = some s' ∧ Continues s s' := by
  have hdeals {k : Nat} {ops : List Link.Op} (deals : Deals k ops c c') :
      ∃ s', c'.session? g = some s' ∧ Continues s s' := by
    by_cases hg : g = k
    · subst hg
      obtain ⟨s', hs', haccount⟩ := deals.exists_session hs
      exact ⟨s', hs', (c.account s).link, ops, rfl, congrArg (·.link.conn) haccount,
        congrArg (·.ended) haccount, congrArg (·.verdicts) haccount⟩
    · exact ⟨s, (deals.others g hg).trans hs, .refl s⟩
  cases transition with
  | dealt _ _ _ deals => exact hdeals deals
  | asked _ _ _ deals => exact hdeals deals
  | attempted _ _ sessions =>
    refine ⟨s, ?_, .refl s⟩
    rw [session?, sessions]
    exact hs
  | made _ _ _ sessions =>
    refine ⟨s, ?_, .refl s⟩
    rw [session?_append sessions, hs, Option.some_or]

/-- It has given out what it had. -/
theorem Transition.hasIssued (transition : Transition c action c') {t : Ticket}
    (issued : c.HasIssued g t) : c'.HasIssued g t := by
  obtain ⟨s, hs, hissued⟩ := issued
  obtain ⟨s', hs', l, ops, hl, hconn, -⟩ := transition.continued hs
  rw [← hl] at hissued
  exact ⟨s', hs', hconn ▸ Link.hasIssued_after hissued ops⟩

/-- A connection that is closed stays so. -/
theorem Transition.closed (transition : Transition c action c')
    (closed : ∃ s, c.session? g = some s ∧ s.conn.closed = true) :
    ∃ s, c'.session? g = some s ∧ s.conn.closed = true := by
  obtain ⟨s, hs, hclosed⟩ := closed
  obtain ⟨s', hs', l, ops, hl, hconn, -⟩ := transition.continued hs
  rw [← hl] at hclosed
  exact ⟨s', hs', hconn ▸ (Link.stays_after l ops fun _ => hclosed).closed.trans hclosed⟩

/-! ## Every number is accounted for -/

/-- What calls wait for is accounted for. -/
structure Attended (c : Client) : Prop where
  /-- Whatever a connection has given a number waits or has ended. -/
  balanced : ∀ {g : Nat} {s : Session}, c.session? g = some s →
    Balanced s.conn s.ended s.verdicts
  /-- The number that a call has was given out by its connection. -/
  issued : ∀ {n : Nat} {call : Call} {g : Nat} {t : Ticket}, c.calls[n]? = some call →
    call.stage.ticket? = some (g, t) → c.HasIssued g t

theorem attended_fresh (config : Config) (listeners : Registry) :
    Attended (fresh config listeners) where
  balanced := fun h => by cases h
  issued := fun h => by cases h

/-- Every step keeps what calls wait for accounted for. -/
theorem Attended.step (attended : Attended c) (h : c.step action = some c') : Attended c' := by
  have htransition := transition_of_step h
  refine ⟨fun {g s'} hs' => ?_, fun {m call g t} hcall ht => ?_⟩
  · obtain ⟨s, hs, l, ops, hl, hconn, hended, hverdicts⟩ | rfl := htransition.origin hs'
    · rw [hconn, hended, hverdicts]
      have hbalanced := attended.balanced hs
      rw [← hl] at hbalanced
      exact hbalanced.after ops
    · exact .of_new rfl rfl
  · -- The call that moves keeps its number, or has just been given it.
    obtain same | ⟨-, ⟨call₀, hcall₀, kept⟩ | given⟩ := (moves_of_step h).ticketed hcall ht
    · exact htransition.hasIssued (attended.issued same ht)
    · exact htransition.hasIssued (attended.issued hcall₀ kept)
    · exact given

/-! ## What is asked late -/

/-- Whether a step asks something on the connection of a generation although that is closed. -/
def asksLate (c : Client) (g : Nat) (action : Action) : Bool :=
  c.asks action g && (c.session? g).any (·.conn.closed)

/-- Whether, when some actions are taken, something is asked on the connection of a generation
although that is closed. -/
def askedLate (c : Client) (g : Nat) : List Action → Bool
  | [] => false
  | action :: actions => c.asksLate g action || (c.step action).any (·.askedLate g actions)

/-- Nobody waits on a connection after a step if it is closed, unless something was asked late. -/
theorem rests_of_step (rests : ∀ s, c.session? g = some s → Rests s.conn)
    (h : c.step action = some c') (intime : c.asksLate g action = false) :
    ∀ s', c'.session? g = some s' → Rests s'.conn := by
  intro s' hs'
  cases transition_of_step h with
  | @dealt k ops _ calm _ deals =>
    obtain hs | ⟨-, s, hs, haccount⟩ := deals.session_cases hs'
    · exact rests s' hs
    · have hconn : s'.conn = ((c.account s).link.after ops).conn := congrArg (·.link.conn) haccount
      rw [hconn]
      exact Link.rests_after (l := (c.account s).link) (rests s hs) calm.quiet
  | @asked k op _ asking asked deals =>
    obtain hs | ⟨rfl, s, hs, haccount⟩ := deals.session_cases hs'
    · exact rests s' hs
    · have hconn : s'.conn = ((c.account s).link.apply op).2.2.conn := by
        rw [Account.after_singleton] at haccount
        exact congrArg (·.link.conn) haccount
      -- The connection was open, and asking something does not close it.
      have hopen : s.conn.closed = false := by
        rw [asksLate, asked, hs, Option.any_some, Bool.true_and] at intime
        exact intime
      have hstays := Link.stays_apply (c.account s).link op fun hop => by
        rw [hop] at asking
        cases asking
      intro hclosed
      rw [hconn, hstays.closed] at hclosed
      cases hopen.symm.trans hclosed
  | attempted _ _ sessions =>
    rw [session?, sessions] at hs'
    exact rests s' hs'
  | @made k _ _ _ sessions =>
    rw [session?_append sessions] at hs'
    obtain hold | ⟨-, hmade⟩ := Option.or_eq_some_iff.mp hs'
    · exact rests s' hold
    · split_ifs at hmade
      obtain rfl := Option.some.inj hmade
      exact fun hclosed => by cases hclosed

/-- A step asks something on one connection at most. -/
theorem asks_unique {k : Nat} (h : c.asks action g = true) (h' : c.asks action k = true) :
    g = k := by
  have hwrites {stage : Stage} (hw : stage.writesOn g = true) (hw' : stage.writesOn k = true) :
      g = k := by
    cases stage with
    | writingAuth j _ _ _ | writingCommand j _ _ _ _ =>
      exact (beq_iff_eq.mp hw).symm.trans (beq_iff_eq.mp hw')
    | _ => cases hw
  cases action with
  | advance n =>
    obtain ⟨call, hcall, hw⟩ := (Option.any_eq_true _ _).mp h
    obtain ⟨call', hcall', hw'⟩ := (Option.any_eq_true _ _).mp h'
    obtain rfl := Option.some.inj (hcall.symm.trans hcall')
    exact hwrites hw hw'
  | watch j =>
    have hj := (Bool.and_eq_true_iff.mp h).1
    have hj' := (Bool.and_eq_true_iff.mp h').1
    exact (beq_iff_eq.mp hj).symm.trans (beq_iff_eq.mp hj')
  | _ => cases h

/-- What is asked late is still waited for afterwards. -/
theorem not_rests_of_asksLate (h : c.step action = some c') (late : c.asksLate g action = true) :
    ∃ s', c'.session? g = some s' ∧ ¬Rests s'.conn := by
  obtain ⟨hasks, hclosed⟩ := Bool.and_eq_true_iff.mp late
  have hnot (hunasked : ∀ h, c.asks action h = false) : False := by
    rw [hunasked g] at hasks
    cases hasks
  cases transition_of_step h with
  | dealt _ _ unasked => exact (hnot unasked).elim
  | attempted _ unasked => exact (hnot unasked).elim
  | made _ unasked => exact (hnot unasked).elim
  | @asked k op _ asking asked deals =>
    obtain rfl := asks_unique hasks asked
    obtain ⟨s, hs, hs_closed⟩ := (Option.any_eq_true _ _).mp hclosed
    obtain ⟨s', hs', haccount⟩ := deals.exists_session hs
    have hconn : s'.conn = ((c.account s).link.apply op).2.2.conn := by
      rw [Account.after_singleton] at haccount
      exact congrArg (·.link.conn) haccount
    refine ⟨s', hs', ?_⟩
    rw [hconn]
    exact Link.not_rests_of_asks (l := (c.account s).link) hs_closed asking

/-! ## Calls that wait -/

/-- A call that waits goes on by itself, and cannot run into its timeout. If it fails then, that is
because the connection is closed, or because the server rejected the password. -/
structure GoesOn (c : Client) (n : Nat) : Prop where
  /-- Its time cannot run out any more. -/
  inTime : c.expire n = none
  /-- It can take its next step, and how it may fail. -/
  next : ∃ c', c.advance n = some c' ∧ ∀ answer e, (c'.calls[n]?).bind Call.answer? = some answer →
    answer.text = .error e → e = .connectionClosed ∨ e = .authenticationFailed

/-- Nobody waits on the connection of a generation if that is closed: nothing is pending on it, and
whoever still waits for an answer goes on. -/
structure Released (c : Client) (g : Nat) : Prop where
  /-- No request is pending, and no authentication waits. -/
  rests : ∀ s, c.session? g = some s → Rests s.conn
  /-- Every call that waits goes on. -/
  goesOn : c.outline.closed? g = some true → ∀ n stage, c.outline.stage? n = some stage →
    stage.waitsOn g = true → c.GoesOn n

/-- How a call that is over has ended. -/
theorem answer?_finish {d : Client} {answer answer' : Answer}
    (h : ((d.finish n answer).calls[n]?).bind Call.answer? = some answer') : answer' = answer := by
  obtain ⟨call, hcall, hanswer⟩ := Option.bind_eq_some_iff.mp h
  change ((d.unlock n).calls.modify n fun call => { call with stage := .finished answer })[n]? =
    some call at hcall
  rw [List.getElem?_modify] at hcall
  obtain ⟨call₀, -, rfl⟩ := Option.map_eq_some_iff.mp hcall
  rw [if_pos rfl] at hanswer
  exact (Option.some.inj hanswer).symm

/-- What has a number is found under it, or something before it is. -/
theorem exists_find?_of_mem_map {α : Type} {f : α → Nat} {l : List α} {k : Nat}
    (h : k ∈ l.map f) : ∃ a ∈ l, l.find? (f · == k) = some a := by
  obtain ⟨first, hfirst, hk⟩ := List.mem_map.mp h
  have hsome : (l.find? (f · == k)).isSome := by
    rw [List.find?_isSome]
    exact ⟨first, hfirst, beq_iff_eq.mpr hk⟩
  obtain ⟨a, ha⟩ := Option.isSome_iff_exists.mp hsome
  exact ⟨a, List.mem_of_find?_eq_some ha, ha⟩

/-- A command that waits on a closed connection where none is pending goes on. -/
theorem goesOn_of_awaitResponse (attended : Attended c) {s : Session} (hs : c.session? g = some s)
    (pending : s.conn.requests.pending = []) {errand : Errand} {id : Int32} {slot : Nat}
    (hcall : c.calls[n]? = some ⟨errand, .awaitResponse g id slot⟩) : c.GoesOn n := by
  have hbalanced := attended.balanced hs
  -- Its request was registered and is not pending, so it has ended.
  have hended : slot ∈ s.ended.map Settlement.slot := by
    obtain ⟨s', hs', hissued⟩ := attended.issued hcall rfl
    obtain rfl := Option.some.inj (hs.symm.trans hs')
    refine (hbalanced.slot hissued).resolve_left ?_
    rw [pending]
    exact List.not_mem_nil
  obtain ⟨settlement, hsettlement, houtcome⟩ : ∃ settlement ∈ s.ended,
      s.outcome? slot = some settlement.outcome := by
    obtain ⟨settlement, hmem, hfound⟩ := exists_find?_of_mem_map hended
    exact ⟨settlement, hmem, by rw [Session.outcome?, hfound, Option.map_some]⟩
  refine ⟨?_, ?_⟩
  · unfold expire
    simp only [hcall, hs, houtcome, Option.bind_eq_bind, Option.bind_some, Option.isSome_some,
      if_true]
  · unfold advance
    simp only [hcall, hs, houtcome, Option.bind_eq_bind, Option.bind_some]
    cases hkind : settlement.outcome with
    | answered body =>
      refine ⟨_, rfl, fun answer e hanswer herror => ?_⟩
      rw [answer?_finish hanswer] at herror
      cases herror
    | failed error =>
      refine ⟨_, rfl, fun answer e hanswer herror => .inl ?_⟩
      rw [answer?_finish hanswer] at herror
      rw [← Except.error.inj herror]
      exact hbalanced.failures settlement hsettlement error hkind
    | dropped =>
      refine ⟨_, rfl, fun answer e hanswer herror => .inl ?_⟩
      rw [answer?_finish hanswer] at herror
      exact (Except.error.inj herror).symm

/-- An authentication that waits on a closed connection where none is waited for goes on. -/
theorem goesOn_of_awaitVerdict (attended : Attended c) {s : Session} (hs : c.session? g = some s)
    (auth : s.conn.auth = none) {errand : Errand} {attempt : Nat}
    (hcall : c.calls[n]? = some ⟨errand, .awaitVerdict g attempt⟩) : c.GoesOn n := by
  -- It was begun and does not wait for its verdict, so it has ended.
  have hended : attempt ∈ s.verdicts.map Verdict.attempt := by
    obtain ⟨s', hs', hissued⟩ := attended.issued hcall rfl
    obtain rfl := Option.some.inj (hs.symm.trans hs')
    refine ((attended.balanced hs).attempts attempt hissued).resolve_left ?_
    rw [auth]
    exact fun hnone => by cases hnone
  obtain ⟨verdict, hverdict⟩ : ∃ verdict, s.verdict? attempt = some verdict := by
    obtain ⟨found, -, hfound⟩ := exists_find?_of_mem_map hended
    exact ⟨found.accepted, by rw [Session.verdict?, hfound, Option.map_some]⟩
  have hrefuse {d : Client} {error : AuthError} {answer : Answer} {e : Error}
      (hanswer : ((d.refuse n errand error).calls[n]?).bind Call.answer? = some answer)
      (herror : answer.text = .error e) : e = error.toError := by
    rw [answer?_finish hanswer] at herror
    cases errand with
    | connect | authenticate _ | command _ _ _ | disconnect => exact (Except.error.inj herror).symm
  refine ⟨?_, ?_⟩
  · unfold expire
    simp only [hcall, hs, hverdict, Option.bind_eq_bind, Option.bind_some, Option.isSome_some,
      if_true]
  · unfold advance
    simp only [hcall, hs, hverdict, Option.bind_eq_bind, Option.bind_some]
    match verdict with
    | some true =>
      refine ⟨_, rfl, fun answer e hanswer herror => ?_⟩
      cases errand with
      | command text multi timeout =>
        -- A command goes on to be sent, and has no answer yet.
        obtain ⟨call, hmoved, hover⟩ := Option.bind_eq_some_iff.mp hanswer
        change (List.modify _ n fun call => { call with stage := .awaitCommandLock })[n]? =
          some call at hmoved
        rw [List.getElem?_modify] at hmoved
        obtain ⟨call₀, -, rfl⟩ := Option.map_eq_some_iff.mp hmoved
        rw [if_pos rfl] at hover
        cases hover
      | connect | authenticate _ | disconnect =>
        rw [answer?_finish hanswer] at herror
        cases herror
    | some false => exact ⟨_, rfl, fun answer e hanswer herror => .inr (hrefuse hanswer herror)⟩
    | none => exact ⟨_, rfl, fun answer e hanswer herror => .inl (hrefuse hanswer herror)⟩

/-- Where nobody waits on the connection if it is closed, whoever waits for an answer goes on. -/
theorem Attended.released (attended : Attended c)
    (rests : ∀ s, c.session? g = some s → Rests s.conn) : c.Released g := by
  refine ⟨rests, fun hclosed n stage hstage hwaits => ?_⟩
  rw [outline_closed?] at hclosed
  obtain ⟨s, hs, hclosed⟩ := Option.map_eq_some_iff.mp hclosed
  obtain ⟨hpending, hauth⟩ := rests s hs hclosed
  obtain ⟨⟨errand, stage'⟩, hcall, rfl⟩ := Option.map_eq_some_iff.mp hstage
  cases stage' with
  | awaitVerdict h attempt =>
    obtain rfl := beq_iff_eq.mp hwaits
    exact goesOn_of_awaitVerdict attended hs hauth hcall
  | awaitResponse h id slot =>
    obtain rfl := beq_iff_eq.mp hwaits
    exact goesOn_of_awaitResponse attended hs hpending hcall
  | _ => cases hwaits

theorem askedLate_eq (c : Client) (g : Nat) (actions : List Action) :
    c.askedLate g actions = c.happens (·.asksLate g) actions := by
  induction actions generalizing c with
  | nil => rfl
  | cons action actions ih => simp only [askedLate, happens, ih]

/-- As long as nothing is asked late, nobody waits on a closed connection at any point of a run. -/
theorem released_of_run (attended : Attended c)
    (rests : ∀ s, c.session? g = some s → Rests s.conn) (intime : c.askedLate g actions = false)
    {before : List Action} (hbefore : before <+: actions) (h : c.run before = some c') :
    c'.Released g := by
  rw [askedLate_eq] at intime
  obtain ⟨attended', rests'⟩ := keeps_of_not_happens
    (p := fun d => Attended d ∧ ∀ s, d.session? g = some s → Rests s.conn)
    (fun _ kept hnow hstep => ⟨kept.1.step hstep, rests_of_step kept.2 hstep hnow⟩)
    ⟨attended, rests⟩ intime hbefore h
  exact attended'.released rests'

/-- What is asked is asked by a step that can be taken. -/
theorem exists_step_of_asks (hasks : c.asks action g = true) : ∃ c', c.step action = some c' := by
  cases action with
  | advance n =>
    obtain ⟨call, hcall, -⟩ := (Option.any_eq_true _ _).mp hasks
    obtain ⟨c', hc', -⟩ := Option.bind_eq_some_iff.mp hcall
    exact ⟨c', hc'⟩
  | watch k =>
    obtain ⟨hk, hwatch⟩ := Bool.and_eq_true_iff.mp hasks
    obtain rfl := beq_iff_eq.mp hk
    obtain ⟨s, hs, hregistering⟩ := (Option.any_eq_true _ _).mp hwatch
    change ∃ c', c.advanceWatch k = some c'
    unfold advanceWatch
    simp only [hs, beq_iff_eq.mp hregistering, Option.bind_eq_bind, Option.bind_some]
    split
    · exact ⟨_, rfl⟩
    · exact ⟨_, rfl⟩
  | _ => cases hasks

/-- Once something was asked late, somebody waits on a closed connection. -/
theorem exists_not_released (late : c.askedLate g actions = true) :
    ∃ before c', before <+: actions ∧ c.run before = some c' ∧ ¬c'.Released g := by
  rw [askedLate_eq] at late
  refine exists_of_happens (p := fun _ => True) (fun _ _ => trivial) (fun _ hlate => ?_) trivial
    late
  obtain ⟨d, hstep⟩ := exists_step_of_asks (Bool.and_eq_true_iff.mp hlate).1
  obtain ⟨s', hs', hrests⟩ := not_rests_of_asksLate hstep hlate
  exact ⟨d, hstep, fun released => hrests (released.rests s' hs')⟩

/-- At every point of a run, nobody waits on a connection that is closed, exactly as long as no call
and no connection check has registered a request or begun an authentication on it after it was
closed, and gone on to write. -/
theorem released_iff (config : Config) (listeners : Registry) (actions : List Action) (g : Nat) :
    (∀ before c, before <+: actions → (fresh config listeners).run before = some c →
      c.Released g) ↔ (fresh config listeners).askedLate g actions = false := by
  constructor
  · intro released
    rw [← Bool.not_eq_true]
    intro late
    obtain ⟨before, c, hprefix, hrun, hreleased⟩ := exists_not_released late
    exact hreleased (released before c hprefix hrun)
  · intro intime before c hprefix hrun
    exact released_of_run (attended_fresh config listeners) (fun s hs => by cases hs) intime
      hprefix hrun

/-- A ready client sends a command, which has found the connection open and is about to register its
request. -/
def commanded : List Action :=
  accepted ++ [.advance 0, .call (.command "status" false 5000), .advance 1, .advance 1]

/-- If the server hangs up while the command waits, the command is told. -/
theorem released_in_time : ∃ c c',
    (fresh {} {}).run (commanded ++ [.advance 1, .write 1 .written, .hangUp 1]) = some c ∧
      c.expire 1 = none ∧ c.advance 1 = some c' ∧
        c'.calls.map Call.answer? = [some .done, some (.failed .connectionClosed)] := by
  have hrun : ((fresh {} {}).run
      (commanded ++ [.advance 1, .write 1 .written, .hangUp 1])).isSome = true := by decide
  obtain ⟨c, hc⟩ := Option.isSome_iff_exists.mp hrun
  have hfacts : c.outline.closed? 1 = some true ∧
      (c.outline.stage? 1).any (·.waitsOn 1) = true ∧
        (c.advance 1).map (·.calls.map Call.answer?) =
          some [some .done, some (.failed .connectionClosed)] := by
    obtain rfl := Option.get_of_eq_some hrun hc
    clear hc
    refine ⟨?_, ?_, ?_⟩ <;> decide +revert
  obtain ⟨hclosed, hwaits, hanswers⟩ := hfacts
  obtain ⟨stage, hstage, hwaits⟩ := (Option.any_eq_true _ _).mp hwaits
  have released := (released_iff {} {} (commanded ++ [.advance 1, .write 1 .written, .hangUp 1])
    1).mpr (by decide) _ c List.prefix_rfl hc
  obtain ⟨hinTime, c', hc', -⟩ := released.goesOn hclosed 1 stage hstage hwaits
  rw [hc'] at hanswers
  exact ⟨c, c', hc, hinTime, hc', Option.some.inj hanswers⟩

/-- If the server hangs up before the command registers its request, every caller is past that step
in the end, and yet the request is pending on the closed connection and runs into its timeout. -/
theorem not_released_after_hangUp : ∃ c c',
    (fresh {} {}).run (commanded ++ [.hangUp 1, .advance 1, .write 1 .written]) = some c ∧
      (c.session? 1).map (fun s => (s.conn.closed, s.conn.requests.size)) = some (true, 1) ∧
      (c.calls.all fun call => !call.stage.asksNextOn 1) = true ∧ ¬c.Released 1 ∧
      c.expire 1 = some c' ∧
        c'.calls.map Call.answer? = [some .done, some (.failed .timeout)] := by
  have hrun : ((fresh {} {}).run
      (commanded ++ [.hangUp 1, .advance 1, .write 1 .written])).isSome = true := by decide
  obtain ⟨c, hc⟩ := Option.isSome_iff_exists.mp hrun
  have hfacts : (c.session? 1).map (fun s => (s.conn.closed, s.conn.requests.size)) =
        some (true, 1) ∧
      (c.calls.all fun call => !call.stage.asksNextOn 1) = true ∧
        (c.expire 1).map (·.calls.map Call.answer?) =
          some [some .done, some (.failed .timeout)] := by
    obtain rfl := Option.get_of_eq_some hrun hc
    clear hc
    refine ⟨?_, ?_, ?_⟩ <;> decide +revert
  obtain ⟨hpending, hpast, hexpired⟩ := hfacts
  obtain ⟨c', hc', hanswers⟩ := Option.map_eq_some_iff.mp hexpired
  refine ⟨c, c', hc, hpending, hpast, fun released => ?_, hc', hanswers⟩
  obtain ⟨s, hs, hboth⟩ := Option.map_eq_some_iff.mp hpending
  obtain ⟨hclosed, hsize⟩ := Prod.mk.inj hboth
  rw [RequestTable.size, (released.rests s hs hclosed).1] at hsize
  cases hsize

end Client

end RemoteConsole
