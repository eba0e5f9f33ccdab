import RemoteConsole.Proofs.Client.Ids

/-!
# The rounds of a connection check

A connection check goes through the same round again and again: it sleeps, takes the session lock,
looks whether its connection is in place, registers a request, writes it, and waits for the answer
without the lock. What one step of a check can do is said once (`CheckStep`).

What is known of the requests that a check has registered (`Rounds`) follows from that and is kept by
every step: none but the last may be pending, and not even that while the check is between two
rounds.
-/

namespace RemoteConsole.Client

variable {c c' d : Client} {action : Action} {actions : List Action} {g n : Nat} {s s' : Session}
  {entry : Int32 × Nat} {ops : List Link.Op} {watch : Watch}

/-- The packet that a connection check sends. -/
def checkPacket (id : Int32) : Packet :=
  ⟨id, .execCommand, watchCommand⟩

/-- The client in which the check of a connection has registered its request. -/
def registerCheck (c : Client) (g : Nat) : Client :=
  { c with nextId := succId c.nextId }.onConn g (·.register c.nextId false)

/-- What one step of the check of a connection does, by where it was. -/
inductive CheckStep (c : Client) (g : Nat) (s : Session) : Action → Client → Prop where
  /-- It wakes up, and waits for the session lock. -/
  | woke (sleeping : s.watch = .sleeping) : CheckStep c g s (.watch g) (c.setWatch g .awaitLock)
  /-- It gets the lock. -/
  | locked {d : Client} (waits : s.watch = .awaitLock) (lock : c.lockSession (.watch g) = some d) :
    CheckStep c g s (.watch g) (d.setWatch g .looking)
  /-- It finds its connection in place and open. -/
  | found (looking : s.watch = .looking) (isOpen : c.open? = some g) :
    CheckStep c g s (.watch g) (c.setWatch g .registering)
  /-- It registers its request. -/
  | asked {bytes : Bytes} (registering : s.watch = .registering) :
    CheckStep c g s (.watch g) ((c.registerCheck g).setWatch g
      (.writing c.nextId s.conn.requests.issued (checkPacket c.nextId) bytes))
  /-- It registers its request, which is too large to be sent. -/
  | oversized (registering : s.watch = .registering) :
    CheckStep c g s (.watch g)
      (((c.registerCheck g).unlockSession (.watch g)).setWatch g .over)
  /-- It has written. -/
  | wrote {id : Int32} {slot : Nat} {packet : Packet} {bytes : Bytes}
    (writing : s.watch = .writing id slot packet bytes) :
    CheckStep c g s (.watchWrite g .written)
      (((c.put g [packet] bytes .written).1.unlockSession (.watch g)).setWatch g
        (.awaitAnswer id slot))
  /-- It cannot write, which closes the connection. -/
  | broke {id : Int32} {slot : Nat} {packet : Packet} {bytes : Bytes} {outcome : WriteOutcome}
    (writing : s.watch = .writing id slot packet bytes) (cut : outcome ≠ .written) :
    CheckStep c g s (.watchWrite g outcome)
      (((c.put g [packet] bytes outcome).1.unlockSession (.watch g)).setWatch g .over)
  /-- It has its answer. -/
  | answered {id : Int32} {slot : Nat} {body : String} (waits : s.watch = .awaitAnswer id slot)
    (answer : s.outcome? slot = some (.answered body)) :
    CheckStep c g s (.watch g) (c.setWatch g .sleeping)
  /-- Its time is up and there is no answer, so it closes the connection. -/
  | expired {id : Int32} {slot : Nat} (waits : s.watch = .awaitAnswer id slot)
    (unresolved : s.outcome? slot = none) :
    CheckStep c g s (.watchExpire g)
      (((c.onConn g (·.remove id)).close g).setWatch g .over)
  /-- It ends without having anything to do with its connection any more. -/
  | left (on : s.watch ≠ .registering) :
    CheckStep c g s (.watch g) ((c.unlockSession (.watch g)).setWatch g .over)

/-- What one step of the check of a connection does. -/
theorem checkStep_of_step (h : c.step action = some c') (own : action.check? = some g) :
    ∃ s, c.session? g = some s ∧ CheckStep c g s action c' := by
  cases action with
  | watch k =>
    obtain rfl := Option.some.inj own
    replace h : c.advanceWatch k = some c' := h
    unfold advanceWatch at h
    obtain ⟨s, hs, h⟩ := Option.bind_eq_some_iff.mp h
    refine ⟨s, hs, ?_⟩
    cases hwatch : s.watch with
    | sleeping =>
      simp only [hwatch] at h
      split_ifs at h
      · exact Option.some.inj h ▸ .left (by simp [hwatch])
      · exact Option.some.inj h ▸ .woke hwatch
    | awaitLock =>
      simp only [hwatch] at h
      split_ifs at h
      · exact Option.some.inj h ▸ .left (by simp [hwatch])
      · obtain ⟨d, hlock, h⟩ := Option.bind_eq_some_iff.mp h
        exact Option.some.inj h ▸ .locked hwatch hlock
    | looking =>
      simp only [hwatch] at h
      split_ifs at h with hopen
      · exact Option.some.inj h ▸ .found hwatch hopen
      · exact Option.some.inj h ▸ .left (by simp [hwatch])
    | registering =>
      simp only [hwatch] at h
      split at h
      · exact Option.some.inj h ▸ .asked hwatch
      · exact Option.some.inj h ▸ .oversized hwatch
    | writing id slot packet bytes =>
      simp only [hwatch] at h
      split_ifs at h
      exact Option.some.inj h ▸ .left (by simp [hwatch])
    | awaitAnswer id slot =>
      simp only [hwatch] at h
      split_ifs at h
      · exact Option.some.inj h ▸ .left (by simp [hwatch])
      · obtain ⟨outcome, houtcome, h⟩ := Option.bind_eq_some_iff.mp h
        cases outcome with
        | answered body => exact Option.some.inj h ▸ .answered hwatch houtcome
        | failed e | dropped => exact Option.some.inj h ▸ .left (by simp [hwatch])
    -- A check that is off or over takes no step.
    | _ => simp only [hwatch, reduceCtorEq] at h
  | watchWrite k outcome =>
    obtain rfl := Option.some.inj own
    replace h : c.writeWatch k outcome = some c' := h
    unfold writeWatch at h
    obtain ⟨s, hs, h⟩ := Option.bind_eq_some_iff.mp h
    refine ⟨s, hs, ?_⟩
    split at h
    · rename_i id slot packet bytes hwatch
      dsimp only at h
      split at h
      · rename_i hput
        obtain rfl := written_of_put hput
        exact Option.some.inj h ▸ .wrote hwatch
      · rename_i hput
        refine Option.some.inj h ▸ .broke hwatch ?_
        rintro rfl
        cases hput
    · cases h
  | watchExpire k =>
    obtain rfl := Option.some.inj own
    replace h : c.expireWatch k = some c' := h
    unfold expireWatch at h
    obtain ⟨s, hs, h⟩ := Option.bind_eq_some_iff.mp h
    refine ⟨s, hs, ?_⟩
    split at h
    · rename_i id slot hwatch
      split_ifs at h with hresolved
      refine Option.some.inj h ▸ .expired hwatch ?_
      exact Option.not_isSome_iff_eq_none.mp hresolved
    · cases h
  | _ => cases own

/-- It deals with its connection and with no other. -/
theorem CheckStep.deals (step : CheckStep c g s action c') : ∃ ops, Deals g ops c c' := by
  have hregister : Deals g [.register c.nextId false] c (c.registerCheck g) :=
    deals_registerNext c g false
  cases step with
  | woke | found | answered => exact ⟨_, deals_setWatch ..⟩
  | locked _ lock => exact ⟨_, (deals_lockSession lock g).trans (deals_setWatch ..)⟩
  | asked => exact ⟨_, hregister.trans (deals_setWatch ..)⟩
  | oversized =>
    exact ⟨_, (hregister.trans (deals_unlockSession _ _ g)).trans (deals_setWatch ..)⟩
  | wrote =>
    exact ⟨_, ((deals_put_of_none rfl).trans (deals_unlockSession _ _ g)).trans
      (deals_setWatch ..)⟩
  | @broke _ _ _ _ outcome _ cut =>
    cases outcome with
    | written => exact absurd rfl cut
    | broken _ | timedOut _ =>
      exact ⟨_, ((deals_put_of_some rfl).trans (deals_unlockSession _ _ g)).trans
        (deals_setWatch ..)⟩
  | expired =>
    exact ⟨_, ((deals_remove c g _).trans (deals_close _ g)).trans (deals_setWatch ..)⟩
  | left => exact ⟨_, (deals_unlockSession c _ g).trans (deals_setWatch ..)⟩

/-- What becomes of the check of a connection in a step: it stays where it is, or starts, or takes
the step. -/
theorem watch_of_step (orderly : Orderly c) (h : c.step action = some c')
    (hs : c.session? g = some s) (hs' : c'.session? g = some s') :
    s'.watch = s.watch ∨
      (s.watch = .off ∧ s'.watch.request? = none ∧ s'.watch.needsLock = false) ∨
      (action.check? = some g ∧ CheckStep c g s action c') := by
  have hd' := docket?_of_session? hs'
  have hwatch {d : Docket} (hd : c'.docket? g = some d) : s'.watch = d.watch := by
    obtain rfl := Option.some.inj (hd'.symm.trans hd)
    rfl
  obtain same | ⟨first, watch, idle, free, begun⟩ | ⟨n, errand, -, -, asked⟩ | ⟨own, -⟩ :=
    (tended_of_step h).docket_cases (docket?_of_session? hs)
  · exact .inl (hwatch same)
  · refine .inr (.inl ⟨?_, hwatch begun ▸ idle, hwatch begun ▸ free⟩)
    by_contra hon
    cases first.symm.trans ((orderly (docket?_of_session? hs)).claimed hon)
  · exact .inl (hwatch asked)
  · obtain ⟨t, ht, step⟩ := checkStep_of_step h own
    obtain rfl := Option.some.inj (hs.symm.trans ht)
    exact .inr (.inr ⟨own, step⟩)

/-! ## What is pending -/

/-- What is pending on a connection after a step was pending before, perhaps with less of its
response, or has the number that the connection gave out next. -/
theorem pending_of_step (h : c.step action = some c') (hs : c.session? g = some s)
    (hs' : c'.session? g = some s') {r : Request} (hr : r ∈ s'.conn.requests.pending) :
    (∃ r₀ ∈ s.conn.requests.pending, r = { r₀ with body := r.body }) ∨
      r.slot = s.conn.requests.issued := by
  have hsame (hs' : c.session? g = some s') :
      ∃ r₀ ∈ s.conn.requests.pending, r = { r₀ with body := r.body } := by
    obtain rfl := Option.some.inj (hs.symm.trans hs')
    exact ⟨r, hr, rfl⟩
  cases transition_of_step h with
  | @dealt k ops _ calm _ deals =>
    obtain hs' | ⟨-, t, ht, haccount⟩ := deals.session_cases hs'
    · exact .inl (hsame hs')
    · obtain rfl := Option.some.inj (hs.symm.trans ht)
      have hconn : s'.conn = ((c.account s).link.after ops).conn := congrArg (·.link.conn) haccount
      rw [hconn] at hr
      exact .inl (Link.remains_after (l := (c.account s).link) calm.quiet r hr)
  | attempted _ _ sessions =>
    rw [session?, sessions] at hs'
    exact .inl (hsame hs')
  | made _ _ _ sessions =>
    rw [session?_append sessions, hs, Option.some_or] at hs'
    obtain rfl := Option.some.inj hs'
    exact .inl ⟨r, hr, rfl⟩
  | @asked k op _ asking asked deals =>
    obtain hs' | ⟨-, t, ht, haccount⟩ := deals.session_cases hs'
    · exact .inl (hsame hs')
    obtain rfl := Option.some.inj (hs.symm.trans ht)
    rw [Account.after_singleton] at haccount
    have hconn : s'.conn = ((c.account s).link.apply op).2.2.conn := congrArg (·.link.conn) haccount
    rw [hconn] at hr
    by_cases hother : ∀ id multi, op ≠ .register id multi
    · exact .inl (Link.remains_apply (c.account s).link hother r hr)
    push Not at hother
    obtain ⟨id, multi, rfl⟩ := hother
    obtain hold | hnew := List.mem_append.mp hr
    · exact .inl ⟨r, (List.mem_filter.mp hold).1, rfl⟩
    · rw [List.mem_singleton.mp hnew]
      exact .inr rfl

/-- A pending request has a number that its connection has given out. -/
theorem slot_lt_of_mem_pending (attended : Attended c) (hs : c.session? g = some s) {r : Request}
    (hr : r ∈ s.conn.requests.pending) : r.slot < s.conn.requests.issued := by
  obtain ⟨past, ledger, -⟩ := (attended.balanced hs).ledger
  exact List.mem_range.mp (ledger.perm.mem_iff.mp
    (List.mem_append_left _ (List.mem_map_of_mem hr)))

/-! ## The requests of a check -/

/-- Whether a step is that of the check of a connection which registers its request. -/
def registersCheck (c : Client) (g : Nat) : Action → Bool
  | .watch k => k == g && (c.session? g).any (·.watch == .registering)
  | _ => false

/-- Notes the request that the check of a connection registers in a step. -/
def noteCheck (g : Nat) (c : Client) (action : Action) (_ : Client)
    (requests : List (Int32 × Nat)) : List (Int32 × Nat) :=
  if c.registersCheck g action then requests ++ [(c.nextId, (c.page g).issued)] else requests

/-- The requests that the check of a connection registers when some actions are taken. -/
def checkRequests (c : Client) (g : Nat) (actions : List Action) : List (Int32 × Nat) :=
  c.tally (noteCheck g) [] actions

/-- A check at some point has no request that could be pending. -/
def isIdle : Watch → Bool
  | .off | .sleeping | .awaitLock | .looking | .registering => true
  | .writing .. | .awaitAnswer .. | .over => false

/-- What has become of the requests that the check of a connection has registered. -/
structure Rounds (c : Client) (g : Nat) (requests : List (Int32 × Nat)) : Prop where
  /-- Their ids are positive, and the connection has given out their numbers. -/
  issued : ∀ entry ∈ requests, 1 ≤ entry.1.toInt ∧ c.HasIssued g (.request entry.2)
  /-- As long as one is pending, it is there under its id, and takes one packet. -/
  plain : ∀ entry ∈ requests, ∀ s, c.session? g = some s → ∀ r ∈ s.conn.requests.pending,
    r.slot = entry.2 → r.id = entry.1 ∧ r.multi = false
  /-- None but the last may be pending. -/
  latest : ∀ entry ∈ requests, c.IsPending g entry → requests.getLast? = some entry
  /-- While the check has no request, not even that is. -/
  idle : ∀ s, c.session? g = some s → isIdle s.watch = true → ∀ entry ∈ requests,
    ¬c.IsPending g entry
  /-- The check waits for the last. -/
  current : ∀ s entry, c.session? g = some s → s.watch.request? = some entry →
    requests.getLast? = some entry
  /-- It has sent what it waits for the answer to. -/
  sent : ∀ s id slot, c.session? g = some s → s.watch = .awaitAnswer id slot →
    checkPacket id ∈ s.sent

/-- What a check writes is its request. -/
theorem packet_of_writing {config : Config} (inTurn : InTurn config c) (hs : c.session? g = some s)
    {id : Int32} {slot : Nat} {packet : Packet} {bytes : Bytes}
    (writing : s.watch = .writing id slot packet bytes) : packet = checkPacket id := by
  have prepared := inTurn.prepared (.watch g)
  rw [post_of_watch hs, writing] at prepared
  generalize hpost : Watch.post g (.writing id slot packet bytes) = post at prepared
  cases prepared with
  | @command _ _ _ text multi _ wanted _ =>
    obtain ⟨rfl, rfl⟩ := Prod.mk.inj (Option.some.inj wanted)
    obtain ⟨-, hrequest, hpackets, -⟩ := Post.writing.inj hpost
    obtain ⟨rfl, -⟩ := Prod.mk.inj (Option.some.inj hrequest)
    exact (List.cons.inj hpackets).1
  | authentication => cases (Post.writing.inj hpost).2.1
  | _ => cases hpost

/-- What a check has written has been sent. -/
theorem sent_of_wrote (hs : c.session? g = some s) {packet : Packet} {bytes : Bytes}
    (hs' : (((c.put g [packet] bytes .written).1.unlockSession (.watch g)).setWatch g
      watch).session? g = some s') : packet ∈ s'.sent := by
  have hput : Deals g [] c (c.put g [packet] bytes .written).1 := deals_put_of_none rfl
  have hdeals := hput.trans (deals_unlockSession _ (.watch g) g)
  obtain ⟨t, ht, -⟩ := hdeals.exists_session hs
  have hpage := congrArg (Desk.page · g) (desk_setWatch ht watch)
  rw [desk_unlockSession, desk_put_of_none hs rfl] at hpage
  replace hpage := hpage.trans (Desk.page_turn c.desk g g _)
  rw [if_pos rfl] at hpage
  have hsent := congrArg Page.sent ((page_of_session? hs').symm.trans hpage)
  change s'.sent = s.sent ++ [packet] at hsent
  rw [hsent]
  exact List.mem_append_right _ (List.mem_singleton.mpr rfl)

namespace Rounds

variable {requests : List (Int32 × Nat)}

/-- A request that was registered before is not registered anew. -/
theorem isPending_before (rounds : Rounds c g requests) (h : c.step action = some c')
    (he : entry ∈ requests) (pending : c'.IsPending g entry) : c.IsPending g entry := by
  obtain hold | ⟨-, hentry⟩ := fresh_of_step h pending
  · exact hold
  · obtain ⟨s, hs, hlt⟩ := (rounds.issued entry he).2
    rw [page_of_session? hs] at hentry
    exact absurd (congrArg Prod.snd hentry) (Nat.ne_of_lt hlt)

/-- What is known of a request that was registered before a step is known after it. -/
theorem plain_of_step (rounds : Rounds c g requests) (h : c.step action = some c')
    (he : entry ∈ requests) (hs' : c'.session? g = some s') {r : Request}
    (hr : r ∈ s'.conn.requests.pending) (hslot : r.slot = entry.2) :
    r.id = entry.1 ∧ r.multi = false := by
  obtain ⟨s, hs, hlt⟩ := (rounds.issued entry he).2
  obtain ⟨r₀, hr₀, heq⟩ | hnew := pending_of_step h hs hs' hr
  · rw [heq] at hslot ⊢
    exact rounds.plain entry he s hs r₀ hr₀ hslot
  · exact absurd (hnew.symm.trans hslot).symm (Nat.ne_of_lt hlt)

/-- A check that is not on its way with a request after a step has none that is pending. -/
theorem idle_of_step (rounds : Rounds c g requests) (attended : Attended c) (orderly : Orderly c)
    (h : c.step action = some c') (quiet : c.registersCheck g action = false)
    (hs' : c'.session? g = some s') (idle : isIdle s'.watch = true) (he : entry ∈ requests) :
    ¬c'.IsPending g entry := by
  intro pending
  have hbefore := rounds.isPending_before h he pending
  obtain ⟨s, hs, -⟩ := (rounds.issued entry he).2
  have hbusy : isIdle s.watch ≠ true := fun hidle => rounds.idle s hs hidle entry he hbefore
  obtain same | ⟨off, -⟩ | ⟨-, step⟩ := watch_of_step orderly h hs hs'
  · exact hbusy (same ▸ idle)
  · exact hbusy (off ▸ rfl)
  cases step with
  | woke at_ | locked at_ | found at_ => exact hbusy (at_ ▸ rfl)
  | asked registering | oversized registering =>
    rw [registersCheck, hs, Option.any_some, registering] at quiet
    simp at quiet
  | answered waits answer =>
    -- The check waits for the last of its requests, which has ended.
    have hlast := rounds.current s _ hs (congrArg Watch.request? waits)
    obtain rfl := Option.some.inj (hlast.symm.trans (rounds.latest entry he hbefore))
    exact not_isPending_of_outcome attended hs answer hbefore
  | wrote | broke | expired | left =>
    rw [watch_of_setWatch hs'] at idle
    cases idle

/-- After a step, a check waits for the last of its requests if it waits for one. -/
theorem current_of_step (rounds : Rounds c g requests) (orderly : Orderly c)
    (h : c.step action = some c') (quiet : c.registersCheck g action = false)
    (hs' : c'.session? g = some s') (request : s'.watch.request? = some entry) :
    requests.getLast? = some entry := by
  obtain ⟨s, hs, -⟩ | rfl := (transition_of_step h).origin hs'
  swap
  · cases request
  obtain same | ⟨-, none, -⟩ | ⟨-, step⟩ := watch_of_step orderly h hs hs'
  · exact rounds.current s entry hs (same ▸ request)
  · cases none.symm.trans request
  cases step with
  | asked registering =>
    rw [registersCheck, hs, Option.any_some, registering] at quiet
    simp at quiet
  | wrote writing =>
    rw [watch_of_setWatch hs'] at request
    exact rounds.current s entry hs (writing ▸ request)
  | _ =>
    rw [watch_of_setWatch hs'] at request
    cases request

/-- After a step, a check has sent what it waits for the answer to. -/
theorem sent_of_step {config : Config} (rounds : Rounds c g requests) (attended : Attended c)
    (orderly : Orderly c) (inTurn : InTurn config c) (h : c.step action = some c')
    (hs' : c'.session? g = some s') {id : Int32} {slot : Nat}
    (waits : s'.watch = .awaitAnswer id slot) : checkPacket id ∈ s'.sent := by
  obtain ⟨s, hs, -⟩ | rfl := (transition_of_step h).origin hs'
  swap
  · cases waits
  obtain same | ⟨-, none, -⟩ | ⟨-, step⟩ := watch_of_step orderly h hs hs'
  · obtain ⟨packets, hsent, -⟩ := Client.sent_of_step attended orderly h g
    rw [page_of_session? hs, page_of_session? hs'] at hsent
    change s'.sent = s.sent ++ packets at hsent
    rw [hsent]
    exact List.mem_append_left _ (rounds.sent s id slot hs (same ▸ waits))
  · rw [waits] at none
    cases none
  cases step with
  | @wrote id' slot' packet bytes writing =>
    have hwaits := (watch_of_setWatch hs').symm.trans waits
    obtain ⟨rfl, -⟩ := Watch.awaitAnswer.inj hwaits
    exact packet_of_writing inTurn hs writing ▸ sent_of_wrote hs hs'
  | _ => cases (watch_of_setWatch hs').symm.trans waits

/-- A step in which the check registers nothing. -/
theorem kept {config : Config} (rounds : Rounds c g requests) (attended : Attended c)
    (orderly : Orderly c) (inTurn : InTurn config c) (h : c.step action = some c')
    (quiet : c.registersCheck g action = false) : Rounds c' g requests where
  issued := fun entry he => (rounds.issued entry he).imp_right (transition_of_step h).hasIssued
  plain := fun _ he _ hs' _ hr hslot => rounds.plain_of_step h he hs' hr hslot
  latest := fun entry he pending => rounds.latest entry he (rounds.isPending_before h he pending)
  idle := fun _ hs' idle _ he => rounds.idle_of_step attended orderly h quiet hs' idle he
  current := fun _ _ hs' request => rounds.current_of_step orderly h quiet hs' request
  sent := fun _ _ _ hs' waits => rounds.sent_of_step attended orderly inTurn h hs' waits

/-- A check that registers its request is on its way with it, or is over. -/
theorem watch_of_registering (h : c.step (.watch g) = some c') (hs : c.session? g = some s)
    (registering : s.watch = .registering) (hs' : c'.session? g = some s') :
    isIdle s'.watch = false ∧ (s'.watch.request? = none ∨
      s'.watch.request? = some (c.nextId, s.conn.requests.issued)) := by
  obtain ⟨t, ht, step⟩ := checkStep_of_step h rfl
  obtain rfl := Option.some.inj (hs.symm.trans ht)
  cases step with
  | asked =>
    rw [watch_of_setWatch hs']
    exact ⟨rfl, .inr rfl⟩
  | oversized =>
    rw [watch_of_setWatch hs']
    exact ⟨rfl, .inl rfl⟩
  | woke at_ | locked at_ | found at_ | answered at_ => cases registering.symm.trans at_
  | left other => exact absurd registering other

/-- The check registers one more request. -/
theorem registered {config : Config} (rounds : Rounds c g requests) (attended : Attended c)
    (orderly : Orderly c) (inTurn : InTurn config c) (positive : 1 ≤ c.nextId.toInt)
    (h : c.step (.watch g) = some c') (hs : c.session? g = some s)
    (registering : s.watch = .registering) :
    Rounds c' g (requests ++ [(c.nextId, s.conn.requests.issued)]) := by
  obtain ⟨s', hs', hconn, -⟩ := session?_of_registering hs registering h
  have hlast : (requests ++ [(c.nextId, s.conn.requests.issued)]).getLast? =
      some (c.nextId, s.conn.requests.issued) := List.getLast?_concat
  -- None of the older ones was pending, so none is.
  have hold : ∀ entry ∈ requests, ¬c'.IsPending g entry := fun entry he pending =>
    rounds.idle s hs (registering ▸ rfl) entry he (rounds.isPending_before h he pending)
  obtain ⟨busy, hrequest⟩ := watch_of_registering h hs registering hs'
  refine ⟨fun entry he => ?_, fun entry he t ht r hr hslot => ?_, fun entry he pending => ?_,
    fun t ht idle entry he => ?_, fun t entry ht request => ?_, fun t id slot ht waits => ?_⟩
  · obtain he | he := List.mem_append.mp he
    · exact (rounds.issued entry he).imp_right (transition_of_step h).hasIssued
    · rw [List.mem_singleton.mp he]
      refine ⟨positive, s', hs', ?_⟩
      show _ < s'.conn.requests.issued
      rw [hconn]
      exact Nat.lt_succ_self _
  · obtain rfl := Option.some.inj (hs'.symm.trans ht)
    obtain he | he := List.mem_append.mp he
    · exact rounds.plain_of_step h he hs' hr hslot
    · rw [List.mem_singleton.mp he] at hslot ⊢
      rw [hconn] at hr
      obtain hold | hnew := List.mem_append.mp hr
      · have hlt := slot_lt_of_mem_pending attended hs (List.mem_filter.mp hold).1
        exact absurd hslot (Nat.ne_of_lt hlt)
      · rw [List.mem_singleton.mp hnew]
        exact ⟨rfl, rfl⟩
  · obtain he | he := List.mem_append.mp he
    · exact absurd pending (hold entry he)
    · rw [hlast, List.mem_singleton.mp he]
  · obtain rfl := Option.some.inj (hs'.symm.trans ht)
    cases busy.symm.trans idle
  · obtain rfl := Option.some.inj (hs'.symm.trans ht)
    rw [hlast]
    obtain hnone | hsome := hrequest
    · cases hnone.symm.trans request
    · exact hsome.symm.trans request
  · exact rounds.sent_of_step attended orderly inTurn h ht waits

/-- Every step keeps what is known of the requests of a check. -/
theorem step {config : Config} (rounds : Rounds c g requests) (attended : Attended c)
    (orderly : Orderly c) (inTurn : InTurn config c) (positive : 1 ≤ c.nextId.toInt)
    (h : c.step action = some c') : Rounds c' g (noteCheck g c action c' requests) := by
  unfold noteCheck
  split_ifs with hregisters
  · cases action with
    | watch k =>
      obtain ⟨hk, hany⟩ := Bool.and_eq_true_iff.mp hregisters
      obtain rfl := beq_iff_eq.mp hk
      obtain ⟨s, hs, hwatch⟩ := (Option.any_eq_true _ _).mp hany
      rw [page_of_session? hs]
      exact rounds.registered attended orderly inTurn positive h hs (beq_iff_eq.mp hwatch)
    | _ => cases hregisters
  · exact rounds.kept attended orderly inTurn h (Bool.eq_false_iff.mpr hregisters)

theorem nil {config : Config} {listeners : Registry} : Rounds (fresh config listeners) g [] where
  issued := fun _ he => absurd he List.not_mem_nil
  plain := fun _ he => absurd he List.not_mem_nil
  latest := fun _ he => absurd he List.not_mem_nil
  idle := fun _ _ _ _ he => absurd he List.not_mem_nil
  current := fun _ _ hs => by cases hs
  sent := fun _ _ _ hs => by cases hs

end Rounds

end RemoteConsole.Client
