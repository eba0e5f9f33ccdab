import RemoteConsole.Proofs.Client.Rounds
import RemoteConsole.Proofs.Client.Stream

/-!
# What a connection check may do

The check of a connection shares the session lock, the counter of ids and the pending requests with
commands, goes on while passwords are tried again, and may find that its connection was closed or
replaced. Still it is confined to its connection (`Confined`): at most one is started there
(`checksStarted_of_run`), at most one of its requests is pending (`rounds_of_run`), it writes only
where it has found its connection in place (`foundInPlace_of_run`), and it closes the connection only
if it cannot write, or if its request is still unanswered when its time is up (`unanswered_of_run`).
A response with the id of its request ends the request, however responses are matched
(`ended_of_run`), so a check that is always answered closes nothing (`checks_confined`).
-/

namespace RemoteConsole.Client

variable {c c' c₀ d : Client} {action : Action} {actions : List Action} {g n : Nat}
  {s s' : Session} {bytes : Bytes} {entry : Int32 × Nat} {config : Config} {listeners : Registry}

/-! ## How many are started -/

/-- Notes how many tasks are tied in a step to a connection that was in place before. -/
def noteTasks (g : Nat) (c : Client) (_ : Action) (c' : Client) (tied : Nat) : Nat :=
  match c.session? g, c'.session? g with
  | some s, some s' => tied + (s'.conn.tracked - s.conn.tracked)
  | _, _ => tied

/-- How many connection checks are started on the connection of a generation when some actions are
taken: how many tasks are tied to it besides those that read from it. -/
def checksStarted (c : Client) (g : Nat) (actions : List Action) : Nat :=
  c.tally (noteTasks g) 0 actions

/-- As many checks were started on a connection as it was claimed for, and none before it was in
place. -/
def Counted (g : Nat) (c : Client) (started : Nat) : Prop :=
  match c.session? g with
  | some s => s.conn.tracked = 2 + started
  | none => started = 0

/-- Every step keeps count. -/
theorem Counted.step {started : Nat} (counted : Counted g c started)
    (h : c.step action = some c') : Counted g c' (noteTasks g c action c' started) := by
  unfold Counted at *
  unfold noteTasks
  cases hs : c.session? g with
  | none =>
    rw [hs] at counted
    dsimp only at counted ⊢
    cases hs' : c'.session? g with
    | none => exact counted
    | some s' =>
      obtain ⟨s, hs'', -⟩ | rfl := (transition_of_step h).origin hs'
      · cases hs.symm.trans hs''
      · rw [counted]
        rfl
  | some s =>
    rw [hs] at counted
    obtain ⟨s', hs', -⟩ := (transition_of_step h).continued hs
    rw [hs']
    dsimp only at counted ⊢
    have htracked : s'.conn.tracked = s.conn.tracked ∨ s'.conn.tracked = s.conn.tracked + 1 := by
      have hafter {d : Docket} (hd : c'.docket? g = some d) : s'.conn.tracked = d.tracked := by
        obtain rfl := Option.some.inj ((docket?_of_session? hs').symm.trans hd)
        rfl
      obtain same | ⟨-, watch, -, -, begun⟩ | ⟨n, errand, -, -, asked⟩ | ⟨-, d, checked, -, kept⟩ :=
        (tended_of_step h).docket_cases (docket?_of_session? hs)
      · exact .inl (hafter same)
      · exact .inr (hafter begun)
      · exact .inl (hafter asked)
      · exact .inl ((hafter checked).trans kept)
    omega

/-- At most one check is started on a connection, and that was if there is one. -/
theorem checksStarted_of_run (h : (fresh config listeners).run actions = some c) :
    (fresh config listeners).checksStarted g actions ≤ 1 ∧
      ∀ s, c.session? g = some s → s.watch ≠ .off →
        (fresh config listeners).checksStarted g actions = 1 := by
  have counted : Counted g c ((fresh config listeners).checksStarted g actions) :=
    tally_keeps (p := Counted g) (fun counted hstep => counted.step hstep) rfl h
  obtain ⟨-, orderly, -⟩ := inTurn_of_run h
  unfold Counted at counted
  cases hs : c.session? g with
  | none =>
    rw [hs] at counted
    exact ⟨counted ▸ Nat.zero_le 1, fun s hs' => by cases hs'⟩
  | some s =>
    rw [hs] at counted
    dsimp only at counted
    have hsingle := (orderly (docket?_of_session? hs)).single
    dsimp only at hsingle
    refine ⟨?_, fun t ht hon => ?_⟩
    · split_ifs at hsingle <;> omega
    · obtain rfl := Option.some.inj ht
      rw [if_pos ((orderly (docket?_of_session? hs)).claimed hon)] at hsingle
      omega

/-! ## What they ask -/

/-- What is known of the requests of a check, along a run. -/
theorem rounds_of_run (h : (fresh config listeners).run actions = some c) :
    Rounds c g ((fresh config listeners).checkRequests g actions) := by
  refine (tally_keeps (p := fun d requests => (Attended d ∧ Orderly d ∧ InTurn config d) ∧
    1 ≤ d.nextId.toInt ∧ Rounds d g requests)
    (fun ⟨⟨attended, orderly, inTurn⟩, positive, rounds⟩ hstep =>
      ⟨⟨attended.step hstep, orderly.step hstep, inTurn.step attended orderly hstep⟩, ?_,
        rounds.step attended orderly inTurn positive hstep⟩)
    ⟨⟨attended_fresh config listeners, orderly_fresh config listeners,
      inTurn_fresh config listeners⟩, show 1 ≤ (1 : Int32).toInt by decide, .nil⟩ h).2.2
  rw [nextId_of_step attended orderly hstep]
  split_ifs
  · rw [toInt_succId positive]
    unfold idCircle
    omega
  · exact positive

/-- The last thing that the check of a connection did with the session lock before it went on to
write was to find its connection in place and open. -/
def FoundInPlace (c : Client) (g : Nat) (actions : List Action) : Prop :=
  ∃ before later d, actions = before ++ .watch g :: later ∧ c.run before = some d ∧
    (d.session? g).map Session.watch = some .looking ∧ d.sessionLock = some (.watch g) ∧
      d.open? = some g ∧ ∀ outcome, .watchWrite g outcome ∉ later

/-- It did so as long as it does not write. -/
theorem FoundInPlace.concat (found : c.FoundInPlace g actions)
    (other : ∀ outcome, action ≠ .watchWrite g outcome) :
    c.FoundInPlace g (actions ++ [action]) := by
  obtain ⟨before, later, d, rfl, hbefore, hwatch, hlock, hopen, hlater⟩ := found
  refine ⟨before, later ++ [action], d, by simp, hbefore, hwatch, hlock, hopen,
    fun outcome hmem => ?_⟩
  obtain hmem | hmem := List.mem_append.mp hmem
  · exact hlater outcome hmem
  · exact other outcome (List.mem_singleton.mp hmem).symm

/-- A check at some point is about to write. -/
def isWriting : Watch → Bool
  | .registering | .writing .. => true
  | .off | .sleeping | .awaitLock | .looking | .awaitAnswer .. | .over => false

/-- Before a check writes, it has found its connection in place. -/
theorem foundInPlace_of_run (h : (fresh config listeners).run actions = some c)
    (hs : c.session? g = some s) (writing : isWriting s.watch = true) :
    (fresh config listeners).FoundInPlace g actions := by
  refine history_keeps (p := fun before d => ∀ s, d.session? g = some s →
    isWriting s.watch = true → (fresh config listeners).FoundInPlace g before) ?_
    (fun s hs => by cases hs) h s hs writing
  intro before d d' action hbefore found hstep s' hs' writing
  obtain ⟨-, orderly, -⟩ := inTurn_of_run hbefore
  obtain ⟨s, hs, -⟩ | rfl := (transition_of_step hstep).origin hs'
  swap
  · cases writing
  -- Only its own steps take a check to where it writes, or write.
  have hkept (same : s'.watch = s.watch) :
      (fresh config listeners).FoundInPlace g (before ++ [action]) := by
    refine (found s hs (same ▸ writing)).concat ?_
    rintro outcome rfl
    obtain ⟨t, ht, step⟩ := checkStep_of_step hstep rfl
    cases step with
    | wrote | broke =>
      rw [watch_of_setWatch hs'] at writing
      cases writing
  obtain same | ⟨-, -, free⟩ | ⟨-, step⟩ := watch_of_step orderly hstep hs hs'
  · exact hkept same
  · cases hwatch : s'.watch with
    | registering | writing _ _ _ _ => cases hwatch ▸ free
    | _ => cases hwatch ▸ writing
  cases step with
  | @found looking isOpen =>
    have hlock : (d.sessionLock == some (.watch g)) = true :=
      (orderly (docket?_of_session? hs)).locked (congrArg Watch.needsLock looking)
    exact ⟨before, [], d, rfl, hbefore, by rw [hs, Option.map_some, looking],
      beq_iff_eq.mp hlock, isOpen, fun _ => List.not_mem_nil⟩
  | asked registering => exact (found s hs (registering ▸ rfl)).concat nofun
  | _ =>
    rw [watch_of_setWatch hs'] at writing
    cases writing

/-! ## How they are answered -/

/-- A step dispatches the answer to the request that the check of a connection waits for: a response
packet with its id, whose body is not one that belongs to no response. -/
def AnswersCheck (c : Client) (g : Nat) (entry : Int32 × Nat) (action : Action) : Prop :=
  ∃ bytes s p, action = .frame g bytes ∧ c.session? g = some s ∧ s.watch.request? = some entry ∧
    Packet.decode bytes s.conn.routing.encoding = .ok p ∧ p.type = .response ∧ p.id = entry.1 ∧
      s.conn.routing.terminator.discards p.body = false

/-- One of some actions dispatches the answer to a request of a check. -/
def CheckAnswered (c : Client) (g : Nat) (entry : Int32 × Nat) (actions : List Action) : Prop :=
  ∃ before action later d, actions = before ++ action :: later ∧ c.run before = some d ∧
    d.AnswersCheck g entry action

/-- A response to a request of one packet that is pending ends it. -/
theorem ended_of_frame (attended : Attended c) (h : c.step (.frame g bytes) = some c')
    (hs : c.session? g = some s) (hs' : c'.session? g = some s') {p : Packet}
    (decoded : Packet.decode bytes s.conn.routing.encoding = .ok p) (response : p.type = .response)
    (unreserved : p.id ≠ Packet.authId)
    (kept : s.conn.routing.terminator.discards p.body = false) {r : Request}
    (hr : r ∈ s.conn.requests.pending) (hid : r.id = p.id) (single : r.multi = false) :
    r.slot ∈ s'.ended.map Settlement.slot := by
  replace h : c.receive g bytes = some c' := h
  unfold receive at h
  obtain ⟨t, -, h⟩ := Option.bind_eq_some_iff.mp h
  split_ifs at h
  obtain rfl := Option.some.inj h
  have hdeals : Deals g [.frame bytes] c (c.onLink g (·.frameReceived bytes)) :=
    deals_onLink (fun _ => rfl) trivial
  obtain ⟨t, ht, haccount⟩ := hdeals.exists_session hs
  obtain rfl := Option.some.inj (hs'.symm.trans ht)
  rw [Account.after_singleton] at haccount
  have hended : s'.ended = s.ended ++ ((c.account s).link.frameReceived bytes).1.ended :=
    congrArg (·.ended) haccount
  obtain ⟨past, ledger, -⟩ := (attended.balanced hs).ledger
  have hfind : s.conn.requests.find? p.id = some r :=
    hid ▸ RequestTable.find?_of_mem ledger.nodup hr
  have hdispatch : (s.conn.dispatch p).1.ended = [⟨r.slot, .answered (r.body ++ p.body)⟩] := by
    unfold Connection.dispatch
    rw [if_neg (by simp [response]), if_neg (by simp [unreserved]),
      RequestTable.deliver_of_single hfind single kept]
    rfl
  have hframe : ((c.account s).link.frameReceived bytes).1.ended = (s.conn.dispatch p).1.ended := by
    have hlink : (c.account s).link.conn = s.conn := rfl
    unfold Link.frameReceived
    rw [hlink, decoded]
    rfl
  rw [hended, hframe, hdispatch, List.map_append]
  exact List.mem_append_right _ (List.mem_singleton.mpr rfl)

/-- What has ended has ended after a step as well. -/
theorem ended_of_step (h : c.step action = some c') {slot : Nat}
    (ended : ∃ s, c.session? g = some s ∧ slot ∈ s.ended.map Settlement.slot) :
    ∃ s, c'.session? g = some s ∧ slot ∈ s.ended.map Settlement.slot := by
  obtain ⟨s, hs, hslot⟩ := ended
  obtain ⟨s', hs', l, ops, -, -, hended, -⟩ := (transition_of_step h).continued hs
  refine ⟨s', hs', ?_⟩
  rw [hended, List.map_append]
  exact List.mem_append_left _ hslot

/-- The request of a check has ended when its answer has been dispatched. -/
theorem ended_of_answersCheck {requests : List (Int32 × Nat)} (rounds : Rounds c g requests)
    (attended : Attended c) (h : c.step action = some c')
    (answers : c.AnswersCheck g entry action) :
    ∃ s, c'.session? g = some s ∧ entry.2 ∈ s.ended.map Settlement.slot := by
  obtain ⟨bytes, s, p, rfl, hs, request, decoded, response, hid, kept⟩ := answers
  have hmem : entry ∈ requests := List.mem_of_getLast? (rounds.current s entry hs request)
  obtain ⟨positive, t, ht, issued⟩ := rounds.issued entry hmem
  obtain rfl := Option.some.inj (hs.symm.trans ht)
  obtain hpending | hended := (attended.balanced hs).slot issued
  swap
  · exact ended_of_step h ⟨s, hs, hended⟩
  obtain ⟨r, hr, hslot⟩ := List.mem_map.mp hpending
  obtain ⟨hrid, single⟩ := rounds.plain entry hmem s hs r hr hslot
  have unreserved : p.id ≠ Packet.authId := by
    rw [hid]
    intro hzero
    rw [hzero] at positive
    exact absurd positive (by decide)
  obtain ⟨s', hs', -⟩ := (transition_of_step h).continued hs
  exact ⟨s', hs', hslot ▸ ended_of_frame attended h hs hs' decoded response unreserved kept hr
    (hrid.trans hid.symm) single⟩

/-- From then on it has ended. -/
theorem ended_of_run (h : (fresh config listeners).run actions = some c)
    (answered : (fresh config listeners).CheckAnswered g entry actions) :
    ∃ s, c.session? g = some s ∧ entry.2 ∈ s.ended.map Settlement.slot := by
  refine history_keeps (p := fun before d => (fresh config listeners).CheckAnswered g entry before →
    ∃ s, d.session? g = some s ∧ entry.2 ∈ s.ended.map Settlement.slot) ?_
    (fun ⟨before, _, _, _, hnil, _⟩ => absurd hnil (by simp)) h answered
  rintro before d d' action hbefore ended hstep ⟨first, action', later, e, heq, hfirst, answers⟩
  obtain rfl | ⟨later, last, rfl⟩ := later.eq_nil_or_concat
  · -- The last of the actions is the one that dispatches the answer.
    obtain ⟨rfl, hlast⟩ := List.append_inj' heq rfl
    obtain ⟨rfl, -⟩ := List.cons.inj hlast
    obtain rfl := Option.some.inj (hbefore.symm.trans hfirst)
    obtain ⟨attended, -, -⟩ := inTurn_of_run hbefore
    exact ended_of_answersCheck (rounds_of_run hbefore) attended hstep answers
  · rw [List.concat_eq_append, ← List.cons_append, ← List.append_assoc] at heq
    obtain ⟨rfl, -⟩ := List.append_inj' heq rfl
    exact ended_of_step hstep (ended ⟨first, action', later, e, rfl, hfirst, answers⟩)

/-! ## What closes the connection -/

/-- Clients with the same outline have the same open connections. -/
theorem isOpen_congr (h : c'.outline = c.outline) : c'.isOpen = c.isOpen := by
  funext g
  have hclosed := congrArg (Outline.closed? · g) h
  simp only [outline_closed?] at hclosed
  have hany (d : Client) : d.isOpen g = ((d.session? g).map (·.conn.closed)).any (!·) := by
    rw [isOpen, Option.any_map]
  rw [hany, hany, hclosed]

/-- The time of the check of a connection is up, and the connection has sent its request, which is
still pending and was not answered in what has been dispatched so far. -/
structure Unanswered (c₀ : Client) (g : Nat) (actions : List Action) (c : Client)
    (entry : Int32 × Nat) : Prop where
  /-- The check has registered the request. -/
  registered : entry ∈ c₀.checkRequests g actions
  /-- It has written it, and waits for the answer. -/
  waits : ∃ s, c.session? g = some s ∧ s.watch = .awaitAnswer entry.1 entry.2 ∧
    checkPacket entry.1 ∈ s.sent
  /-- The request is still pending. -/
  pending : c.IsPending g entry
  /-- No answer to it was dispatched. -/
  unanswered : ¬c₀.CheckAnswered g entry actions

/-- A request whose time is up and that has not ended is unanswered. -/
theorem unanswered_of_run (h : (fresh config listeners).run actions = some c)
    (hs : c.session? g = some s) (waits : s.watch = .awaitAnswer entry.1 entry.2)
    (unresolved : s.outcome? entry.2 = none) :
    Unanswered (fresh config listeners) g actions c entry := by
  have rounds : Rounds c g _ := rounds_of_run h
  have hlast := rounds.current s entry hs (congrArg Watch.request? waits)
  have hmem := List.mem_of_getLast? hlast
  obtain ⟨attended, -, -⟩ := inTurn_of_run h
  have hunended : entry.2 ∉ s.ended.map Settlement.slot := by
    intro hended
    obtain ⟨settlement, hsettlement, hslot⟩ := List.mem_map.mp hended
    have hnone := List.find?_eq_none.mp (Option.map_eq_none_iff.mp unresolved) settlement hsettlement
    exact hnone (beq_iff_eq.mpr hslot)
  refine ⟨hmem, ⟨s, hs, waits, rounds.sent s _ _ hs waits⟩, ?_, fun answered => ?_⟩
  · obtain ⟨-, t, ht, issued⟩ := rounds.issued entry hmem
    obtain rfl := Option.some.inj (hs.symm.trans ht)
    obtain ⟨r, hr, hslot⟩ := List.mem_map.mp
      (((attended.balanced hs).slot issued).resolve_right hunended)
    have hid := (rounds.plain entry hmem s hs r hr hslot).1
    exact ⟨s, hs, List.mem_map.mpr ⟨r, hr, Prod.ext hid hslot⟩⟩
  · obtain ⟨t, ht, hended⟩ := ended_of_run h answered
    obtain rfl := Option.some.inj (hs.symm.trans ht)
    exact hunended hended

/-- A step of a check leaves every connection open that is, unless it closes its own: because its
write fails, or because its time is up. -/
theorem CheckStep.isOpen (step : CheckStep c g s action c') :
    c'.isOpen = c.isOpen ∨ (∃ outcome, outcome ≠ .written ∧ action = .watchWrite g outcome) ∨
      action = .watchExpire g ∧ ∃ id slot, s.watch = .awaitAnswer id slot ∧
        s.outcome? slot = none := by
  have hregister : (c.registerCheck g).outline = c.outline :=
    outline_onConn (Connection.keeps_register _ _)
  cases step with
  | woke | found | answered => exact .inl (isOpen_congr (outline_setWatch ..))
  | locked _ lock =>
    exact .inl (isOpen_congr ((outline_setWatch ..).trans (outline_lockSession lock)))
  | asked => exact .inl (isOpen_congr ((outline_setWatch ..).trans hregister))
  | oversized =>
    exact .inl (isOpen_congr ((outline_setWatch ..).trans
      ((outline_unlockSession ..).trans hregister)))
  | wrote =>
    exact .inl (isOpen_congr ((outline_setWatch ..).trans
      ((outline_unlockSession ..).trans (outline_put_of_none rfl))))
  | broke _ cut => exact .inr (.inl ⟨_, cut, rfl⟩)
  | expired waits unresolved => exact .inr (.inr ⟨rfl, _, _, waits, unresolved⟩)
  | left =>
    exact .inl (isOpen_congr ((outline_setWatch ..).trans (outline_unlockSession ..)))

/-- A check that writes has the session lock, and found its connection in place when it last looked
with the lock. -/
theorem found_of_written (h : (fresh config listeners).run actions = some c)
    (own : action.check? = some g) (hstep : c.step action = some c')
    (written : (c'.page g).written ≠ (c.page g).written) :
    c.sessionLock = some (.watch g) ∧ (fresh config listeners).FoundInPlace g actions := by
  obtain ⟨attended, orderly, -⟩ := inTurn_of_run h
  have hwriting {k : Holder} {request : Option (Int32 × Nat)} {packets : List Packet}
      {bytes : Bytes} (actor : action.actor? = some k)
      (post : c.desk.post k = .writing g request packets bytes) :
      c.sessionLock = some (.watch g) ∧ (fresh config listeners).FoundInPlace g actions := by
    have hactor : action.actor? = some (.watch g) := by
      cases action with
      | watch | watchWrite | watchExpire => exact congrArg (Option.map Holder.watch) own
      | _ => cases own
    obtain rfl := Option.some.inj (actor.symm.trans hactor)
    obtain ⟨s, hs, -⟩ := checkStep_of_step hstep own
    rw [post_of_watch hs] at post
    cases hwatch : s.watch with
    | writing id slot packet bytes =>
      have hlock : (c.sessionLock == some (.watch g)) = true :=
        (orderly (docket?_of_session? hs)).locked (congrArg Watch.needsLock hwatch)
      exact ⟨beq_iff_eq.mp hlock, foundInPlace_of_run h hs (hwatch ▸ rfl)⟩
    | _ =>
      rw [hwatch] at post
      cases post
  have hentry := (shift_of_step attended orderly hstep).entry g
  generalize c'.page g = page at hentry written
  cases hentry with
  | kept | began | registered => exact absurd rfl written
  | wrote actor post => exact hwriting actor post
  | broke _ actor _ post => exact hwriting actor post

/-! ## Confined checks -/

/-- The check of a connection is confined to it: what it has done in some actions, and what it may
do next. -/
structure Confined (c₀ : Client) (g : Nat) (actions : List Action) (c : Client) : Prop where
  /-- At most one was ever started. -/
  once : c₀.checksStarted g actions ≤ 1
  /-- If there is one, it was started. -/
  started : ∀ s, c.session? g = some s → s.watch ≠ .off → c₀.checksStarted g actions = 1
  /-- At most one of its requests is pending. -/
  single : ∀ entry ∈ c₀.checkRequests g actions, ∀ entry' ∈ c₀.checkRequests g actions,
    c.IsPending g entry → c.IsPending g entry' → entry = entry'
  /-- It leaves every other connection as it is. -/
  apart : ∀ action c', action.check? = some g → c.step action = some c' → ∀ h, h ≠ g →
    c'.session? h = c.session? h
  /-- It writes only with the session lock, and after it has found its connection in place and
  open with the lock. -/
  found : ∀ action c', action.check? = some g → c.step action = some c' →
    (c'.page g).written ≠ (c.page g).written →
      c.sessionLock = some (.watch g) ∧ c₀.FoundInPlace g actions
  /-- It closes nothing, unless its write on its connection fails or its request there is still
  unanswered when its time is up. -/
  closes : ∀ action c', action.check? = some g → c.step action = some c' →
    c'.isOpen = c.isOpen ∨ (∃ outcome, outcome ≠ .written ∧ action = .watchWrite g outcome) ∨
      action = .watchExpire g ∧ ∃ entry, Unanswered c₀ g actions c entry

/-- At any point of any run, the check of a connection is confined to it. -/
theorem confined_of_run (h : (fresh config listeners).run actions = some c) :
    Confined (fresh config listeners) g actions c where
  once := (checksStarted_of_run h).1
  started := (checksStarted_of_run h).2
  single := fun entry he entry' he' pending pending' => by
    have rounds : Rounds c g _ := rounds_of_run h
    exact Option.some.inj ((rounds.latest entry he pending).symm.trans
      (rounds.latest entry' he' pending'))
  apart := fun action c' own hstep k hk => by
    obtain ⟨s, -, step⟩ := checkStep_of_step hstep own
    obtain ⟨ops, deals⟩ := step.deals
    exact deals.others k hk
  found := fun _ _ own hstep written => found_of_written h own hstep written
  closes := fun action c' own hstep => by
    obtain ⟨s, hs, step⟩ := checkStep_of_step hstep own
    refine step.isOpen.imp_right (Or.imp_right fun ⟨hexpire, id, slot, waits, unresolved⟩ => ?_)
    exact ⟨hexpire, (id, slot), unanswered_of_run h hs waits unresolved⟩

/-- However many calls authenticate, fail to, connect again and send commands, the check of a
connection is confined to it. If its writes succeed, and each time it runs out of time an answer to
its request has been dispatched, it closes no connection at all, however responses are matched and
whatever else is pending. -/
theorem checks_confined (config : Config) (listeners : Registry) (actions : List Action) (c : Client)
    (hrun : (fresh config listeners).run actions = some c) (g : Nat) :
    Confined (fresh config listeners) g actions c ∧
      ((∀ outcome, .watchWrite g outcome ∈ actions → outcome = .written) →
        (∀ before later d s id slot, actions = before ++ .watchExpire g :: later →
          (fresh config listeners).run before = some d → d.session? g = some s →
            s.watch = .awaitAnswer id slot →
              (fresh config listeners).CheckAnswered g (id, slot) before) →
        ∀ before action later d d', actions = before ++ action :: later →
          action.check? = some g → (fresh config listeners).run before = some d →
            d.step action = some d' → d'.isOpen = d.isOpen) := by
  refine ⟨confined_of_run hrun, fun uncut answered before action later d d' hactions own hbefore
    hstep => ?_⟩
  obtain same | ⟨outcome, cut, rfl⟩ | ⟨rfl, ⟨id, slot⟩, unanswered⟩ :=
    (confined_of_run (g := g) hbefore).closes action d' own hstep
  · exact same
  · exact absurd (uncut outcome (by simp [hactions])) cut
  · obtain ⟨s, hs, waits, -⟩ := unanswered.waits
    exact absurd (answered before later d s id slot hactions hbefore hs waits)
      unanswered.unanswered

/-- A client that checks its connection sends a command that is never answered, and two checks, which
are. -/
def checkedTwice : List Action :=
  accepted ++ [.advance 0, .call (.command "status" false 100), .advance 1, .advance 1, .advance 1,
    .write 1 .written, .watch 1, .watch 1, .watch 1, .watch 1, .watchWrite 1 .written,
    .frame 1 (Packet.layout 2 .response []), .watch 1, .watch 1, .watch 1, .watch 1, .watch 1,
    .watchWrite 1 .written, .frame 1 (Packet.layout 3 .response []), .watch 1]

/-- The connection stays open, and the command is still pending. -/
theorem checks_confined_twice : ∃ c,
    (fresh { checkInterval := some 50 } {}).run checkedTwice = some c ∧
    Confined (fresh { checkInterval := some 50 } {}) 1 checkedTwice c ∧
      (fresh { checkInterval := some 50 } {}).checkRequests 1 checkedTwice = [(2, 1), (3, 2)] ∧
        c.isOpen 1 = true ∧ c.pendingCommands = 1 ∧
          ∀ before action later d d', checkedTwice = before ++ action :: later →
            action.check? = some 1 →
              (fresh { checkInterval := some 50 } {}).run before = some d →
                d.step action = some d' → d'.isOpen = d.isOpen := by
  have hrun : ((fresh { checkInterval := some 50 } {}).run checkedTwice).isSome = true := by decide
  obtain ⟨c, hc⟩ := Option.isSome_iff_exists.mp hrun
  have hfacts : c.isOpen 1 = true ∧ c.pendingCommands = 1 := by
    obtain rfl := Option.get_of_eq_some hrun hc
    clear hc
    constructor <;> decide +revert
  obtain ⟨confined, closesNone⟩ :=
    checks_confined { checkInterval := some 50 } {} checkedTwice c hc 1
  refine ⟨c, hc, confined, by decide, hfacts.1, hfacts.2, closesNone ?_ ?_⟩
  · intro outcome hmem
    simpa [checkedTwice, accepted] using hmem
  · intro before later d s id slot hactions
    have hmem : Action.watchExpire 1 ∈ checkedTwice := by simp [hactions]
    simp [checkedTwice, accepted] at hmem

end RemoteConsole.Client
