import RemoteConsole.Proofs.Client.Shift

/-!
# Authentications and the answers to them

On a connection authentications begin, packets that authenticate are sent, and answers arrive, in
some order (`Trials`). What a step has to do with that is one of a few things (`Tries`): an answer
arrives, an authentication begins, its time is up, or nothing of the kind.
-/

namespace RemoteConsole

namespace Link

variable {l l' l'' : Link} {e e' : Effects} {op : Op} {ops : List Op}

/-- No authentication begins and no answer arrives. One that waits ends at most where the connection
closes. -/
structure Unheard (l : Link) (e : Effects) (l' : Link) : Prop where
  /-- The one that waits still does, or none does. -/
  auth : l'.conn.auth = l.conn.auth ∨ l'.conn.auth = none
  /-- None begins. -/
  attempts : l'.conn.attempts = l.conn.attempts
  /-- A closed connection stays closed. -/
  closed : l.conn.closed = true → l'.conn.closed = true
  /-- Those that end have no verdict, and the connection is closed. -/
  verdicts : ∀ v ∈ e.verdicts, v.accepted = none ∧ l'.conn.closed = true

theorem Unheard.refl (l : Link) : Unheard l {} l :=
  ⟨.inl rfl, rfl, id, fun v hv => by cases hv⟩

theorem Unheard.trans (h : Unheard l e l') (h' : Unheard l' e' l'') : Unheard l (e ++ e') l'' where
  auth := by
    obtain hsame | hnone := h'.auth
    · exact hsame ▸ h.auth
    · exact .inr hnone
  attempts := h'.attempts.trans h.attempts
  closed := fun hclosed => h'.closed (h.closed hclosed)
  verdicts := fun v hv => by
    obtain hv | hv := List.mem_append.mp hv
    · exact (h.verdicts v hv).imp_right h'.closed
    · exact h'.verdicts v hv

/-- An operation that begins no authentication, and ends none but on a connection that is closed by
then. -/
theorem unheard_apply (hother : op ≠ .beginAuth)
    (hend : l.authEnd? op = none ∨
      l.authEnd? op = some none ∧ (l.apply op).2.2.conn.closed = true) :
    Unheard l (l.apply op).2.1 (l.apply op).2.2 := by
  obtain ⟨hverdicts, hauth, hattempts⟩ := settles_apply l op
  have hcount : [op].count .beginAuth = 0 :=
    List.count_eq_zero_of_not_mem fun h => hother (List.mem_singleton.mp h).symm
  rw [hcount] at hattempts
  rw [if_neg hother] at hauth
  refine ⟨?_, hattempts, fun hclosed => ?_, fun v hv => ?_⟩
  · split_ifs at hauth
    · exact .inr hauth
    · exact .inl hauth
  · exact (stays_apply l op fun _ => hclosed).closed.trans hclosed
  · obtain hnone | ⟨hdropped, hclosed⟩ := hend
    · rw [hverdicts, hnone] at hv
      cases hv
    · rw [hverdicts, hdropped] at hv
      obtain ⟨attempt, -, rfl⟩ := List.mem_map.mp hv
      exact ⟨rfl, hclosed⟩

theorem unheard_register (id : Int32) (multi : Bool) :
    Unheard l (l.apply (.register id multi)).2.1 (l.apply (.register id multi)).2.2 :=
  unheard_apply nofun (.inl rfl)

theorem unheard_of_isPlain (h : op.isPlain = true) :
    Unheard l (l.apply op).2.1 (l.apply op).2.2 := by
  cases op with
  | remove | claimWatch | track | state => exact unheard_apply nofun (.inl rfl)
  | close =>
    refine unheard_apply nofun ?_
    change (if l.conn.closed then none else some none) = none ∨ _
    cases hclosed : l.conn.closed with
    | true => exact .inl rfl
    | false => exact .inr ⟨by rw [authEnd?, hclosed]; rfl, (close_spec l).2.1⟩
  | _ => cases h

theorem unheard_nil (l : Link) : Unheard l (l.effects []) (l.after []) :=
  .refl l

/-- One operation, and then others. -/
theorem Unheard.cons (h : Unheard l (l.apply op).2.1 (l.apply op).2.2)
    (hrest : Unheard (l.apply op).2.2 ((l.apply op).2.2.effects ops) ((l.apply op).2.2.after ops)) :
    Unheard l (l.effects (op :: ops)) (l.after (op :: ops)) := by
  rw [effects_cons]
  exact h.trans hrest

theorem unheard_after (h : ∀ op ∈ ops, op.isPlain = true) :
    Unheard l (l.effects ops) (l.after ops) := by
  induction ops generalizing l with
  | nil => exact unheard_nil l
  | cons op ops ih =>
    obtain ⟨hop, hops⟩ := List.forall_mem_cons.mp h
    exact (unheard_of_isPlain hop).cons (ih hops)

end Link

/-- The packet that authenticates with a password. -/
def Packet.ofPassword (password : String) : Packet :=
  ⟨Packet.authId, .auth, password⟩

/-- The packets that authenticate, of those that were sent on a connection. -/
def Page.auths (page : Page) : List Packet :=
  page.sent.filter (·.type = .auth)

theorem Page.auths_of_sent {page page' : Page} {packets : List Packet}
    (sent : page'.sent = page.sent ++ packets) :
    page'.auths = page.auths ++ packets.filter (·.type = .auth) := by
  rw [auths, sent, List.filter_append]
  rfl

/-- An authentication that has begun. -/
structure Trial where
  /-- The call that has begun it. -/
  call : Nat
  /-- The password. -/
  password : String
  /-- The number of packets that authenticate that had been sent by then. -/
  posted : Nat
  /-- The number of answers that had arrived by then. -/
  answered : Nat
deriving DecidableEq

/-- A call that authenticates writes the packet with its password, before which some others were
sent, or has sent it as the next after these. -/
def Stage.BackedBy (page : Page) (m : Trial) : Stage → Prop
  | .writingAuth _ _ packet _ => packet = .ofPassword m.password ∧ m.posted = page.auths.length
  | .awaitVerdict .. => page.auths[m.posted]? = some (.ofPassword m.password)
  | _ => True

/-- What there was of authentications on a connection. -/
structure Trials where
  /-- The answers that have arrived, the oldest first: whether a password was accepted. -/
  answers : List Bool := []
  /-- The authentications that have begun, by number. -/
  begun : List Trial := []

/-- How a call ends whose authentication fails. -/
def Errand.refusal (errand : Errand) (error : AuthError) : Answer :=
  match errand with
  | .authenticate _ => .refused error
  | _ => .failed error.toError

/-- Where a call goes on whose authentication has ended: with a password that was accepted it is
connected, and otherwise it fails. -/
def Errand.settled (errand : Errand) : Option Bool → Stage
  | some true =>
    match errand with
    | .command .. => .awaitCommandLock
    | _ => .finished .done
  | some false => .finished (errand.refusal .invalidPassword)
  | none => .finished (errand.refusal (.fatal .connectionClosed))

/-- Where a call goes on that leaves its authentication before that has ended: its caller has
dropped it, its write has failed, or its time is up. -/
def Errand.departures (errand : Errand) : List Stage :=
  [.abandoned, .finished (errand.refusal (.fatal .io)),
    .finished (errand.refusal (.fatal .timeout))]

namespace Client

open Link (Unheard)

variable {c c' : Client} {action : Action} {actions : List Action} {g n : Nat} {config : Config}

/-- What a step adds to the authentications on the connection of a generation: the answer that
arrives with a frame, and the authentication that a call begins. -/
def noteTrials (g : Nat) (c : Client) (action : Action) (_ : Client) (t : Trials) : Trials :=
  match action with
  | .frame h bytes =>
    if h = g then
      { t with answers := t.answers ++
          ((Packet.decode bytes c.config.encoding).toOption.bind Packet.verdict?).toList }
    else t
  | .advance n =>
    match c.post (.call n) with
    | .asking h (some password) =>
      if h = g then
        { t with begun := t.begun ++ [⟨n, password, (c.page g).auths.length, t.answers.length⟩] }
      else t
    | _ => t
  | _ => t

/-- What there was of authentications on the connection of a generation when some actions were
taken. -/
def trialsOn (c : Client) (g : Nat) (actions : List Action) : Trials :=
  c.tally (noteTrials g) {} actions

/-- A call is about to begin an authentication on the connection of a generation. -/
def Begins (g : Nat) (c : Client) (action : Action) : Prop :=
  ∃ n password, action = .advance n ∧ c.desk.post (.call n) = .asking g (some password)

/-- Nothing is added where no frame arrives and no authentication begins. -/
theorem noteTrials_of_not_begins (unframed : ∀ bytes, action ≠ .frame g bytes)
    (unbegun : ¬Begins g c action) (t : Trials) : noteTrials g c action c' t = t := by
  cases action with
  | frame h bytes =>
    refine if_neg ?_
    rintro rfl
    exact unframed bytes rfl
  | advance n =>
    dsimp only [noteTrials]
    split
    · rename_i h password hpost
      refine if_neg ?_
      rintro rfl
      exact unbegun ⟨n, password, rfl, hpost⟩
    · rfl
  | _ => rfl

/-- Where a call begins an authentication, it is added. -/
theorem noteTrials_of_beginning {errand : Errand} {password : String}
    (hcall : c.calls[n]? = some ⟨errand, .beginningAuth g password⟩) (t : Trials) :
    noteTrials g c (.advance n) c' t = { t with
      begun := t.begun ++ [⟨n, password, (c.page g).auths.length, t.answers.length⟩] } := by
  have hpost : c.post (.call n) = .asking g (some password) := post_of_call hcall
  dsimp only [noteTrials]
  rw [hpost]
  exact if_pos rfl

/-- Authentications that have begun stay known. -/
theorem begun_of_noteTrials (g : Nat) (c : Client) (action : Action) (c' : Client) (t : Trials) :
    ∃ more, (noteTrials g c action c' t).begun = t.begun ++ more := by
  have hnone : ∃ more, t.begun = t.begun ++ more := ⟨[], (List.append_nil _).symm⟩
  cases action with
  | frame h bytes =>
    dsimp only [noteTrials]
    split_ifs
    · exact hnone
    · exact hnone
  | advance n =>
    dsimp only [noteTrials]
    split
    · split_ifs
      · exact ⟨_, rfl⟩
      · exact hnone
    · exact hnone
  | _ => exact hnone

/-- An authentication begins only where a call is about to. -/
theorem attempts_of_not_begins (attended : Attended c) (orderly : Orderly c)
    (h : c.step action = some c') (unbegun : ¬Begins g c action) :
    (c'.desk.page g).attempts = (c.desk.page g).attempts := by
  have hentry := (shift_of_step attended orderly h).entry g
  change (c'.page g).attempts = (c.page g).attempts
  generalize c'.page g = page at hentry ⊢
  cases hentry with
  | began taker post => exact absurd ⟨_, _, taker, post⟩ unbegun
  | kept | registered | wrote | broke => rfl

/-- What one step does to a connection where it asks nothing, hears of no answer, and drops no
authentication whose time is up. -/
theorem Calm.unheard {ops : List Link.Op} (calm : Calm g action ops)
    (unbegun : ops.count .beginAuth = 0) (unframed : ∀ bytes, action ≠ .frame g bytes)
    (unexpired : ∀ n, action ≠ .expire n) (l : Link) :
    Unheard l (l.effects ops) (l.after ops) := by
  cases calm with
  | plain h => exact Link.unheard_after h
  | request id multi =>
    exact (Link.unheard_register id multi).cons
      ((Link.unheard_of_isPlain rfl).cons (Link.unheard_nil _))
  | authentication => cases unbegun
  | @expired n => exact absurd rfl (unexpired n)
  | broken =>
    -- A write that fails closes the connection before the authentication is dropped.
    have hclosed : l.close.2.conn.closed = true := (Link.close_spec l).2.1
    have hcancel : Unheard l.close.2 (l.close.2.apply .cancelAuth).2.1
        (l.close.2.apply .cancelAuth).2.2 :=
      Link.unheard_apply nofun (.inr ⟨rfl, hclosed⟩)
    have hclose : Unheard l (l.apply .close).2.1 (l.apply .close).2.2 :=
      Link.unheard_of_isPlain rfl
    exact hclose.cons (hcancel.cons (Link.unheard_nil _))
  | frame bytes => exact absurd rfl (unframed bytes)

/-- A connection is what some operations make of another, and so are the ends of its
authentications. -/
def Becomes (ops : List Link.Op) (s s' : Session) : Prop :=
  ∃ l : Link, l.conn = s.conn ∧ s'.conn = (l.after ops).conn ∧
    s'.verdicts = s.verdicts ++ (l.effects ops).verdicts

/-- A call begins an authentication on the connection of a generation. -/
inductive Begun (g n : Nat) (errand : Errand) (password : String) (c' : Client)
    (s s' : Session) : Prop where
  /-- It goes on to write. -/
  | goes {bytes : Bytes} (becomes : Becomes [.beginAuth] s s')
      (stage : c'.calls[n]? =
        some ⟨errand, .writingAuth g s.conn.attempts (.ofPassword password) bytes⟩)
  /-- The password is too large, and it drops the authentication at once. -/
  | refused (becomes : Becomes [.beginAuth, .cancelAuth] s s')
      (stage : ∀ call, c'.calls[n]? = some call → call.stage.ticket? = none)

/-- What one step has to do with the authentications on the connection of a generation that is
there. -/
inductive Tries (g : Nat) (c : Client) (action : Action) (c' : Client) (s s' : Session) : Prop where
  /-- None begins, no answer arrives, and no time is up. -/
  | still {ops : List Link.Op} (unnoted : ∀ t, noteTrials g c action c' t = t)
      (unheard : ∀ l : Link, Unheard l (l.effects ops) (l.after ops))
      (becomes : Becomes ops s s')
  /-- A frame arrives. -/
  | heard {bytes : Bytes} (arrives : action = .frame g bytes)
      (becomes : Becomes [.frame bytes] s s')
  /-- A call that waits for an answer drops its authentication. -/
  | expired {n attempt : Nat} {errand : Errand} (taker : action = .expire n)
      (call : c.calls[n]? = some ⟨errand, .awaitVerdict g attempt⟩)
      (waits : s.verdict? attempt = none)
      (becomes : Becomes [.cancelAuth] s s')
  /-- A call begins one. -/
  | began {n : Nat} {errand : Errand} {password : String} (taker : action = .advance n)
      (call : c.calls[n]? = some ⟨errand, .beginningAuth g password⟩)
      (begins : Begun g n errand password c' s s')

theorem Becomes.refl (s : Session) : Becomes [] s s :=
  ⟨⟨s.conn, {}, {}⟩, rfl, rfl, (List.append_nil _).symm⟩

theorem Deals.becomes {ops : List Link.Op} (deals : Deals g ops c c') {s : Session}
    (hs : c.session? g = some s) : ∃ s', c'.session? g = some s' ∧ Becomes ops s s' := by
  obtain ⟨s', hs', haccount⟩ := deals.exists_session hs
  exact ⟨s', hs', (c.account s).link, rfl, congrArg (·.link.conn) haccount,
    congrArg (·.verdicts) haccount⟩

/-- A call that is about to begin an authentication is at the stage for it. -/
theorem stage_of_begins {password : String}
    (hpost : c.desk.post (.call n) = .asking g (some password)) :
    ∃ errand, c.calls[n]? = some ⟨errand, .beginningAuth g password⟩ := by
  change (c.calls[n]?).elim Post.away (·.stage.post) = _ at hpost
  cases hcall : c.calls[n]? with
  | none =>
    rw [hcall] at hpost
    cases hpost
  | some call =>
    obtain ⟨errand, stage⟩ := call
    rw [hcall, Option.elim_some] at hpost
    cases stage with
    | beginningAuth h other =>
      obtain ⟨rfl, hpassword⟩ := Post.asking.inj hpost
      obtain rfl := Option.some.inj hpassword
      exact ⟨errand, rfl⟩
    | _ => cases hpost

/-- A call that begins an authentication goes on to write unless the password is too large. -/
theorem begun_of_advance {errand : Errand} {password : String} {s : Session}
    (hcall : c.calls[n]? = some ⟨errand, .beginningAuth g password⟩) (hs : c.session? g = some s)
    (h : c.advance n = some c') :
    ∃ s', c'.session? g = some s' ∧ Begun g n errand password c' s s' := by
  unfold advance at h
  obtain ⟨call, hcall', h⟩ := Option.bind_eq_some_iff.mp h
  obtain rfl := Option.some.inj (hcall.symm.trans hcall')
  obtain ⟨t, ht, h⟩ := Option.bind_eq_some_iff.mp h
  obtain rfl := Option.some.inj (hs.symm.trans ht)
  dsimp only at h
  split at h
  · rename_i bytes _
    obtain rfl := Option.some.inj h
    obtain ⟨s', hs', hbecomes⟩ :=
      ((deals_beginAuth c g).trans_nil (deals_setStage ..)).becomes hs
    exact ⟨s', hs', .goes hbecomes (call_setStage ((calls_onConn ..).symm ▸ hcall) _)⟩
  · obtain rfl := Option.some.inj h
    obtain ⟨s', hs', hbecomes⟩ := ((deals_beginAuth c g).trans
      ((deals_cancelAuth ..).trans_nil (deals_refuse ..))).becomes hs
    refine ⟨s', hs', .refused hbecomes fun call hcall' => ?_⟩
    have hsame : (((c.onConn g (·.beginAuth)).onConn g (·.cancelAuth)).unlock n).calls = c.calls := by
      rw [calls_unlock, calls_onConn, calls_onConn]
    obtain rfl := Option.some.inj ((call_setStage (hsame.symm ▸ hcall) _).symm.trans hcall')
    rfl

/-- Nothing is added before the connection is there. -/
theorem noteTrials_of_none (hs : c.session? g = none) (h : c.step action = some c') (t : Trials) :
    noteTrials g c action c' t = t := by
  -- Frames arrive and calls begin authentications on connections that are there.
  refine noteTrials_of_not_begins (fun bytes hframe => ?_) ?_ t
  · subst hframe
    replace h : c.receive g bytes = some c' := h
    rw [receive, hs] at h
    cases h
  · rintro ⟨n, password, rfl, hpost⟩
    obtain ⟨errand, hcall⟩ := stage_of_begins hpost
    replace h : c.advance n = some c' := h
    unfold advance at h
    simp [hcall, hs] at h

/-- What happens on one connection leaves the others as they are. -/
theorem tries_of_deals {s : Session} {ops : List Link.Op} {k : Nat} (hs : c.session? g = some s)
    (deals : Deals k ops c c') (unnoted : ∀ t, noteTrials g c action c' t = t)
    (unheard : k = g → ∀ l : Link, Unheard l (l.effects ops) (l.after ops)) :
    ∃ s', c'.session? g = some s' ∧ Tries g c action c' s s' := by
  by_cases hk : k = g
  · subst hk
    obtain ⟨s', hs', hbecomes⟩ := deals.becomes hs
    exact ⟨s', hs', .still unnoted (unheard rfl) hbecomes⟩
  · exact ⟨s, (deals.others g fun hg => hk hg.symm).trans hs,
      .still unnoted Link.unheard_nil (.refl s)⟩

/-- Where no call is about to begin one, no frame arrives and no time is up, nothing happens to the
authentications but that the connection may close. -/
theorem tries_of_not_begins (attended : Attended c) (orderly : Orderly c) {s : Session}
    (hs : c.session? g = some s) (h : c.step action = some c') (unbegun : ¬Begins g c action)
    (unframed : ∀ bytes, action ≠ .frame g bytes) (unexpired : ∀ n, action ≠ .expire n) :
    ∃ s', c'.session? g = some s' ∧ Tries g c action c' s s' := by
  have hunnoted (t : Trials) : noteTrials g c action c' t = t :=
    noteTrials_of_not_begins unframed unbegun t
  -- The page counts the authentications that begin, so the operations on the connection begin none.
  have hcount {ops : List Link.Op} (deals : Deals g ops c c') : ops.count .beginAuth = 0 := by
    obtain ⟨s', hs', l, hl, hconn, -⟩ := deals.becomes hs
    have hattempts : (c'.page g).attempts = (c.page g).attempts :=
      attempts_of_not_begins attended orderly h unbegun
    rw [page_of_session? hs, page_of_session? hs'] at hattempts
    have hafter : s'.conn.attempts = s.conn.attempts + ops.count .beginAuth := by
      rw [hconn, Link.attempts_after, hl]
    have hsame : s'.conn.attempts = s.conn.attempts := hattempts
    omega
  cases transition_of_step h with
  | dealt _ calm _ deals =>
    refine tries_of_deals hs deals hunnoted fun hk => ?_
    subst hk
    exact calm.unheard (hcount deals) unframed unexpired
  | @asked k op _ asking _ deals =>
    refine tries_of_deals hs deals hunnoted fun hk l => ?_
    subst hk
    have hcount := hcount deals
    cases op with
    | register id multi => exact (Link.unheard_register id multi).cons (Link.unheard_nil _)
    | beginAuth => cases hcount
    | _ => cases asking
  | attempted _ _ sessions =>
    refine ⟨s, ?_, .still hunnoted Link.unheard_nil (.refl s)⟩
    rw [session?, sessions]
    exact hs
  | made _ _ _ sessions =>
    refine ⟨s, ?_, .still hunnoted Link.unheard_nil (.refl s)⟩
    rw [session?_append sessions, hs, Option.some_or]

/-- What one step has to do with the authentications on a connection that is there. -/
theorem tries_of_step (attended : Attended c) (orderly : Orderly c) {s : Session}
    (hs : c.session? g = some s) (h : c.step action = some c') :
    ∃ s', c'.session? g = some s' ∧ Tries g c action c' s s' := by
  by_cases hbegins : Begins g c action
  · obtain ⟨n, password, rfl, hpost⟩ := hbegins
    obtain ⟨errand, hcall⟩ := stage_of_begins hpost
    obtain ⟨s', hs', begins⟩ := begun_of_advance hcall hs h
    exact ⟨s', hs', .began rfl hcall begins⟩
  cases action with
  | frame k bytes =>
    have hframe := h
    dsimp only [step] at hframe
    unfold receive at hframe
    obtain ⟨t, -, hframe⟩ := Option.bind_eq_some_iff.mp hframe
    split_ifs at hframe
    obtain rfl := Option.some.inj hframe
    have hdeals : Deals k [.frame bytes] c (c.onLink k (·.frameReceived bytes)) :=
      deals_onLink (fun _ => rfl) trivial
    by_cases hk : k = g
    · subst hk
      obtain ⟨s', hs', hbecomes⟩ := hdeals.becomes hs
      exact ⟨s', hs', .heard rfl hbecomes⟩
    · exact tries_of_deals hs hdeals (fun t => if_neg hk) fun hg => absurd hg hk
  | expire n =>
    have hunnoted (t : Trials) : noteTrials g c (.expire n) c' t = t := rfl
    replace h : c.expire n = some c' := h
    unfold expire at h
    obtain ⟨⟨errand, stage⟩, hcall, h⟩ := Option.bind_eq_some_iff.mp h
    cases stage with
    | awaitVerdict k attempt =>
      obtain ⟨t, ht, h⟩ := Option.bind_eq_some_iff.mp h
      split_ifs at h with hwaits
      obtain rfl := Option.some.inj h
      have hdeals := (deals_cancelAuth c k).trans_nil (deals_refuse _ n k errand (.fatal .timeout))
      by_cases hk : k = g
      · subst hk
        obtain rfl := Option.some.inj (hs.symm.trans ht)
        obtain ⟨s', hs', hbecomes⟩ := hdeals.becomes hs
        exact ⟨s', hs', .expired rfl hcall (Option.not_isSome_iff_eq_none.mp hwaits) hbecomes⟩
      · exact tries_of_deals hs hdeals hunnoted fun hg => absurd hg hk
    | awaitResponse k id slot =>
      obtain ⟨t, -, h⟩ := Option.bind_eq_some_iff.mp h
      split_ifs at h
      obtain rfl := Option.some.inj h
      have hdeals := (deals_remove c k id).trans_nil (deals_finish _ n k (.failed .timeout))
      refine tries_of_deals hs hdeals hunnoted fun _ l => ?_
      exact Link.unheard_after (List.forall_mem_singleton.mpr rfl)
    | _ => cases h
  | _ => exact tries_of_not_begins attended orderly hs h hbegins nofun nofun

end Client

end RemoteConsole
