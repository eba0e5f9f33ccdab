import RemoteConsole.Proofs.Client.Generations
import RemoteConsole.Proofs.Connection.Audience
import Mathlib.Data.List.Nodup

/-!
# One live connection, one notice each

Of the connections that a client ever had, at most the latest is open, and the listeners to the end
of a connection have been called once for each of the others (`one_notice_each`). The proof carries
an account of the notices along a run (`Noticed`): closing an open connection adds one closed
connection and one call of all listeners there are, and no other dealing with a connection adds
either (`Link.Notice`). Connections are told apart by their generations, of which no two are the
same.
-/

namespace RemoteConsole

/-- Whether a call at a stage is on the way to a stream, and has none yet. -/
def Stage.isBeforeStream : Stage → Bool
  | awaitConnectLock | lookAtState | dialing _ => true
  | _ => false

namespace Link

variable {l l' : Link} {op : Op}

/-- What listeners to the end of a connection get to know of what happens to it. -/
inductive Notice (l : Link) (e : Effects) (l' : Link) : Prop where
  /-- It stays open or closed, and they are not told anything. -/
  | silent (closed : l'.conn.closed = l.conn.closed) (disconnects : e.disconnects = [])
  /-- It is closed, and all of them are called, each once. -/
  | told {called : List Listener} (isOpen : l.conn.closed = false) (closed : l'.conn.closed = true)
    (early : l.listeners.disconnected <+: called) (late : called <+: l'.listeners.disconnected)
    (disconnects : e.disconnects = called.map (·.hear .disconnected))

/-- One operation tells the listeners of the end if it is the first close. -/
theorem notice_apply (l : Link) (op : Op) : Notice l (l.apply op).2.1 (l.apply op).2.2 := by
  by_cases hfirst : op = .close ∧ l.conn.closed = false
  · obtain ⟨rfl, hopen⟩ := hfirst
    have hclose := close_of_open hopen
    have hdisconnects : l.close.1.disconnects =
        l.listeners.disconnected.map (·.hear .disconnected) := by
      have hheard : l.close.1.heard = (l.listeners.notify .disconnected).1 := by rw [hclose]
      rw [Effects.disconnects, hheard, List.filter_eq_self.mpr, Registry.notify_fst]
      · rfl
      · intro h hh
        exact decide_eq_true (Registry.event_of_notify hh)
    have hclosed : l.close.2.conn.closed = true := by rw [hclose]
    exact .told hopen hclosed List.prefix_rfl (extends_apply l .close .disconnected) hdisconnects
  · have hstays := stays_apply l op fun hop => by
      rw [← Bool.not_eq_false]
      exact fun hopen => hfirst ⟨hop, hopen⟩
    exact .silent hstays.closed hstays.disconnects

/-- So does a history, which tells them once at most. -/
theorem notice_after (l : Link) (ops : List Op) : Notice l (l.effects ops) (l.after ops) := by
  induction ops generalizing l with
  | nil => exact .silent rfl rfl
  | cons op ops ih =>
    have hrest := ih (l.apply op).2.2
    rw [effects_cons]
    cases notice_apply l op with
    | silent closed disconnects =>
      cases hrest with
      | silent closed' disconnects' =>
        refine .silent (closed'.trans closed) ?_
        rw [Effects.disconnects_append, disconnects, disconnects', List.append_nil]
      | told isOpen' closed' early late disconnects' =>
        have hearly := (extends_apply l op .disconnected).trans early
        refine .told (closed ▸ isOpen') closed' hearly late ?_
        rw [Effects.disconnects_append, disconnects, disconnects', List.nil_append]
    | told isOpen closed early late disconnects =>
      cases hrest with
      | silent closed' disconnects' =>
        have hlate := late.trans (extends_after _ ops .disconnected)
        refine .told isOpen (closed'.trans closed) early hlate ?_
        rw [Effects.disconnects_append, disconnects, disconnects', List.append_nil]
      -- What has been closed is not open, so the listeners are not told again.
      | told isOpen' closed' early' late' disconnects' => cases closed.symm.trans isOpen'

end Link

namespace Client

variable {c c' : Client} {action : Action} {actions : List Action} {g n : Nat} {errand : Errand}
  {ops : List Link.Op} {initial : List Listener}

/-- The calls of listeners to the end of connections. -/
def notices (c : Client) : List Heard :=
  c.heard.filter (·.event = .disconnected)

/-- The number of connections that are closed. -/
def closedCount (c : Client) : Nat :=
  c.sessions.countP (·.conn.closed)

/-- The number of connections that are open. -/
def openCount (c : Client) : Nat :=
  c.sessions.countP fun s => !s.conn.closed

/-- Of connections whose generations are distinct, each is found under its own. -/
theorem session?_of_mem (distinct : c.generations.Nodup) {s : Session} (hs : s ∈ c.sessions) :
    c.session? s.conn.generation = some s := by
  have hsome : (c.session? s.conn.generation).isSome := by
    rw [session?, List.find?_isSome]
    exact ⟨s, hs, beq_self_eq_true _⟩
  obtain ⟨s', hs'⟩ := Option.isSome_iff_exists.mp hsome
  have hmem : s' ∈ c.sessions := List.mem_of_find?_eq_some hs'
  rw [hs', List.inj_on_of_nodup_map distinct hmem hs (generation_of_session? hs')]

/-- What is found under a generation is there. -/
theorem mem_generations {s : Session} (hs : c.session? g = some s) : g ∈ c.generations := by
  rw [← generation_of_session? hs]
  exact List.mem_map_of_mem (List.mem_of_find?_eq_some hs)

/-- Connections whose generations are distinct are counted by their generations. -/
theorem countP_sessions (distinct : c.generations.Nodup) (p : Session → Bool) :
    c.sessions.countP p = c.generations.countP fun g => (c.session? g).any p := by
  rw [generations, List.countP_map]
  refine List.countP_congr fun s hs => ?_
  rw [Function.comp_apply, session?_of_mem distinct hs, Option.any_some]

/-- One more number of a list has a property if just one gets it, which occurs there once. -/
theorem countP_of_flip {l : List Nat} {p q : Nat → Bool} (distinct : l.Nodup) (hg : g ∈ l)
    (before : p g = false) (after : q g = true) (others : ∀ h, h ≠ g → q h = p h) :
    l.countP q = l.countP p + 1 := by
  have hcount (l : List Nat) : l.countP q = l.countP p + l.count g := by
    induction l with
    | nil => rfl
    | cons h l ih =>
      rw [List.countP_cons, List.countP_cons, List.count_cons, ih]
      by_cases hh : h = g
      · rw [hh, before, after, beq_self_eq_true]
        simp
        omega
      · rw [others h hh, beq_eq_false_iff_ne.mpr hh]
        simp
        omega
  rw [hcount, List.count_eq_one_of_mem distinct hg]

/-- The account of the notices of a client that had some listeners to the end of connections when it
was made. -/
structure Noticed (initial : List Listener) (c : Client) : Prop where
  /-- No two connections are of the same generation. -/
  distinct : c.generations.Nodup
  /-- The listeners that there were at first are still there. -/
  kept : initial <+: c.listeners.disconnected
  /-- For each connection that is closed, all listeners were called that there were by then. -/
  told : ∃ calls : List (List Listener), calls.length = c.closedCount ∧
    (∀ called ∈ calls, initial <+: called ∧ called <+: c.listeners.disconnected) ∧
      c.notices = calls.flatMap fun called => called.map (·.hear .disconnected)

namespace Noticed

/-- What no listener is told of, and closes no connection, keeps the account. -/
theorem of_eq (noticed : Noticed initial c) (distinct : c'.generations.Nodup)
    (closedCount : c'.closedCount = c.closedCount)
    (listeners : c.listeners.disconnected <+: c'.listeners.disconnected)
    (notices : c'.notices = c.notices) : Noticed initial c' := by
  obtain ⟨calls, hlength, hcalls, hnotices⟩ := noticed.told
  refine ⟨distinct, noticed.kept.trans listeners, calls, hlength.trans closedCount.symm,
    fun called hcalled => ?_, notices.trans hnotices⟩
  obtain ⟨hearly, hlate⟩ := hcalls called hcalled
  exact ⟨hearly, hlate.trans listeners⟩

/-- What is said of the notices after some operations on a connection. -/
theorem notices_eq (deals : Deals g ops c c') {s : Session} (hs : c.session? g = some s) :
    c'.notices = c.notices ++ ((c.account s).link.effects ops).disconnects := by
  obtain ⟨s', -, haccount⟩ := deals.exists_session hs
  have hheard : c'.heard = c.heard ++ ((c.account s).link.effects ops).heard :=
    congrArg (·.heard) haccount
  rw [notices, hheard, List.filter_append]
  rfl

/-- Dealing with a connection keeps the account. -/
theorem deals (noticed : Noticed initial c) (deals : Deals g ops c c') : Noticed initial c' := by
  have hgenerations := deals.generations
  have hdistinct : c'.generations.Nodup := hgenerations ▸ noticed.distinct
  have hcount : c.closedCount = c.generations.countP fun h => (c.session? h).any (·.conn.closed) :=
    countP_sessions noticed.distinct _
  have hcount' : c'.closedCount =
      c.generations.countP fun h => (c'.session? h).any (·.conn.closed) := by
    rw [closedCount, countP_sessions hdistinct, hgenerations]
  cases hs : c.session? g with
  | none =>
    obtain ⟨-, hlisteners, hheard⟩ := deals.absent hs
    have hprefix : c.listeners.disconnected <+: c'.listeners.disconnected :=
      hlisteners ▸ List.prefix_rfl
    refine noticed.of_eq hdistinct ?_ hprefix (by rw [notices, hheard]; rfl)
    rw [hcount, hcount']
    refine List.countP_congr fun h hh => ?_
    by_cases hg : h = g
    · have hown := deals.own
      rw [hs] at hown
      rw [hg, hs, Option.map_eq_none_iff.mp hown]
    · rw [deals.others h hg]
  | some s =>
    obtain ⟨s', hs', haccount⟩ := deals.exists_session hs
    have hconn : s'.conn = ((c.account s).link.after ops).conn := congrArg (·.link.conn) haccount
    have hlisteners : c'.listeners = ((c.account s).link.after ops).listeners :=
      congrArg (·.link.listeners) haccount
    have hprefix : c.listeners.disconnected <+: c'.listeners.disconnected := by
      rw [hlisteners]
      exact Link.extends_after (c.account s).link ops .disconnected
    have hnotices := notices_eq deals hs
    cases Link.notice_after (c.account s).link ops with
    | silent closed disconnects =>
      refine noticed.of_eq hdistinct ?_ hprefix (by rw [hnotices, disconnects, List.append_nil])
      rw [hcount, hcount']
      refine List.countP_congr fun h hh => ?_
      by_cases hg : h = g
      · rw [hg, hs, hs', Option.any_some, Option.any_some, hconn, closed]
        rfl
      · rw [deals.others h hg]
    | @told called isOpen closed early late disconnects =>
      -- One more connection is closed, and the listeners are called once more.
      obtain ⟨calls, hlength, hcalls, htold⟩ := noticed.told
      have hone : c'.closedCount = c.closedCount + 1 := by
        rw [hcount, hcount']
        refine countP_of_flip noticed.distinct (mem_generations hs) ?_ ?_ fun h hg => ?_
        · rw [hs, Option.any_some]
          exact isOpen
        · rw [hs', Option.any_some, hconn, closed]
        · rw [deals.others h hg]
      refine ⟨hdistinct, noticed.kept.trans hprefix, calls ++ [called], ?_, ?_, ?_⟩
      · rw [List.length_append, hlength, hone]
        rfl
      · intro called' hcalled'
        obtain hcalled' | hcalled' := List.mem_append.mp hcalled'
        · obtain ⟨hearly, hlate⟩ := hcalls called' hcalled'
          exact ⟨hearly, hlate.trans hprefix⟩
        · rw [List.mem_singleton.mp hcalled', hlisteners]
          exact ⟨noticed.kept.trans early, late⟩
      · rw [hnotices, htold, disconnects, List.flatMap_append, List.flatMap_singleton]

/-- One step keeps the account. -/
theorem step (noticed : Noticed initial c) (sound : c.outline.Sound) (h : c.step action = some c') :
    Noticed initial c' := by
  cases transition_of_step h with
  | dealt _ _ _ deals => exact noticed.deals deals
  | asked _ _ _ deals => exact noticed.deals deals
  | attempted _ _ sessions listeners heard =>
    have hdistinct : c'.generations.Nodup := by
      rw [generations, sessions]
      exact noticed.distinct
    have hprefix : c.listeners.disconnected <+: c'.listeners.disconnected :=
      listeners ▸ List.prefix_rfl
    exact noticed.of_eq hdistinct (by rw [closedCount, sessions]; rfl) hprefix
      (by rw [notices, heard]; rfl)
  | @made g _ _ attempt sessions listeners heard =>
    -- The connection that is put in place is open, and the first of its generation.
    obtain ⟨k, stage, hstage, hattempt⟩ := attempt
    have hnone : c.session? g = none := by
      have hclosed := (sound.attempting hstage hattempt).2.2
      rwa [outline_closed?, Option.map_eq_none_iff] at hclosed
    have hfresh : g ∉ c.generations := by
      intro hg
      obtain ⟨s, hs, hgeneration⟩ := List.mem_map.mp hg
      have hfound := session?_of_mem noticed.distinct hs
      rw [hgeneration, hnone] at hfound
      cases hfound
    have hgenerations : c'.generations = c.generations ++ [g] := by
      rw [generations, sessions, List.map_append]
      rfl
    have hdistinct : c'.generations.Nodup := by
      rw [hgenerations, List.nodup_append]
      refine ⟨noticed.distinct, List.nodup_singleton g, fun h hh k hk => ?_⟩
      rw [List.mem_singleton.mp hk]
      exact fun hg => hfresh (hg ▸ hh)
    have hcount : c'.closedCount = c.closedCount := by
      rw [closedCount, sessions, List.countP_append]
      rfl
    have hprefix : c.listeners.disconnected <+: c'.listeners.disconnected :=
      listeners ▸ List.prefix_rfl
    exact noticed.of_eq hdistinct hcount hprefix (by rw [notices, heard]; rfl)

/-- A client that has not done anything yet has closed no connection and told nobody. -/
theorem fresh (config : Config) (listeners : Registry) :
    Noticed listeners.disconnected (fresh config listeners) where
  distinct := List.nodup_nil
  kept := List.prefix_rfl
  told := ⟨[], rfl, fun _ h => absurd h List.not_mem_nil, rfl⟩

/-- The account is kept along every run. -/
theorem of_run {config : Config} {listeners : Registry}
    (h : (Client.fresh config listeners).run actions = some c) :
    Noticed listeners.disconnected c := by
  have hboth : c.outline.Sound ∧ Noticed listeners.disconnected c := by
    refine run_keeps (p := fun c => c.outline.Sound ∧ Noticed listeners.disconnected c) ?_
      ⟨sound_fresh config listeners, fresh config listeners⟩ h
    rintro c c' action ⟨sound, noticed⟩ hstep
    exact ⟨(move_of_step hstep).sound sound, noticed.step sound hstep⟩
  exact hboth.2

end Noticed

/-- At most one connection is open. -/
theorem openCount_le_one (distinct : c.generations.Nodup) (sound : c.outline.Sound) :
    c.openCount ≤ 1 := by
  have hlatest (g : Nat) (hg : (c.session? g).any fun s => !s.conn.closed) : g = c.generation := by
    have hopen : c.outline.closed? g = some false := by
      rw [outline_closed?]
      cases hs : c.session? g with
      | none => simp [hs] at hg
      | some s => simpa [hs] using hg
    exact (sound.newest hopen).1
  calc c.openCount = c.generations.countP fun g => (c.session? g).any fun s => !s.conn.closed :=
        countP_sessions distinct _
    _ ≤ c.generations.count c.generation :=
        List.countP_mono_left fun g _ hg => beq_iff_eq.mpr (hlatest g hg)
    _ ≤ 1 := List.nodup_iff_count_le_one.mp distinct _

/-- A connection is put in place only when every earlier one is closed. -/
theorem closed_of_started (distinct : c.generations.Nodup) (sound : c.outline.Sound)
    (h : c.step action = some c') (started : c.sessions.length < c'.sessions.length) :
    ∀ s ∈ c.sessions, s.conn.closed = true := by
  have hsame (hgenerations : c'.generations = c.generations) : False := by
    have hlength := congrArg List.length hgenerations
    rw [generations, generations, List.length_map, List.length_map] at hlength
    omega
  cases transition_of_step h with
  | dealt _ _ _ deals => exact (hsame deals.generations).elim
  | asked _ _ _ deals => exact (hsame deals.generations).elim
  | attempted _ _ sessions => exact (hsame (by rw [generations, sessions]; rfl)).elim
  | @made g _ _ attempt =>
    obtain ⟨k, stage, hstage, hattempt⟩ := attempt
    have hapart := (sound.attempting hstage hattempt).2.1
    intro s hs
    have hclosed := sound.closed_of_apart hapart s.conn.generation
    rw [outline_closed?, session?_of_mem distinct hs, Option.map_some] at hclosed
    rw [← Bool.not_eq_false]
    exact fun hopen => hclosed (congrArg some hopen)

/-- A call that has not got a stream yet waits for its turn, finds a connection, or begins to make
one. -/
theorem silent_of_advance {stage : Stage} (hcall : c.calls[n]? = some ⟨errand, stage⟩)
    (before : stage.isBeforeStream = true) (h : c.advance n = some c') :
    c'.sessions = c.sessions ∧ c'.heard = c.heard := by
  unfold advance at h
  obtain ⟨call, hcall', h⟩ := Option.bind_eq_some_iff.mp h
  obtain rfl := Option.some.inj (hcall.symm.trans hcall')
  cases stage with
  | awaitConnectLock =>
    dsimp only at h
    split_ifs at h
    obtain rfl := Option.some.inj h
    exact ⟨rfl, rfl⟩
  | lookAtState =>
    obtain ⟨hsessions, -, -, hheard⟩ := unlock_spec c n
    dsimp only at h
    split at h
    · obtain rfl := Option.some.inj h
      cases errand with
      | connect | authenticate _ | command _ _ _ | disconnect => exact ⟨hsessions, hheard⟩
    all_goals
      obtain rfl := Option.some.inj h
      exact ⟨rfl, rfl⟩
  | dialing g => cases h
  | _ => cases before

/-- A call that tries to get a stream gets one, or says that it has failed. -/
theorem silent_of_dial {outcome : DialOutcome} (h : c.dial n outcome = some c') :
    c'.sessions = c.sessions ∧ c'.heard = c.heard := by
  unfold dial at h
  obtain ⟨⟨errand, stage⟩, -, h⟩ := Option.bind_eq_some_iff.mp h
  cases stage with
  | dialing g =>
    cases outcome with
    | stream =>
      obtain rfl := Option.some.inj h
      exact ⟨rfl, rfl⟩
    | refused | timedOut =>
      obtain rfl := Option.some.inj h
      obtain ⟨hsessions, -, -, hheard⟩ := unlock_spec (c.setState g .disconnected) n
      exact ⟨hsessions, hheard⟩
  | _ => cases h

/-- A call that is dropped before it has got a stream gives up its locks. -/
theorem silent_of_abandon {count : Nat} {stage : Stage}
    (hcall : c.calls[n]? = some ⟨errand, stage⟩) (before : stage.isBeforeStream = true)
    (h : c.abandon n count = some c') : c'.sessions = c.sessions ∧ c'.heard = c.heard := by
  unfold abandon at h
  obtain ⟨call, hcall', h⟩ := Option.bind_eq_some_iff.mp h
  obtain rfl := Option.some.inj (hcall.symm.trans hcall')
  obtain ⟨hsessions, -, -, hheard⟩ := unlock_spec c n
  cases stage with
  | awaitConnectLock | dialing _ =>
    obtain rfl := Option.some.inj h
    exact ⟨hsessions, hheard⟩
  | lookAtState => cases h
  | _ => cases before

/-- A call that has not got a stream yet neither writes nor waits for an answer. -/
theorem not_waits_before_stream {stage : Stage} (hcall : c.calls[n]? = some ⟨errand, stage⟩)
    (before : stage.isBeforeStream = true) :
    (∀ outcome, c.write n outcome = none) ∧ c.expire n = none := by
  refine ⟨fun outcome => ?_, ?_⟩
  · unfold write
    rw [hcall]
    cases stage with
    | awaitConnectLock | lookAtState | dialing _ => rfl
    | _ => cases before
  · unfold expire
    rw [hcall]
    cases stage with
    | awaitConnectLock | lookAtState | dialing _ => rfl
    | _ => cases before

/-- What a call does before it has a stream concerns no connection, and no listener is told. -/
theorem silent_before_stream {stage : Stage} (hstage : c.outline.stage? n = some stage)
    (before : stage.isBeforeStream = true) (taker : action.call? = some n)
    (h : c.step action = some c') : c'.sessions = c.sessions ∧ c'.heard = c.heard := by
  obtain ⟨⟨errand, stage⟩, hcall, rfl⟩ := Option.map_eq_some_iff.mp hstage
  obtain ⟨hwrite, hexpire⟩ := not_waits_before_stream hcall before
  cases action with
  | advance m =>
    obtain rfl := Option.some.inj taker
    exact silent_of_advance hcall before h
  | dial m outcome => exact silent_of_dial h
  | write m outcome =>
    obtain rfl := Option.some.inj taker
    cases (hwrite outcome).symm.trans h
  | expire m =>
    obtain rfl := Option.some.inj taker
    cases hexpire.symm.trans h
  | abandon m count =>
    obtain rfl := Option.some.inj taker
    exact silent_of_abandon hcall before h
  | _ => cases taker

/-- At every point of every run, at most one connection that was ever put in place is open, and the
next is put in place only when all are closed. The listeners to the end of a connection have been
called once for each that is closed: those that were there at first, and those that were registered
by then. A call that has no stream yet, also if it never gets one, tells nobody. -/
theorem one_notice_each (config : Config) (listeners : Registry) (actions : List Action)
    (c : Client) (hrun : (fresh config listeners).run actions = some c) :
    c.openCount ≤ 1 ∧
    (∀ action c', c.step action = some c' → c.sessions.length < c'.sessions.length →
      ∀ s ∈ c.sessions, s.conn.closed = true) ∧
    (∃ calls : List (List Listener), calls.length = c.closedCount ∧
      (∀ called ∈ calls, listeners.disconnected <+: called ∧
        called <+: c.listeners.disconnected) ∧
      c.notices = calls.flatMap fun called => called.map (·.hear .disconnected)) ∧
    ∀ action c' n stage, c.outline.stage? n = some stage → stage.isBeforeStream = true →
      action.call? = some n → c.step action = some c' →
        c'.sessions = c.sessions ∧ c'.notices = c.notices := by
  have sound := sound_of_run hrun
  have noticed := Noticed.of_run hrun
  refine ⟨openCount_le_one noticed.distinct sound,
    fun action c' hstep => closed_of_started noticed.distinct sound hstep, noticed.told, ?_⟩
  intro action c' n stage hstage before taker hstep
  obtain ⟨hsessions, hheard⟩ := silent_before_stream hstage before taker hstep
  exact ⟨hsessions, by rw [notices, hheard]; rfl⟩

/-- An attempt to connect is refused. The next gets a stream, and its connection is closed while the
call waits to authenticate. So is the call dropped, and another connects. -/
def reconnected : List Action :=
  [.call .connect, .advance 0, .advance 0, .dial 0 .refused,
    .call .connect, .advance 1, .advance 1, .dial 1 .stream, .advance 1, .advance 1, .advance 1,
    .hangUp 2, .abandon 1 0,
    .call .connect, .advance 2, .advance 2, .dial 2 .stream, .advance 2, .advance 2, .advance 2]

/-- Two connections have been put in place by then, and the one listener there is has heard of the
end of one. -/
theorem one_notice_each_reconnected :
    ∃ c, (fresh {} { disconnected := [.noting "end"] }).run reconnected = some c ∧
      c.sessions.length = 2 ∧ c.openCount ≤ 1 ∧ c.notices = [⟨.disconnected, ["end"]⟩] := by
  have hrun : ((fresh {} { disconnected := [.noting "end"] }).run reconnected).isSome = true := by
    decide
  obtain ⟨c, hc⟩ := Option.isSome_iff_exists.mp hrun
  have hfacts : c.sessions.length = 2 ∧ c.closedCount = 1 ∧
      c.listeners.disconnected = [.noting "end"] := by
    obtain rfl := Option.get_of_eq_some hrun hc
    clear hc
    refine ⟨?_, ?_, rfl⟩ <;> decide +revert
  obtain ⟨hlength, hclosed, hlisteners⟩ := hfacts
  obtain ⟨hopen, -, ⟨calls, hcalls, hcalled, hnotices⟩, -⟩ :=
    one_notice_each {} { disconnected := [.noting "end"] } reconnected c hc
  -- The one call was one of the listener that was there from first to last.
  obtain ⟨called, rfl⟩ := List.length_eq_one_iff.mp (hcalls.trans hclosed)
  obtain ⟨hearly, hlate⟩ := hcalled called List.mem_cons_self
  rw [hlisteners] at hlate
  have hlisteners' : called = [.noting "end"] := by
    refine (hearly.eq_of_length ?_).symm
    exact Nat.le_antisymm hearly.length_le hlate.length_le
  rw [hlisteners'] at hnotices
  exact ⟨c, hc, hlength, hopen, hnotices⟩

end Client

end RemoteConsole
