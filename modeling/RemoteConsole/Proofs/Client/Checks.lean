import RemoteConsole.Proofs.Client.Waiting

/-!
# Connection checks

The check of a connection starts when a call has authenticated on it, takes the session lock each
time it wakes up, registers a request and writes it, and waits for the answer without the lock. What
matters of it is its `Docket`: how far it has come, whether the connection has been claimed for it,
how many requests have been registered there, whether it has the lock, and how many tasks were tied
to the connection.

A step leaves all dockets alone, or changes one of them in one of four ways (`Tended`). From this it
follows that a check runs only on a connection that has been claimed, so that no second one starts,
and that it has the lock from where it has got it to where it has written (`Docket.InOrder`).
-/

namespace RemoteConsole

/-- Whether a connection check at some point has the session lock. -/
def Watch.needsLock : Watch → Bool
  | .looking | .registering | .writing .. => true
  | .off | .sleeping | .awaitLock | .awaitAnswer .. | .over => false

/-- The id and the slot of the request that a connection check has registered and waits for. -/
def Watch.request? : Watch → Option (Int32 × Nat)
  | .writing id slot _ _ | .awaitAnswer id slot => some (id, slot)
  | .off | .sleeping | .awaitLock | .looking | .registering | .over => none

/-- What the connection check of a connection goes by. -/
structure Docket where
  /-- How far it has come. -/
  watch : Watch
  /-- Whether the connection has been claimed for one. -/
  watched : Bool
  /-- The number of requests ever registered on the connection. -/
  issued : Nat
  /-- Whether the check has the session lock. -/
  locked : Bool
  /-- The number of tasks ever tied to the connection. -/
  tracked : Nat

/-- A connection check is in order. -/
structure Docket.InOrder (d : Docket) : Prop where
  /-- There is none of a connection that has not been claimed for one. -/
  claimed : d.watch ≠ .off → d.watched = true
  /-- It has the session lock from where it has got it to where it has written. -/
  locked : d.watch.needsLock = true → d.locked = true
  /-- Besides the two tasks that read from the connection, one was tied to it if it has been claimed
  for a check, and none otherwise. -/
  single : d.tracked = 2 + if d.watched then 1 else 0

namespace Link

/-- An operation that neither claims a connection nor registers a request or ties a task there. -/
def Minor (f : Link → Effects × Link) : Prop :=
  ∀ l, (f l).2.conn.generation = l.conn.generation ∧ (f l).2.conn.watched = l.conn.watched ∧
    (f l).2.conn.requests.issued = l.conn.requests.issued ∧
      (f l).2.conn.tracked = l.conn.tracked

theorem minor_frameReceived (frame : Bytes) : Minor (·.frameReceived frame) := by
  intro l
  have hdispatch (p : Packet) : (l.conn.dispatch p).2.generation = l.conn.generation ∧
      (l.conn.dispatch p).2.watched = l.conn.watched ∧
        (l.conn.dispatch p).2.requests.issued = l.conn.requests.issued ∧
          (l.conn.dispatch p).2.tracked = l.conn.tracked := by
    unfold Connection.dispatch
    split_ifs
    · exact ⟨rfl, rfl, rfl, rfl⟩
    · exact ⟨rfl, rfl, rfl, rfl⟩
    · exact ⟨rfl, rfl, RequestTable.deliver_issued .., rfl⟩
  dsimp only
  unfold frameReceived
  split
  · exact hdispatch _
  · exact ⟨rfl, rfl, rfl, rfl⟩

theorem minor_close : Minor close := by
  intro l
  cases hclosed : l.conn.closed with
  | true =>
    rw [close_of_closed hclosed]
    exact ⟨rfl, rfl, rfl, rfl⟩
  | false =>
    rw [close_of_open hclosed]
    exact ⟨rfl, rfl, rfl, rfl⟩

end Link

namespace Client

open Link (Minor)

variable {c c' : Client} {action : Action} {g n : Nat}

/-- What the connection check of a connection goes by. -/
def docket? (c : Client) (g : Nat) : Option Docket :=
  (c.session? g).map fun s =>
    ⟨s.watch, s.conn.watched, s.conn.requests.issued, c.sessionLock == some (.watch g),
      s.conn.tracked⟩

/-- The generation of the connection whose check takes a step. -/
def Action.check? : Action → Option Nat
  | .watch g | .watchWrite g _ | .watchExpire g => some g
  | _ => none

/-! ## What the operations of a client do to the checks -/

theorem docket?_of_session? {s : Session} (hs : c.session? g = some s) :
    c.docket? g =
      some ⟨s.watch, s.conn.watched, s.conn.requests.issued, c.sessionLock == some (.watch g),
        s.conn.tracked⟩ := by
  rw [docket?, hs, Option.map_some]

/-- Clients with the same connections and the same session lock have the same checks. -/
theorem docket?_congr (sessions : c'.sessions = c.sessions)
    (lock : c'.sessionLock = c.sessionLock) : c'.docket? = c.docket? := by
  funext h
  rw [docket?, docket?, session?, session?, sessions, lock]

/-- What is noted of a connection and its check, once the connection was changed. -/
theorem docket?_modifySession {f : Session → Session}
    (hf : ∀ s, s.conn.generation = g → (f s).conn.generation = g) (h : Nat) :
    (c.modifySession g f).docket? h =
      if h = g then (c.session? g).map fun s =>
        ⟨(f s).watch, (f s).conn.watched, (f s).conn.requests.issued,
          c.sessionLock == some (.watch g), (f s).conn.tracked⟩
      else c.docket? h := by
  rw [docket?, session?_modifySession hf]
  split_ifs with hg
  · rw [hg, Option.map_map]
    rfl
  · rfl

/-- A change that does not concern the check. -/
theorem docket?_modifySession_of_same {f : Session → Session}
    (hf : ∀ s, s.conn.generation = g → (f s).conn.generation = g)
    (same : ∀ s, c.session? g = some s → (f s).watch = s.watch ∧
      (f s).conn.watched = s.conn.watched ∧
        (f s).conn.requests.issued = s.conn.requests.issued ∧
          (f s).conn.tracked = s.conn.tracked) :
    (c.modifySession g f).docket? = c.docket? := by
  funext h
  rw [docket?_modifySession hf]
  split_ifs with hg
  · rw [hg, docket?]
    refine Option.map_congr fun s hs => ?_
    obtain ⟨hwatch, hwatched, hissued, htracked⟩ := same s hs
    rw [hwatch, hwatched, hissued, htracked]
  · rfl

/-- What is written on a connection does not concern the check. -/
theorem docket?_modifySession_of_conn {f : Session → Session}
    (hf : ∀ s, (f s).conn = s.conn ∧ (f s).watch = s.watch) :
    (c.modifySession g f).docket? = c.docket? :=
  docket?_modifySession_of_same (fun s hs => by rw [(hf s).1, hs]) fun s _ => by
    rw [(hf s).1, (hf s).2]
    exact ⟨rfl, rfl, rfl, rfl⟩

/-- What is noted of a connection and its check, after an operation on the connection. -/
theorem docket?_onLink {f : Link → Effects × Link}
    (hf : ∀ l, (f l).2.conn.generation = l.conn.generation) (h : Nat) :
    (c.onLink g f).docket? h =
      if h = g then (c.session? g).map fun s =>
        ⟨s.watch, (f ⟨s.conn, c.cell, c.listeners⟩).2.conn.watched,
          (f ⟨s.conn, c.cell, c.listeners⟩).2.conn.requests.issued,
          c.sessionLock == some (.watch g), (f ⟨s.conn, c.cell, c.listeners⟩).2.conn.tracked⟩
      else c.docket? h := by
  cases hs : c.session? g with
  | none =>
    rw [onLink_of_none hs]
    split_ifs with hg
    · rw [hg, docket?, hs]
      rfl
    · rfl
  | some s =>
    have hlink : (f ⟨s.conn, c.cell, c.listeners⟩).2.conn.generation = g :=
      (hf _).trans (generation_of_session? hs)
    unfold onLink
    rw [hs]
    refine (docket?_modifySession (fun _ _ => hlink) h).trans ?_
    split_ifs
    · rw [← hs]
      refine Option.map_congr fun s' hs' => ?_
      obtain rfl : s = s' := Option.some.inj (hs.symm.trans hs')
      rfl
    · exact congrFun (docket?_congr rfl rfl) h

/-- An operation that neither claims a connection nor registers a request or ties a task there. -/
theorem docket?_onLink_of_minor {f : Link → Effects × Link} (minor : Minor f) :
    (c.onLink g f).docket? = c.docket? := by
  funext h
  rw [docket?_onLink fun l => (minor l).1]
  split_ifs with hg
  · rw [hg, docket?]
    refine Option.map_congr fun s _ => ?_
    obtain ⟨-, hwatched, hissued, htracked⟩ := minor ⟨s.conn, c.cell, c.listeners⟩
    rw [hwatched, hissued, htracked]
  · rfl

@[simp] theorem docket?_close (c : Client) (g : Nat) : (c.close g).docket? = c.docket? :=
  docket?_onLink_of_minor Link.minor_close

@[simp] theorem docket?_remove (c : Client) (g : Nat) (id : Int32) :
    (c.onConn g (·.remove id)).docket? = c.docket? :=
  docket?_onLink_of_minor fun _ => ⟨rfl, rfl, rfl, rfl⟩

@[simp] theorem docket?_beginAuth (c : Client) (g : Nat) :
    (c.onConn g (·.beginAuth)).docket? = c.docket? :=
  docket?_onLink_of_minor fun _ => ⟨rfl, rfl, rfl, rfl⟩

@[simp] theorem docket?_cancelAuth (c : Client) (g : Nat) :
    (c.onConn g (·.cancelAuth)).docket? = c.docket? :=
  docket?_onLink_of_minor fun _ => ⟨rfl, rfl, rfl, rfl⟩

/-- One more task is tied to a connection. -/
theorem docket?_track (c : Client) (g h : Nat) :
    (c.onConn g (·.track)).docket? h =
      if h = g then (c.docket? g).map fun d => { d with tracked := d.tracked + 1 }
      else c.docket? h := by
  refine (docket?_onLink (fun _ => rfl) h).trans ?_
  simp only [docket?, Option.map_map]
  rfl

/-- One more request is registered. -/
theorem docket?_register (c : Client) (g : Nat) (id : Int32) (multi : Bool) (h : Nat) :
    (c.onConn g (·.register id multi)).docket? h =
      if h = g then (c.docket? g).map fun d => { d with issued := d.issued + 1 }
      else c.docket? h := by
  refine (docket?_onLink (fun _ => rfl) h).trans ?_
  simp only [docket?, Option.map_map]
  rfl

@[simp] theorem docket?_setState (c : Client) (g : Nat) (state : ConnectionState) :
    (c.setState g state).docket? = c.docket? :=
  docket?_congr rfl rfl

@[simp] theorem docket?_setStage (c : Client) (n : Nat) (stage : Stage) :
    (c.setStage n stage).docket? = c.docket? :=
  docket?_congr rfl rfl

/-- The check of a connection goes on. -/
theorem docket?_setWatch (c : Client) (g : Nat) (watch : Watch) (h : Nat) :
    (c.setWatch g watch).docket? h =
      if h = g then (c.docket? g).map fun d => { d with watch } else c.docket? h := by
  have hkeep : ∀ s : Session, s.conn.generation = g →
      ({ s with watch } : Session).conn.generation = g := fun _ hs => hs
  refine (docket?_modifySession hkeep h).trans ?_
  simp only [docket?, Option.map_map]
  rfl

/-- Whoever has the session lock, a check either has it or not. -/
theorem docket?_sessionLock (c : Client) (lock : Option Holder) (k : Nat) :
    docket? { c with sessionLock := lock } k =
      (c.docket? k).map fun d => { d with locked := lock == some (.watch k) } := by
  rw [docket?, docket?, Option.map_map]
  rfl

theorem docket?_sessionLock_of_same {lock : Option Holder} {k : Nat}
    (same : (lock == some (.watch k)) = (c.sessionLock == some (.watch k))) :
    docket? { c with sessionLock := lock } k = c.docket? k := by
  rw [docket?, docket?, ← same]
  rfl

/-- A call that gets the session lock does not take it from a check. -/
theorem docket?_lockSession_call (h : c.lockSession (.call n) = some c') :
    c'.docket? = c.docket? := by
  unfold lockSession at h
  split_ifs at h with hnone
  obtain rfl := Option.some.inj h
  funext k
  refine docket?_sessionLock_of_same ?_
  rw [Option.isNone_iff_eq_none.mp hnone]
  rfl

/-- Nor does one that gives it up. -/
@[simp] theorem docket?_unlockSession_call (c : Client) (n : Nat) :
    (c.unlockSession (.call n)).docket? = c.docket? := by
  unfold unlockSession
  split_ifs with hlock
  · funext k
    refine docket?_sessionLock_of_same ?_
    rw [hlock]
    rfl
  · rfl

/-- A check that gets the session lock takes it from no other. -/
theorem docket?_lockSession_watch (h : c.lockSession (.watch g) = some c') (k : Nat) :
    c'.docket? k =
      if k = g then (c.docket? g).map fun d => { d with locked := true } else c.docket? k := by
  unfold lockSession at h
  split_ifs at h with hnone
  obtain rfl := Option.some.inj h
  split_ifs with hk
  · rw [hk, docket?_sessionLock, beq_self_eq_true]
  · refine docket?_sessionLock_of_same ?_
    rw [Option.isNone_iff_eq_none.mp hnone]
    simp [Ne.symm hk]

/-- Nor does one that gives it up. -/
theorem docket?_unlockSession_watch (c : Client) (g k : Nat) :
    (c.unlockSession (.watch g)).docket? k =
      if k = g then (c.docket? g).map fun d => { d with locked := false } else c.docket? k := by
  unfold unlockSession
  by_cases hlock : c.sessionLock = some (.watch g)
  · rw [if_pos hlock]
    split_ifs with hk
    · rw [hk, docket?_sessionLock]
      rfl
    · refine docket?_sessionLock_of_same ?_
      rw [hlock]
      simp [Ne.symm hk]
  · rw [if_neg hlock]
    split_ifs with hk
    · have hunlocked : (c.sessionLock == some (.watch g)) = false := beq_eq_false_iff_ne.mpr hlock
      rw [hk, docket?, Option.map_map, hunlocked]
      rfl
    · rfl

@[simp] theorem docket?_unlock (c : Client) (n : Nat) : (c.unlock n).docket? = c.docket? := by
  have hconnect (d : Client) : (d.unlockConnect n).docket? = d.docket? := by
    unfold unlockConnect
    split_ifs
    · exact docket?_congr rfl rfl
    · rfl
  rw [unlock, hconnect, docket?_unlockSession_call]

@[simp] theorem docket?_finish (c : Client) (n : Nat) (answer : Answer) :
    (c.finish n answer).docket? = c.docket? := by
  rw [finish, docket?_setStage, docket?_unlock]

@[simp] theorem docket?_refuse (c : Client) (n : Nat) (errand : Errand) (error : AuthError) :
    (c.refuse n errand error).docket? = c.docket? :=
  docket?_finish ..

@[simp] theorem docket?_proceed (c : Client) (n : Nat) (errand : Errand) :
    (c.proceed n errand).docket? = c.docket? := by
  cases errand with
  | command text multi timeout =>
    change ((c.unlock n).setStage n .awaitCommandLock).docket? = c.docket?
    rw [docket?_setStage, docket?_unlock]
  | connect | authenticate _ | disconnect => exact docket?_finish ..

@[simp] theorem docket?_put (c : Client) (g : Nat) (packets : List Packet) (bytes : Bytes)
    (outcome : WriteOutcome) : (c.put g packets bytes outcome).1.docket? = c.docket? := by
  cases outcome with
  | written => exact docket?_modifySession_of_conn fun _ => ⟨rfl, rfl⟩
  | broken count | timedOut count =>
    exact (docket?_close ..).trans (docket?_modifySession_of_conn fun _ => ⟨rfl, rfl⟩)

/-- A call that is authenticated starts the check of its connection, unless that has been claimed for
one. -/
theorem docket?_startWatch (c : Client) (g : Nat) :
    (c.startWatch g).docket? = c.docket? ∨
      ∃ d watch, c.docket? g = some d ∧ d.watched = false ∧ watch.request? = none ∧
        watch.needsLock = false ∧ ∀ h, (c.startWatch g).docket? h =
          if h = g then some { d with watch, watched := true, tracked := d.tracked + 1 }
          else c.docket? h := by
  unfold startWatch
  split
  · rename_i s _ hs
    have hgeneration : s.conn.claimWatch.2.generation = g := generation_of_session? hs
    have hkeep : ∀ s' : Session, s'.conn.generation = g →
        ({ s' with conn := s.conn.claimWatch.2 } : Session).conn.generation = g :=
      fun _ _ => hgeneration
    have hfirst : s.conn.claimWatch.1 = !s.conn.watched := rfl
    dsimp only
    cases hwatched : s.conn.watched with
    | true =>
      -- The connection has been claimed, and claiming it once more changes nothing.
      rw [hfirst, hwatched, if_neg (by decide)]
      refine .inl (docket?_modifySession_of_same hkeep fun s' hs' => ?_)
      obtain rfl : s = s' := Option.some.inj (hs.symm.trans hs')
      exact ⟨rfl, hwatched.symm, rfl, rfl⟩
    | false =>
      rw [hfirst, hwatched, if_pos (by decide)]
      refine .inr ⟨_, if s.conn.claimWatch.2.closed then .over else .sleeping,
        docket?_of_session? hs, hwatched, ?_, ?_, fun h => ?_⟩
      · split_ifs <;> rfl
      · split_ifs <;> rfl
      · rw [docket?_setWatch, docket?_track, docket?_track, docket?_modifySession hkeep,
          docket?_modifySession hkeep, if_pos rfl, if_pos rfl, hs]
        split_ifs <;> rfl
  · exact .inl rfl

/-! ## What a step does to the checks -/

/-- What one step does to the connection checks of a client. -/
inductive Tended (c : Client) (action : Action) (c' : Client) : Prop where
  /-- It concerns none. -/
  | kept (same : c'.docket? = c.docket?)
  /-- It starts one on a connection that has had none. -/
  | begun {g : Nat} {d : Docket} {watch : Watch} (before : c.docket? g = some d)
    (first : d.watched = false) (idle : watch.request? = none) (free : watch.needsLock = false)
    (after : ∀ h, c'.docket? h =
      if h = g then some { d with watch, watched := true, tracked := d.tracked + 1 }
      else c.docket? h)
  /-- It puts a connection in place, which has none. -/
  | made {g : Nat} (after : ∃ locked, ∀ h, c'.docket? h =
      (c.docket? h).or (if h = g then some ⟨.off, false, 0, locked, 2⟩ else none))
  /-- A call registers a request. -/
  | asked {n g : Nat} {errand : Errand} (taker : action = .advance n)
    (call : c.calls[n]? = some ⟨errand, .registering g⟩) (after : ∀ h, c'.docket? h =
      if h = g then (c.docket? g).map fun d => { d with issued := d.issued + 1 }
      else c.docket? h)
  /-- A check goes on. -/
  | checked {g : Nat} {d d' : Docket} (own : action.check? = some g)
    (before : c.docket? g = some d)
    (after : ∀ h, c'.docket? h = if h = g then some d' else c.docket? h)
    (going : d.watch ≠ .off) (watched : d'.watched = d.watched) (tracked : d'.tracked = d.tracked)
    (issued : d.watch ≠ .registering → d'.issued = d.issued)
    (locked : d'.watch.needsLock = true →
      d'.locked = true ∨ d.watch.needsLock = true ∧ d'.locked = d.locked)

/-- What the next step of a call does to the checks. -/
theorem tended_of_advance (h : c.advance n = some c') : Tended c (.advance n) c' := by
  unfold advance at h
  obtain ⟨⟨errand, stage⟩, hcall, h⟩ := Option.bind_eq_some_iff.mp h
  cases stage with
  | awaitConnectLock =>
    dsimp only at h
    split_ifs at h
    obtain rfl := Option.some.inj h
    exact .kept (docket?_congr rfl rfl)
  | lookAtState =>
    dsimp only at h
    split at h
    · obtain rfl := Option.some.inj h
      exact .kept (docket?_proceed ..)
    all_goals
      obtain rfl := Option.some.inj h
      exact .kept (docket?_congr rfl rfl)
  | dialed g =>
    obtain ⟨d, hlock, h⟩ := Option.bind_eq_some_iff.mp h
    obtain rfl := Option.some.inj h
    exact .kept ((docket?_setStage ..).trans (docket?_lockSession_call hlock))
  | awaitAuthLock _ | awaitCommandLock =>
    obtain ⟨d, hlock, h⟩ := Option.bind_eq_some_iff.mp h
    obtain rfl := Option.some.inj h
    exact .kept ((docket?_setStage ..).trans (docket?_lockSession_call hlock))
  | replacing g =>
    obtain rfl := Option.some.inj h
    cases c.current with
    | none => exact .kept (docket?_setStage ..)
    | some previous =>
      have hclose : ({ c.close previous with current := none } : Client).docket? = c.docket? :=
        (docket?_congr rfl rfl).trans (docket?_close c previous)
      exact .kept ((docket?_setStage ..).trans hclose)
  | installing g =>
    obtain rfl := Option.some.inj h
    have hnew : (c.newSession g).conn.generation = g := rfl
    refine .made (g := g) ⟨c.sessionLock == some (.watch g), fun k => ?_⟩
    rw [docket?_setStage, docket?_unlockSession_call, docket?_setState, docket?,
      session?_append rfl, hnew, Option.map_or]
    refine congrArg (Option.or _) ?_
    split_ifs with hg hk hk
    · rw [← hg]
      rfl
    · exact absurd hg.symm hk
    · exact absurd hk.symm hg
    · rfl
  | lookForAuth _ | lookForCommand =>
    dsimp only at h
    split at h
    · obtain rfl := Option.some.inj h
      exact .kept (docket?_setStage ..)
    · obtain rfl := Option.some.inj h
      exact .kept (docket?_finish ..)
  | beginningAuth g password =>
    obtain ⟨s, -, h⟩ := Option.bind_eq_some_iff.mp h
    dsimp only at h
    split at h
    · obtain rfl := Option.some.inj h
      exact .kept (by simp)
    · obtain rfl := Option.some.inj h
      exact .kept (by simp)
  | awaitVerdict g attempt =>
    obtain ⟨s, -, h⟩ := Option.bind_eq_some_iff.mp h
    obtain ⟨verdict, -, h⟩ := Option.bind_eq_some_iff.mp h
    match verdict with
    | some true =>
      obtain rfl := Option.some.inj h
      obtain hsame | ⟨d, watch, before, first, idle, free, after⟩ :=
        docket?_startWatch (c.setState g .ready) g
      · exact .kept ((docket?_proceed ..).trans hsame)
      · refine .begun before first idle free fun k => ?_
        rw [docket?_proceed]
        exact after k
    | some false | none =>
      obtain rfl := Option.some.inj h
      exact .kept (docket?_refuse ..)
  | registering g =>
    obtain ⟨s, -, h⟩ := Option.bind_eq_some_iff.mp h
    match errand with
    | .command text multi timeout =>
      have hregister (k : Nat) := docket?_register { c with nextId := succId c.nextId } g c.nextId multi k
      dsimp only at h
      split at h
      · obtain rfl := Option.some.inj h
        refine .asked rfl hcall fun k => ?_
        rw [docket?_setStage]
        exact hregister k
      · obtain rfl := Option.some.inj h
        refine .asked rfl hcall fun k => ?_
        rw [docket?_finish, docket?_remove]
        exact hregister k
    | .connect | .authenticate _ | .disconnect => cases h
  | awaitResponse g id slot =>
    obtain ⟨s, -, h⟩ := Option.bind_eq_some_iff.mp h
    obtain ⟨outcome, -, h⟩ := Option.bind_eq_some_iff.mp h
    cases outcome with
    | answered body | failed e | dropped =>
      obtain rfl := Option.some.inj h
      exact .kept (docket?_finish ..)
  | awaitDisconnectLock =>
    dsimp only at h
    split_ifs at h
    split at h
    · obtain rfl := Option.some.inj h
      exact .kept (docket?_congr rfl rfl)
    · obtain rfl := Option.some.inj h
      exact .kept (docket?_finish ..)
  | shuttingDown g =>
    obtain rfl := Option.some.inj h
    exact .kept (by simp)
  -- A call at one of these stages waits for the network or is over.
  | dialing _ | writingAuth _ _ _ _ | writingCommand _ _ _ _ _ | finished _ | abandoned => cases h

/-- What else a call does concerns no check. -/
theorem docket?_of_dial {outcome : DialOutcome} (h : c.dial n outcome = some c') :
    c'.docket? = c.docket? := by
  unfold dial at h
  obtain ⟨⟨errand, stage⟩, -, h⟩ := Option.bind_eq_some_iff.mp h
  cases stage with
  | dialing g =>
    cases outcome with
    | stream =>
      obtain rfl := Option.some.inj h
      exact docket?_setStage ..
    | refused | timedOut =>
      obtain rfl := Option.some.inj h
      exact (docket?_finish ..).trans (docket?_setState ..)
  | _ => cases h

theorem docket?_of_write {outcome : WriteOutcome} (h : c.write n outcome = some c') :
    c'.docket? = c.docket? := by
  unfold write at h
  obtain ⟨⟨errand, stage⟩, -, h⟩ := Option.bind_eq_some_iff.mp h
  cases stage with
  | writingAuth g _ _ _ | writingCommand g _ _ _ _ =>
    dsimp only at h
    split at h
    · obtain rfl := Option.some.inj h
      simp
    · obtain rfl := Option.some.inj h
      simp
  | _ => cases h

theorem docket?_of_expire (h : c.expire n = some c') : c'.docket? = c.docket? := by
  unfold expire at h
  obtain ⟨⟨errand, stage⟩, -, h⟩ := Option.bind_eq_some_iff.mp h
  cases stage with
  | awaitVerdict g _ | awaitResponse g _ _ =>
    obtain ⟨s, -, h⟩ := Option.bind_eq_some_iff.mp h
    split_ifs at h
    obtain rfl := Option.some.inj h
    simp
  | _ => cases h

theorem docket?_of_abandon {count : Nat} (h : c.abandon n count = some c') :
    c'.docket? = c.docket? := by
  unfold abandon at h
  obtain ⟨⟨errand, stage⟩, -, h⟩ := Option.bind_eq_some_iff.mp h
  cases stage with
  | awaitConnectLock | dialing _ | dialed _ | awaitAuthLock _ | awaitVerdict _ _
  | awaitCommandLock | awaitResponse _ _ _ | awaitDisconnectLock | shuttingDown _ =>
    obtain rfl := Option.some.inj h
    simp
  | writingAuth g _ _ _ | writingCommand g _ _ _ _ =>
    obtain rfl := Option.some.inj h
    rw [docket?_setStage, docket?_unlock]
    exact docket?_modifySession_of_conn fun _ => ⟨rfl, rfl⟩
  | _ => cases h

theorem docket?_of_receive {bytes : Bytes} (h : c.receive g bytes = some c') :
    c'.docket? = c.docket? := by
  unfold receive at h
  obtain ⟨s, -, h⟩ := Option.bind_eq_some_iff.mp h
  split_ifs at h
  obtain rfl := Option.some.inj h
  exact docket?_onLink_of_minor (Link.minor_frameReceived bytes)

theorem docket?_of_hangUp (h : c.hangUp g = some c') : c'.docket? = c.docket? := by
  unfold hangUp at h
  obtain ⟨s, -, h⟩ := Option.bind_eq_some_iff.mp h
  split_ifs at h
  obtain rfl := Option.some.inj h
  exact (docket?_close ..).trans (docket?_modifySession_of_conn fun _ => ⟨rfl, rfl⟩)

/-- The check of a connection goes on, once it has taken the lock or given it up. -/
theorem tended_of_setWatch {s : Session} {d : Client} {watch : Watch} {issued : Nat}
    {locked : Bool} (hs : c.session? g = some s) (own : action.check? = some g)
    (going : s.watch ≠ .off)
    (before : ∀ k, d.docket? k =
      if k = g then some ⟨s.watch, s.conn.watched, issued, locked, s.conn.tracked⟩
      else c.docket? k)
    (registers : s.watch ≠ .registering → issued = s.conn.requests.issued)
    (lock : watch.needsLock = true →
      locked = true ∨ s.watch.needsLock = true ∧ locked = (c.sessionLock == some (.watch g))) :
    Tended c action (d.setWatch g watch) := by
  have after (k : Nat) : (d.setWatch g watch).docket? k =
      if k = g then some ⟨watch, s.conn.watched, issued, locked, s.conn.tracked⟩
      else c.docket? k := by
    rw [docket?_setWatch]
    split_ifs with hk
    · rw [before, if_pos rfl]
      rfl
    · rw [before, if_neg hk]
  exact .checked own (docket?_of_session? hs) after going rfl rfl registers lock

/-- A check that has not taken anything yet. -/
theorem docket?_check {s : Session} {d : Client} (hs : c.session? g = some s)
    (same : d.docket? = c.docket?) (k : Nat) :
    d.docket? k =
      if k = g then some ⟨s.watch, s.conn.watched, s.conn.requests.issued,
        c.sessionLock == some (.watch g), s.conn.tracked⟩
      else c.docket? k := by
  rw [same]
  split_ifs with hk
  · rw [hk, docket?_of_session? hs]
  · rfl

/-- A check that has given the lock up. -/
theorem docket?_check_unlocked {s : Session} {d : Client} (hs : c.session? g = some s)
    (same : d.docket? = c.docket?) (k : Nat) :
    (d.unlockSession (.watch g)).docket? k =
      if k = g then some ⟨s.watch, s.conn.watched, s.conn.requests.issued, false, s.conn.tracked⟩
      else c.docket? k := by
  rw [docket?_unlockSession_watch, same, docket?_of_session? hs]
  rfl

theorem tended_of_advanceWatch (h : c.advanceWatch g = some c') : Tended c (.watch g) c' := by
  unfold advanceWatch at h
  obtain ⟨s, hs, h⟩ := Option.bind_eq_some_iff.mp h
  have hsame (k : Nat) := docket?_check hs (d := c) rfl k
  have hleave (going : s.watch ≠ .off) :
      Tended c (.watch g) ((c.unlockSession (.watch g)).setWatch g .over) :=
    tended_of_setWatch hs rfl going (docket?_check_unlocked hs rfl) (fun _ => rfl) fun hlock =>
      by cases hlock
  have hgoing {watch : Watch} (hwatch : s.watch = watch) (hon : watch ≠ .off) : s.watch ≠ .off :=
    hwatch ▸ hon
  cases hwatch : s.watch with
  | sleeping =>
    have going := hgoing hwatch (by decide)
    simp only [hwatch] at h
    split_ifs at h
    · exact Option.some.inj h ▸ hleave going
    · exact Option.some.inj h ▸ tended_of_setWatch hs rfl going hsame (fun _ => rfl) fun hlock =>
        by cases hlock
  | awaitLock =>
    have going := hgoing hwatch (by decide)
    simp only [hwatch] at h
    split_ifs at h
    · exact Option.some.inj h ▸ hleave going
    · obtain ⟨d, hlock, h⟩ := Option.bind_eq_some_iff.mp h
      have hlocked (k : Nat) : d.docket? k =
          if k = g then some ⟨s.watch, s.conn.watched, s.conn.requests.issued, true,
            s.conn.tracked⟩
          else c.docket? k := by
        rw [docket?_lockSession_watch hlock, docket?_of_session? hs]
        rfl
      exact Option.some.inj h ▸ tended_of_setWatch hs rfl going hlocked (fun _ => rfl) fun _ =>
        .inl rfl
  | looking =>
    have going := hgoing hwatch (by decide)
    simp only [hwatch] at h
    split_ifs at h
    · exact Option.some.inj h ▸ tended_of_setWatch hs rfl going hsame (fun _ => rfl) fun _ =>
        .inr ⟨congrArg Watch.needsLock hwatch, rfl⟩
    · exact Option.some.inj h ▸ hleave going
  | registering =>
    have going := hgoing hwatch (by decide)
    have hregister (k : Nat) : (onConn { c with nextId := succId c.nextId } g
        (·.register c.nextId false)).docket? k =
          if k = g then some ⟨s.watch, s.conn.watched, s.conn.requests.issued + 1,
            c.sessionLock == some (.watch g), s.conn.tracked⟩
          else c.docket? k := by
      have hnext : docket? { c with nextId := succId c.nextId } = c.docket? := docket?_congr rfl rfl
      rw [docket?_register, hnext, docket?_of_session? hs]
      rfl
    simp only [hwatch] at h
    split at h
    · exact Option.some.inj h ▸ tended_of_setWatch hs rfl going hregister
        (fun hother => absurd hwatch hother) fun _ => .inr ⟨congrArg Watch.needsLock hwatch, rfl⟩
    · have hover (k : Nat) : ((onConn { c with nextId := succId c.nextId } g
          (·.register c.nextId false)).unlockSession (.watch g)).docket? k =
            if k = g then some ⟨s.watch, s.conn.watched, s.conn.requests.issued + 1, false,
              s.conn.tracked⟩
            else c.docket? k := by
        rw [docket?_unlockSession_watch, hregister, hregister, if_pos rfl]
        split_ifs <;> rfl
      exact Option.some.inj h ▸ tended_of_setWatch hs rfl going hover
        (fun hother => absurd hwatch hother) fun hlock => by cases hlock
  | writing id slot packet bytes =>
    have going := hgoing hwatch (by simp)
    simp only [hwatch] at h
    split_ifs at h
    exact Option.some.inj h ▸ hleave going
  | awaitAnswer id slot =>
    have going := hgoing hwatch (by simp)
    simp only [hwatch] at h
    split_ifs at h
    · exact Option.some.inj h ▸ hleave going
    · obtain ⟨outcome, -, h⟩ := Option.bind_eq_some_iff.mp h
      cases outcome with
      | answered body =>
        exact Option.some.inj h ▸ tended_of_setWatch hs rfl going hsame (fun _ => rfl) fun hlock =>
          by cases hlock
      | failed e | dropped => exact Option.some.inj h ▸ hleave going
  -- A check that is off or over takes no step.
  | _ => simp only [hwatch, reduceCtorEq] at h

theorem tended_of_writeWatch {outcome : WriteOutcome} (h : c.writeWatch g outcome = some c') :
    Tended c (.watchWrite g outcome) c' := by
  unfold writeWatch at h
  obtain ⟨s, hs, h⟩ := Option.bind_eq_some_iff.mp h
  split at h
  · rename_i id slot packet bytes hwatch
    have going : s.watch ≠ .off := by simp [hwatch]
    have hput := docket?_check_unlocked hs (docket?_put c g [packet] bytes outcome)
    dsimp only at h
    split at h
    · exact Option.some.inj h ▸ tended_of_setWatch hs rfl going hput (fun _ => rfl) fun hlock =>
        by cases hlock
    · exact Option.some.inj h ▸ tended_of_setWatch hs rfl going hput (fun _ => rfl) fun hlock =>
        by cases hlock
  · cases h

theorem tended_of_expireWatch (h : c.expireWatch g = some c') : Tended c (.watchExpire g) c' := by
  unfold expireWatch at h
  obtain ⟨s, hs, h⟩ := Option.bind_eq_some_iff.mp h
  split at h
  · rename_i id slot hwatch
    have going : s.watch ≠ .off := by simp [hwatch]
    have hclosed : ((c.onConn g (·.remove id)).close g).docket? = c.docket? := by simp
    split_ifs at h
    exact Option.some.inj h ▸ tended_of_setWatch hs rfl going (docket?_check hs hclosed)
      (fun _ => rfl) fun hlock => by cases hlock
  · cases h

/-- What one step does to the connection checks. -/
theorem tended_of_step (h : c.step action = some c') : Tended c action c' := by
  cases action with
  | call errand =>
    obtain rfl := Option.some.inj h
    exact .kept (docket?_congr rfl rfl)
  | setPassword password =>
    obtain rfl := Option.some.inj h
    exact .kept (docket?_congr rfl rfl)
  | advance n => exact tended_of_advance h
  | dial n outcome => exact .kept (docket?_of_dial h)
  | write n outcome => exact .kept (docket?_of_write h)
  | expire n => exact .kept (docket?_of_expire h)
  | abandon n count => exact .kept (docket?_of_abandon h)
  | frame g bytes => exact .kept (docket?_of_receive h)
  | hangUp g => exact .kept (docket?_of_hangUp h)
  | watch g => exact tended_of_advanceWatch h
  | watchWrite g outcome => exact tended_of_writeWatch h
  | watchExpire g => exact tended_of_expireWatch h

/-- What a step may do to one check: nothing; it starts, if the connection has had none; it sees a
call register a request; or it goes on, and registers none unless it is about to. -/
theorem Tended.docket_cases (tended : Tended c action c') {d : Docket} (hd : c.docket? g = some d) :
    c'.docket? g = some d ∨
      (d.watched = false ∧ ∃ watch, watch.request? = none ∧ watch.needsLock = false ∧
        c'.docket? g = some { d with watch, watched := true, tracked := d.tracked + 1 }) ∨
      (∃ n errand, action = .advance n ∧ c.calls[n]? = some ⟨errand, .registering g⟩ ∧
        c'.docket? g = some { d with issued := d.issued + 1 }) ∨
      (action.check? = some g ∧ ∃ d', c'.docket? g = some d' ∧
        (d.watch ≠ .registering → d'.issued = d.issued) ∧ d'.tracked = d.tracked) := by
  cases tended with
  | kept same => exact .inl (same ▸ hd)
  | begun before first idle free after =>
    have hafter := after g
    split_ifs at hafter with hk
    · subst hk
      obtain rfl := Option.some.inj (before.symm.trans hd)
      exact .inr (.inl ⟨first, _, idle, free, hafter⟩)
    · exact .inl (hafter.trans hd)
  | made after =>
    obtain ⟨locked, after⟩ := after
    have hafter := after g
    rw [hd, Option.some_or] at hafter
    exact .inl hafter
  | asked taker call after =>
    have hafter := after g
    split_ifs at hafter with hk
    · subst hk
      rw [hd, Option.map_some] at hafter
      exact .inr (.inr (.inl ⟨_, _, taker, call, hafter⟩))
    · exact .inl (hafter.trans hd)
  | checked own before after going watched tracked issued locked =>
    have hafter := after g
    split_ifs at hafter with hk
    · subst hk
      obtain rfl := Option.some.inj (before.symm.trans hd)
      exact .inr (.inr (.inr ⟨own, _, hafter, issued, tracked⟩))
    · exact .inl (hafter.trans hd)

/-! ## Checks in order -/

/-- The connection checks of a client are in order. -/
def Orderly (c : Client) : Prop :=
  ∀ {g : Nat} {d : Docket}, c.docket? g = some d → d.InOrder

theorem orderly_fresh (config : Config) (listeners : Registry) :
    Orderly (fresh config listeners) :=
  fun hd => by cases hd

/-- Every step keeps the checks in order. -/
theorem Orderly.step (orderly : Orderly c) (h : c.step action = some c') : Orderly c' := by
  intro k d' hd
  cases tended_of_step h with
  | kept same => exact orderly (same ▸ hd)
  | begun before first idle free after =>
    rw [after] at hd
    split_ifs at hd with hk
    · obtain rfl := Option.some.inj hd
      have hsingle := (orderly before).single
      rw [first] at hsingle
      exact ⟨fun _ => rfl, fun hlock => (by cases free.symm.trans hlock),
        congrArg (· + 1) hsingle⟩
    · exact orderly hd
  | made after =>
    obtain ⟨locked, after⟩ := after
    rw [after] at hd
    obtain hold | ⟨-, hnew⟩ := Option.or_eq_some_iff.mp hd
    · exact orderly hold
    · split_ifs at hnew
      obtain rfl := Option.some.inj hnew
      exact ⟨fun hon => absurd rfl hon, fun hlock => (by cases hlock), rfl⟩
  | asked taker call after =>
    rw [after] at hd
    split_ifs at hd with hk
    · obtain ⟨d, hbefore, rfl⟩ := Option.map_eq_some_iff.mp hd
      exact ⟨(orderly hbefore).claimed, (orderly hbefore).locked, (orderly hbefore).single⟩
    · exact orderly hd
  | checked own before after going watched tracked issued locked =>
    rw [after] at hd
    split_ifs at hd with hk
    · obtain rfl := Option.some.inj hd
      refine ⟨fun _ => watched.trans ((orderly before).claimed going), fun hneeds => ?_, by
        rw [tracked, watched, (orderly before).single]⟩
      obtain hlocked | ⟨hneeded, hkept⟩ := locked hneeds
      · exact hlocked
      · exact hkept.trans ((orderly before).locked hneeded)
    · exact orderly hd

end Client

end RemoteConsole
