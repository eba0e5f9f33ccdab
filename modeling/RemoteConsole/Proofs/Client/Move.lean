import RemoteConsole.Proofs.Client.Outline

/-!
# Moves of an outline

Everything that one step of a client can do to its outline, as a relation with one constructor for
each kind of move (`move_of_step`). What holds of every move holds of every step, so an invariant of
outlines is proved by the moves and not by the steps.
-/

namespace RemoteConsole

/-- Whether a call at a stage is neither making a connection nor taking one away. -/
def Stage.isPlain : Stage → Bool
  | lookAtState | dialing _ | dialed _ | replacing _ | installing _ | shuttingDown _ => false
  | awaitConnectLock | awaitAuthLock _ | lookForAuth _ | beginningAuth .. | writingAuth ..
  | awaitVerdict .. | awaitCommandLock | lookForCommand | registering _ | writingCommand ..
  | awaitResponse .. | awaitDisconnectLock | finished _ | abandoned => true

namespace Outline

/-- Closes the connection in place, if there is one, and takes it away. -/
def vacate (o : Outline) : Outline :=
  { o.current.elim o o.close with current := none }

/-- What one step can do to an outline. A move is late if a call takes over the verdict on a
connection that is closed already, while no other attempt to connect has begun. -/
inductive Move : (late : Bool) → Outline → Outline → Prop where
  /-- Nothing that shows. -/
  | kept {o : Outline} : Move false o o
  /-- A call is made. -/
  | made {o : Outline} {n : Nat} {s : Stage} (fresh : o.stage? n = none) (plain : s.isPlain) :
    Move false o (o.add n s)
  /-- A call goes on, and keeps the connect lock if it has it. -/
  | moved {o : Outline} {n : Nat} {s s' : Stage} (stage : o.stage? n = some s)
      (before : s.isPlain ∨ s = .lookAtState) (plain : s'.isPlain) : Move false o (o.move n s')
  /-- A call goes on without the connect lock. -/
  | left {o : Outline} {n : Nat} {s s' : Stage} (stage : o.stage? n = some s)
      (before : s.isPlain ∨ s = .lookAtState) (plain : s'.isPlain) : Move false o (o.leave n s')
  /-- A call gets the connect lock. -/
  | locked {o : Outline} {n : Nat} (stage : o.stage? n = some .awaitConnectLock)
      (free : o.connectLock = none) :
    Move false o ({ o with connectLock := some n }.move n .lookAtState)
  /-- A call that finds no connection begins an attempt to connect. -/
  | began {o : Outline} {n : Nat} (stage : o.stage? n = some .lookAtState)
      (apart : o.cell.state.isConnected = false) :
    Move false o
      ({ o with generation := o.generation + 1, cell := .start (o.generation + 1) }.move n
        (.dialing (o.generation + 1)))
  /-- A call gets a stream. -/
  | dialed {o : Outline} {n g : Nat} (stage : o.stage? n = some (.dialing g)) :
    Move false o (o.move n (.dialed g))
  /-- A call gets no stream. -/
  | missed {o : Outline} {n g : Nat} {s' : Stage} (stage : o.stage? n = some (.dialing g))
      (plain : s'.isPlain) : Move false o ((o.set g .disconnected).leave n s')
  /-- A call that makes a connection is dropped. -/
  | gaveUp {o : Outline} {n g : Nat} {s' : Stage}
      (stage : o.stage? n = some (.dialing g) ∨ o.stage? n = some (.dialed g))
      (plain : s'.isPlain) : Move false o (o.leave n s')
  /-- A call with a stream gets the session lock. -/
  | entered {o : Outline} {n g : Nat} (stage : o.stage? n = some (.dialed g)) :
    Move false o (o.move n (.replacing g))
  /-- A call with a stream closes the connection in place. -/
  | replaced {o : Outline} {n g : Nat} (stage : o.stage? n = some (.replacing g)) :
    Move false o (o.vacate.move n (.installing g))
  /-- A call puts its connection in place. -/
  | installed {o : Outline} {n g : Nat} {s' : Stage} (stage : o.stage? n = some (.installing g))
      (plain : s'.isPlain) :
    Move false o (((o.install g).set g .authenticating).move n s')
  /-- A call takes over the verdict on a connection. -/
  | judged {o : Outline} {n g attempt : Nat} {s' : Stage} {state : ConnectionState}
      (stage : o.stage? n = some (.awaitVerdict g attempt)) (there : (o.closed? g).isSome)
      (connected : state.isConnected) (plain : s'.isPlain) :
    Move (o.cell.generation == g && o.closed? g == some true) o ((o.set g state).leave n s')
  /-- A connection is closed. -/
  | closed {o : Outline} (g : Nat) : Move false o (o.close g)
  /-- A call breaks a connection, and goes on without the connect lock. -/
  | broke {o : Outline} {n : Nat} {s s' : Stage} (g : Nat) (stage : o.stage? n = some s)
      (before : s.isPlain) (plain : s'.isPlain) : Move false o ((o.close g).leave n s')
  /-- A call takes the connection in place away. -/
  | took {o : Outline} {n g : Nat} (stage : o.stage? n = some .awaitDisconnectLock)
      (place : o.current = some g) :
    Move false o ({ o with current := none }.move n (.shuttingDown g))
  /-- A call closes the connection that it has taken away. -/
  | shut {o : Outline} {n g : Nat} {s' : Stage} (stage : o.stage? n = some (.shuttingDown g))
      (plain : s'.isPlain) : Move false o ((o.close g).leave n s')

end Outline

namespace Client

open Outline (Move)

variable {c c' : Client} {n : Nat} {call : Call}

/-- Whether an action lets a call take over the verdict on a connection that is closed already,
while no other attempt to connect has begun. -/
def isLate (c : Client) : Action → Bool
  | .advance n =>
    match c.calls[n]?.map Call.stage with
    | some (.awaitVerdict g attempt) =>
      c.cell.generation == g &&
        (c.session? g).any fun s => s.conn.closed && (s.verdict? attempt).any Option.isSome
    | _ => false
  | _ => false

theorem stage?_of_call (hcall : c.calls[n]? = some call) :
    c.outline.stage? n = some call.stage := by
  rw [outline_stage?, hcall, Option.map_some]

/-- Putting a new connection in place puts it in place in the outline. -/
theorem outline_install (c : Client) (g : Nat) :
    ({ c with sessions := c.sessions ++ [c.newSession g], current := some g } : Client).outline =
      c.outline.install g := by
  refine Outline.ext rfl rfl (funext fun h => ?_) rfl rfl rfl
  show ((c.sessions ++ [c.newSession g]).find? (·.conn.generation == h)).map
      (fun s => s.conn.closed) =
    (c.outline.closed? h).or (if h = g then some false else none)
  rw [List.find?_append, outline_closed?, session?]
  have hnew : (c.newSession g).conn.generation = g := rfl
  cases c.sessions.find? (·.conn.generation == h) with
  | some s => rfl
  | none =>
    by_cases hg : h = g
    · simp [hnew, hg]
      rfl
    · simp [hnew, hg, Ne.symm hg]

/-- Closing the connection in place and taking it away does so in the outline. -/
theorem outline_vacate (c : Client) :
    (match c.current with
      | some previous => { c.close previous with current := none }
      | none => c : Client).outline = c.outline.vacate := by
  have hcurrent : c.outline.current = c.current := rfl
  rw [Outline.vacate, hcurrent]
  cases hc : c.current with
  | none => exact Outline.ext rfl rfl rfl hc rfl rfl
  | some previous =>
    rw [Option.elim_some, ← outline_close]
    rfl

/-- A call that is connected goes on, or is over. -/
theorem outline_proceed (c : Client) (n : Nat) (errand : Errand) :
    ∃ s, s.isPlain ∧ (c.proceed n errand).outline = c.outline.leave n s := by
  unfold proceed
  split
  · exact ⟨_, rfl, outline_unlock_setStage ..⟩
  · exact ⟨_, rfl, outline_finish ..⟩

/-- A call whose authentication failed is over. -/
theorem outline_refuse (c : Client) (n : Nat) (errand : Errand) (error : AuthError) :
    ∃ s, s.isPlain ∧ (c.refuse n errand error).outline = c.outline.leave n s :=
  ⟨_, rfl, outline_finish ..⟩

-- What each kind of step does to the outline, one kind after the other.

theorem move_of_makeCall (c : Client) (errand : Errand) :
    Move false c.outline (c.makeCall errand).outline := by
  obtain ⟨s, hplain, hadd⟩ : ∃ s : Stage, s.isPlain ∧
      (c.makeCall errand).outline = c.outline.add c.calls.length s := by
    have hadd (s : Stage) (password : String) :
        ({ c with password, calls := c.calls ++ [{ errand, stage := s }] } : Client).outline =
          c.outline.add c.calls.length s := by
      refine Outline.ext rfl rfl rfl rfl rfl (funext fun m => ?_)
      show (c.calls ++ [{ errand, stage := s }])[m]?.map Call.stage =
        if m = c.calls.length then some s else c.calls[m]?.map Call.stage
      split_ifs with hm
      · rw [hm, List.getElem?_concat_length, Option.map_some]
      · rw [List.getElem?_append, List.getElem?_singleton]
        split_ifs with hlt h0
        · rfl
        · omega
        · rw [List.getElem?_eq_none (by omega)]
    refine ⟨_, ?_, hadd _ _⟩
    cases errand with
    | connect | authenticate password | disconnect => rfl
    | command text multi timeout =>
      dsimp only
      split_ifs <;> rfl
  rw [hadd]
  refine .made ?_ hplain
  rw [outline_stage?, List.getElem?_eq_none (Nat.le_refl _), Option.map_none]

/-- Only a call that waits for a verdict can be late. -/
theorem isLate_advance (hcall : c.calls[n]? = some call) :
    c.isLate (.advance n) =
      match call.stage with
      | .awaitVerdict g attempt =>
        c.cell.generation == g &&
          (c.session? g).any fun s => s.conn.closed && (s.verdict? attempt).any Option.isSome
      | _ => false := by
  rw [isLate, hcall, Option.map_some]
  cases call.stage <;> rfl

/-- A call that takes over a verdict is late exactly if the connection is closed and the latest. -/
theorem move_of_verdict {g attempt : Nat} {s : Session} {state : ConnectionState} {s' : Stage}
    (hstage : c.outline.stage? n = some (.awaitVerdict g attempt)) (hs : c.session? g = some s)
    (connected : state.isConnected) (plain : s'.isPlain) :
    Move (c.cell.generation == g && s.conn.closed) c.outline
      ((c.outline.set g state).leave n s') := by
  have hclosed : c.outline.closed? g = some s.conn.closed := by
    rw [outline_closed?, hs, Option.map_some]
  have hthere : (c.outline.closed? g).isSome = true := by rw [hclosed, Option.isSome_some]
  have hjudged := Move.judged hstage hthere connected plain
  have hlate : (c.outline.closed? g == some true) = s.conn.closed := by
    rw [hclosed]
    cases s.conn.closed <;> rfl
  rwa [hlate] at hjudged

/-- A call that looks at the state goes on with the connection it finds, or begins to make one. -/
theorem move_of_lookAtState {errand : Errand}
    (hcall : c.calls[n]? = some ⟨errand, .lookAtState⟩) (h : c.advance n = some c') :
    Move false c.outline c'.outline := by
  have hstage : c.outline.stage? n = some .lookAtState := stage?_of_call hcall
  unfold advance at h
  obtain ⟨call, hcall', h⟩ := Option.bind_eq_some_iff.mp h
  obtain rfl := Option.some.inj (hcall.symm.trans hcall')
  dsimp only at h
  split at h
  · obtain rfl := Option.some.inj h
    obtain ⟨s, hplain, hproceed⟩ := outline_proceed c n errand
    rw [hproceed]
    exact .left hstage (.inr rfl) hplain
  · obtain rfl := Option.some.inj h
    rw [outline_setStage]
    exact .moved hstage (.inr rfl) rfl
  -- Disconnected or connecting is the same to the call.
  all_goals
    rename_i hstate
    obtain rfl := Option.some.inj h
    rw [outline_setStage]
    exact .began hstage (congrArg ConnectionState.isConnected hstate)

/-- A call that begins an authentication writes it, unless the password is too large. -/
theorem move_of_beginningAuth {errand : Errand} {g : Nat} {password : String}
    (hcall : c.calls[n]? = some ⟨errand, .beginningAuth g password⟩) (h : c.advance n = some c') :
    Move false c.outline c'.outline := by
  have hstage : c.outline.stage? n = some (.beginningAuth g password) := stage?_of_call hcall
  unfold advance at h
  obtain ⟨call, hcall', h⟩ := Option.bind_eq_some_iff.mp h
  obtain rfl := Option.some.inj (hcall.symm.trans hcall')
  obtain ⟨s, -, h⟩ := Option.bind_eq_some_iff.mp h
  dsimp only at h
  split at h
  · obtain rfl := Option.some.inj h
    rw [outline_setStage, outline_onConn Connection.keeps_beginAuth]
    exact .moved hstage (.inl rfl) rfl
  · rename_i e _
    obtain rfl := Option.some.inj h
    obtain ⟨s', hplain, hrefuse⟩ := outline_refuse
      ((c.onConn g (·.beginAuth)).onConn g (·.cancelAuth)) n errand (.fatal e)
    rw [hrefuse, outline_onConn Connection.keeps_cancelAuth,
      outline_onConn Connection.keeps_beginAuth]
    exact .left hstage (.inl rfl) hplain

/-- A call whose verdict has come takes it over, or is told that there will be none. -/
theorem move_of_awaitVerdict {errand : Errand} {g attempt : Nat}
    (hcall : c.calls[n]? = some ⟨errand, .awaitVerdict g attempt⟩) (h : c.advance n = some c') :
    Move (c.isLate (.advance n)) c.outline c'.outline := by
  have hstage : c.outline.stage? n = some (.awaitVerdict g attempt) := stage?_of_call hcall
  unfold advance at h
  obtain ⟨call, hcall', h⟩ := Option.bind_eq_some_iff.mp h
  obtain rfl := Option.some.inj (hcall.symm.trans hcall')
  obtain ⟨s, hs, h⟩ := Option.bind_eq_some_iff.mp h
  obtain ⟨verdict, hverdict, h⟩ := Option.bind_eq_some_iff.mp h
  have hlate : c.isLate (.advance n) =
      (c.cell.generation == g && (s.conn.closed && verdict.isSome)) := by
    rw [isLate_advance hcall]
    dsimp only
    rw [hs, Option.any_some, hverdict, Option.any_some]
  -- A verdict that is none is not taken over, whether or not the connection is closed.
  rw [hlate]
  match verdict with
  | some true =>
    obtain rfl := Option.some.inj h
    obtain ⟨s', hplain, hproceed⟩ := outline_proceed ((c.setState g .ready).startWatch g) n errand
    rw [hproceed, outline_startWatch, outline_setState, Option.isSome_some, Bool.and_true]
    exact move_of_verdict hstage hs rfl hplain
  | some false =>
    obtain rfl := Option.some.inj h
    obtain ⟨s', hplain, hrefuse⟩ :=
      outline_refuse (c.setState g .authenticating) n errand .invalidPassword
    rw [hrefuse, outline_setState, Option.isSome_some, Bool.and_true]
    exact move_of_verdict hstage hs rfl hplain
  | none =>
    obtain rfl := Option.some.inj h
    obtain ⟨s', hplain, hrefuse⟩ := outline_refuse c n errand (.fatal .connectionClosed)
    rw [hrefuse, Option.isSome_none, Bool.and_false, Bool.and_false]
    exact .left hstage (.inl rfl) hplain

/-- A call that registers a request writes it, unless the command is too large. -/
theorem move_of_registering {errand : Errand} {g : Nat}
    (hcall : c.calls[n]? = some ⟨errand, .registering g⟩) (h : c.advance n = some c') :
    Move false c.outline c'.outline := by
  have hstage : c.outline.stage? n = some (.registering g) := stage?_of_call hcall
  unfold advance at h
  obtain ⟨call, hcall', h⟩ := Option.bind_eq_some_iff.mp h
  obtain rfl := Option.some.inj (hcall.symm.trans hcall')
  obtain ⟨s, -, h⟩ := Option.bind_eq_some_iff.mp h
  match errand with
  | .command text multi timeout =>
    dsimp only at h
    split at h
    · obtain rfl := Option.some.inj h
      rw [outline_setStage, outline_onConn (Connection.keeps_register _ _)]
      exact .moved hstage (.inl rfl) rfl
    · obtain rfl := Option.some.inj h
      rw [outline_finish, outline_onConn (Connection.keeps_remove _),
        outline_onConn (Connection.keeps_register _ _)]
      exact .left hstage (.inl rfl) rfl
  | .connect | .authenticate _ | .disconnect => cases h

/-- What the next step of a call does to the outline. -/
theorem move_of_advance (h : c.advance n = some c') :
    Move (c.isLate (.advance n)) c.outline c'.outline := by
  have hadvance := h
  unfold advance at h
  obtain ⟨⟨errand, stage⟩, hcall, h⟩ := Option.bind_eq_some_iff.mp h
  have hstage : c.outline.stage? n = some stage := stage?_of_call hcall
  rw [isLate_advance hcall]
  cases stage with
  | lookAtState => exact move_of_lookAtState hcall hadvance
  | beginningAuth g password => exact move_of_beginningAuth hcall hadvance
  | awaitVerdict g attempt =>
    have hmove := move_of_awaitVerdict hcall hadvance
    rwa [isLate_advance hcall] at hmove
  | registering g => exact move_of_registering hcall hadvance
  -- A call at one of these stages waits for the network or is over, and does not go on by itself.
  | dialing _ | writingAuth _ _ _ _ | writingCommand _ _ _ _ _ | finished _ | abandoned => cases h
  | awaitConnectLock =>
    dsimp only at h ⊢
    split_ifs at h with hfree
    obtain rfl := Option.some.inj h
    rw [outline_setStage]
    exact .locked hstage (Option.isNone_iff_eq_none.mp hfree)
  | dialed g =>
    obtain ⟨d, hlock, h⟩ := Option.bind_eq_some_iff.mp h
    obtain rfl := Option.some.inj h
    rw [outline_setStage, outline_lockSession hlock]
    exact .entered hstage
  | replacing g =>
    obtain rfl := Option.some.inj h
    have hmove := Move.replaced hstage
    rw [← outline_vacate] at hmove
    rw [outline_setStage]
    exact hmove
  | installing g =>
    obtain rfl := Option.some.inj h
    rw [outline_setStage, outline_unlockSession, outline_setState, outline_install]
    exact .installed hstage rfl
  | awaitAuthLock _ | awaitCommandLock =>
    obtain ⟨d, hlock, h⟩ := Option.bind_eq_some_iff.mp h
    obtain rfl := Option.some.inj h
    rw [outline_setStage, outline_lockSession hlock]
    exact .moved hstage (.inl rfl) rfl
  | lookForAuth password =>
    dsimp only at h ⊢
    split at h
    · obtain rfl := Option.some.inj h
      rw [outline_setStage]
      exact .moved hstage (.inl rfl) rfl
    · obtain rfl := Option.some.inj h
      obtain ⟨s, hplain, hrefuse⟩ := outline_refuse c n errand (.fatal .notConnected)
      rw [hrefuse]
      exact .left hstage (.inl rfl) hplain
  | lookForCommand =>
    dsimp only at h ⊢
    split at h
    · obtain rfl := Option.some.inj h
      rw [outline_setStage]
      exact .moved hstage (.inl rfl) rfl
    · obtain rfl := Option.some.inj h
      rw [outline_finish]
      exact .left hstage (.inl rfl) rfl
  | awaitResponse g id slot =>
    obtain ⟨s, -, h⟩ := Option.bind_eq_some_iff.mp h
    obtain ⟨outcome, -, h⟩ := Option.bind_eq_some_iff.mp h
    cases outcome with
    | answered body | failed e | dropped =>
      obtain rfl := Option.some.inj h
      rw [outline_finish]
      exact .left hstage (.inl rfl) rfl
  | awaitDisconnectLock =>
    dsimp only at h ⊢
    split_ifs at h
    split at h
    · rename_i g hg
      obtain rfl := Option.some.inj h
      rw [outline_setStage]
      exact .took hstage hg
    · obtain rfl := Option.some.inj h
      rw [outline_finish]
      exact .left hstage (.inl rfl) rfl
  | shuttingDown g =>
    obtain rfl := Option.some.inj h
    rw [outline_finish, outline_close]
    exact .shut hstage rfl

theorem move_of_dial {outcome : DialOutcome} (h : c.dial n outcome = some c') :
    Move false c.outline c'.outline := by
  unfold dial at h
  obtain ⟨⟨errand, stage⟩, hcall, h⟩ := Option.bind_eq_some_iff.mp h
  have hstage : c.outline.stage? n = some stage := stage?_of_call hcall
  cases stage with
  | dialing g =>
    cases outcome with
    | stream =>
      obtain rfl := Option.some.inj h
      rw [outline_setStage]
      exact .dialed hstage
    | refused | timedOut =>
      obtain rfl := Option.some.inj h
      rw [outline_finish, outline_setState]
      exact .missed hstage rfl
  | _ => cases h

theorem move_of_write {outcome : WriteOutcome} (h : c.write n outcome = some c') :
    Move false c.outline c'.outline := by
  unfold write at h
  obtain ⟨⟨errand, stage⟩, hcall, h⟩ := Option.bind_eq_some_iff.mp h
  have hstage : c.outline.stage? n = some stage := stage?_of_call hcall
  cases stage with
  | writingAuth g attempt packet bytes =>
    dsimp only at h
    split at h
    · rename_i hput
      obtain rfl := Option.some.inj h
      rw [outline_setStage, outline_unlockSession, outline_put_of_none hput]
      exact .moved hstage (.inl rfl) rfl
    · rename_i e hput
      obtain rfl := Option.some.inj h
      obtain ⟨s', hplain, hrefuse⟩ := outline_refuse
        ((c.put g [packet] bytes outcome).1.onConn g (·.cancelAuth)) n errand (.fatal e)
      rw [hrefuse, outline_onConn Connection.keeps_cancelAuth, outline_put_of_some hput]
      exact .broke g hstage rfl hplain
  | writingCommand g id slot packets bytes =>
    dsimp only at h
    split at h
    · rename_i hput
      obtain rfl := Option.some.inj h
      rw [outline_setStage, outline_unlockSession, outline_put_of_none hput]
      exact .moved hstage (.inl rfl) rfl
    · rename_i e hput
      obtain rfl := Option.some.inj h
      rw [outline_finish, outline_onConn (Connection.keeps_remove _), outline_put_of_some hput]
      exact .broke g hstage rfl rfl
  | _ => cases h

theorem move_of_expire (h : c.expire n = some c') : Move false c.outline c'.outline := by
  unfold expire at h
  obtain ⟨⟨errand, stage⟩, hcall, h⟩ := Option.bind_eq_some_iff.mp h
  have hstage : c.outline.stage? n = some stage := stage?_of_call hcall
  cases stage with
  | awaitVerdict g attempt =>
    obtain ⟨s, -, h⟩ := Option.bind_eq_some_iff.mp h
    split_ifs at h
    obtain rfl := Option.some.inj h
    obtain ⟨s', hplain, hrefuse⟩ :=
      outline_refuse (c.onConn g (·.cancelAuth)) n errand (.fatal .timeout)
    rw [hrefuse, outline_onConn Connection.keeps_cancelAuth]
    exact .left hstage (.inl rfl) hplain
  | awaitResponse g id slot =>
    obtain ⟨s, -, h⟩ := Option.bind_eq_some_iff.mp h
    split_ifs at h
    obtain rfl := Option.some.inj h
    rw [outline_finish, outline_onConn (Connection.keeps_remove _)]
    exact .left hstage (.inl rfl) rfl
  | _ => cases h

theorem move_of_abandon {count : Nat} (h : c.abandon n count = some c') :
    Move false c.outline c'.outline := by
  unfold abandon at h
  obtain ⟨⟨errand, stage⟩, hcall, h⟩ := Option.bind_eq_some_iff.mp h
  have hstage : c.outline.stage? n = some stage := stage?_of_call hcall
  cases stage with
  | dialing g =>
    obtain rfl := Option.some.inj h
    rw [outline_unlock_setStage]
    exact .gaveUp (.inl hstage) rfl
  | dialed g =>
    obtain rfl := Option.some.inj h
    rw [outline_unlock_setStage]
    exact .gaveUp (.inr hstage) rfl
  | shuttingDown g =>
    obtain rfl := Option.some.inj h
    rw [outline_unlock_setStage, outline_close]
    exact .shut hstage rfl
  | writingAuth g _ _ bytes | writingCommand g _ _ _ bytes =>
    obtain rfl := Option.some.inj h
    have hpart : (c.modifySession g fun s =>
        { s with written := s.written ++ bytes.take count }).outline = c.outline :=
      outline_modifySession_of_conn fun _ => rfl
    rw [outline_unlock_setStage, hpart]
    exact .left hstage (.inl rfl) rfl
  -- A call that waits for nothing cannot be dropped.
  | lookAtState | replacing g | installing g | lookForAuth password | beginningAuth g password
  | lookForCommand | registering g | finished answer | abandoned => cases h
  | _ =>
    obtain rfl := Option.some.inj h
    rw [outline_unlock_setStage]
    exact .left hstage (.inl rfl) rfl

theorem move_of_receive {g : Nat} {bytes : Bytes} (h : c.receive g bytes = some c') :
    Move false c.outline c'.outline := by
  unfold receive at h
  obtain ⟨s, -, h⟩ := Option.bind_eq_some_iff.mp h
  split_ifs at h
  obtain rfl := Option.some.inj h
  rw [outline_onLink_of_keeps (Link.frameReceived_keeps · bytes)]
  exact .kept

theorem move_of_hangUp {g : Nat} (h : c.hangUp g = some c') :
    Move false c.outline c'.outline := by
  unfold hangUp at h
  obtain ⟨s, -, h⟩ := Option.bind_eq_some_iff.mp h
  split_ifs at h
  obtain rfl := Option.some.inj h
  have hstopped : (c.modifySession g fun s => { s with dispatching := false }).outline =
      c.outline := outline_modifySession_of_conn fun _ => rfl
  rw [outline_close, hstopped]
  exact .closed g

theorem move_of_advanceWatch {g : Nat} (h : c.advanceWatch g = some c') :
    Move false c.outline c'.outline := by
  -- A check locks, registers, writes and waits, and none of that shows.
  have hkept : c'.outline = c.outline := by
    unfold advanceWatch at h
    obtain ⟨s, -, h⟩ := Option.bind_eq_some_iff.mp h
    have hleave : ((c.unlockSession (.watch g)).setWatch g .over).outline = c.outline := by
      rw [outline_setWatch, outline_unlockSession]
    dsimp only at h
    split at h
    · split_ifs at h
      · rw [← Option.some.inj h, hleave]
      · rw [← Option.some.inj h, outline_setWatch]
    · split_ifs at h
      · rw [← Option.some.inj h, hleave]
      · obtain ⟨d, hlock, h⟩ := Option.bind_eq_some_iff.mp h
        rw [← Option.some.inj h, outline_setWatch, outline_lockSession hlock]
    · split_ifs at h
      · rw [← Option.some.inj h, outline_setWatch]
      · rw [← Option.some.inj h, hleave]
    · split at h
      · rw [← Option.some.inj h, outline_setWatch,
          outline_onConn (Connection.keeps_register _ _)]
        rfl
      · rw [← Option.some.inj h, outline_setWatch, outline_unlockSession,
          outline_onConn (Connection.keeps_register _ _)]
        rfl
    · split_ifs at h
      rw [← Option.some.inj h, hleave]
    · split_ifs at h
      · rw [← Option.some.inj h, hleave]
      · obtain ⟨outcome, -, h⟩ := Option.bind_eq_some_iff.mp h
        cases outcome with
        | answered body => rw [← Option.some.inj h, outline_setWatch]
        | failed e | dropped => rw [← Option.some.inj h, hleave]
    · cases h
    · cases h
  rw [hkept]
  exact .kept

theorem move_of_writeWatch {g : Nat} {outcome : WriteOutcome}
    (h : c.writeWatch g outcome = some c') : Move false c.outline c'.outline := by
  unfold writeWatch at h
  obtain ⟨s, -, h⟩ := Option.bind_eq_some_iff.mp h
  split at h
  · dsimp only at h
    split at h
    · rename_i hput
      obtain rfl := Option.some.inj h
      rw [outline_setWatch, outline_unlockSession, outline_put_of_none hput]
      exact .kept
    · rename_i hput
      obtain rfl := Option.some.inj h
      rw [outline_setWatch, outline_unlockSession, outline_put_of_some hput]
      exact .closed g
  · cases h

theorem move_of_expireWatch {g : Nat} (h : c.expireWatch g = some c') :
    Move false c.outline c'.outline := by
  unfold expireWatch at h
  obtain ⟨s, -, h⟩ := Option.bind_eq_some_iff.mp h
  split at h
  · split_ifs at h
    obtain rfl := Option.some.inj h
    rw [outline_setWatch, outline_close, outline_onConn (Connection.keeps_remove _)]
    exact .closed g
  · cases h

/-- What one step does to the outline of a client. -/
theorem move_of_step {action : Action} (h : c.step action = some c') :
    Move (c.isLate action) c.outline c'.outline := by
  cases action with
  | call errand =>
    obtain rfl := Option.some.inj h
    exact move_of_makeCall c errand
  | setPassword password =>
    obtain rfl := Option.some.inj h
    exact .kept
  | advance n => exact move_of_advance h
  | dial n outcome => exact move_of_dial h
  | write n outcome => exact move_of_write h
  | expire n => exact move_of_expire h
  | abandon n count => exact move_of_abandon h
  | frame g bytes => exact move_of_receive h
  | hangUp g => exact move_of_hangUp h
  | watch g => exact move_of_advanceWatch h
  | watchWrite g outcome => exact move_of_writeWatch h
  | watchExpire g => exact move_of_expireWatch h

end Client

end RemoteConsole
