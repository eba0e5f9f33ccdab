import RemoteConsole.Proofs.Client.Move

/-!
# Sound outlines

What holds of the outline of every client (`Sound`), whatever its calls, the server and the network
do. At most the latest connection is open, the connect lock keeps the calls that make connections
apart, and an open connection is in place unless a call is about to close it. Every move keeps an
outline sound (`Move.sound`), kind by kind.
-/

namespace RemoteConsole

/-- The generation of the connection that a call is about to make. -/
def Stage.attempt? : Stage → Option Nat
  | dialing g | dialed g | replacing g | installing g => some g
  | _ => none

/-- A call at a plain stage makes no connection. -/
theorem Stage.attempt?_of_isPlain {s : Stage} (plain : s.isPlain) : s.attempt? = none := by
  cases s <;> first | rfl | cases plain

/-- A call at a plain stage needs no connect lock. -/
theorem Stage.not_needsLock_of_isPlain {s : Stage} (plain : s.isPlain) :
    ¬(s.attempt?.isSome ∨ s = .lookAtState) := by
  rw [attempt?_of_isPlain plain]
  rintro (h | rfl)
  · cases h
  · cases plain

/-- A call at a plain stage, or about to look at the state, has taken no connection away. -/
theorem Stage.ne_shuttingDown {s : Stage} (before : s.isPlain ∨ s = .lookAtState) (g : Nat) :
    s ≠ .shuttingDown g := by
  rintro rfl
  obtain h | h := before <;> cases h

namespace StateCell

variable {cell : StateCell} {g : Nat} {state : ConnectionState}

@[simp] theorem set_generation : (cell.set g state).generation = cell.generation := by
  unfold set
  split_ifs <;> rfl

theorem set_of_eq (h : cell.generation = g) : (cell.set g state).state = state := by
  rw [set, if_pos h]

theorem set_of_ne (h : cell.generation ≠ g) : cell.set g state = cell := by
  rw [set, if_neg h]

/-- A client that is not connected is not connected by a generation that has no connection. -/
theorem isConnected_set (h : state.isConnected = false) :
    (cell.set g state).state.isConnected = true → cell.state.isConnected = true := by
  unfold set
  split_ifs
  · intro hstate
    rw [h] at hstate
    cases hstate
  · exact id

end StateCell

namespace Outline

variable {o o' : Outline} {n g h : Nat} {s s' : Stage}

/-- What holds of the outline of every client. -/
structure Sound (o : Outline) : Prop where
  /-- The state belongs to the latest attempt. -/
  latest : o.cell.generation = o.generation
  /-- No connection is of an attempt that has not begun. -/
  bounded : ∀ {g}, (o.closed? g).isSome → g ≤ o.generation
  /-- A call that is about to look at the state, or makes a connection, has the connect lock. -/
  locked : ∀ {n s}, o.stage? n = some s → s.attempt?.isSome ∨ s = .lookAtState →
    o.connectLock = some n
  /-- A call that makes a connection makes the latest, and until it is made there is none. -/
  attempting : ∀ {n s g}, o.stage? n = some s → s.attempt? = some g →
    g = o.generation ∧ o.cell.state.isConnected = false ∧ o.closed? g = none
  /-- Only the latest connection can be open, and the client says so. -/
  newest : ∀ {g}, o.closed? g = some false → g = o.generation ∧ o.cell.state.isConnected = true
  /-- A client that says it is connected has made the latest connection. -/
  present : o.cell.state.isConnected = true → (o.closed? o.generation).isSome
  /-- An open connection is in place, or a call that has taken it away is about to close it. -/
  owned : ∀ {g}, o.closed? g = some false →
    o.current = some g ∨ ∃ n, o.stage? n = some (.shuttingDown g)

/-- A connection is open after one is closed if it is another one and was open before. -/
theorem closed?_close_eq_false :
    (o.close g).closed? h = some false ↔ h ≠ g ∧ o.closed? h = some false := by
  unfold close
  dsimp only
  split_ifs with hg
  · simp [hg]
  · simp [hg]

/-- Closing a connection makes none and takes none away. -/
theorem isSome_closed?_close : ((o.close g).closed? h).isSome = (o.closed? h).isSome := by
  unfold close
  dsimp only
  split_ifs
  · exact Option.isSome_map
  · rfl

/-- Closing a connection connects nobody. -/
theorem isConnected_of_close (hc : (o.close g).cell.state.isConnected = true) :
    o.cell.state.isConnected = true := by
  unfold close at hc
  dsimp only at hc
  split_ifs at hc
  · exact StateCell.isConnected_set rfl hc
  · exact hc

/-- Closing a connection leaves a client that is not connected not connected. -/
theorem apart_close (apart : o.cell.state.isConnected = false) (g : Nat) :
    (o.close g).cell.state.isConnected = false := by
  rw [← Bool.not_eq_true]
  intro hc
  rw [isConnected_of_close hc] at apart
  cases apart

/-- So does taking the connection in place away. -/
theorem apart_vacate (apart : o.cell.state.isConnected = false) :
    o.vacate.cell.state.isConnected = false := by
  unfold vacate
  cases o.current with
  | none => exact apart
  | some previous => exact apart_close apart previous

/-- Closing a connection that is not open does nothing to the state. -/
theorem cell_close (hg : o.closed? g ≠ some false) : (o.close g).cell = o.cell :=
  if_neg hg

namespace Sound

/-- While the client says it is not connected, nothing is open. -/
theorem closed_of_apart (sound : Sound o) (apart : o.cell.state.isConnected = false) (g : Nat) :
    o.closed? g ≠ some false := fun hg => by
  have hconnected := (sound.newest hg).2
  rw [apart] at hconnected
  cases hconnected

/-- Closing a connection keeps an outline sound. -/
theorem close (sound : Sound o) (g : Nat) : Sound (o.close g) where
  latest := by
    have hgeneration : (o.close g).cell.generation = o.cell.generation := by
      unfold Outline.close
      dsimp only
      split_ifs
      · exact StateCell.set_generation
      · rfl
    exact hgeneration.trans sound.latest
  bounded := fun hg => sound.bounded (isSome_closed?_close ▸ hg)
  locked := sound.locked
  attempting := fun hs ha => by
    obtain ⟨hlatest, hapart, hnone⟩ := sound.attempting hs ha
    refine ⟨hlatest, apart_close hapart g, ?_⟩
    rw [← Option.not_isSome_iff_eq_none, isSome_closed?_close, hnone]
    exact Bool.false_ne_true
  newest := fun hg => by
    -- The connection that is open is not the one that was closed, and there was only one that could
    -- be open, so closing did nothing to the state.
    obtain ⟨hne, hopen⟩ := closed?_close_eq_false.mp hg
    obtain ⟨hlatest, hconnected⟩ := sound.newest hopen
    refine ⟨hlatest, ?_⟩
    rw [cell_close fun hg' => hne (hlatest.trans (sound.newest hg').1.symm)]
    exact hconnected
  present := fun hc => by
    rw [isSome_closed?_close]
    exact sound.present (isConnected_of_close hc)
  owned := fun hg => sound.owned (closed?_close_eq_false.mp hg).2

/-- Calls that move on keep an outline sound, as long as those who need the connect lock have it,
nobody begins to make a connection, and whoever has taken away a connection that is open is still
about to close it. -/
theorem restage (sound : Sound o) {stage? : Nat → Option Stage} {connectLock : Option Nat}
    (locked : ∀ {n s}, stage? n = some s → s.attempt?.isSome ∨ s = .lookAtState →
      connectLock = some n)
    (attempting : ∀ {n s g}, stage? n = some s → s.attempt? = some g →
      ∃ m s', o.stage? m = some s' ∧ s'.attempt? = some g)
    (shutting : ∀ {n g}, o.closed? g = some false → o.stage? n = some (.shuttingDown g) →
      ∃ m, stage? m = some (.shuttingDown g)) :
    Sound { o with stage?, connectLock } where
  latest := sound.latest
  bounded := sound.bounded
  locked := locked
  attempting := fun hs ha => by
    obtain ⟨m, s', hs', ha'⟩ := attempting hs ha
    exact sound.attempting hs' ha'
  newest := sound.newest
  present := sound.present
  owned := fun hg => (sound.owned hg).imp_right fun ⟨_, hn⟩ => shutting hg hn

end Sound

/-- Where a call is after one has moved: at the new stage if it is that one, and where it was
otherwise. -/
theorem stage?_move {m : Nat} {s'' : Stage} (hm : (o.move n s').stage? m = some s'') :
    m = n ∧ s'' = s' ∨ m ≠ n ∧ o.stage? m = some s'' := by
  unfold move at hm
  dsimp only at hm
  split_ifs at hm with hmn
  · obtain ⟨s, -, rfl⟩ := Option.map_eq_some_iff.mp hm
    exact .inl ⟨hmn, rfl⟩
  · exact .inr ⟨hmn, hm⟩

theorem stage?_move_self (stage : o.stage? n = some s) : (o.move n s').stage? n = some s' := by
  unfold move
  dsimp only
  rw [if_pos rfl, stage, Option.map_some]

theorem stage?_move_of_ne {m : Nat} (hm : m ≠ n) : (o.move n s').stage? m = o.stage? m := by
  unfold move
  dsimp only
  rw [if_neg hm]

theorem stage?_vacate : o.vacate.stage? = o.stage? := by
  unfold vacate
  cases o.current <;> rfl

namespace Sound

/-- A call that goes on to a plain stage keeps an outline sound, whether or not it gives up the
connect lock, unless it was to close a connection that is still open. -/
theorem goOn (sound : Sound o) (stage : o.stage? n = some s) (plain : s'.isPlain)
    (shutting : ∀ {g}, s = .shuttingDown g → o.closed? g ≠ some false) {connectLock : Option Nat}
    (others : ∀ {m}, m ≠ n → o.connectLock = some m → connectLock = some m) :
    Sound { o.move n s' with connectLock } := by
  refine sound.restage (fun hm hs => ?_) (fun hm ha => ?_) (fun {m g} hg hm => ?_)
  · obtain ⟨-, rfl⟩ | ⟨hne, hm⟩ := stage?_move hm
    · exact absurd hs (Stage.not_needsLock_of_isPlain plain)
    · exact others hne (sound.locked hm hs)
  · obtain ⟨-, rfl⟩ | ⟨-, hm⟩ := stage?_move hm
    · rw [Stage.attempt?_of_isPlain plain] at ha
      cases ha
    · exact ⟨_, _, hm, ha⟩
  · -- Another call is still about to close what is open, as the one that moves was not.
    have hne : m ≠ n := by
      rintro rfl
      exact shutting (Option.some.inj (stage.symm.trans hm)) hg
    exact ⟨m, (stage?_move_of_ne hne).trans hm⟩

/-- A call that goes on to a plain stage and keeps its locks. -/
theorem move (sound : Sound o) (stage : o.stage? n = some s) (plain : s'.isPlain)
    (shutting : ∀ {g}, s = .shuttingDown g → o.closed? g ≠ some false) : Sound (o.move n s') :=
  sound.goOn stage plain shutting fun _ hm => hm

/-- A call that goes on to a plain stage and gives up its locks. -/
theorem leave (sound : Sound o) (stage : o.stage? n = some s) (plain : s'.isPlain)
    (shutting : ∀ {g}, s = .shuttingDown g → o.closed? g ≠ some false) : Sound (o.leave n s') := by
  refine sound.goOn stage plain shutting fun hne hm => ?_
  rw [if_neg fun hn => hne (Option.some.inj (hm.symm.trans hn)), hm]

/-- A call that makes a connection goes on to make it. -/
theorem moveOn (sound : Sound o) (stage : o.stage? n = some s) (here : s.attempt? = some g)
    (there : s'.attempt? = some g) : Sound (o.move n s') := by
  refine sound.restage (fun hm hs => ?_) (fun hm ha => ?_) (fun {m h} hopen hm => ?_)
  · obtain ⟨rfl, -⟩ | ⟨-, hm⟩ := stage?_move hm
    · exact sound.locked stage (.inl (by rw [here, Option.isSome_some]))
    · exact sound.locked hm hs
  · obtain ⟨-, rfl⟩ | ⟨-, hm⟩ := stage?_move hm
    · exact ⟨n, s, stage, here.trans (there.symm.trans ha)⟩
    · exact ⟨_, _, hm, ha⟩
  · have hne : m ≠ n := by
      rintro rfl
      obtain rfl := Option.some.inj (stage.symm.trans hm)
      cases here
    exact ⟨m, (stage?_move_of_ne hne).trans hm⟩

/-- The verdict on a connection that was made connects the client, unless it is of an older
generation. -/
theorem judge (sound : Sound o) {state : ConnectionState} (there : (o.closed? g).isSome)
    (connected : state.isConnected) : Sound (o.set g state) := by
  by_cases hg : o.cell.generation = g
  · have hstate : (o.cell.set g state).state = state := StateCell.set_of_eq hg
    exact {
      latest := StateCell.set_generation.trans sound.latest
      bounded := sound.bounded
      locked := sound.locked
      attempting := fun hs ha => by
        -- Nobody is still making a connection whose verdict is there.
        obtain ⟨rfl, -, hnone⟩ := sound.attempting hs ha
        rw [← sound.latest, hg] at hnone
        rw [hnone] at there
        cases there
      newest := fun hopen => by
        refine ⟨(sound.newest hopen).1, ?_⟩
        show (o.cell.set g state).state.isConnected = true
        rw [hstate]
        exact connected
      present := fun _ => by
        rw [← hg, sound.latest] at there
        exact there
      owned := sound.owned }
  · rw [Outline.set, StateCell.set_of_ne hg]
    exact sound

/-- An attempt that gets no stream disconnects a client that is not connected. -/
theorem miss (sound : Sound o) (apart : o.cell.state.isConnected = false) (g : Nat) :
    Sound (o.set g .disconnected) where
  latest := StateCell.set_generation.trans sound.latest
  bounded := sound.bounded
  locked := sound.locked
  attempting := fun hs ha => by
    obtain ⟨hlatest, -, hnone⟩ := sound.attempting hs ha
    refine ⟨hlatest, ?_, hnone⟩
    rw [← Bool.not_eq_true]
    intro hc
    rw [StateCell.isConnected_set rfl hc] at apart
    cases apart
  newest := fun hopen => absurd hopen (sound.closed_of_apart apart _)
  present := fun hc => by
    rw [StateCell.isConnected_set rfl hc] at apart
    cases apart
  owned := sound.owned

/-- While the client says it is not connected, there is no open connection that could get lost. -/
theorem clear (sound : Sound o) (apart : o.cell.state.isConnected = false) :
    Sound { o with current := none } :=
  { sound with owned := fun hopen => absurd hopen (sound.closed_of_apart apart _) }

/-- Taking away the connection in place of a client that is not connected. -/
theorem vacate (sound : Sound o) (apart : o.cell.state.isConnected = false) : Sound o.vacate := by
  unfold Outline.vacate
  cases o.current with
  | none => exact sound.clear apart
  | some previous => exact (sound.close previous).clear (apart_close apart previous)

/-- Beginning an attempt to connect. -/
theorem begin (sound : Sound o) (stage : o.stage? n = some .lookAtState)
    (apart : o.cell.state.isConnected = false) :
    Sound ({ o with generation := o.generation + 1, cell := .start (o.generation + 1) }.move n
      (.dialing (o.generation + 1))) where
  latest := rfl
  bounded := fun hg => Nat.le_succ_of_le (sound.bounded hg)
  locked := fun hm hs => by
    obtain ⟨rfl, -⟩ | ⟨-, hm⟩ := stage?_move hm
    · exact sound.locked stage (.inr rfl)
    · exact sound.locked hm hs
  attempting := fun {m s g} hm ha => by
    obtain ⟨-, rfl⟩ | ⟨hne, hm⟩ := stage?_move hm
    · obtain rfl := Option.some.inj ha
      refine ⟨rfl, rfl, ?_⟩
      show o.closed? (o.generation + 1) = none
      rw [← Option.not_isSome_iff_eq_none]
      intro hsome
      exact absurd (sound.bounded hsome) (Nat.not_succ_le_self _)
    · -- Nobody else has the connect lock.
      have hlock := sound.locked hm (.inl (by rw [ha, Option.isSome_some]))
      rw [sound.locked stage (.inr rfl)] at hlock
      exact absurd (Option.some.inj hlock).symm hne
  newest := fun hopen => absurd hopen (sound.closed_of_apart apart _)
  present := fun hc => by cases hc
  owned := fun hopen => absurd hopen (sound.closed_of_apart apart _)

/-- Only one call at a time makes a connection. -/
theorem attempting_unique (sound : Sound o) {m : Nat} {g' : Nat} (stage : o.stage? n = some s)
    (ha : s.attempt? = some g) (stage' : o.stage? m = some s') (ha' : s'.attempt? = some g') :
    m = n := by
  have hn := sound.locked stage (.inl (by rw [ha, Option.isSome_some]))
  have hm := sound.locked stage' (.inl (by rw [ha', Option.isSome_some]))
  exact Option.some.inj (hm.symm.trans hn)

/-- Putting a new connection in place. -/
theorem install (sound : Sound o) (stage : o.stage? n = some (.installing g)) (plain : s'.isPlain) :
    Sound (((o.install g).set g .authenticating).move n s') := by
  obtain ⟨hlatest, hapart, -⟩ := sound.attempting stage rfl
  have hstate : (o.cell.set g .authenticating).state = .authenticating :=
    StateCell.set_of_eq (sound.latest.trans hlatest.symm)
  have hmoved : Sound (o.move n s') := sound.move stage plain fun h => by cases h
  -- Nothing was open, so the new connection is the only one that is.
  have hclosed {h : Nat} (hopen : (o.install g).closed? h = some false) : h = g := by
    obtain hopen | ⟨-, hopen⟩ := Option.or_eq_some_iff.mp hopen
    · exact absurd hopen (sound.closed_of_apart hapart h)
    · split_ifs at hopen with hg
      exact hg
  exact {
    latest := StateCell.set_generation.trans sound.latest
    bounded := fun {h} hsome => by
      show h ≤ o.generation
      by_cases hg : h = g
      · omega
      · have hold : (o.install g).closed? h = o.closed? h := by
          unfold Outline.install
          dsimp only
          rw [if_neg hg, Option.or_none]
        exact sound.bounded (hold ▸ hsome)
    locked := hmoved.locked
    attempting := fun hm ha => by
      -- Nobody but the call that is done making a connection could be making one.
      obtain ⟨-, rfl⟩ | ⟨hne, hm⟩ := stage?_move hm
      · rw [Stage.attempt?_of_isPlain plain] at ha
        cases ha
      · exact absurd (sound.attempting_unique stage rfl hm ha) hne
    newest := fun hopen => by
      refine ⟨(hclosed hopen).trans hlatest, ?_⟩
      show (o.cell.set g .authenticating).state.isConnected = true
      rw [hstate]
      rfl
    present := fun _ => by
      show ((o.closed? o.generation).or (if o.generation = g then some false else none)).isSome
      rw [if_pos hlatest.symm, Option.isSome_or, Option.isSome_some, Bool.or_true]
    owned := fun hopen => .inl (congrArg some (hclosed hopen).symm) }

/-- A call that takes the connection in place away is about to close it. -/
theorem take (sound : Sound o) (stage : o.stage? n = some .awaitDisconnectLock)
    (place : o.current = some g) :
    Sound ({ o with current := none }.move n (.shuttingDown g)) where
  latest := sound.latest
  bounded := sound.bounded
  locked := fun hm hs => by
    obtain ⟨-, rfl⟩ | ⟨-, hm⟩ := stage?_move hm
    · obtain hs | hs := hs <;> cases hs
    · exact sound.locked hm hs
  attempting := fun hm ha => by
    obtain ⟨-, rfl⟩ | ⟨-, hm⟩ := stage?_move hm
    · cases ha
    · exact sound.attempting hm ha
  newest := sound.newest
  present := sound.present
  owned := fun {h} hopen => by
    -- What was in place is now the call's to close, and other calls keep what is theirs.
    obtain hplace | ⟨m, hm⟩ := sound.owned hopen
    · obtain rfl := Option.some.inj (place.symm.trans hplace)
      exact .inr ⟨n, stage?_move_self stage⟩
    · have hne : m ≠ n := by
        rintro rfl
        cases stage.symm.trans hm
      exact .inr ⟨m, (stage?_move_of_ne hne).trans hm⟩

/-- Making a call. -/
theorem add (sound : Sound o) (fresh : o.stage? n = none) (plain : s.isPlain) :
    Sound (o.add n s) := by
  have hadd {m : Nat} {s' : Stage} (hm : (o.add n s).stage? m = some s') :
      s' = s ∨ o.stage? m = some s' := by
    unfold Outline.add at hm
    dsimp only at hm
    split_ifs at hm
    · exact .inl (Option.some.inj hm).symm
    · exact .inr hm
  refine sound.restage (fun hm hs => ?_) (fun hm ha => ?_) (fun {m g} _ hm => ?_)
  · obtain rfl | hm := hadd hm
    · exact absurd hs (Stage.not_needsLock_of_isPlain plain)
    · exact sound.locked hm hs
  · obtain rfl | hm := hadd hm
    · rw [Stage.attempt?_of_isPlain plain] at ha
      cases ha
    · exact ⟨_, _, hm, ha⟩
  · have hne : m ≠ n := by
      rintro rfl
      cases fresh.symm.trans hm
    exact ⟨m, (if_neg hne).trans hm⟩

/-- A call that gets the connect lock. -/
theorem lock (sound : Sound o) (stage : o.stage? n = some .awaitConnectLock)
    (free : o.connectLock = none) :
    Sound ({ o with connectLock := some n }.move n .lookAtState) := by
  refine sound.restage (fun hm hs => ?_) (fun hm ha => ?_) (fun {m g} _ hm => ?_)
  · obtain ⟨rfl, -⟩ | ⟨-, hm⟩ := stage?_move hm
    · rfl
    · cases free.symm.trans (sound.locked hm hs)
  · obtain ⟨-, rfl⟩ | ⟨-, hm⟩ := stage?_move hm
    · cases ha
    · exact ⟨_, _, hm, ha⟩
  · have hne : m ≠ n := by
      rintro rfl
      cases stage.symm.trans hm
    exact ⟨m, (stage?_move_of_ne hne).trans hm⟩

end Sound

/-- Every move keeps an outline sound. -/
theorem Move.sound {late : Bool} (move : Move late o o') (sound : Sound o) : Sound o' := by
  cases move with
  | kept => exact sound
  | made fresh plain => exact sound.add fresh plain
  | moved stage before plain =>
    exact sound.move stage plain fun h => absurd h (Stage.ne_shuttingDown before _)
  | left stage before plain =>
    exact sound.leave stage plain fun h => absurd h (Stage.ne_shuttingDown before _)
  | locked stage free => exact sound.lock stage free
  | began stage apart => exact sound.begin stage apart
  | dialed stage => exact sound.moveOn stage rfl rfl
  | missed stage plain =>
    exact (sound.miss (sound.attempting stage rfl).2.1 _).leave stage plain fun h => by cases h
  | gaveUp stage plain =>
    obtain stage | stage := stage
    · exact sound.leave stage plain fun h => by cases h
    · exact sound.leave stage plain fun h => by cases h
  | entered stage => exact sound.moveOn stage rfl rfl
  | replaced stage =>
    have hvacate := sound.vacate (sound.attempting stage rfl).2.1
    exact hvacate.moveOn (stage?_vacate ▸ stage) rfl rfl
  | installed stage plain => exact sound.install stage plain
  | judged stage there connected plain =>
    exact (sound.judge there connected).leave stage plain fun h => by cases h
  | closed g => exact sound.close g
  | broke g stage before plain =>
    exact (sound.close g).leave stage plain fun h =>
      absurd h (Stage.ne_shuttingDown (.inl before) _)
  | took stage place => exact sound.take stage place
  | shut stage plain =>
    refine (sound.close _).leave stage plain fun h hopen => ?_
    exact (closed?_close_eq_false.mp hopen).1 (Stage.shuttingDown.inj h).symm

end Outline

end RemoteConsole
