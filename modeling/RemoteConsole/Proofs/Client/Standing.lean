import RemoteConsole.Proofs.Client.Sound
import RemoteConsole.Proofs.Packet.Layout

/-!
# Whether a connected client has a connection

A client says that it is connected while it authenticates and when it is ready. As long as no
verdict was taken over late, a client that says so has its latest connection open (`Alive`). One
late verdict is enough to lose this for good: the client says it is connected from then on and never
has an open connection again (`Dead`).
-/

namespace RemoteConsole

namespace Outline

variable {o o' : Outline} {n g : Nat} {s : Stage}

/-- A client that says it is connected has the latest connection open. -/
def Alive (o : Outline) : Prop :=
  o.cell.state.isConnected = true → o.closed? o.generation = some false

/-- A client says it is connected and has no open connection. -/
def Dead (o : Outline) : Prop :=
  o.cell.state.isConnected = true ∧ ∀ g, o.closed? g ≠ some false

/-- Closing a connection disconnects the client if it was the latest, and leaves the latest open
otherwise. -/
theorem Alive.close (alive : Alive o) (sound : Sound o) (g : Nat) : Alive (o.close g) := by
  intro hc
  have hopen := alive (isConnected_of_close hc)
  refine closed?_close_eq_false.mpr ⟨fun hg => ?_, hopen⟩
  -- Closing the latest connection while it is open would have disconnected the client.
  obtain rfl : o.generation = g := hg
  have hcell : (o.close o.generation).cell = o.cell.set o.generation .disconnected := if_pos hopen
  rw [hcell, StateCell.set_of_eq sound.latest] at hc
  cases hc

/-- Closing a connection changes nothing where all are closed. -/
theorem Dead.close (dead : Dead o) (g : Nat) : Dead (o.close g) := by
  refine ⟨?_, fun h hopen => dead.2 h (closed?_close_eq_false.mp hopen).2⟩
  rw [cell_close (dead.2 g)]
  exact dead.1

/-- No call makes a connection while the client says it is connected. -/
theorem Dead.not_attempting (dead : Dead o) (sound : Sound o) (stage : o.stage? n = some s)
    (ha : s.attempt? = some g) : False := by
  have hapart := (sound.attempting stage ha).2.1
  rw [dead.1] at hapart
  cases hapart

/-- A client whose latest connection is open, or that says it is not connected, stays so unless a
verdict is taken over late. -/
theorem Move.alive {late : Bool} (move : Move late o o') (sound : Sound o) (alive : Alive o)
    (intime : late = false) : Alive o' := by
  cases move with
  | kept | made | moved | left | locked | dialed | gaveUp | entered | took => exact alive
  | began stage apart => exact fun hc => by cases hc
  | missed stage plain =>
    intro hc
    have hconnected := StateCell.isConnected_set rfl hc
    rw [(sound.attempting stage rfl).2.1] at hconnected
    cases hconnected
  | replaced stage =>
    intro hc
    have hapart := apart_vacate (sound.attempting stage rfl).2.1
    rw [show o.vacate.cell.state.isConnected = true from hc] at hapart
    cases hapart
  | installed stage plain =>
    obtain ⟨hlatest, -, hnone⟩ := sound.attempting stage rfl
    intro _
    show (o.closed? o.generation).or (if o.generation = _ then some false else none) = some false
    rw [if_pos hlatest.symm, ← hlatest, hnone, Option.none_or]
  | @judged _ n g attempt s' state stage there connected plain =>
    by_cases hg : o.cell.generation = g
    · -- The connection is there, and the verdict is in time, so the connection is open.
      intro _
      obtain ⟨closed, hclosed⟩ := Option.isSome_iff_exists.mp there
      have hopen : closed = false := by
        rw [hg, beq_self_eq_true, Bool.true_and, hclosed] at intime
        cases closed with
        | false => rfl
        | true => cases intime
      show o.closed? o.generation = some false
      rw [← sound.latest, hg, hclosed, hopen]
    · have hcell : (o.set g state).cell = o.cell := StateCell.set_of_ne hg
      intro hc
      exact alive (hcell ▸ hc)
  | closed g => exact alive.close sound g
  | broke g stage before plain => exact alive.close sound g
  | shut stage plain => exact alive.close sound _

/-- A verdict that is taken over late leaves a client that says it is connected without any open
connection. -/
theorem Move.dead_of_late {late : Bool} (move : Move late o o') (sound : Sound o)
    (islate : late = true) : Dead o' := by
  cases move with
  | @judged _ n g attempt s' state stage there connected plain =>
    obtain ⟨hgeneration, hclosed⟩ := Bool.and_eq_true_iff.mp islate
    have hgeneration : o.cell.generation = g := eq_of_beq hgeneration
    have hclosed : o.closed? g = some true := eq_of_beq hclosed
    refine ⟨?_, fun h hopen => ?_⟩
    · show (o.cell.set g state).state.isConnected = true
      rw [StateCell.set_of_eq hgeneration]
      exact connected
    · -- Only the latest connection could be open, and that is the one that is closed.
      have hopen : o.closed? h = some false := hopen
      rw [(sound.newest hopen).1, ← sound.latest, hgeneration, hclosed] at hopen
      cases hopen
  | _ => cases islate

/-- A client that says it is connected and has no open connection stays so. -/
theorem Move.dead {late : Bool} (move : Move late o o') (sound : Sound o) (dead : Dead o) :
    Dead o' := by
  cases move with
  | kept | made | moved | left | locked | dialed | gaveUp | entered | took => exact dead
  | began stage apart =>
    rw [dead.1] at apart
    cases apart
  | missed stage plain => exact (dead.not_attempting sound stage rfl).elim
  | replaced stage => exact (dead.not_attempting sound stage rfl).elim
  | installed stage plain => exact (dead.not_attempting sound stage rfl).elim
  | @judged _ n g attempt s' state stage there connected plain =>
    refine ⟨?_, dead.2⟩
    show (o.cell.set g state).state.isConnected = true
    by_cases hg : o.cell.generation = g
    · rw [StateCell.set_of_eq hg]
      exact connected
    · rw [StateCell.set_of_ne hg]
      exact dead.1
  | closed g => exact dead.close g
  | broke g stage before plain => exact dead.close g
  | shut stage plain => exact dead.close _

end Outline

namespace Client

open Outline

variable {c c' : Client} {late : Bool}

/-- Whether, when some actions are taken, a call takes over a verdict late. -/
def tookLateVerdict (c : Client) : List Action → Bool
  | [] => false
  | action :: actions => c.isLate action || (c.step action).any (·.tookLateVerdict actions)

/-- How a client stands: it has the connection it says it has, until a verdict is taken over late,
and from then on it has none and says it has one. -/
structure Standing (late : Bool) (c : Client) : Prop where
  /-- The outline is sound. -/
  sound : c.outline.Sound
  /-- Before a late verdict, a client that says it is connected is. -/
  alive : late = false → c.outline.Alive
  /-- After a late verdict, it says so and is not. -/
  dead : late = true → c.outline.Dead

/-- A client that has not done anything yet has nothing, and says so. -/
theorem standing_ofConfig (config : Config) : Standing false (ofConfig config) where
  sound := {
    latest := rfl
    bounded := fun h => by cases h
    locked := fun h => by cases h
    attempting := fun h => by cases h
    newest := fun h => by cases h
    present := fun h => by cases h
    owned := fun h => by cases h }
  alive := fun _ h => by cases h
  dead := fun h => by cases h

/-- How a client stands after one step. -/
theorem Standing.step {action : Action} (standing : Standing late c)
    (h : c.step action = some c') : Standing (late || c.isLate action) c' := by
  have hmove := move_of_step h
  refine ⟨hmove.sound standing.sound, fun hlate => ?_, fun hlate => ?_⟩
  · obtain ⟨hbefore, hnow⟩ := Bool.or_eq_false_iff.mp hlate
    exact hmove.alive standing.sound (standing.alive hbefore) hnow
  · obtain hbefore | hnow := Bool.or_eq_true_iff.mp hlate
    · exact hmove.dead standing.sound (standing.dead hbefore)
    · exact hmove.dead_of_late standing.sound hnow

/-- How a client stands after a run. -/
theorem Standing.run {actions : List Action} (standing : Standing late c)
    (h : c.run actions = some c') : Standing (late || c.tookLateVerdict actions) c' := by
  induction actions generalizing c late with
  | nil =>
    obtain rfl := Option.some.inj h
    rw [tookLateVerdict, Bool.or_false]
    exact standing
  | cons action actions ih =>
    obtain ⟨d, hstep, hrun⟩ := Option.bind_eq_some_iff.mp h
    rw [tookLateVerdict, hstep, Option.any_some, ← Bool.or_assoc]
    exact ih (standing.step hstep) hrun

/-- A call that is over has not taken away a connection. -/
theorem stage?_ne_shuttingDown (allOver : c.calls.all Call.isOver = true) (n g : Nat) :
    c.outline.stage? n ≠ some (.shuttingDown g) := by
  rw [outline_stage?]
  intro h
  obtain ⟨call, hcall, hstage⟩ := Option.map_eq_some_iff.mp h
  have hover := List.all_eq_true.mp allOver call (List.mem_of_getElem? hcall)
  rw [Call.isOver, hstage] at hover
  cases hover

/-- Between calls, a client that says it is connected has an open connection in place, unless a call
has taken over a verdict late. After that it never has one again, and always says that it has. -/
theorem open_of_connected_iff (config : Config) (actions : List Action) (c : Client)
    (h : (ofConfig config).run actions = some c) (allOver : c.calls.all Call.isOver = true) :
    (c.cell.state.isConnected = true → c.open?.isSome = true) ↔
      (ofConfig config).tookLateVerdict actions = false := by
  have standing := (standing_ofConfig config).run h
  rw [Bool.false_or] at standing
  constructor
  · intro hopen
    rw [← Bool.not_eq_true]
    intro hlate
    obtain ⟨hconnected, hclosed⟩ := standing.dead hlate
    obtain ⟨g, hg⟩ := Option.isSome_iff_exists.mp (hopen hconnected)
    exact hclosed g (open?_eq_some_iff.mp hg).2
  · -- With no call at work, an open connection can only be the one in place.
    intro hintime hconnected
    have hopen := standing.alive hintime hconnected
    obtain hplace | ⟨n, hn⟩ := standing.sound.owned hopen
    · rw [open?_eq_some_iff.mpr ⟨hplace, hopen⟩, Option.isSome_some]
    · exact absurd hn (stage?_ne_shuttingDown allOver n _)

/-- A call connects and sends its password, and the server accepts it. -/
def accepted : List Action :=
  [.call .connect, .advance 0, .advance 0, .dial 0 .stream, .advance 0, .advance 0, .advance 0,
    .advance 0, .advance 0, .advance 0, .write 0 .written,
    .frame 1 (Packet.layout Packet.authId .authResponse [])]

/-- A call that takes over the verdict in time leaves the client with the connection it says it
has. -/
theorem open_of_connected_in_time : ∃ c, (ofConfig {}).run (accepted ++ [.advance 0]) = some c ∧
    c.calls.all Call.isOver = true ∧ c.cell.state = .ready ∧ c.open?.isSome = true := by
  have hrun : ((ofConfig {}).run (accepted ++ [.advance 0])).isSome = true := by decide
  obtain ⟨c, hc⟩ := Option.isSome_iff_exists.mp hrun
  have hover : c.calls.all Call.isOver = true ∧ c.cell.state = .ready := by
    obtain rfl := Option.get_of_eq_some hrun hc
    clear hc
    constructor <;> decide +revert
  have hopen := open_of_connected_iff {} (accepted ++ [.advance 0]) c hc hover.1
  exact ⟨c, hc, hover.1, hover.2, hopen.mpr (by decide) (congrArg _ hover.2)⟩

/-- If the server hangs up before the call goes on, the call is over, the client is ready, and it
has no connection. -/
theorem not_open_after_hangUp : ¬ ∀ (config : Config) (actions : List Action) (c : Client),
    (ofConfig config).run actions = some c → c.calls.all Call.isOver = true →
      c.cell.state.isConnected = true → c.open?.isSome = true := by
  intro h
  have hlost := h {} (accepted ++ [.hangUp 1, .advance 0]) _ (Option.some_get (by decide)).symm
    (by decide) (by decide)
  revert hlost
  decide

end Client

end RemoteConsole
