import Mathlib.Algebra.GroupWithZero.Nat
import Mathlib.Data.List.Basic
import RemoteConsole.Connection.Teardown
import RemoteConsole.Proofs.Connection.Closing

/-!
# No task outlives its connection

Callers tie tasks to a connection and close it, two steps each, in any order (`Turn`). While the
connection is open, it holds every task that was tied to it. From the moment it is marked closed,
every task is `Doomed`: it is aborted already, or whoever tied it has yet to look at the mark, or the
connection holds it and whoever closed the connection has yet to abort what it holds. Which of these
it is may change, but no step takes a task out of all three (`Doomed.turn`). So once no caller has
anything left to do, all of them are aborted (`none_outlives`).
-/

namespace RemoteConsole

namespace Teardown

/-! ## What a step does -/

/-- A step of one of the callers. -/
inductive Turn : Teardown → Teardown → Prop
  /-- A new task is tied to the connection. -/
  | ties {conn : Connection} {aborted : List Nat} {before after : List TeardownPhase} :
    Turn ⟨conn, aborted, before ++ .tie :: after⟩
      ⟨conn.addTask, aborted, before ++ .look conn.tracked :: after⟩
  /-- The caller finds the connection open, and its task is left alone. -/
  | spares {conn : Connection} {aborted : List Nat} {before after : List TeardownPhase} {task : Nat}
    (opened : conn.closed = false) :
    Turn ⟨conn, aborted, before ++ .look task :: after⟩
      ⟨conn, aborted, before ++ .finished :: after⟩
  /-- The caller finds the connection closed and aborts its task. -/
  | aborts {conn : Connection} {aborted : List Nat} {before after : List TeardownPhase} {task : Nat}
    (closed : conn.closed = true) :
    Turn ⟨conn, aborted, before ++ .look task :: after⟩
      ⟨conn, aborted ++ [task], before ++ .finished :: after⟩
  /-- The connection is marked closed. -/
  | marks {conn : Connection} {aborted : List Nat} {before after : List TeardownPhase}
    (opened : conn.closed = false) :
    Turn ⟨conn, aborted, before ++ .mark :: after⟩
      ⟨{ conn with closed := true }, aborted, before ++ .abortAll :: after⟩
  /-- The caller finds that somebody else closes the connection. -/
  | returns {conn : Connection} {aborted : List Nat} {before after : List TeardownPhase}
    (closed : conn.closed = true) :
    Turn ⟨conn, aborted, before ++ .mark :: after⟩ ⟨conn, aborted, before ++ .finished :: after⟩
  /-- The tasks that the connection holds are aborted. -/
  | sweeps {conn : Connection} {aborted : List Nat} {before after : List TeardownPhase} :
    Turn ⟨conn, aborted, before ++ .abortAll :: after⟩
      ⟨{ conn with tasks := [] }, aborted ++ conn.tasks, before ++ .finished :: after⟩

variable {t t' : Teardown} {task caller : Nat} {before after : List TeardownPhase}
  {phase next other : TeardownPhase} {schedule : List Nat}

/-- What a caller does next is a step in its place among the callers. -/
theorem turn_of_stepPhase {u : Teardown} (h : t.stepPhase phase = some (u, next))
    (hcallers : t.callers = before ++ phase :: after) :
    u.callers = t.callers ∧ Turn t { u with callers := before ++ next :: after } := by
  obtain ⟨conn, aborted, callers⟩ := t
  obtain rfl : callers = before ++ phase :: after := hcallers
  cases phase with
  | tie =>
    cases h
    exact ⟨rfl, .ties⟩
  | look task =>
    cases hclosed : conn.closed with
    | true =>
      simp only [stepPhase, hclosed] at h
      cases h
      exact ⟨rfl, .aborts hclosed⟩
    | false =>
      simp only [stepPhase, hclosed] at h
      cases h
      exact ⟨rfl, .spares hclosed⟩
  | mark =>
    cases hclosed : conn.closed with
    | true =>
      simp only [stepPhase, hclosed] at h
      cases h
      exact ⟨rfl, .returns hclosed⟩
    | false =>
      simp only [stepPhase, hclosed] at h
      cases h
      exact ⟨rfl, .marks hclosed⟩
  | abortAll =>
    cases h
    exact ⟨rfl, .sweeps⟩
  | finished => cases h

theorem turn_of_step (h : t.step caller = some t') : Turn t t' := by
  obtain ⟨phase, hphase, h⟩ := Option.bind_eq_some_iff.mp h
  obtain ⟨⟨u, next⟩, hstep, h⟩ := Option.bind_eq_some_iff.mp h
  obtain ⟨hlt, hget⟩ := List.getElem?_eq_some_iff.mp hphase
  -- The caller stands among the others, and they stay as they are.
  obtain ⟨before, after, hcallers, -, hset⟩ : ∃ before after,
      t.callers = before ++ t.callers[caller] :: after ∧ before.length = caller ∧
        t.callers.set caller next = before ++ next :: after := List.exists_of_set hlt
  rw [hget] at hcallers
  obtain ⟨hsame, hturn⟩ := turn_of_stepPhase hstep hcallers
  cases h
  rw [← hset, ← hsame] at hturn
  exact hturn

/-- A caller that has not finished can take its step, whatever the others do. -/
theorem exists_step_of_mem (hphase : phase ∈ t.callers) (h : phase ≠ .finished) :
    ∃ caller t', t.step caller = some t' := by
  obtain ⟨caller, hcaller⟩ := List.mem_iff_getElem?.mp hphase
  have hstep : ∃ u next, t.stepPhase phase = some (u, next) := by
    cases phase with
    | tie => exact ⟨_, _, rfl⟩
    | look task => exact ⟨_, _, rfl⟩
    | mark => cases hclosed : t.conn.closed <;> simp [stepPhase, hclosed]
    | abortAll => exact ⟨_, _, rfl⟩
    | finished => exact absurd rfl h
  obtain ⟨u, next, hstep⟩ := hstep
  exact ⟨caller, { u with callers := u.callers.set caller next }, by simp [step, hcaller, hstep]⟩

/-- The two steps of a caller that ties a task, with nobody between them, are `Connection.track`. -/
theorem run_tie_alone (conn : Connection) :
    ({ conn, callers := [.tie] } : Teardown).run [0, 0] =
      some ⟨conn.track.2, conn.track.1.aborted, [.finished]⟩ := by
  cases h : conn.closed <;> simp [run, step, stepPhase, Connection.track, Connection.addTask, h]

/-- The two steps of a caller that closes an open connection, with nobody between them, do to its
mark and its tasks what `Link.close` does. -/
theorem run_mark_alone {l : Link} (opened : l.conn.closed = false) :
    ∃ t, ({ conn := l.conn, callers := [.mark] } : Teardown).run [0, 0] = some t ∧
      t.aborted = l.close.1.aborted ∧ t.conn.tasks = l.close.2.conn.tasks ∧
        t.conn.closed = l.close.2.conn.closed := by
  rw [Link.close_of_open opened]
  simp [run, step, stepPhase, Connection.abortTasks, opened]

/-! ## What every step keeps -/

/-- A caller that is not the one at work is still there after its step. -/
theorem mem_of_ne (h : other ∈ before ++ phase :: after) (hne : other ≠ phase) :
    other ∈ before ++ next :: after := by
  rw [List.mem_append, List.mem_cons] at h ⊢
  rcases h with hbefore | hother | hafter
  · exact .inl hbefore
  · exact absurd hother hne
  · exact .inr (.inr hafter)

/-- What a step leads to is there after it. -/
theorem next_mem (before after : List TeardownPhase) (next : TeardownPhase) :
    next ∈ before ++ next :: after :=
  List.mem_append_right _ List.mem_cons_self

/-- A task of a closed connection that is aborted by now, or will be. -/
inductive Doomed (t : Teardown) (task : Nat) : Prop
  /-- It is aborted. -/
  | done (aborted : task ∈ t.aborted)
  /-- Whoever tied it has yet to look at the mark. -/
  | tied (looks : .look task ∈ t.callers)
  /-- The connection holds it, and whoever closed the connection has yet to abort its tasks. -/
  | listed (held : task ∈ t.conn.tasks) (sweeps : .abortAll ∈ t.callers)

/-- A task of a closed connection cannot escape. -/
theorem Doomed.turn (h : Turn t t') (closed : t.conn.closed = true) (doomed : Doomed t task) :
    Doomed t' task := by
  cases h with
  | ties =>
    cases doomed with
    | done aborted => exact .done aborted
    | tied looks => exact .tied (mem_of_ne looks (by simp))
    | listed held sweeps =>
      exact .listed (List.mem_append_left _ held) (mem_of_ne sweeps (by simp))
  | spares opened => rw [opened] at closed; cases closed
  | @aborts _ _ _ _ looked =>
    cases doomed with
    | done aborted => exact .done (List.mem_append_left _ aborted)
    | tied looks =>
      by_cases heq : task = looked
      · exact .done (heq ▸ List.mem_append_right _ List.mem_cons_self)
      · exact .tied (mem_of_ne looks (by simpa using heq))
    | listed held sweeps => exact .listed held (mem_of_ne sweeps (by simp))
  | marks opened => rw [opened] at closed; cases closed
  | returns =>
    cases doomed with
    | done aborted => exact .done aborted
    | tied looks => exact .tied (mem_of_ne looks (by simp))
    | listed held sweeps => exact .listed held (mem_of_ne sweeps (by simp))
  | sweeps =>
    cases doomed with
    | done aborted => exact .done (List.mem_append_left _ aborted)
    | tied looks => exact .tied (mem_of_ne looks (by simp))
    | listed held sweeps => exact .done (List.mem_append_right _ held)

/-- What holds between the steps of the callers. -/
structure Accounted (t : Teardown) : Prop where
  /-- An open connection holds every task that was tied to it. -/
  held : t.conn.closed = false → ∀ task < t.conn.tracked, task ∈ t.conn.tasks
  /-- Nobody aborts the tasks of an open connection. -/
  closing : .abortAll ∈ t.callers → t.conn.closed = true
  /-- No task of a closed connection can escape. -/
  doomed : t.conn.closed = true → ∀ task < t.conn.tracked, Doomed t task

theorem Accounted.turn (h : Turn t t') (hacc : Accounted t) : Accounted t' := by
  have hdoomed (closed : t.conn.closed = true) (task : Nat) (hlt : task < t.conn.tracked) :
      Doomed t' task := (hacc.doomed closed task hlt).turn h closed
  cases h with
  | @ties conn aborted before after =>
    refine ⟨fun opened task hlt => ?_, fun sweeps => ?_, fun closed task hlt => ?_⟩
    · obtain hlt | rfl := Nat.lt_succ_iff_lt_or_eq.mp hlt
      · exact List.mem_append_left _ (hacc.held opened task hlt)
      · exact List.mem_append_right _ List.mem_cons_self
    · exact hacc.closing (mem_of_ne sweeps (by simp))
    · obtain hlt | rfl := Nat.lt_succ_iff_lt_or_eq.mp hlt
      · exact hdoomed closed task hlt
      · exact .tied (next_mem before after _)
  | spares => exact ⟨hacc.held, fun sweeps => hacc.closing (mem_of_ne sweeps (by simp)), hdoomed⟩
  | aborts => exact ⟨hacc.held, fun sweeps => hacc.closing (mem_of_ne sweeps (by simp)), hdoomed⟩
  | @marks conn aborted before after opened =>
    -- What an open connection holds is all there is, and its closer has yet to abort it.
    exact ⟨nofun, fun _ => rfl, fun _ task hlt =>
      .listed (hacc.held opened task hlt) (next_mem before after _)⟩
  | returns => exact ⟨hacc.held, fun sweeps => hacc.closing (mem_of_ne sweeps (by simp)), hdoomed⟩
  | @sweeps conn aborted before after =>
    have closed : conn.closed = true := hacc.closing (next_mem before after _)
    exact ⟨fun opened => absurd (opened.symm.trans closed) (by decide), fun _ => closed, hdoomed⟩

/-- Somebody has yet to mark the connection closed, or it is closed. -/
def Closes (t : Teardown) : Prop :=
  .mark ∈ t.callers ∨ t.conn.closed = true

theorem Closes.turn (h : Turn t t') (hcloses : Closes t) : Closes t' := by
  cases h with
  | ties => exact hcloses.imp_left fun marks => mem_of_ne marks (by simp)
  | spares => exact hcloses.imp_left fun marks => mem_of_ne marks (by simp)
  | aborts closed => exact .inr closed
  | marks => exact .inr rfl
  | returns closed => exact .inr closed
  | sweeps => exact hcloses.imp_left fun marks => mem_of_ne marks (by simp)

/-- The number of tasks tied to the connection by now, or to be tied. -/
def ties (t : Teardown) : Nat :=
  t.conn.tracked + t.callers.count .tie

theorem ties_turn (h : Turn t t') : t'.ties = t.ties := by
  cases h <;> simp [ties, Connection.addTask]
  omega

/-! ## Runs -/

/-- What every step keeps, a run keeps. -/
theorem run_keeps {P : Teardown → Prop} (keeps : ∀ {t t'}, Turn t t' → P t → P t')
    (h : t.run schedule = some t') (ht : P t) : P t' := by
  induction schedule generalizing t with
  | nil =>
    cases h
    exact ht
  | cons caller schedule ih =>
    obtain ⟨u, hstep, hrun⟩ := Option.bind_eq_some_iff.mp h
    exact ih hrun (keeps (turn_of_step hstep) ht)

/-- The number of steps that a caller has yet to take. -/
def stepsLeft : TeardownPhase → Nat
  | .tie | .mark => 2
  | .look _ | .abortAll => 1
  | .finished => 0

theorem sum_stepsLeft (before after : List TeardownPhase) (phase : TeardownPhase) :
    ((before ++ phase :: after).map stepsLeft).sum =
      (before.map stepsLeft).sum + (stepsLeft phase + (after.map stepsLeft).sum) := by
  rw [List.map_append, List.map_cons, List.sum_append, List.sum_cons]

/-- A step is one less to take. -/
theorem sum_stepsLeft_turn (h : Turn t t') :
    (t'.callers.map stepsLeft).sum + 1 ≤ (t.callers.map stepsLeft).sum := by
  cases h <;> (simp only [sum_stepsLeft, stepsLeft]; omega)

/-- Whatever steps were taken so far, the callers can go on until all of them have finished. -/
theorem exists_run_finished (t : Teardown) :
    ∃ schedule t', t.run schedule = some t' ∧ ∀ phase ∈ t'.callers, phase = .finished := by
  induction hleft : (t.callers.map stepsLeft).sum using Nat.strongRecOn generalizing t with
  | _ left ih =>
    by_cases hall : ∀ phase ∈ t.callers, phase = .finished
    · exact ⟨[], t, rfl, hall⟩
    · simp only [not_forall] at hall
      obtain ⟨phase, hphase, hne⟩ := hall
      obtain ⟨caller, u, hstep⟩ := exists_step_of_mem hphase hne
      have hless := sum_stepsLeft_turn (turn_of_step hstep)
      obtain ⟨schedule, t', hrun, hfinished⟩ := ih _ (by omega) u rfl
      exact ⟨caller :: schedule, t', Option.bind_eq_some_iff.mpr ⟨u, hstep, hrun⟩, hfinished⟩

/-- Once all callers have finished and the connection is closed, all tasks are aborted. -/
theorem Accounted.mem_aborted (hacc : Accounted t) (closed : t.conn.closed = true)
    (finished : ∀ phase ∈ t.callers, phase = .finished) :
    ∀ task < t.conn.tracked, task ∈ t.aborted := by
  intro task hlt
  cases hacc.doomed closed task hlt with
  | done aborted => exact aborted
  | tied looks => cases finished _ looks
  | listed held sweeps => cases finished _ sweeps

/-- A connection that nobody has closed so far, whatever else was done to it, to which callers tie
tasks and which at least one of them closes, their steps in any order. However far they are, they can
go on until all of them have finished. Once they have, each task is aborted that was ever tied to the
connection, one for each time that somebody tied one, before or now. -/
theorem none_outlives (generation : Nat) (routing : Routing) (cell : StateCell)
    (listeners : Registry) (history : List Link.Op) (first : .close ∉ history)
    (callers : List TeardownPhase) (calls : ∀ phase ∈ callers, phase = .tie ∨ phase = .mark)
    (closes : .mark ∈ callers) (schedule : List Nat) :
    let l := (Link.start generation routing cell listeners).after history
    ∀ t, ({ conn := l.conn, callers } : Teardown).run schedule = some t →
      (∃ more t', t.run more = some t' ∧ ∀ phase ∈ t'.callers, phase = .finished) ∧
        ((∀ phase ∈ t.callers, phase = .finished) →
          t.conn.closed = true ∧ t.conn.tracked = history.count .track + callers.count .tie ∧
            ∀ task < t.conn.tracked, task ∈ t.aborted) := by
  intro l t h
  refine ⟨exists_run_finished t, fun finished => ?_⟩
  obtain ⟨hopened, -, htracked, htasks⟩ :
      l.conn.closed = false ∧ _ ∧ l.conn.tracked = _ ∧ l.conn.tasks = _ :=
    Link.open_after generation routing cell listeners history first
  have hstart : Accounted { conn := l.conn, callers } := by
    refine ⟨fun _ task hlt => ?_, fun sweeps => ?_, fun closed => ?_⟩
    · change task ∈ l.conn.tasks
      rw [htasks, List.mem_range, ← htracked]
      exact hlt
    · rcases calls _ sweeps with hcall | hcall <;> cases hcall
    · exact absurd (hopened.symm.trans closed) (by decide)
  have hacc : Accounted t := run_keeps Accounted.turn h hstart
  have hcloses : Closes t := run_keeps Closes.turn h (.inl closes)
  have hties : t.ties = history.count .track + callers.count .tie :=
    run_keeps (P := fun u => u.ties = history.count .track + callers.count .tie)
      (fun hturn hu => (ties_turn hturn).trans hu) h (by rw [ties, htracked])
  have closed : t.conn.closed = true := by
    rcases hcloses with marks | closed
    · cases finished _ marks
    · exact closed
  have hnone : t.callers.count .tie = 0 :=
    List.count_eq_zero.mpr fun hmem => by cases finished _ hmem
  rw [ties, hnone] at hties
  exact ⟨closed, hties, hacc.mem_aborted closed finished⟩

/-- A task from before, two that are tied now and two closers: one task is tied before the mark, the
other between the mark and the sweep, and the second closer is through before the first has aborted
anything. -/
theorem none_outlives_between :
    let l := (Link.start 1 {} {} {}).after [.claimWatch, .track]
    let callers : List TeardownPhase := [.tie, .mark, .tie, .mark]
    ∃ t, ({ conn := l.conn, callers } : Teardown).run [0, 1, 3, 2, 1, 2, 0] = some t ∧
      t.aborted = [0, 1, 2, 2, 1] ∧ t.conn.tracked = 1 + 2 ∧
        ∀ task < t.conn.tracked, task ∈ t.aborted := by
  intro l callers
  obtain ⟨t, hrun⟩ : ∃ t, ({ conn := l.conn, callers } : Teardown).run [0, 1, 3, 2, 1, 2, 0] =
    some t := ⟨_, rfl⟩
  have hfinished : ∀ phase ∈ t.callers, phase = .finished := by
    cases hrun
    decide
  have haborted : t.aborted = [0, 1, 2, 2, 1] := by
    cases hrun
    rfl
  obtain ⟨-, hall⟩ := none_outlives 1 {} {} {} [.claimWatch, .track] (by decide) callers (by decide)
    (by decide) _ t hrun
  exact ⟨t, hrun, haborted, (hall hfinished).2⟩

end Teardown

end RemoteConsole
