import RemoteConsole.Proofs.Client.Standing
import RemoteConsole.Proofs.Client.Transition

/-!
# Connections of different generations

The connections of a client share its state, its locks and its ids. What happens on behalf of one of
them while a newer one is being made, or is there, does not reach the newer one: neither the state,
nor any other connection, nor any call of another connection changes (`generations_apart`). That
includes its end where it is closed to make room.
-/

namespace RemoteConsole.Client

variable {c c' : Client} {action : Action} {actions : List Action} {g : Nat} {ops : List Link.Op}

/-- A client with some listeners that has not done anything yet. -/
def fresh (config : Config) (listeners : Registry) : Client :=
  { ofConfig config with listeners }

/-- What every step keeps, a run keeps. -/
theorem run_keeps {p : Client → Prop}
    (keeps : ∀ {c c' : Client} {action : Action}, p c → c.step action = some c' → p c')
    (start : p c) (h : c.run actions = some c') : p c' := by
  induction actions generalizing c with
  | nil =>
    obtain rfl := Option.some.inj h
    exact start
  | cons action actions ih =>
    obtain ⟨d, hstep, hrun⟩ := Option.bind_eq_some_iff.mp h
    exact ih (keeps start hstep) hrun

/-- Whether something happens in some step when some actions are taken. -/
def happens (c : Client) (event : Client → Action → Bool) : List Action → Bool
  | [] => false
  | action :: actions => event c action || (c.step action).any (·.happens event actions)

/-- What every step keeps in which something does not happen, a run keeps in which it does not. -/
theorem keeps_of_not_happens {event : Client → Action → Bool} {p : Client → Prop}
    (keeps : ∀ {c c' : Client} {action : Action}, action ∈ actions → p c → event c action = false →
      c.step action = some c' → p c')
    (start : p c) (never : c.happens event actions = false) {before : List Action}
    (hbefore : before <+: actions) (h : c.run before = some c') : p c' := by
  induction before generalizing c actions with
  | nil =>
    obtain rfl := Option.some.inj h
    exact start
  | cons action before ih =>
    obtain ⟨rest, rfl⟩ := hbefore
    obtain ⟨d, hstep, hrun⟩ := Option.bind_eq_some_iff.mp h
    rw [List.cons_append, happens, hstep, Option.any_some] at never
    obtain ⟨hnow, hlater⟩ := Bool.or_eq_false_iff.mp never
    exact ih (fun hmem => keeps (List.mem_cons_of_mem _ hmem))
      (keeps List.mem_cons_self start hnow hstep) hlater (List.prefix_append ..) hrun

/-- If something happens in a run, there is a first part of it that ends with what that leads to. -/
theorem exists_of_happens {event : Client → Action → Bool} {p q : Client → Prop}
    (keeps : ∀ {c c' : Client} {action : Action}, p c → c.step action = some c' → p c')
    (leads : ∀ {c : Client} {action : Action}, p c → event c action = true →
      ∃ c', c.step action = some c' ∧ q c')
    (start : p c) (once : c.happens event actions = true) :
    ∃ before c', before <+: actions ∧ c.run before = some c' ∧ q c' := by
  induction actions generalizing c with
  | nil => cases once
  | cons action actions ih =>
    obtain hnow | hlater := Bool.or_eq_true_iff.mp once
    · obtain ⟨d, hstep, hd⟩ := leads start hnow
      refine ⟨[action], d, List.cons_prefix_cons.mpr ⟨rfl, List.nil_prefix⟩, ?_, hd⟩
      rw [run, hstep]
      rfl
    · obtain ⟨d, hstep, hlater⟩ := (Option.any_eq_true _ _).mp hlater
      obtain ⟨before, c', hprefix, hrun, hc'⟩ := ih (keeps start hstep) hlater
      refine ⟨action :: before, c', List.cons_prefix_cons.mpr ⟨rfl, hprefix⟩, ?_, hc'⟩
      rw [run, hstep]
      exact hrun

/-- What is noted step by step when some actions are taken. -/
def tally {α : Type} (note : Client → Action → Client → α → α) (c : Client) (a : α) :
    List Action → α
  | [] => a
  | action :: actions =>
    match c.step action with
    | some c' => c'.tally note (note c action c' a) actions
    | none => a

/-- What every step keeps of a client and of what is noted, a run keeps. -/
theorem tally_keeps {α : Type} {note : Client → Action → Client → α → α}
    {p : Client → α → Prop}
    (keeps : ∀ {c c' : Client} {action : Action} {a : α}, p c a → c.step action = some c' →
      p c' (note c action c' a))
    {a : α} (start : p c a) (h : c.run actions = some c') : p c' (c.tally note a actions) := by
  induction actions generalizing c a with
  | nil =>
    obtain rfl := Option.some.inj h
    exact start
  | cons action actions ih =>
    obtain ⟨d, hstep, hrun⟩ := Option.bind_eq_some_iff.mp h
    rw [tally, hstep]
    exact ih (keeps start hstep) hrun

/-- Some actions after others. -/
theorem run_append {before more : List Action} (h : c.run before = some c') :
    c.run (before ++ more) = c'.run more := by
  induction before generalizing c with
  | nil =>
    obtain rfl := Option.some.inj h
    rfl
  | cons action before ih =>
    obtain ⟨d, hstep, hrun⟩ := Option.bind_eq_some_iff.mp h
    rw [List.cons_append, run, hstep]
    exact ih hrun

/-- One more action. -/
theorem run_concat {d : Client} (h : c.run actions = some d) (hstep : d.step action = some c') :
    c.run (actions ++ [action]) = some c' := by
  rw [run_append h, run, hstep]
  rfl

/-- What one more step keeps of the actions so far and of the client after them, holds of every
run. -/
theorem history_keeps {p : List Action → Client → Prop}
    (keeps : ∀ {before : List Action} {d d' : Client} {action : Action}, c.run before = some d →
      p before d → d.step action = some d' → p (before ++ [action]) d')
    (start : p [] c) (h : c.run actions = some c') : p actions c' := by
  -- The induction is on the actions that are left, whatever came before them.
  suffices hrest : ∀ (rest before : List Action) {d : Client},
      c.run before = some d → p before d → d.run rest = some c' → p (before ++ rest) c' from
    hrest actions [] rfl start h
  intro rest
  induction rest with
  | nil =>
    intro before d _ hd hrun
    obtain rfl := Option.some.inj hrun
    rwa [List.append_nil]
  | cons action rest ih =>
    intro before d hbefore hd hrun
    obtain ⟨d', hstep, hrest⟩ := Option.bind_eq_some_iff.mp hrun
    rw [List.append_cons]
    exact ih _ (run_concat hbefore hstep) (keeps hbefore hd hstep) hrest

/-- The outline of a client that has not done anything yet is sound. -/
theorem sound_fresh (config : Config) (listeners : Registry) :
    (fresh config listeners).outline.Sound :=
  (standing_ofConfig config).sound

/-- The outline of a client is sound at every point of every run. -/
theorem sound_of_run {config : Config} {listeners : Registry}
    (h : (fresh config listeners).run actions = some c) : c.outline.Sound :=
  run_keeps (fun sound hstep => (move_of_step hstep).sound sound) (sound_fresh config listeners) h

/-- Whoever makes a connection makes the latest. -/
theorem Attempts.latest (attempts : c.Attempts g) (sound : c.outline.Sound) : g = c.generation := by
  obtain ⟨n, stage, hstage, hattempt⟩ := attempts
  exact (sound.attempting hstage hattempt).1

/-- Dealing with a connection whose generation is not the latest leaves the state alone. -/
theorem Deals.cell_eq (deals : Deals g ops c c') (older : c.cell.generation ≠ g) :
    c'.cell = c.cell := by
  cases hs : c.session? g with
  | none => exact (deals.absent hs).1
  | some s =>
    obtain ⟨s', -, haccount⟩ := deals.exists_session hs
    have hgeneration : s.conn.generation = g := generation_of_session? hs
    have hcell : c'.cell = ((c.account s).link.after ops).cell := congrArg (·.link.cell) haccount
    rw [hcell]
    refine Link.cell_after (l := (c.account s).link) (fun op hop => ?_) fun h => ?_
    · change op.ReportsFor s.conn.generation
      rw [hgeneration]
      exact deals.reports op hop
    · exact older (h.trans hgeneration)

/-- A step that is taken on behalf of an older connection deals with that one. -/
theorem Transition.deals_of_older (transition : Transition c action c') (sound : c.outline.Sound)
    (acts : c.actsFor? action = some g) (older : g < c.generation) : ∃ ops, Deals g ops c c' := by
  -- Nobody who makes a connection acts for an older one.
  have hold : ¬c.Attempts g := fun hattempts => by
    have hlatest := hattempts.latest sound
    omega
  cases transition with
  | @dealt k ops acts' _ _ deals =>
    obtain rfl : g = k := (acts' g acts).resolve_right hold
    exact ⟨ops, deals⟩
  | @asked k op acts' _ _ deals =>
    obtain rfl : g = k := (acts' g acts).resolve_right hold
    exact ⟨[op], deals⟩
  | attempted acts' | made acts' => exact absurd (acts' g acts) hold

/-- The generation of the connection that a step closes to make room for the next. -/
def replaces? (c : Client) : Action → Option Nat
  | .advance n => (c.calls[n]?).bind fun call =>
    match call.stage with
    | .replacing _ => c.current
    | _ => none
  | _ => none

/-- A step that makes room for the next connection closes the one in place, and is a call's. -/
theorem deals_of_replaces (h : c.step action = some c') (replaces : c.replaces? action = some g) :
    (∃ n, action = .advance n) ∧ Deals g [.close] c c' := by
  cases action with
  | advance n =>
    refine ⟨⟨n, rfl⟩, ?_⟩
    dsimp only [step] at h
    unfold advance at h
    obtain ⟨⟨errand, stage⟩, hcall, h⟩ := Option.bind_eq_some_iff.mp h
    rw [replaces?, hcall, Option.bind_some] at replaces
    cases stage with
    | replacing k =>
      have hcurrent : c.current = some g := replaces
      obtain rfl := Option.some.inj h
      have hclose : Deals g [.close] c { c.close g with current := none } :=
        (deals_close c g).trans_nil (.of_eq rfl rfl rfl rfl)
      rw [hcurrent]
      exact hclose.trans_nil (deals_setStage ..)
    | _ => cases replaces
  | _ => cases replaces

/-- Once a newer attempt to connect has begun, no step on behalf of a connection (a frame that
arrives, its end, its connection check, or a call that authenticates, sends a command or closes it)
changes the client's state, another connection with all its requests and authentications, or a call
that is not of the same connection. Nor does the step that closes it to make room for the next,
apart from the call that takes this step. -/
theorem generations_apart (config : Config) (listeners : Registry) (actions : List Action)
    (c c' : Client) (action : Action) (g : Nat)
    (hrun : (fresh config listeners).run actions = some c) (hstep : c.step action = some c')
    (acts : c.actsFor? action = some g ∨ c.replaces? action = some g) (older : g < c.generation) :
    c'.cell = c.cell ∧ (∀ h, h ≠ g → c'.session? h = c.session? h) ∧
      ∀ (n : Nat) (call : Call), c.calls[n]? = some call →
        c'.calls[n]? = some call ∨ call.stage.generation? = some g ∨
          action = .advance n ∧ c.replaces? action = some g := by
  have sound := sound_of_run hrun
  obtain ⟨ops, deals⟩ : ∃ ops, Deals g ops c c' := by
    obtain acts | replaces := acts
    · exact (transition_of_step hstep).deals_of_older sound acts older
    · exact ⟨_, (deals_of_replaces hstep replaces).2⟩
  have hlatest : c.cell.generation = c.generation := sound.latest
  refine ⟨deals.cell_eq (by omega), deals.others, fun n call hcall => ?_⟩
  by_cases taker : action.call? = some n
  · -- The call that takes the step is of the connection, or closes it.
    obtain acts | replaces := acts
    · exact .inr (.inl ((actsFor?_of_call taker hcall).symm.trans acts))
    · obtain ⟨⟨m, rfl⟩, -⟩ := deals_of_replaces hstep replaces
      obtain rfl := Option.some.inj taker
      exact .inr (.inr ⟨rfl, replaces⟩)
  · exact .inl ((moves_of_step hstep).other hcall taker)

/-- The password of a ready client is changed, and accepted just before the server hangs up. Another
call connects again, and is writing its authentication when the first goes on. -/
def superseded : List Action :=
  accepted ++ [.advance 0, .call (.authenticate "secret"), .advance 1, .advance 1, .advance 1,
    .write 1 .written, .frame 1 (Packet.layout Packet.authId .authResponse []), .hangUp 1,
    .call .connect, .advance 2, .advance 2, .dial 2 .stream, .advance 2, .advance 2, .advance 2,
    .advance 2, .advance 2, .advance 2]

/-- The call on the older connection is told that it is authenticated, and the client is not. -/
theorem generations_apart_superseded :
    ∃ c c', (fresh {} {}).run superseded = some c ∧ c.step (.advance 1) = some c' ∧
      c.actsFor? (.advance 1) = some 1 ∧ c.generation = 2 ∧
        c'.calls.map Call.answer? = [some .done, some .done, none] ∧
          c'.cell = ⟨2, .authenticating⟩ ∧ c'.session? 2 = c.session? 2 := by
  have hrun : ((fresh {} {}).run superseded).isSome = true := by decide
  obtain ⟨c, hc⟩ := Option.isSome_iff_exists.mp hrun
  have hfacts : (c.step (.advance 1)).isSome = true ∧ c.actsFor? (.advance 1) = some 1 ∧
      c.generation = 2 ∧ c.cell = ⟨2, .authenticating⟩ ∧
        (c.step (.advance 1)).map (·.calls.map Call.answer?) =
          some [some .done, some .done, none] := by
    obtain rfl := Option.get_of_eq_some hrun hc
    clear hc
    refine ⟨?_, ?_, ?_, ?_, ?_⟩ <;> decide +revert
  obtain ⟨hthere, hacts, hgeneration, hcell, hanswers⟩ := hfacts
  obtain ⟨c', hc'⟩ := Option.isSome_iff_exists.mp hthere
  rw [hc', Option.map_some] at hanswers
  obtain ⟨hsame, hothers, -⟩ :=
    generations_apart {} {} superseded c c' (.advance 1) 1 hc hc' (.inl hacts) (by omega)
  exact ⟨c, c', hc, hc', hacts, hgeneration, Option.some.inj hanswers, hsame.trans hcell,
    hothers 2 (by decide)⟩

end RemoteConsole.Client
