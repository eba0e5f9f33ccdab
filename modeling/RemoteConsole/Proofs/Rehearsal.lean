import RemoteConsole.CommandLine.Process
import RemoteConsole.Proofs.Client.Generations
import RemoteConsole.Rehearsal.Terminal

/-!
# Rehearsals are runs

Whatever a scripted server does, a world only ever lets its client take steps (`World.Leads`), and
what the program does at a terminal is one of its runs (`Terminal.run_of_program`). So whatever holds
of all runs of the program holds of every rehearsal that ends.
-/

namespace RemoteConsole.Rehearsal

/-! ## Worlds -/

namespace World

variable {w w' w'' : World} {action : Client.Action} {goal : Goal} {stop : Until}

/-- The client of one world gets to be that of another by steps that come about by themselves. -/
def Leads (w w' : World) : Prop :=
  ∃ actions : List Client.Action, (∀ action ∈ actions, action.comesAbout = true) ∧
    w.client.run actions = some w'.client

theorem leads_of_client_eq (h : w'.client = w.client) : w.Leads w' :=
  ⟨[], fun _ h => absurd h List.not_mem_nil, congrArg some h.symm⟩

theorem Leads.trans (h : w.Leads w') (h' : w'.Leads w'') : w.Leads w'' := by
  obtain ⟨actions, own, hrun⟩ := h
  obtain ⟨later, own', hrun'⟩ := h'
  refine ⟨actions ++ later, fun action haction => ?_, ?_⟩
  · exact (List.mem_append.mp haction).elim (own action) (own' action)
  · rw [Client.run_append hrun, hrun']

theorem leads_of_act (own : action.comesAbout = true) (h : w.act action = some w') :
    w.Leads w' := by
  obtain ⟨c, hc, rfl⟩ := Option.map_eq_some_iff.mp h
  refine ⟨[action], fun other hother => ?_, ?_⟩
  · rw [List.mem_singleton.mp hother]
    exact own
  · rw [Client.run, hc]
    rfl

/-- What comes after a step of the client may be about anything but the client. -/
theorem leads_of_map {f : World → World} (h : (w.act action).map f = some w')
    (own : action.comesAbout = true) (hf : ∀ w, (f w).client = w.client) : w.Leads w' := by
  obtain ⟨next, hnext, rfl⟩ := Option.map_eq_some_iff.mp h
  exact (leads_of_act own hnext).trans (leads_of_client_eq (hf next))

theorem exists_of_firstOf {α : Type} {f : α → Option World} {choices : List α}
    (h : firstOf f choices = some w') : ∃ a ∈ choices, f a = some w' := by
  induction choices with
  | nil => cases h
  | cons a rest ih =>
    obtain h | ⟨-, h⟩ := Option.or_eq_some_iff.mp h
    · exact ⟨a, List.mem_cons_self, h⟩
    · obtain ⟨b, hb, h⟩ := ih h
      exact ⟨b, List.mem_cons_of_mem a hb, h⟩

theorem comesAbout_timeUp (n : Nat) (stage : Stage) :
    (Client.timeUp n stage).comesAbout = true := by
  cases stage <;> rfl

theorem leads_of_stepDial {n generation : Nat} (h : w.stepDial n generation = some w') :
    w.Leads w' := by
  rw [stepDial] at h
  split at h
  · exact leads_of_act rfl h
  · split_ifs at h
    · exact leads_of_act rfl h
    · exact leads_of_map h rfl fun _ => rfl

theorem leads_of_stepCall {n : Nat} (h : w.stepCall n = some w') : w.Leads w' := by
  obtain ⟨call, -, h⟩ := Option.bind_eq_some_iff.mp h
  split at h
  · exact leads_of_stepDial h
  · exact leads_of_act rfl h
  · exact leads_of_act rfl h
  · obtain h | ⟨-, h⟩ := Option.or_eq_some_iff.mp h
    · exact leads_of_act rfl h
    · split_ifs at h
      exact leads_of_act (comesAbout_timeUp n _) h

theorem leads_of_stepWatch {s : Session} (h : w.stepWatch s = some w') : w.Leads w' := by
  rw [stepWatch] at h
  split at h
  · cases h
  · obtain h | ⟨-, h⟩ := Option.or_eq_some_iff.mp h
    · exact leads_of_act rfl h
    · exact leads_of_act rfl h
  · exact leads_of_act rfl h

theorem leads_of_stepWire {wire : Wire} (h : w.stepWire wire = some w') : w.Leads w' := by
  obtain ⟨s, -, h⟩ := Option.bind_eq_some_iff.mp h
  split at h
  · exact leads_of_act rfl h
  · split at h
    · exact leads_of_act rfl h
    · exact leads_of_map h rfl fun _ => rfl
    · split_ifs at h
      exact leads_of_act rfl h

theorem leads_of_stepServer (h : w.stepServer = some w') : w.Leads w' := by
  -- The server has no hold on the client but by the bytes that it puts on a wire.
  refine leads_of_client_eq ?_
  rw [stepServer] at h
  split at h
  · cases h
  · split_ifs at h
    obtain rfl := Option.some.inj h
    rfl
  · obtain rfl := Option.some.inj h
    rfl
  · obtain ⟨wire, -, h⟩ := Option.bind_eq_some_iff.mp h
    obtain ⟨frame, -, h⟩ := Option.bind_eq_some_iff.mp h
    obtain rfl := Option.some.inj h
    rfl
  · dsimp only at h
    split at h
    · split_ifs at h <;> (obtain rfl := Option.some.inj h; rfl)
    · obtain rfl := Option.some.inj h
      rfl
  · dsimp only at h
    split at h <;> (obtain rfl := Option.some.inj h; rfl)

theorem leads_of_step? (h : w.step? = some w') : w.Leads w' := by
  obtain h | ⟨-, h⟩ := Option.or_eq_some_iff.mp h
  · obtain ⟨n, -, h⟩ := exists_of_firstOf h
    exact leads_of_stepCall h
  obtain h | ⟨-, h⟩ := Option.or_eq_some_iff.mp h
  · obtain ⟨s, -, h⟩ := exists_of_firstOf h
    exact leads_of_stepWatch h
  obtain h | ⟨-, h⟩ := Option.or_eq_some_iff.mp h
  · obtain ⟨wire, -, h⟩ := exists_of_firstOf h
    exact leads_of_stepWire h
  · exact leads_of_stepServer h

theorem leads_of_getD (own : action.comesAbout = true) : w.Leads ((w.act action).getD w) := by
  cases h : w.act action with
  | none => exact leads_of_client_eq rfl
  | some w' => exact leads_of_act own h

theorem leads_fire (timer : Timer) : w.Leads (w.fire timer) := by
  cases timer with
  | call n stage => exact leads_of_getD (comesAbout_timeUp n stage)
  | watch generation watch =>
    cases watch with
    | sleeping => exact leads_of_getD rfl
    | _ => exact leads_of_getD rfl
  | server =>
    refine leads_of_client_eq ?_
    rw [fire, giveUp]
    split <;> rfl

theorem leads_of_tick? (h : w.tick? = some w') : w.Leads w' := by
  obtain ⟨⟨timer, deadline⟩, -, rfl⟩ := Option.map_eq_some_iff.mp h
  change w.Leads (fire _ timer)
  refine Leads.trans ?_ (leads_fire timer)
  exact leads_of_client_eq rfl

theorem leads_runFor (goal : Goal) (stop : Until) (steps : Nat) (w : World) :
    w.Leads (runFor goal stop steps w) := by
  induction steps generalizing w with
  | zero => exact leads_of_client_eq rfl
  | succ steps ih =>
    rw [runFor]
    split
    · rename_i next hstep
      exact (leads_of_step? hstep).trans (ih next)
    · split_ifs
      · exact leads_of_client_eq rfl
      · split
        · rename_i next htick
          exact (leads_of_tick? htick).trans (ih next)
        · exact leads_of_client_eq rfl

/-- Whatever a world is run for, its client takes steps. -/
theorem leads_run (w : World) (goal : Goal) (stop : Until) : w.Leads (w.run goal stop) :=
  leads_runFor goal stop stepLimit w

end World

end RemoteConsole.Rehearsal

namespace RemoteConsole.CommandLine.Process

variable {p p' : Process}

/-! ## Runs of the program -/

theorem run_append {before events : List Process.Event} (h : p.run before = some p') :
    p.run (before ++ events) = p'.run events := by
  induction before generalizing p with
  | nil =>
    obtain rfl := Option.some.inj h
    rfl
  | cons event before ih =>
    obtain ⟨next, hstep, hrun⟩ := Option.bind_eq_some_iff.mp h
    rw [List.cons_append, Process.run, hstep]
    exact ih hrun

/-- While the program is at work, its client takes steps. -/
theorem run_happened {actions : List Client.Action} {c : Client}
    (own : ∀ action ∈ actions, action.comesAbout = true) (h : p.client.run actions = some c)
    (ongoing : p.isOver = false) :
    p.run (actions.map .happened) = some { p with client := c } := by
  induction actions generalizing p with
  | nil =>
    obtain rfl := Option.some.inj h
    rfl
  | cons action actions ih =>
    obtain ⟨next, hstep, hrun⟩ := Option.bind_eq_some_iff.mp h
    have hown := own action List.mem_cons_self
    have hhappened : p.step (.happened action) = some { p with client := next } := by
      rw [Process.step, hown, ongoing, hstep]
      rfl
    rw [List.map_cons, Process.run, hhappened]
    exact ih (fun action haction => own action (List.mem_cons_of_mem _ haction)) hrun ongoing

/-- A program that asks its client for something has not exited. -/
theorem isOver_of_errand? {config : Config} {errand : Errand}
    (h : p.turn.demand.errand? config = some errand) : p.isOver = false := by
  rw [Process.isOver]
  cases hdemand : p.turn.demand with
  | exit code =>
    rw [hdemand] at h
    cases h
  | _ => rfl

end RemoteConsole.CommandLine.Process

namespace RemoteConsole.Rehearsal

/-! ## Terminals -/

open CommandLine

namespace Terminal

variable {t t' : Terminal} {p p' : Process} {address : String} {noting : Bool} {turn : Turn}
  {log : List Exchange} {code : Nat}

/-- A call is made, and while it waits for its end the client takes steps. -/
theorem leads_of_call {errand : Errand} {answer : Answer}
    (h : t.call errand = some (answer, t')) :
    ∃ call, ({ t.world with client := t.world.client.makeCall errand } : World).Leads t'.world ∧
      t' = { t with world := t'.world } ∧
      t'.world.client.calls[t.world.client.calls.length]? = some call ∧
      call.answer? = some answer := by
  obtain ⟨answer', hanswer, h⟩ := Option.map_eq_some_iff.mp h
  obtain ⟨rfl, rfl⟩ := Prod.mk.inj h
  obtain ⟨n, hn, hanswer⟩ := Option.bind_eq_some_iff.mp hanswer
  obtain rfl := Option.some.inj hn
  obtain ⟨call, hcall, hanswer⟩ := Option.bind_eq_some_iff.mp hanswer
  exact ⟨call, World.leads_run .., rfl, hcall, hanswer⟩

/-- A call that is made for a demand leads to the reply. -/
theorem run_of_call {reply : p.turn.demand.Reply} (hclient : p.client = t.world.client)
    (free : p.call = none) {errand : Errand}
    (herrand : p.turn.demand.errand? p.client.config = some errand) {answer : Answer}
    (hcall : (t.onClient p.turn.demand.prepare).call errand = some (answer, t'))
    (hreply : p.turn.demand.reply? answer = some reply) :
    ∃ actions : List Client.Action, p.run (.called :: actions.map .happened ++ [.answered]) =
        some (({ p with client := t'.world.client } : Process).goOn p.turn.demand reply) ∧
      t' = { t with world := t'.world } := by
  obtain ⟨call, ⟨actions, own, hrun⟩, ht', hthere, hanswer⟩ := leads_of_call hcall
  refine ⟨actions, ?_, ht'⟩
  have hcalls : (t.onClient p.turn.demand.prepare).world.client.calls = t.world.client.calls := by
    change (p.turn.demand.prepare t.world.client).calls = t.world.client.calls
    cases p.turn.demand <;> rfl
  rw [hcalls] at hthere
  have hmade : p.step .called = some { p with
      client := (p.turn.demand.prepare t.world.client).makeCall errand
      call := some t.world.client.calls.length } := by
    rw [Process.step, Process.makeCall, herrand, free, hclient]
    rfl
  have htaken : ({ p with
      client := t'.world.client
      call := some t.world.client.calls.length } : Process).step .answered =
        some (({ p with client := t'.world.client } : Process).goOn p.turn.demand reply) := by
    rw [Process.step, Process.takeAnswer]
    simp only [Option.bind_eq_bind, Option.bind_some, hthere, hanswer, hreply]
    rfl
  have hhappened := Process.run_happened (p := { p with
    client := (p.turn.demand.prepare t.world.client).makeCall errand
    call := some t.world.client.calls.length }) own hrun (Process.isOver_of_errand? herrand)
  rw [List.cons_append, Process.run, hmade, Option.bind_some, Process.run_append hhappened,
    Process.run]
  dsimp only
  rw [htaken]
  rfl

/-- What happens to the program at a terminal leads from there to another: the passwords that are
typed are the next ones, and so are the lines that are entered, with nothing after the last. -/
structure Uses (t : Terminal) (events : List Process.Event) (t' : Terminal) : Prop where
  /-- The passwords. -/
  passwords : events.filterMap Process.Event.typed? ++ t'.passwords = t.passwords
  /-- The lines. -/
  input : ∃ n, events.filterMap Process.Event.entered? ++ t'.input.map (·.map some) =
    t.input.map (·.map some) ++ List.replicate n (.ok none)

variable {events later : List Process.Event} {t'' : Terminal}

theorem Uses.trans (uses : Uses t events t') (uses' : Uses t' later t'') :
    Uses t (events ++ later) t'' where
  passwords := by
    rw [List.filterMap_append, List.append_assoc, uses'.passwords, uses.passwords]
  input := by
    obtain ⟨n, hn⟩ := uses.input
    obtain ⟨m, hm⟩ := uses'.input
    refine ⟨n + m, ?_⟩
    rw [List.filterMap_append, List.append_assoc, hm, ← List.append_assoc, hn, List.append_assoc,
      List.replicate_add]

/-- Where no password is typed and no line entered, nothing is used up. -/
theorem uses_of_neither (htyped : events.filterMap Process.Event.typed? = [])
    (hentered : events.filterMap Process.Event.entered? = []) : Uses t events t where
  passwords := by rw [htyped, List.nil_append]
  input := ⟨0, by rw [hentered, List.nil_append, List.replicate_zero, List.append_nil]⟩

/-- What happens to the client uses nothing up. -/
theorem uses_happened (actions : List Client.Action) : Uses t (actions.map .happened) t := by
  refine uses_of_neither (List.filterMap_eq_nil_iff.mpr ?_) (List.filterMap_eq_nil_iff.mpr ?_)
  · intro event hevent
    obtain ⟨action, -, rfl⟩ := List.mem_map.mp hevent
    rfl
  · intro event hevent
    obtain ⟨action, -, rfl⟩ := List.mem_map.mp hevent
    rfl

/-- What the client sees to is done by a call. -/
theorem perform_of_errand? {demand : Demand} {errand : Errand}
    (herrand : demand.errand? t.world.client.config = some errand) :
    t.perform demand = (do
      let (answer, t') ← (t.onClient demand.prepare).call errand
      return (← demand.reply? answer, t')) := by
  cases demand with
  | password | line | state | exit => cases herrand
  | connect | authenticate | send | disconnect =>
    obtain rfl := Option.some.inj herrand
    rfl

/-- The reply to a demand that the client sees to comes about by a run of the program. -/
theorem run_of_perform_errand {reply : p.turn.demand.Reply} {errand : Errand}
    (hclient : p.client = t.world.client) (free : p.call = none)
    (herrand : p.turn.demand.errand? t.world.client.config = some errand)
    (h : t.perform p.turn.demand = some (reply, t')) :
    ∃ events, p.run events =
        some (({ p with client := t'.world.client } : Process).goOn p.turn.demand reply) ∧
      t'.outputs = t.outputs ∧ Uses t events t' := by
  rw [perform_of_errand? herrand] at h
  obtain ⟨⟨answer, next⟩, hcall, h⟩ := Option.bind_eq_some_iff.mp h
  obtain ⟨reply', hreply, h⟩ := Option.bind_eq_some_iff.mp h
  obtain ⟨rfl, rfl⟩ := Prod.mk.inj (Option.some.inj h)
  obtain ⟨actions, hrun, hnext⟩ := run_of_call hclient free (hclient ▸ herrand) hcall hreply
  refine ⟨_, hrun, by rw [hnext], ?_⟩
  have hcalled : Uses t [.called] t := uses_of_neither rfl rfl
  have hanswered : Uses t [.answered] next :=
    ⟨by rw [hnext]; rfl, 0, by rw [hnext]; exact (List.append_nil _).symm⟩
  exact (hcalled.trans (uses_happened actions)).trans hanswered

/-- The reply to a demand comes about by a run of the program. -/
theorem run_of_perform {demand : Demand} {reply : demand.Reply} (hdemand : p.turn.demand = demand)
    (hclient : p.client = t.world.client) (free : p.call = none)
    (h : t.perform demand = some (reply, t')) : ∃ events, p.run events =
        some (({ p with client := t'.world.client } : Process).goOn demand reply) ∧
      t'.outputs = t.outputs ∧ Uses t events t' := by
  obtain ⟨server, client, ⟨outputs, asked⟩, made, noting, log, shown⟩ := p
  obtain rfl : asked = demand := hdemand
  obtain rfl : client = t.world.client := hclient
  obtain rfl : made = none := free
  cases asked with
  | password again =>
    rw [perform] at h
    split at h
    · cases h
    · rename_i typed passwords hpasswords
      obtain ⟨rfl, rfl⟩ := Prod.mk.inj (Option.some.inj h)
      exact ⟨[.typed typed], rfl, rfl, hpasswords.symm, 0, (List.append_nil _).symm⟩
  | line =>
    obtain ⟨actions, own, hrun⟩ := World.leads_run t.world (.calls []) .goalReached
    have hhappened : Process.run
        ⟨server, t.world.client, ⟨outputs, .line⟩, none, noting, log, shown⟩
        (actions.map .happened) = some _ := Process.run_happened own hrun rfl
    have hwaits : Uses t (actions.map .happened) t := uses_happened actions
    rw [perform] at h
    dsimp only at h
    split at h
    · rename_i line input hinput
      obtain ⟨rfl, rfl⟩ := Prod.mk.inj (Option.some.inj h)
      refine ⟨actions.map .happened ++ [.entered (.ok (some line))], ?_, rfl, hwaits.trans ?_⟩
      · rw [Process.run_append hhappened]
        rfl
      · exact ⟨rfl, 0, by rw [hinput]; exact (List.append_nil _).symm⟩
    · rename_i e input hinput
      obtain ⟨rfl, rfl⟩ := Prod.mk.inj (Option.some.inj h)
      refine ⟨actions.map .happened ++ [.entered (.error e)], ?_, rfl, hwaits.trans ?_⟩
      · rw [Process.run_append hhappened]
        rfl
      · exact ⟨rfl, 0, by rw [hinput]; exact (List.append_nil _).symm⟩
    · rename_i hinput
      split_ifs at h
      obtain ⟨rfl, rfl⟩ := Prod.mk.inj (Option.some.inj h)
      refine ⟨actions.map .happened ++ [.entered (.ok none)], ?_, rfl, hwaits.trans ?_⟩
      · rw [Process.run_append hhappened]
        rfl
      · exact ⟨rfl, 1, by rw [hinput]; rfl⟩
  | state =>
    obtain ⟨rfl, rfl⟩ := Prod.mk.inj (Option.some.inj h)
    exact ⟨[.looked], rfl, rfl, rfl, 0, (List.append_nil _).symm⟩
  | connect | authenticate | send | disconnect => exact run_of_perform_errand rfl rfl rfl h
  | exit => cases h

/-- The program at a terminal, when it has shown what it shows in a turn. -/
def process (t : Terminal) (address : String) (noting : Bool) (turn : Turn) (log : List Exchange) :
    Process :=
  Process.turnTo { address, client := t.world.client, turn, noting, log, shown := t.outputs } turn

theorem client_process : (t.process address noting turn log).client =
    (t.shows noting turn).world.client := by
  rw [process, Process.turnTo, shows, Bool.and_comm]
  split <;> rfl

theorem demand_process : (t.process address noting turn log).turn.demand = turn.demand :=
  rfl

theorem noting_process : (t.process address noting turn log).noting =
    (noting || turn.demand == .line) := by
  change (noting || (turn.demand == .line && !noting)) = _
  cases noting <;> simp

theorem shown_process : (t.process address noting turn log).shown =
    (t.shows noting turn).outputs := by
  rw [shows]
  split <;> rfl

theorem isOver_process (hexit : ∀ code, turn.demand ≠ .exit code) :
    (t.process address noting turn log).isOver = false := by
  rw [Process.isOver, demand_process]
  split
  · rename_i code hdemand
    exact absurd hdemand (hexit code)
  · rfl

theorem uses_shows : Uses t [] (t.shows noting turn) := by
  rw [shows]
  split <;> exact ⟨rfl, 0, (List.append_nil _).symm⟩

/-- The program turns to something else at another terminal. -/
theorem turnTo_eq_process (hshown : p.shown = t'.outputs) :
    ({ p with client := t'.world.client } : Process).turnTo turn =
      t'.process p.address p.noting turn p.log := by
  rw [process, ← hshown]
  rfl

/-- The program goes on after a reply, at another terminal. -/
theorem goOn_eq_process {demand : Demand} {reply : demand.Reply} (hshown : p.shown = t'.outputs) :
    ({ p with client := t'.world.client } : Process).goOn demand reply =
      t'.process p.address p.noting (Program.proceed p.address t'.world.client demand reply)
        (p.log ++ [⟨demand, reply⟩]) :=
  turnTo_eq_process (p := { p with log := p.log ++ [⟨demand, reply⟩] }) hshown

/-- The end of the connection ends the program by a run. -/
theorem run_of_awaitEnd (hclient : p.client = t.world.client) (hnoting : p.noting = true)
    (hdemand : p.turn.demand ≠ .disconnect) (ongoing : p.isOver = false)
    (hheard : t.awaitEnd.world.client.heard ≠ []) : ∃ events, p.run events =
        some (({ p with client := t.awaitEnd.world.client } : Process).turnTo Program.cut) ∧
      Uses t events t.awaitEnd := by
  obtain ⟨actions, own, hrun⟩ := World.leads_run t.world .disconnected .goalReached
  refine ⟨actions.map .happened ++ [.cut], ?_, (uses_happened actions).trans ?_⟩
  · rw [Process.run_append (Process.run_happened own (hclient ▸ hrun) ongoing), Process.run,
      Process.step, if_pos ⟨hnoting, hheard, hdemand, ongoing⟩]
    rfl
  · exact ⟨rfl, 0, (List.append_nil _).symm⟩

/-- To run the program at a terminal is to run it. -/
theorem run_of_runProgram {steps : Nat} (h : runProgram address steps noting turn t = (code, t'))
    (hcode : code ≠ crashCode) : ∃ events p,
      (t.process address noting turn log).run events = some p ∧
        p.turn.demand = .exit code ∧ p.shown = t'.outputs ∧ Uses t events t' := by
  induction steps generalizing noting turn t log with
  | zero => exact absurd (Prod.mk.inj h).1.symm hcode
  | succ steps ih =>
    rw [runProgram] at h
    dsimp only at h
    split at h
    · rename_i code' hdemand
      obtain ⟨rfl, rfl⟩ := Prod.mk.inj h
      exact ⟨[], _, rfl, hdemand, shown_process, uses_shows⟩
    · rename_i hexit
      split at h
      · -- No reply comes, so the program crashes, or the end of the connection ends it.
        split_ifs at h with hnoting hheard
        · exact absurd (Prod.mk.inj h).1.symm hcode
        · obtain ⟨hnoting, hdemand⟩ := Bool.and_eq_true_iff.mp hnoting
          obtain ⟨events, hrun, huses⟩ := run_of_awaitEnd
            (p := t.process address noting turn log) client_process
            (noting_process.trans hnoting) (bne_iff_ne.mp hdemand) (isOver_process hexit)
            (mt List.isEmpty_iff.mpr hheard)
          obtain ⟨later, p, hlater, hend, hshown, huses'⟩ := ih h
          refine ⟨events ++ later, p, ?_, hend, hshown, (uses_shows.trans huses).trans huses'⟩
          have houtputs : (t.process address noting turn log).shown =
              (t.shows noting turn).awaitEnd.outputs := shown_process
          rw [Process.run_append hrun, turnTo_eq_process houtputs, noting_process]
          exact hlater
        · exact absurd (Prod.mk.inj h).1.symm hcode
      · rename_i reply next hperform
        obtain ⟨events, hrun, houtputs, huses⟩ := run_of_perform
          (p := t.process address noting turn log) demand_process client_process rfl hperform
        obtain ⟨later, p, hlater, hend, hshown, huses'⟩ := ih h
        refine ⟨events ++ later, p, ?_, hend, hshown, (uses_shows.trans huses).trans huses'⟩
        rw [Process.run_append hrun, goOn_eq_process (shown_process.trans houtputs.symm),
          noting_process]
        exact hlater

/-- Every rehearsal of the program that ends with an exit code is a run of it, in which the
passwords that are typed and the lines that are entered are those at the terminal, in order. -/
theorem run_of_program {config : Config} (fresh : t.world.client = .ofConfig config)
    (blank : t.outputs = []) (h : t.program config.address = (code, t'))
    (hcode : code ≠ crashCode) : ∃ events p, (Process.start config).run events = some p ∧
      p.turn.demand = .exit code ∧ p.shown = t'.outputs ∧ Uses t events t' := by
  have hstart : t.process config.address false (Program.start config.address) [] =
      Process.start config := by
    rw [process, fresh, blank]
    rfl
  obtain ⟨hend, rfl⟩ := Prod.mk.inj h
  have hprogram : runProgram config.address t.demandLimit false (Program.start config.address) t =
      (code, (runProgram config.address t.demandLimit false
        (Program.start config.address) t).2) := Prod.ext hend rfl
  obtain ⟨events, p, hrun, hend, hshown, huses⟩ := run_of_runProgram hprogram hcode
  exact ⟨events, p, hstart ▸ hrun, hend, hshown, huses.passwords, huses.input⟩

end Terminal

end RemoteConsole.Rehearsal
