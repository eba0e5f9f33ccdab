import RemoteConsole.CommandLine.Process
import RemoteConsole.Proofs.Client.Login

/-!
# Trying passwords

The program asks for passwords until one is accepted or an attempt fails in another way. How far it
has come with that is a `Situation`, and the situation says what has been replied to, what has been
shown, and what is asked for now. The first password is tried by connecting and the others by
authenticating, and the two report a rejection in different ways; here they are one `attempt`.
-/

namespace RemoteConsole.CommandLine

/-- What a password is tried with: the first connects, the others authenticate. -/
def attempt : (rejected : List String) → (password : String) → Demand
  | [], password => .connect password
  | _ :: _, password => .authenticate password

/-- The reply to an attempt that ends in a certain way. -/
def attemptReply : (rejected : List String) → (password : String) → Except AuthError Unit →
    (attempt rejected password).Reply
  | [], _, result => result.mapError AuthError.toError
  | _ :: _, _, result => result

/-- A password has been tried. -/
def attempted (rejected : List String) (password : String) (result : Except AuthError Unit) :
    Exchange :=
  ⟨attempt rejected password, attemptReply rejected password result⟩

/-- What the answer to the call behind an attempt says about it. -/
def triedWith (rejected : List String) (answer : Answer) : Except AuthError Unit :=
  match rejected with
  | [] =>
    match answer.text with
    | .ok _ => .ok ()
    | .error .authenticationFailed => .error .invalidPassword
    | .error e => .error (.fatal e)
  | _ :: _ => answer.verdict

/-- A password has been typed. -/
def typedAfter (rejected : List String) (password : String) : Exchange :=
  ⟨.password !rejected.isEmpty, password⟩

/-- Passwords have been typed and tried, and all were rejected. -/
def rejections : List String → List Exchange
  | [] => []
  | first :: others =>
    [⟨.password false, first⟩, ⟨.connect first, .error .authenticationFailed⟩] ++
      others.flatMap fun password =>
        [⟨.password true, password⟩, ⟨.authenticate password, .error .invalidPassword⟩]

/-- What has been shown after some rejections: the prompt, and for each rejection a line that says
so and the prompt again. -/
def prompts (address : String) (rejections : Nat) : List Output :=
  .print (Program.passwordPrompt address) ::
    List.replicate rejections (.print ("Invalid password.\n" ++ Program.passwordPrompt address))

/-- How far the program has come with trying passwords. -/
inductive Situation where
  /-- Some were rejected, and it asks for one. -/
  | prompted (rejected : List String)
  /-- Some were rejected, and it tries another. -/
  | trying (rejected : List String) (password : String)
  /-- Some were rejected, and the attempt with another failed. -/
  | failed (rejected : List String) (password : String) (error : Error)
  /-- Some were rejected, and another was accepted. -/
  | admitted (rejected : List String) (password : String)

namespace Situation

/-- The passwords typed so far. -/
def typed : Situation → List String
  | prompted rejected => rejected
  | trying rejected password | failed rejected password _ | admitted rejected password =>
    rejected ++ [password]

/-- The demands that have been replied to, and the replies. -/
def log : Situation → List Exchange
  | prompted rejected => rejections rejected
  | trying rejected password => rejections rejected ++ [typedAfter rejected password]
  | failed rejected password e =>
    rejections rejected ++
      [typedAfter rejected password, attempted rejected password (.error (.fatal e))]
  | admitted rejected password =>
    rejections rejected ++ [typedAfter rejected password, attempted rejected password (.ok ())]

/-- What has been shown. -/
def shown (address : String) : Situation → List Output
  | prompted rejected | trying rejected _ => prompts address rejected.length
  | failed rejected _ e =>
    prompts address rejected.length ++ [.error s!"Connection failed: {e.message}"]
  | admitted rejected _ => prompts address rejected.length ++ (Program.greet address).outputs

/-- What is asked for. -/
def demand : Situation → Demand
  | prompted rejected => .password !rejected.isEmpty
  | trying rejected password => attempt rejected password
  | failed .. => .exit 1
  | admitted .. => .line

/-- Whether lines are read from here on. -/
def isAdmitted : Situation → Bool
  | admitted .. => true
  | _ => false

/-- What an attempt leads to. -/
def resolve (rejected : List String) (password : String) : Except AuthError Unit → Situation
  | .ok () => admitted rejected password
  | .error .invalidPassword => prompted (rejected ++ [password])
  | .error (.fatal e) => failed rejected password e

/-- The program is in a situation. -/
structure Holds (situation : Situation) (address : String) (p : Process) : Prop where
  /-- The address is the one it was started with. -/
  connects : p.address = address
  /-- The demands that have been replied to, and the replies. -/
  log : p.log = situation.log
  /-- What has been shown. -/
  shown : p.shown = situation.shown address
  /-- What is asked for. -/
  demand : p.turn.demand = situation.demand
  /-- The end of the connection is noted from where lines are read. -/
  noting : p.noting = situation.isAdmitted

end Situation

variable {address password : String} {rejected : List String} {situation : Situation}
  {p p' : Process} {event : Process.Event}

theorem rejections_concat (rejected : List String) (password : String) :
    rejections (rejected ++ [password]) = rejections rejected ++
      [typedAfter rejected password, attempted rejected password (.error .invalidPassword)] := by
  cases rejected with
  | nil => rfl
  | cons first others =>
    rw [List.cons_append, rejections, rejections, List.flatMap_append, List.append_assoc]
    rfl

theorem prompts_concat (address : String) (rejected : List String) (password : String) :
    prompts address (rejected ++ [password]).length = prompts address rejected.length ++
      [.print ("Invalid password.\n" ++ Program.passwordPrompt address)] := by
  rw [prompts, prompts, List.length_append, List.length_singleton, List.replicate_succ',
    List.cons_append]

/-- A program that has not heard of the end of the connection goes on with the reply. -/
theorem proceed_of_unheard {c : Client} (unheard : c.heard = []) (address : String)
    (demand : Demand) (reply : demand.Reply) :
    Program.proceed address c demand reply = Program.resume address demand reply :=
  if_neg fun h => h.2 unheard

namespace Situation

/-- Lines are asked for where a password was accepted. -/
theorem isAdmitted_eq (situation : Situation) :
    situation.isAdmitted = (situation.demand == .line) := by
  cases situation with
  | prompted | failed | admitted => rfl
  | trying rejected => cases rejected <;> rfl

/-- The program starts by asking for a password. -/
theorem holds_start (config : Config) : (prompted []).Holds config.address (.start config) :=
  ⟨rfl, rfl, rfl, rfl, rfl⟩

/-- A reply leads from one situation to the next. -/
theorem Holds.goOn {demand : Demand} {reply : demand.Reply} {next : Situation}
    (holds : situation.Holds address p) (unheard : p.client.heard = [])
    (before : situation.isAdmitted = false)
    (hlog : situation.log ++ [⟨demand, reply⟩] = next.log)
    (hshown : situation.shown address ++ (Program.resume address demand reply).outputs =
      next.shown address)
    (hdemand : (Program.resume address demand reply).demand = next.demand) :
    next.Holds address (p.goOn demand reply) := by
  have hproceed : Program.proceed p.address p.client demand reply =
      Program.resume address demand reply := by
    rw [proceed_of_unheard unheard, holds.connects]
  rw [Process.goOn, hproceed, Process.turnTo]
  refine ⟨holds.connects, ?_, ?_, hdemand, ?_⟩
  · rw [← hlog, ← holds.log]
  · rw [← hshown, ← holds.shown]
  · rw [isAdmitted_eq next, ← hdemand, holds.noting, before]
    exact (Bool.false_or _).trans (Bool.and_true _)

/-- A password that is typed is tried. -/
theorem Holds.typed (holds : (prompted rejected).Holds address p) (unheard : p.client.heard = [])
    (password : String) : (trying rejected password).Holds address
      (p.goOn (.password !rejected.isEmpty) password) := by
  refine holds.goOn unheard rfl rfl ?_ ?_
  · cases rejected <;> exact List.append_nil _
  · cases rejected <;> rfl

/-- The end of an attempt leads on. -/
theorem Holds.resolve (holds : (trying rejected password).Holds address p)
    (unheard : p.client.heard = []) {result : Except AuthError Unit}
    (hplain : rejected = [] → result ≠ .error (.fatal .authenticationFailed)) :
    (Situation.resolve rejected password result).Holds address
      (p.goOn (attempt rejected password) (attemptReply rejected password result)) := by
  -- One case for each situation that the attempt may lead to; in each, the first attempt and the
  -- others go on in the same way but for the name of the demand.
  have hlog (result : Except AuthError Unit) :
      (trying rejected password).log ++ [attempted rejected password result] =
        rejections rejected ++ [typedAfter rejected password, attempted rejected password result] :=
    List.append_assoc ..
  match result with
  | .ok () =>
    refine holds.goOn unheard rfl (hlog _) ?_ ?_
    · cases rejected <;> rfl
    · cases rejected <;> rfl
  | .error .invalidPassword =>
    refine holds.goOn unheard rfl ((hlog _).trans (rejections_concat ..).symm) ?_ ?_
    · refine Eq.trans ?_ (prompts_concat address rejected password).symm
      cases rejected <;> rfl
    · cases rejected <;> rfl
  | .error (.fatal e) =>
    have hfail : Program.resume address (attempt rejected password)
        (attemptReply rejected password (.error (.fatal e))) = Program.fail e := by
      cases rejected with
      | nil =>
        have hne : e ≠ .authenticationFailed := fun h => hplain rfl (by rw [h])
        cases e <;> first | exact absurd rfl hne | rfl
      | cons => rfl
    exact holds.goOn unheard rfl (hlog _) (by rw [hfail]; rfl) (by rw [hfail]; rfl)

end Situation

/-- The answer to the call behind an attempt is the reply to it. -/
theorem reply?_attempt (rejected : List String) (password : String) (answer : Answer) :
    (attempt rejected password).reply? answer =
      some (attemptReply rejected password (triedWith rejected answer)) := by
  cases rejected with
  | nil =>
    refine congrArg some ?_
    change answer.text.map _ = Except.mapError _ (triedWith [] answer)
    rw [triedWith]
    cases answer.text with
    | ok => rfl
    | error e => cases e <;> rfl
  | cons => rfl

/-- Connecting does not fail with a rejection. -/
theorem triedWith_ne (answer : Answer) :
    triedWith [] answer ≠ .error (.fatal .authenticationFailed) := by
  rw [triedWith]
  cases answer.text with
  | ok => simp
  | error e => cases e <;> simp

/-! ## Runs that try passwords -/

namespace Process

/-- Whether something holds whenever a step of a run is taken. -/
def always (allowed : Process → Event → Bool) (p : Process) : List Event → Bool
  | [] => true
  | event :: events => allowed p event && (p.step event).all (·.always allowed events)

end Process

namespace Situation

/-- What may come next. A password that is typed is tried, the answer to an attempt decides how it
goes on, and after a failure nothing comes any more. -/
def Leads (address : String) (p : Process) : Situation → Prop
  | prompted rejected => ∀ password, ∃ p', p.step (.typed password) = some p' ∧
      (trying rejected password).Holds address p'
  | trying rejected password => ∀ n call answer, p.call = some n → p.client.calls[n]? = some call →
      call.answer? = some answer → ∃ p', p.step .answered = some p' ∧
        (Situation.resolve rejected password (triedWith rejected answer)).Holds address p'
  | failed .. => ∀ event, p.step event = none
  | admitted .. => True

end Situation

/-- What a step can do while passwords are tried. -/
inductive LoginStep (p : Process) : Situation → Process.Event → Situation → Process → Prop where
  /-- A password is typed. -/
  | typed (rejected : List String) (password : String) : LoginStep p (.prompted rejected)
    (.typed password) (.trying rejected password) (p.goOn (.password !rejected.isEmpty) password)
  /-- The client is called for an attempt. -/
  | called {rejected : List String} {password : String} {errand : Errand} (free : p.call = none)
    (asked : (attempt rejected password).errand? p.client.config = some errand) :
    LoginStep p (.trying rejected password) .called (.trying rejected password) { p with
      client := ((attempt rejected password).prepare p.client).makeCall errand
      call := some p.client.calls.length }
  /-- The answer to an attempt is taken. -/
  | answered {rejected : List String} {password : String} {n : Nat} {call : Call} {answer : Answer}
    (made : p.call = some n) (there : p.client.calls[n]? = some call)
    (answered : call.answer? = some answer) : LoginStep p (.trying rejected password) .answered
    (.resolve rejected password (triedWith rejected answer))
    (p.goOn (attempt rejected password)
      (attemptReply rejected password (triedWith rejected answer)))
  /-- Something happens to the client. -/
  | happened {situation : Situation} {action : Client.Action} {c : Client}
    (own : action.comesAbout = true) (ongoing : p.isOver = false)
    (stepped : p.client.step action = some c) :
    LoginStep p situation (.happened action) situation { p with client := c }

namespace Situation

/-- Before lines are read, a step does one of these things. -/
theorem Holds.loginStep (holds : situation.Holds address p) (before : p.noting = false)
    (h : p.step event = some p') : ∃ situation', LoginStep p situation event situation' p' := by
  obtain ⟨server, client, ⟨outputs, demand⟩, made, noting, log, shown⟩ := p
  obtain rfl : demand = situation.demand := holds.demand
  obtain rfl : noting = false := before
  cases event with
  | typed password =>
    cases situation with
    | prompted rejected =>
      obtain rfl := Option.some.inj h
      exact ⟨_, .typed rejected password⟩
    | trying rejected => cases rejected <;> cases h
    | failed | admitted => cases h
  | entered input =>
    cases situation with
    | admitted => cases holds.noting
    | prompted | failed => cases h
    | trying rejected => cases rejected <;> cases h
  | looked =>
    cases situation with
    | prompted | failed | admitted => cases h
    | trying rejected => cases rejected <;> cases h
  | called =>
    obtain ⟨errand, herrand, h⟩ := Option.bind_eq_some_iff.mp h
    cases situation with
    | trying rejected password =>
      obtain ⟨hfree, h⟩ := Option.ite_none_left_eq_some.mp h
      obtain rfl := Option.some.inj h
      exact ⟨_, .called (Option.not_isSome_iff_eq_none.mp hfree) herrand⟩
    | admitted => cases holds.noting
    | prompted | failed => cases herrand
  | answered =>
    obtain ⟨n, hn, h⟩ := Option.bind_eq_some_iff.mp h
    obtain ⟨call, hcall, h⟩ := Option.bind_eq_some_iff.mp h
    obtain ⟨answer, hanswer, h⟩ := Option.bind_eq_some_iff.mp h
    obtain ⟨reply, hreply, h⟩ := Option.bind_eq_some_iff.mp h
    obtain rfl := Option.some.inj h
    cases situation with
    | trying rejected password =>
      obtain rfl := Option.some.inj ((reply?_attempt rejected password answer).symm.trans hreply)
      exact ⟨_, .answered hn hcall hanswer⟩
    | admitted => cases holds.noting
    | prompted | failed => cases hreply
  | happened action =>
    obtain ⟨hown, h⟩ := Option.ite_none_right_eq_some.mp h
    obtain ⟨c, hc, rfl⟩ := Option.map_eq_some_iff.mp h
    obtain ⟨hown, hongoing⟩ := Bool.and_eq_true_iff.mp hown
    exact ⟨_, .happened hown (by simpa using hongoing) hc⟩
  | cut =>
    rw [Process.step, if_neg fun hcut => Bool.false_ne_true hcut.1] at h
    cases h

end Situation

/-- After a reply, the client is as it was, unless lines are read from there on. -/
theorem client_goOn {next : Situation} {demand : Demand} {reply : demand.Reply}
    (holds : next.Holds address (p.goOn demand reply)) (before : p.noting = false) :
    (p.goOn demand reply).client =
      if next.isAdmitted then Program.noteEnd p.client else p.client := by
  have hclient : (p.goOn demand reply).client =
      if (p.goOn demand reply).turn.demand == .line && !p.noting then Program.noteEnd p.client
      else p.client := rfl
  rw [hclient, holds.demand, ← Situation.isAdmitted_eq, before, Bool.not_false, Bool.and_true]

namespace LoginStep

variable {situation' : Situation}

/-- A step leads to the next situation. -/
theorem holds (step : LoginStep p situation event situation' p') (holds : situation.Holds address p)
    (unheard : p.client.heard = []) : situation'.Holds address p' := by
  cases step with
  | typed rejected password => exact holds.typed unheard password
  | called => exact ⟨holds.connects, holds.log, holds.shown, holds.demand, holds.noting⟩
  | answered =>
    refine holds.resolve unheard ?_
    rintro rfl
    exact triedWith_ne _
  | happened => exact ⟨holds.connects, holds.log, holds.shown, holds.demand, holds.noting⟩

/-- The passwords that have been typed are those before and the one of the step, if there is one. -/
theorem typed_eq (step : LoginStep p situation event situation' p') :
    situation'.typed = situation.typed ++ event.typed?.toList := by
  cases step with
  | typed => rfl
  | called | happened => exact (List.append_nil _).symm
  | @answered rejected password n call answer =>
    refine Eq.trans ?_ (List.append_nil _).symm
    match triedWith rejected answer with
    | .ok () | .error .invalidPassword | .error (.fatal _) => rfl

/-- While passwords are tried, nobody listens to the client. -/
theorem unattended (step : LoginStep p situation event situation' p')
    (holds : situation.Holds address p) (before : p.noting = false)
    (unattended : p.client.Unattended) (after : p'.noting = false) : p'.client.Unattended := by
  have hnext := step.holds holds unattended.heard
  cases step with
  | typed rejected password =>
    rw [client_goOn hnext before]
    exact unattended
  | @called rejected password errand =>
    cases rejected <;> exact ⟨unattended.listeners, unattended.heard⟩
  | answered =>
    rw [client_goOn hnext before, if_neg (by rw [← hnext.noting, after]; exact Bool.false_ne_true)]
    exact unattended
  | happened own ongoing stepped => exact unattended.step stepped

end LoginStep

/-- What one more event adds to what some events say. -/
theorem Process.filterMap_concat {α : Type} (f : Process.Event → Option α)
    (events : List Process.Event) (event : Process.Event) :
    (events ++ [event]).filterMap f = events.filterMap f ++ (f event).toList := by
  rw [List.filterMap_append]
  cases h : f event with
  | none => rw [List.filterMap_cons_none h]; rfl
  | some a => rw [List.filterMap_cons_some h]; rfl

/-- What every step keeps that is allowed, of the events so far and of the program after them, a run
keeps of such steps. -/
theorem Process.run_keeps {q : List Process.Event → Process → Prop}
    {allowed : Process → Process.Event → Bool} {events : List Process.Event}
    (keeps : ∀ {before : List Process.Event} {p p' : Process} {event : Process.Event}, q before p →
      allowed p event = true → p.step event = some p' → q (before ++ [event]) p')
    (start : q [] p) (hallowed : p.always allowed events = true) (h : p.run events = some p') :
    q events p' := by
  -- The induction is on the events that are left, whatever came before them.
  suffices hrest : ∀ (rest before : List Process.Event) {p : Process}, q before p →
      p.always allowed rest = true → p.run rest = some p' → q (before ++ rest) p' from
    hrest events [] start hallowed h
  intro rest
  induction rest with
  | nil =>
    intro before p hq _ hrun
    obtain rfl := Option.some.inj hrun
    rwa [List.append_nil]
  | cons event rest ih =>
    intro before p hq hallowed hrun
    obtain ⟨next, hstep, hrun⟩ := Option.bind_eq_some_iff.mp hrun
    obtain ⟨hnow, hlater⟩ := Bool.and_eq_true_iff.mp hallowed
    rw [hstep, Option.all_some] at hlater
    rw [List.append_cons]
    exact ih _ (keeps hq hnow hstep) hlater hrun

/-- The program tries passwords: after some events it is in a situation that says which were typed,
and nobody listens to its client before lines are read. -/
structure LoggingIn (address : String) (events : List Process.Event) (situation : Situation)
    (p : Process) : Prop where
  /-- The situation. -/
  holds : situation.Holds address p
  /-- The passwords that were typed. -/
  typed : situation.typed = events.filterMap Process.Event.typed?
  /-- Nobody listens. -/
  unattended : p.noting = false → p.client.Unattended

variable {events : List Process.Event}

theorem loggingIn_start (config : Config) :
    LoggingIn config.address [] (.prompted []) (.start config) :=
  ⟨Situation.holds_start config, rfl, fun _ => ⟨rfl, rfl⟩⟩

/-- The program goes on trying passwords. -/
theorem LoggingIn.step {situation' : Situation} (login : LoggingIn address events situation p)
    (before : p.noting = false) (step : LoginStep p situation event situation' p') :
    LoggingIn address (events ++ [event]) situation' p' where
  holds := step.holds login.holds (login.unattended before).heard
  typed := by
    rw [step.typed_eq, login.typed, Process.filterMap_concat]
  unattended := step.unattended login.holds before (login.unattended before)

/-- What may come next can come. -/
theorem LoggingIn.leads (login : LoggingIn address events situation p) :
    situation.Leads address p := by
  obtain ⟨holds, -, unattended⟩ := login
  have hunheard (before : situation.isAdmitted = false) : p.client.heard = [] :=
    (unattended (holds.noting.trans before)).heard
  obtain ⟨server, client, ⟨outputs, demand⟩, made, noting, log, shown⟩ := p
  obtain rfl : demand = situation.demand := holds.demand
  cases situation with
  | prompted rejected => exact fun password => ⟨_, rfl, holds.typed (hunheard rfl) password⟩
  | trying rejected password =>
    rintro n call answer rfl hcall hanswer
    refine ⟨_, ?_, holds.resolve (hunheard rfl) ?_⟩
    · change Process.takeAnswer _ = _
      rw [Process.takeAnswer]
      simp only [Option.bind_eq_bind, Option.bind_some, hcall, hanswer]
      change Option.bind ((attempt rejected password).reply? answer) _ = _
      rw [reply?_attempt]
      rfl
    · rintro rfl
      exact triedWith_ne answer
  | failed rejected password e =>
    intro event
    cases event with
    | typed | entered | looked | called => rfl
    | answered =>
      refine Option.eq_none_iff_forall_ne_some.mpr fun p' h => ?_
      obtain ⟨n, -, h⟩ := Option.bind_eq_some_iff.mp h
      obtain ⟨call, -, h⟩ := Option.bind_eq_some_iff.mp h
      obtain ⟨answer, -, h⟩ := Option.bind_eq_some_iff.mp h
      cases h
    | happened action =>
      rw [Process.step, if_neg]
      rw [Bool.and_eq_true]
      exact fun h => nomatch h.2
    | cut =>
      rw [Process.step, if_neg]
      exact fun h => nomatch h.2.2.2
  | admitted => trivial

end RemoteConsole.CommandLine
