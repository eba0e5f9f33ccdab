import RemoteConsole.Proofs.CommandLine.Passwords

/-!
# Being admitted

What the program does while it tries passwords in front of a server that takes connections and
answers every password, and that it gets to an end. How its client stands in a situation is told by
`Stands`, with the number of steps that an attempt has to go: `Stands.step` says what a step of the
program does to it, and the rest follows for whole runs.
-/

namespace RemoteConsole.CommandLine

open Client (Attempt Idle Trying Progress)

/-! ## Events in front of a server -/

namespace Process

/-- Whether an event is in keeping with a server that takes connections, lets everything be written
on them, answers each password once and in time, and closes nothing. -/
def served (p : Process) : Event → Bool
  | .happened action => p.client.served action
  | _ => true

/-- The verdict on a password that an event brings, if it brings one. -/
def Event.verdict? (e : Encoding) : Event → Option Bool
  | .happened action => action.verdict? e
  | _ => none

/-- Whether an event is that a frame arrives. -/
def Event.isFrame : Event → Bool
  | .happened (.frame ..) => true
  | _ => false

end Process

variable {config : Config} {address password : String} {rejected : List String}
  {situation situation' : Situation} {p p' : Process} {event : Process.Event}
  {events : List Process.Event} {verdicts : List Bool} {a : Attempt} {progress : Progress}
  {left : Nat}

/-! ## The client in a situation -/

/-- An attempt is the one that the program makes with a configuration. -/
structure Makes (config : Config) (a : Attempt) : Prop where
  /-- The configuration of its client differs in the password at most. -/
  configured : ∃ first, a.config = { config with password := first }
  /-- Its call is the one for the password. -/
  errand : (attempt a.rejected a.password).errand? config = some a.errand

/-- How the client stands in a situation, with the verdicts so far and the number of steps that are
to come before the next password is asked for. -/
inductive Stands (config : Config) (p : Process) : Situation → List Bool → Nat → Prop where
  | prompted {rejected : List String} (idle : Idle config rejected p.client) (free : p.call = none) :
    Stands config p (.prompted rejected) (List.replicate rejected.length false) 0
  | submitted {rejected : List String} {password : String} (idle : Idle config rejected p.client)
    (free : p.call = none) :
    Stands config p (.trying rejected password) (List.replicate rejected.length false) 13
  | trying {a : Attempt} {progress : Progress} {left : Nat} (makes : Makes config a)
    (trying : Trying a progress left p.client) (made : p.call = some a.number) :
    Stands config p (.trying a.rejected a.password)
      (List.replicate a.rejected.length false ++ progress.verdict?.toList) left
  | failed {a : Attempt} {written : Bytes} {e : Error}
    (tooLarge : (Packet.ofPassword a.password).encode config.encoding config.maxPacketSize =
      .error e)
    (dropped : p.client =
      a.ended (a.errand.refusal (.fatal e)) .authenticating (a.dropped written)) :
    Stands config p (.failed a.rejected a.password e) (List.replicate a.rejected.length false) 0
  | admitted {a : Attempt} {written : Bytes}
    (accepted : p.client = Program.noteEnd (a.ended .done .ready (a.answered written true))) :
    Stands config p (.admitted a.rejected a.password)
      (List.replicate a.rejected.length false ++ [true]) 0

/-- What the refusal of an attempt says of it. -/
theorem triedWith_refusal (makes : Makes config a) {error : AuthError}
    (hplain : error ≠ .fatal .authenticationFailed) :
    triedWith a.rejected (a.errand.refusal error) = .error error := by
  have herrand := makes.errand
  cases hrejected : a.rejected with
  | nil =>
    rw [hrejected] at herrand
    rw [← Option.some.inj herrand]
    cases error with
    | invalidPassword => rfl
    | fatal e => cases e <;> first | exact absurd rfl hplain | rfl
  | cons =>
    rw [hrejected] at herrand
    rw [← Option.some.inj herrand]
    rfl

/-- A call for an attempt begins one. -/
theorem begins_of_idle {c : Client} {errand : Errand} (idle : Idle config rejected c)
    (unchecked : config.checkInterval = none)
    (asked : (attempt rejected password).errand? c.config = some errand) :
    ∃ a left, Makes config a ∧ a.rejected = rejected ∧ a.password = password ∧ left < 13 ∧
      a.number = c.calls.length ∧
      Trying a .unsent left (((attempt rejected password).prepare c).makeCall errand) := by
  cases idle with
  | fresh =>
    obtain rfl := Option.some.inj asked
    exact ⟨.first { config with password } unchecked, 12, ⟨⟨password, rfl⟩, rfl⟩, rfl, rfl,
      by decide, rfl, .opening .waiting⟩
  | @tried first previous _ done written retried finished =>
    obtain ⟨earlier, others, rfl⟩ := List.exists_cons_of_ne_nil retried
    obtain rfl := Option.some.inj asked
    let a : Attempt := {
      config := { config with password := first }
      unchecked, done, finished
      errand := .authenticate password
      authenticates := nofun
      connecting := none
      connects := .inl rfl
      rejected := earlier :: others
      password }
    exact ⟨a, 6, ⟨⟨first, rfl⟩, rfl⟩, rfl, rfl, by decide, rfl, .waiting a written⟩

/-- What the answer to an attempt leads to. -/
theorem Stands.answered {answer : Answer} {call : Call} {result : Except AuthError Unit}
    (makes : Makes config a) (trying : Trying a progress left p.client)
    (hcall : p.client.calls[a.number]? = some call) (hanswer : call.answer? = some answer)
    (hresult : triedWith a.rejected answer = result) (hfree : p'.call = none)
    (hclient : p'.client = if (Situation.resolve a.rejected a.password result).isAdmitted then
      Program.noteEnd p.client else p.client) :
    Stands config p' (.resolve a.rejected a.password result)
      (List.replicate a.rejected.length false ++ progress.verdict?.toList) 0 := by
  have hover := trying.isOver_of_answer hcall hanswer
  have hends {answer' : Answer}
      (h : p.client.calls[a.number]? = some ⟨a.errand, .finished answer'⟩) :
      triedWith a.rejected answer' = result := by
    obtain rfl := Option.some.inj (h.symm.trans hcall)
    obtain rfl := Option.some.inj hanswer
    exact hresult
  obtain ⟨first, hconfig⟩ := makes.configured
  -- The attempt is over, and each of the three ways in which it can be leads to a situation.
  generalize p.client = c at trying hends hclient
  cases trying with
  | opening | waiting | looking | beginning | writing | posted | answered => cases hover
  | accepted a written =>
    have hdone : triedWith a.rejected .done = .ok () := by cases a.rejected <;> rfl
    obtain rfl := hdone.symm.trans (hends Attempt.calls_ended)
    exact .admitted hclient
  | rejected a written =>
    have hplain : AuthError.invalidPassword ≠ .fatal .authenticationFailed := by decide
    obtain rfl := (triedWith_refusal makes hplain).symm.trans (hends Attempt.calls_ended)
    have hverdicts : List.replicate a.rejected.length false ++ [false] =
        List.replicate (a.rejected ++ [a.password]).length false := by
      rw [List.length_append, List.length_singleton, List.replicate_succ']
    change Stands config p' _ (List.replicate a.rejected.length false ++ [false]) 0
    rw [hverdicts]
    exact .prompted (hclient ▸ Idle.of_rejected hconfig) hfree
  | @unsendable a written e tooLarge =>
    have hplain : AuthError.fatal e ≠ .fatal .authenticationFailed := by
      intro h
      obtain rfl := AuthError.fatal.inj h
      rw [Packet.encode] at tooLarge
      split_ifs at tooLarge
      cases tooLarge
    obtain rfl := (triedWith_refusal makes hplain).symm.trans (hends Attempt.calls_ended)
    rw [hconfig] at tooLarge
    change Stands config p' _ (List.replicate a.rejected.length false ++ []) 0
    rw [List.append_nil]
    exact .failed tooLarge hclient

/-- What a step in front of such a server does to the client. Every step but a frame uses up one that
is to come, and each password that is typed brings some more. -/
theorem Stands.step (stands : Stands config p situation verdicts left)
    (unchecked : config.checkInterval = none) (before : p.noting = false)
    (next : situation'.Holds address p') (served : p.served event = true)
    (step : LoginStep p situation event situation' p') :
    ∃ left',
      Stands config p' situation' (verdicts ++ (event.verdict? config.encoding).toList) left' ∧
        [event].countP (!·.isFrame) + left' ≤ left + 14 * event.typed?.toList.length := by
  cases step with
  | typed rejected password =>
    cases stands with
    | prompted idle free =>
      refine ⟨13, ?_, le_refl 14⟩
      rw [Process.Event.verdict?, Option.toList_none, List.append_nil]
      · exact .submitted ((client_goOn next before).symm ▸ idle) rfl
      · exact nofun
  | @called rejected password errand free asked =>
    cases stands with
    | submitted idle =>
      obtain ⟨a, left', makes, rfl, rfl, hlt, hnumber, trying⟩ :=
        begins_of_idle idle unchecked asked
      refine ⟨left', ?_, (Nat.add_comm ..).trans_le hlt⟩
      change Stands config _ _ (_ ++ Progress.unsent.verdict?.toList) _
      exact .trying makes trying (congrArg some hnumber.symm)
    | trying makes trying made =>
      rw [made] at free
      cases free
  | @answered rejected password n call answer made there answered =>
    cases stands with
    | submitted idle free =>
      rw [free] at made
      cases made
    | trying makes trying made' =>
      obtain rfl := Option.some.inj (made'.symm.trans made)
      refine ⟨0, ?_, trying.left_pos⟩
      rw [Process.Event.verdict?, Option.toList_none, List.append_nil]
      · exact .answered makes trying there answered rfl rfl (client_goOn next before)
      · exact nofun
  | @happened _ action c own ongoing stepped =>
    cases stands with
    | prompted idle free =>
      obtain ⟨rfl, hverdict, g, bytes, rfl⟩ := idle.step own served stepped
      refine ⟨0, ?_, le_refl 0⟩
      rw [Process.Event.verdict?, hverdict, Option.toList_none, List.append_nil]
      exact .prompted idle free
    | submitted idle free =>
      obtain ⟨rfl, hverdict, g, bytes, rfl⟩ := idle.step own served stepped
      refine ⟨13, ?_, le_refl 13⟩
      rw [Process.Event.verdict?, hverdict, Option.toList_none, List.append_nil]
      exact .submitted idle free
    | @trying a progress left makes trying made =>
      -- A frame may bring the verdict and costs nothing; any other step brings the end nearer.
      by_cases hframe : ∃ g bytes, action = .frame g bytes
      · obtain ⟨g, bytes, rfl⟩ := hframe
        obtain ⟨progress', trying', hverdicts⟩ := trying.step_of_frame served stepped
        have hencoding : a.config.encoding = config.encoding := by
          obtain ⟨first, hconfig⟩ := makes.configured
          rw [hconfig]
        refine ⟨left, ?_, Nat.le_of_eq (Nat.zero_add _)⟩
        rw [List.append_assoc, ← hencoding]
        change Stands config _ _ (_ ++ (_ ++ (Packet.verdictIn? a.config.encoding bytes).toList)) _
        rw [← hverdicts]
        exact .trying makes trying' made
      · have hunframed (g : Nat) (bytes : Bytes) : action ≠ .frame g bytes :=
          fun h => hframe ⟨g, bytes, h⟩
        obtain ⟨progress', left', trying', hverdict, hlt⟩ :=
          trying.step_of_unframed own served hunframed stepped
        have hnone : action.verdict? config.encoding = none := by
          cases action with
          | frame g bytes => exact absurd rfl (hunframed g bytes)
          | _ => rfl
        refine ⟨left', ?_, ?_⟩
        · rw [Process.Event.verdict?, hnone, Option.toList_none, List.append_nil, ← hverdict]
          exact .trying makes trying' made
        · exact (Nat.add_le_add_right List.countP_le_length left').trans
            ((Nat.add_comm ..).trans_le hlt)
    | failed =>
      rw [Process.isOver, (next.demand : p.turn.demand = .exit 1)] at ongoing
      cases ongoing
    | admitted =>
      rw [(next.noting : p.noting = true)] at before
      cases before

/-! ## Runs in front of a server -/

/-- The number of attempts that have ended. -/
def Situation.tried : Situation → Nat
  | prompted rejected | trying rejected _ => rejected.length
  | failed rejected .. | admitted rejected _ => rejected.length + 1

/-- What the server has been sent in a situation, and the verdicts it has given. Each password is
sent once, in the order in which they were typed, and only the last can be accepted. -/
inductive Dealt (config : Config) : Situation → List String → List Bool → Prop where
  | prompted (rejected : List String) :
    Dealt config (.prompted rejected) rejected (List.replicate rejected.length false)
  | unsent (rejected : List String) (password : String) :
    Dealt config (.trying rejected password) rejected (List.replicate rejected.length false)
  | sent (rejected : List String) (password : String) (verdict : Option Bool) :
    Dealt config (.trying rejected password) (rejected ++ [password])
      (List.replicate rejected.length false ++ verdict.toList)
  | failed (rejected : List String) (password : String) {e : Error}
    (tooLarge : (Packet.ofPassword password).encode config.encoding config.maxPacketSize =
      .error e) :
    Dealt config (.failed rejected password e) rejected (List.replicate rejected.length false)
  | admitted (rejected : List String) (password : String) :
    Dealt config (.admitted rejected password) (rejected ++ [password])
      (List.replicate rejected.length false ++ [true])

/-- A client has made one connection at most, and sent nothing but some passwords on it. -/
structure Sends (c : Client) (sent : List String) : Prop where
  /-- It has tried to connect once at most. -/
  generation : c.generation ≤ 1
  /-- There is no connection but from that. -/
  sessions : c.sessions.length ≤ c.generation
  /-- The packets that have been sent. -/
  sent : c.sessions.flatMap (·.sent) = sent.map .ofPassword

/-- What the program has done in front of such a server, after some events. -/
structure Attended (config : Config) (events : List Process.Event) (situation : Situation)
    (p : Process) : Prop where
  /-- It has opened one connection at most, and sent passwords on it. -/
  sends : ∃ sent, Sends p.client sent ∧
    Dealt config situation sent (events.filterMap (·.verdict? config.encoding))
  /-- From the end of the first attempt on there is a connection. -/
  connected : 0 < situation.tried → p.client.sessions.length = 1
  /-- Where a password was accepted, the connection is in place and ready. -/
  ready : situation.isAdmitted = true → p.client.open? = some 1 ∧ p.client.cell.state = .ready
  /-- An attempt goes on until the program has the answer, unless the server owes a verdict. -/
  goesOn : ∀ rejected password, situation = .trying rejected password →
    p.client.owesVerdict 1 = true ∨ ∃ event, p.served event = true ∧ event.isFrame = false ∧
      (p.step event).isSome = true
  /-- It takes so many steps at most, and nothing but frames that arrive comes in between. -/
  bounded : events.countP (!·.isFrame) ≤ 14 * situation.typed.length

theorem sends_connected {calls : List Call} {connecting : Option Nat} {holder : Option Holder}
    {state : ConnectionState} {auth : Option Nat} {attempts : Nat} {written : Bytes}
    {sent : List String} {given : List Verdict} :
    Sends (Client.connected config password calls connecting holder state
      (Client.loginSession config auth attempts written sent given)) sent :=
  ⟨le_rfl, le_rfl, List.append_nil _⟩

/-- What has been sent between two attempts. -/
theorem sends_of_idle {c : Client} (idle : Idle config rejected c) :
    Sends c rejected ∧ (0 < rejected.length → c.sessions.length = 1) := by
  cases idle with
  | fresh => exact ⟨⟨Nat.zero_le 1, le_rfl, rfl⟩, nofun⟩
  | tried => exact ⟨sends_connected, fun _ => rfl⟩

/-- What has been sent during an attempt. -/
theorem deals_of_trying (config : Config) {c : Client} (trying : Trying a progress left c) :
    (∃ sent, Sends c sent ∧ Dealt config (.trying a.rejected a.password) sent
      (List.replicate a.rejected.length false ++ progress.verdict?.toList)) ∧
      (0 < a.rejected.length → c.sessions.length = 1) := by
  have hunsent : Dealt config (.trying a.rejected a.password) a.rejected
      (List.replicate a.rejected.length false ++ []) := by
    rw [List.append_nil]
    exact .unsent ..
  cases trying with
  | opening opens =>
    refine ⟨⟨[], ?_, hunsent⟩, nofun⟩
    cases opens with
    | waiting | looking => exact ⟨Nat.zero_le 1, le_rfl, rfl⟩
    | dialing | dialed | replacing | installing => exact ⟨le_rfl, Nat.zero_le 1, rfl⟩
  | waiting | looking | beginning | writing | unsendable =>
    exact ⟨⟨_, sends_connected, hunsent⟩, fun _ => rfl⟩
  | posted => exact ⟨⟨_, sends_connected, .sent _ _ none⟩, fun _ => rfl⟩
  | answered _ _ accepted => exact ⟨⟨_, sends_connected, .sent _ _ (some accepted)⟩, fun _ => rfl⟩
  | accepted => exact ⟨⟨_, sends_connected, .sent _ _ (some true)⟩, fun _ => rfl⟩
  | rejected => exact ⟨⟨_, sends_connected, .sent _ _ (some false)⟩, fun _ => rfl⟩

/-- An attempt goes on until the program has the answer, unless the server owes a verdict. -/
theorem Stands.goesOn (stands : Stands config p (.trying rejected password) verdicts left)
    (login : LoggingIn address events (.trying rejected password) p) :
    p.client.owesVerdict 1 = true ∨ ∃ event, p.served event = true ∧ event.isFrame = false ∧
      (p.step event).isSome = true := by
  have hdemand : p.turn.demand = attempt rejected password := login.holds.demand
  have hleads := login.leads
  cases stands with
  | submitted idle free =>
    obtain ⟨errand, herrand⟩ : ∃ errand, p.turn.demand.errand? p.client.config = some errand := by
      rw [hdemand]
      cases rejected <;> exact ⟨_, rfl⟩
    refine .inr ⟨.called, rfl, rfl, ?_⟩
    rw [Process.step, Process.makeCall, herrand, free]
    rfl
  | @trying a progress left makes trying made =>
    obtain hover | howes | ⟨action, own, served, unframed, h⟩ := trying.goesOn
    · obtain ⟨call, answer, hcall, hanswer⟩ := trying.exists_answer hover
      obtain ⟨p', hstep, -⟩ := hleads _ call answer made hcall hanswer
      exact .inr ⟨.answered, rfl, rfl, Option.isSome_of_eq_some hstep⟩
    · exact .inl howes
    · obtain ⟨c, hc⟩ := Option.isSome_iff_exists.mp h
      have hongoing : p.isOver = false := by
        rw [Process.isOver, hdemand]
        cases a.rejected <;> rfl
      have hframe : (Process.Event.happened action).isFrame = false := by
        cases action with
        | frame g bytes => exact absurd rfl (unframed g bytes)
        | _ => rfl
      refine .inr ⟨.happened action, served, hframe, ?_⟩
      rw [Process.step, own, hongoing, hc]
      rfl

/-- What the program has done, by how its client stands. -/
theorem Stands.attended
    (stands : Stands config p situation (events.filterMap (·.verdict? config.encoding)) left)
    (login : LoggingIn address events situation p)
    (bounded : events.countP (!·.isFrame) + left ≤ 14 * situation.typed.length) :
    Attended config events situation p where
  sends := by
    generalize events.filterMap (·.verdict? config.encoding) = verdicts at stands
    cases stands with
    | prompted idle => exact ⟨_, (sends_of_idle idle).1, .prompted _⟩
    | submitted idle => exact ⟨_, (sends_of_idle idle).1, .unsent ..⟩
    | trying makes trying => exact (deals_of_trying config trying).1
    | failed tooLarge dropped => exact ⟨_, dropped ▸ sends_connected, .failed _ _ tooLarge⟩
    | admitted accepted =>
      refine ⟨_, ?_, .admitted ..⟩
      rw [accepted]
      exact ⟨le_rfl, le_rfl, List.append_nil _⟩
  connected := by
    generalize events.filterMap (·.verdict? config.encoding) = verdicts at stands
    cases stands with
    | prompted idle | submitted idle => exact (sends_of_idle idle).2
    | trying makes trying => exact (deals_of_trying config trying).2
    | failed tooLarge dropped => exact fun _ => dropped ▸ rfl
    | admitted accepted => exact fun _ => accepted ▸ rfl
  ready := by
    generalize events.filterMap (·.verdict? config.encoding) = verdicts at stands
    cases stands with
    | prompted | submitted | trying | failed => exact nofun
    | admitted accepted => exact fun _ => accepted ▸ ⟨rfl, rfl⟩
  goesOn := by
    rintro rejected password rfl
    exact stands.goesOn login
  bounded := (Nat.le_add_right ..).trans bounded

theorem Process.always_and {first second : Process → Process.Event → Bool}
    (hfirst : p.always first events = true) (hsecond : p.always second events = true) :
    p.always (fun p event => first p event && second p event) events = true := by
  induction events generalizing p with
  | nil => rfl
  | cons event events ih =>
    obtain ⟨hone, hones⟩ := Bool.and_eq_true_iff.mp hfirst
    obtain ⟨htwo, htwos⟩ := Bool.and_eq_true_iff.mp hsecond
    rw [always, hone, htwo]
    cases hstep : p.step event with
    | none => rfl
    | some next =>
      rw [hstep, Option.all_some] at hones htwos
      exact ih hones htwos

/-- The program tries passwords in front of such a server: so its client stands, and so many steps
are to come. -/
structure AttendedTo (config : Config) (events : List Process.Event) (situation : Situation)
    (left : Nat) (p : Process) : Prop where
  /-- It tries passwords. -/
  login : LoggingIn config.address events situation p
  /-- How its client stands. -/
  stands : Stands config p situation (events.filterMap (·.verdict? config.encoding)) left
  /-- Each password that was typed has brought some steps. -/
  paid : events.countP (!·.isFrame) + left ≤ 14 * situation.typed.length

theorem attendedTo_start (config : Config) :
    AttendedTo config [] (.prompted []) 0 (.start config) :=
  ⟨loggingIn_start config, .prompted .fresh rfl, le_rfl⟩

/-- The program goes on in front of such a server. -/
theorem AttendedTo.step (attended : AttendedTo config events situation left p)
    (unchecked : config.checkInterval = none) (before : p.noting = false)
    (served : p.served event = true) (step : LoginStep p situation event situation' p') :
    ∃ left', AttendedTo config (events ++ [event]) situation' left' p' := by
  obtain ⟨login, stands, paid⟩ := attended
  have hlogin := login.step before step
  obtain ⟨left', hstands, hcost⟩ := stands.step unchecked before hlogin.holds served step
  refine ⟨left', hlogin, ?_, ?_⟩
  · rw [Process.filterMap_concat]
    exact hstands
  · have htyped := congrArg List.length step.typed_eq
    rw [List.length_append] at htyped
    rw [List.countP_append]
    omega

/-- Up to the first line, every run tries passwords. -/
theorem loggingIn_of_run (h : (Process.start config).run events = some p)
    (hlogin : (Process.start config).always (fun p _ => !p.noting) events = true) :
    ∃ situation, LoggingIn config.address events situation p := by
  refine Process.run_keeps
    (q := fun events p => ∃ situation, LoggingIn config.address events situation p)
    (fun ⟨_, login⟩ hbefore hstep => ?_) ⟨_, loggingIn_start config⟩ hlogin h
  have hnoting := Bool.not_eq_true' _ ▸ hbefore
  obtain ⟨situation', step⟩ := login.holds.loginStep hnoting hstep
  exact ⟨situation', login.step hnoting step⟩

/-- Up to the first line, every run in front of such a server tries passwords there. -/
theorem attendedTo_of_run (unchecked : config.checkInterval = none)
    (h : (Process.start config).run events = some p)
    (hlogin : (Process.start config).always (fun p _ => !p.noting) events = true)
    (hserved : (Process.start config).always Process.served events = true) :
    ∃ situation left, AttendedTo config events situation left p := by
  refine Process.run_keeps
    (q := fun events p => ∃ situation left, AttendedTo config events situation left p)
    (fun ⟨_, _, attended⟩ hallowed hstep => ?_) ⟨_, _, attendedTo_start config⟩
    (Process.always_and hlogin hserved) h
  obtain ⟨hbefore, hserved⟩ := Bool.and_eq_true_iff.mp hallowed
  have hnoting := Bool.not_eq_true' _ ▸ hbefore
  obtain ⟨situation', step⟩ := attended.login.holds.loginStep hnoting hstep
  exact ⟨situation', attended.step unchecked hnoting hserved step⟩

/-- The program tries the passwords that are typed, in turn, each once, until one is accepted or an
attempt fails in another way: then it reads lines, or exits with code 1. In front of a server that
takes connections, answers every password and closes nothing, it does so on one connection, sends
nothing else there, and does not stop before that. -/
theorem passwords_tried_in_turn (arguments : Arguments) (events : List Process.Event) (p : Process)
    (hrun : (Process.start arguments.config).run events = some p)
    (hlogin : (Process.start arguments.config).always (fun p _ => !p.noting) events = true) :
    ∃ situation, LoggingIn arguments.config.address events situation p ∧
      situation.Leads arguments.config.address p ∧
      ((Process.start arguments.config).always Process.served events = true →
        Attended arguments.config events situation p) := by
  by_cases hserved : (Process.start arguments.config).always Process.served events = true
  · obtain ⟨situation, left, attended⟩ := attendedTo_of_run rfl hrun hlogin hserved
    exact ⟨situation, attended.login, attended.login.leads, fun _ =>
      attended.stands.attended attended.login attended.paid⟩
  · obtain ⟨situation, login⟩ := loggingIn_of_run hrun hlogin
    exact ⟨situation, login, login.leads, fun h => absurd h hserved⟩

/-- A password is typed and rejected, and another is typed and accepted. -/
def secondPassword : List Process.Event :=
  [.typed "wrong", .called, .happened (.advance 0), .happened (.advance 0),
    .happened (.dial 0 .stream), .happened (.advance 0), .happened (.advance 0),
    .happened (.advance 0), .happened (.advance 0), .happened (.advance 0), .happened (.advance 0),
    .happened (.write 0 .written),
    .happened (.frame 1 (Packet.layout Packet.authFailedId .authResponse [])),
    .happened (.advance 0), .answered, .typed "secret", .called, .happened (.advance 1),
    .happened (.advance 1), .happened (.advance 1), .happened (.write 1 .written),
    .happened (.frame 1 (Packet.layout Packet.authId .authResponse [])), .happened (.advance 1),
    .answered]

/-- The server gets both in order, and lines are read after that. -/
theorem passwords_tried_in_turn_twice :
    let arguments : Arguments := { address := "rcon.example" }
    ∃ p, (Process.start arguments.config).run secondPassword = some p ∧
      LoggingIn arguments.config.address secondPassword (.admitted ["wrong"] "secret") p ∧
        Attended arguments.config secondPassword (.admitted ["wrong"] "secret") p := by
  intro arguments
  have hrun : ((Process.start arguments.config).run secondPassword).map (·.turn.demand) =
    some .line := by decide
  obtain ⟨p, hp, hline⟩ := Option.map_eq_some_iff.mp hrun
  obtain ⟨situation, login, -, attended⟩ :=
    passwords_tried_in_turn arguments secondPassword p hp (by decide)
  have htyped : situation.typed = ["wrong"] ++ ["secret"] := login.typed
  obtain rfl : situation = .admitted ["wrong"] "secret" := by
    have hdemand := login.holds.demand.symm.trans hline
    cases situation with
    | prompted | failed => cases hdemand
    | trying rejected => cases rejected <;> cases hdemand
    | admitted rejected password =>
      obtain ⟨rfl, hpassword⟩ := List.append_inj' htyped rfl
      rw [List.singleton_inj.mp hpassword]
  exact ⟨p, hp, login, attended (by decide)⟩

end RemoteConsole.CommandLine
