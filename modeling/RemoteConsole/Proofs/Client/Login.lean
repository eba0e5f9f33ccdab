import RemoteConsole.Proofs.Client.Attempt

/-!
# Trying passwords in front of a server

A server that takes connections, answers every password and closes nothing leaves a client only one
way through an attempt, whatever else arrives between its steps. Every state on that way is listed,
with the number of steps that are left (`Opening` up to the first connection, `Trying` from there on),
and between two attempts the client is `Idle`.
-/

namespace RemoteConsole.Client

variable {config : Config} {password : String} {calls done : List Call} {connecting : Option Nat}
  {holder : Option Holder} {state : ConnectionState} {s : Session} {c c' : Client} {g : Nat}
  {bytes : Bytes} {auth : Option Nat} {attempts : Nat} {written : Bytes} {sent : List String}
  {verdicts : List Verdict} {action : Action} {call : Call}

/-! ## What a server does -/

/-- A server has been sent a password on the connection of a generation, and has not answered. -/
def owesVerdict (c : Client) (g : Nat) : Bool :=
  (c.session? g).any fun s => s.verdicts.length < s.sent.countP (·.type = .auth)

/-- Whether an action is in keeping with a server that takes connections, lets everything be written
on them, answers each password once and in time, and closes nothing. -/
def served (c : Client) : Action → Bool
  | .dial _ outcome => outcome == .stream
  | .write _ outcome => outcome == .written
  | .expire _ | .hangUp _ => false
  | .frame g bytes => (Packet.verdictIn? c.config.encoding bytes).isNone || c.owesVerdict g
  | _ => true

/-- A call that there is not takes no step. -/
theorem step_of_no_call {n : Nat} (hcall : c.calls[n]? = none) (taker : action.call? = some n) :
    c.step action = none := by
  cases action with
  | advance | dial | write | expire | abandon =>
    cases taker
    simp only [step, advance, dial, write, expire, abandon, hcall, Option.bind_eq_bind,
      Option.bind_none]
  | _ => cases taker

/-- A call that is over takes no step. -/
theorem step_of_over {n : Nat} (hcall : c.calls[n]? = some call) (finished : call.isOver = true)
    (taker : action.call? = some n) : c.step action = none := by
  obtain ⟨errand, stage⟩ := call
  cases stage with
  | finished | abandoned =>
    cases action with
    | advance | dial | write | expire | abandon =>
      cases taker
      simp only [step, advance, dial, write, expire, abandon, hcall, Option.bind_eq_bind,
        Option.bind_some]
    | _ => cases taker
  | _ => cases finished

/-- If all calls but the last are over, it is the last that takes a step. -/
theorem taker_of_step {n : Nat} (calls : c.calls = done ++ [call])
    (finished : ∀ call ∈ done, call.isOver = true) (h : c.step action = some c')
    (taker : action.call? = some n) : n = done.length := by
  obtain hlt | heq | hgt := lt_trichotomy n done.length
  · have hcall : c.calls[n]? = some done[n] := by
      rw [calls, List.getElem?_append_left hlt, List.getElem?_eq_getElem hlt]
    rw [step_of_over hcall (finished _ (List.getElem_mem hlt)) taker] at h
    cases h
  · exact heq
  · have hcall : c.calls[n]? = none := by
      rw [calls, List.getElem?_eq_none_iff, List.length_append, List.length_singleton]
      omega
    rw [step_of_no_call hcall taker] at h
    cases h

/-- If all calls are over, none takes a step. -/
theorem call?_of_over (finished : ∀ call ∈ c.calls, call.isOver = true)
    (h : c.step action = some c') : action.call? = none := by
  cases taker : action.call? with
  | none => rfl
  | some n =>
    cases hcall : c.calls[n]? with
    | none => cases (step_of_no_call hcall taker).symm.trans h
    | some call =>
      cases (step_of_over hcall (finished call (List.mem_of_getElem? hcall)) taker).symm.trans h

/-- What comes about in front of such a server without a step of a call is a frame, where no
connection is checked. -/
theorem frame_of_step (unwatched : ∀ s ∈ c.sessions, s.watch = .off)
    (own : action.comesAbout = true) (served : c.served action = true)
    (untaken : action.call? = none) (h : c.step action = some c') :
    ∃ g bytes, action = .frame g bytes := by
  have hwatch {g : Nat} {s : Session} (hs : c.session? g = some s) : s.watch = .off :=
    unwatched s (List.mem_of_find?_eq_some hs)
  cases action with
  | call | setPassword => cases own
  | hangUp => cases served
  | advance | dial | write | expire | abandon => cases untaken
  | frame g bytes => exact ⟨g, bytes, rfl⟩
  | watch g | watchWrite g | watchExpire g =>
    obtain ⟨s, hs, h⟩ := Option.bind_eq_some_iff.mp h
    rw [hwatch hs] at h
    cases h

/-- What may happen in front of such a server while one call is under way and no connection is
checked. -/
theorem served_cases (calls : c.calls = done ++ [call])
    (finished : ∀ call ∈ done, call.isOver = true) (unwatched : ∀ s ∈ c.sessions, s.watch = .off)
    (own : action.comesAbout = true) (served : c.served action = true)
    (h : c.step action = some c') :
    action = .advance done.length ∨ action = .dial done.length .stream ∨
      action = .write done.length .written ∨ ∃ g bytes, action = .frame g bytes := by
  cases taker : action.call? with
  | none => exact .inr (.inr (.inr (frame_of_step unwatched own served taker h)))
  | some n =>
    obtain rfl := taker_of_step calls finished h taker
    cases action with
    | advance =>
      obtain rfl := Option.some.inj taker
      exact .inl rfl
    | dial n outcome =>
      obtain rfl := Option.some.inj taker
      obtain rfl := beq_iff_eq.mp served
      exact .inr (.inl rfl)
    | write n outcome =>
      obtain rfl := Option.some.inj taker
      obtain rfl := beq_iff_eq.mp served
      exact .inr (.inr (.inl rfl))
    | expire => cases served
    | abandon => cases own
    | _ => cases taker

/-- A server that has answered everything it was sent sends no verdict, and nothing else matters. -/
theorem receive_of_answered (answered : sent.length ≤ verdicts.length)
    (served : (connected config password calls connecting holder state
      (loginSession config auth attempts written sent verdicts)).served (.frame g bytes) = true)
    (h : (connected config password calls connecting holder state
      (loginSession config auth attempts written sent verdicts)).receive g bytes = some c') :
    Packet.verdictIn? config.encoding bytes = none ∧ c' = connected config password calls connecting
      holder state (loginSession config auth attempts written sent verdicts) := by
  obtain ⟨rfl, rfl⟩ := receive_connected h
  -- Every packet that was sent is a password, so as many verdicts as packets leave none owed.
  have howes : (connected config password calls connecting holder state
      (loginSession config auth attempts written sent verdicts)).owesVerdict 1 = false := by
    rw [owesVerdict, session?_connected rfl, Option.any_some, decide_eq_false_iff_not, not_lt]
    refine le_trans (List.countP_le_length.trans ?_) answered
    rw [loginSession, List.length_map]
  rw [Client.served, howes, Bool.or_false, Option.isNone_iff_eq_none] at served
  have hverdict : Packet.verdictIn? config.encoding bytes = none := served
  refine ⟨hverdict, ?_⟩
  rw [hverdict]

/-! ## The first attempt -/

/-- A client that makes its first connection. -/
def opening (config : Config) (stage : Stage) (cell : StateCell) (generation : Nat)
    (connecting : Option Nat) (holder : Option Holder) : Client where
  config
  password := config.password
  cell
  generation
  connectLock := connecting
  sessionLock := holder
  calls := [⟨.connect, stage⟩]

/-- A client on the way to its first connection, with so many steps to go. -/
inductive Opening (config : Config) : Nat → Client → Prop where
  | waiting : Opening config 12 (opening config .awaitConnectLock {} 0 none none)
  | looking : Opening config 11 (opening config .lookAtState {} 0 (some 0) none)
  | dialing : Opening config 10 (opening config (.dialing 1) ⟨1, .connecting⟩ 1 (some 0) none)
  | dialed : Opening config 9 (opening config (.dialed 1) ⟨1, .connecting⟩ 1 (some 0) none)
  | replacing : Opening config 8
    (opening config (.replacing 1) ⟨1, .connecting⟩ 1 (some 0) (some (.call 0)))
  | installing : Opening config 7
    (opening config (.installing 1) ⟨1, .connecting⟩ 1 (some 0) (some (.call 0)))

theorem connect_ne_command (text : String) (multi : Bool) (timeout : Nat) :
    Errand.connect ≠ .command text multi timeout := nofun

/-- The first attempt. -/
def Attempt.first (config : Config) (unchecked : config.checkInterval = none) : Attempt where
  config
  unchecked
  done := []
  finished := fun _ hcall => absurd hcall List.not_mem_nil
  errand := .connect
  authenticates := connect_ne_command
  connecting := some 0
  connects := .inr rfl
  rejected := []
  password := config.password

/-- A client on the way to its first connection comes nearer, or has made it. -/
theorem Opening.step {left : Nat} (opening : Opening config left c)
    (unchecked : config.checkInterval = none) (own : action.comesAbout = true)
    (served : c.served action = true) (h : c.step action = some c') :
    action.call?.isSome = true ∧ ((∃ left', left' < left ∧ Opening config left' c') ∨
      6 < left ∧ c' = (Attempt.first config unchecked).client (.awaitAuthLock config.password) none
        .authenticating ((Attempt.first config unchecked).before [])) := by
  obtain ⟨call, hcalls⟩ : ∃ call, c.calls = [] ++ [call] := by cases opening <;> exact ⟨_, rfl⟩
  have hsession (g : Nat) : c.session? g = none := by cases opening <;> rfl
  have hsessions : c.sessions = [] := by cases opening <;> rfl
  have hunwatched : ∀ s ∈ c.sessions, s.watch = .off := by
    rw [hsessions]
    exact fun _ hs => absurd hs List.not_mem_nil
  obtain rfl | rfl | rfl | ⟨g, bytes, rfl⟩ :=
    served_cases hcalls (fun _ hcall => absurd hcall List.not_mem_nil) hunwatched own served h
  · refine ⟨rfl, ?_⟩
    cases opening with
    | waiting =>
      obtain rfl := Option.some.inj h
      exact .inl ⟨11, by decide, .looking⟩
    | looking =>
      obtain rfl := Option.some.inj h
      exact .inl ⟨10, by decide, .dialing⟩
    | dialing => cases h
    | dialed =>
      obtain rfl := Option.some.inj h
      exact .inl ⟨8, by decide, .replacing⟩
    | replacing =>
      obtain rfl := Option.some.inj h
      exact .inl ⟨7, by decide, .installing⟩
    | installing =>
      obtain rfl := Option.some.inj h
      exact .inr ⟨by decide, rfl⟩
  · refine ⟨rfl, ?_⟩
    cases opening with
    | dialing =>
      obtain rfl := Option.some.inj h
      exact .inl ⟨9, by decide, .dialed⟩
    | waiting | looking | dialed | replacing | installing => cases h
  · cases opening <;> cases h
  · replace h : c.receive g bytes = some c' := h
    rw [receive, hsession] at h
    cases h

/-! ## Every attempt -/

/-- How far an attempt has come. -/
inductive Progress where
  /-- The password has not been sent. -/
  | unsent
  /-- It has been sent, and the server has said nothing of it. -/
  | sent
  /-- The server has said whether it is accepted. -/
  | told (accepted : Bool)
  /-- The call is over, and the password was accepted. -/
  | accepted
  /-- The call is over, and the password was rejected. -/
  | rejected
  /-- The call is over, and the password cannot be sent. -/
  | unsendable (e : Error)
deriving DecidableEq

/-- How an attempt stands: how far it has come, how many steps it has to go, and the client. -/
inductive Trying : Attempt → Progress → Nat → Client → Prop where
  | opening {config : Config} {unchecked : config.checkInterval = none} {left : Nat} {c : Client}
    (opens : Opening config left c) : Trying (.first config unchecked) .unsent left c
  | waiting (a : Attempt) (written : Bytes) : Trying a .unsent 6
    (a.client (.awaitAuthLock a.password) none .authenticating (a.before written))
  | looking (a : Attempt) (written : Bytes) : Trying a .unsent 5
    (a.client (.lookForAuth a.password) (some (.call a.number)) .authenticating (a.before written))
  | beginning (a : Attempt) (written : Bytes) : Trying a .unsent 4
    (a.client (.beginningAuth 1 a.password) (some (.call a.number)) .authenticating
      (a.before written))
  | writing (a : Attempt) (written bytes : Bytes) : Trying a .unsent 3
    (a.client (.writingAuth 1 a.trial (.ofPassword a.password) bytes) (some (.call a.number))
      .authenticating (a.begun written))
  | posted (a : Attempt) (written : Bytes) : Trying a .sent 2
    (a.client (.awaitVerdict 1 a.trial) none .authenticating (a.posted written))
  | answered (a : Attempt) (written : Bytes) (accepted : Bool) : Trying a (.told accepted) 2
    (a.client (.awaitVerdict 1 a.trial) none .authenticating (a.answered written accepted))
  | accepted (a : Attempt) (written : Bytes) : Trying a .accepted 1
    (a.ended .done .ready (a.answered written true))
  | rejected (a : Attempt) (written : Bytes) : Trying a .rejected 1
    (a.ended (a.errand.refusal .invalidPassword) .authenticating (a.answered written false))
  | unsendable (a : Attempt) (written : Bytes) {e : Error}
    (tooLarge : (Packet.ofPassword a.password).encode a.config.encoding a.config.maxPacketSize =
      .error e) : Trying a (.unsendable e) 1
    (a.ended (a.errand.refusal (.fatal e)) .authenticating (a.dropped written))

/-- The verdict on the password, if the server has answered. -/
def Progress.verdict? : Progress → Option Bool
  | .unsent | .sent | .unsendable _ => none
  | .told answer => some answer
  | .accepted => some true
  | .rejected => some false

/-- The verdict that an action brings, if it brings one. -/
def Action.verdict? (e : Encoding) : Action → Option Bool
  | .frame _ bytes => Packet.verdictIn? e bytes
  | _ => none

variable {a : Attempt} {progress : Progress} {left : Nat}

namespace Attempt

variable {stage : Stage} {answer : Answer}

/-- What may happen to the client of an attempt: its call takes a step, or a frame arrives. -/
theorem served_cases (unwatched : s.watch = .off) (own : action.comesAbout = true)
    (served : (a.client stage holder state s).served action = true)
    (h : (a.client stage holder state s).step action = some c') :
    action = .advance a.number ∨ action = .dial a.number .stream ∨
      action = .write a.number .written ∨ ∃ g bytes, action = .frame g bytes := by
  have hcalls : (a.client stage holder state s).calls = a.done ++ [⟨a.errand, stage⟩] := rfl
  refine Client.served_cases hcalls a.finished (fun s' hs' => ?_) own served h
  rw [List.mem_singleton.mp hs']
  exact unwatched

/-- A call that waits neither for a stream nor for a write goes on by itself. -/
theorem advance_of_step (unwatched : s.watch = .off) (own : action.comesAbout = true)
    (served : (a.client stage holder state s).served action = true)
    (unframed : ∀ g bytes, action ≠ .frame g bytes) (undialed : ∀ g, stage ≠ .dialing g)
    (unwritten : ∀ g, stage.writesOn g = false)
    (h : (a.client stage holder state s).step action = some c') :
    action = .advance a.number ∧ (a.client stage holder state s).advance a.number = some c' := by
  obtain rfl | rfl | rfl | ⟨g, bytes, rfl⟩ := served_cases unwatched own served h
  · exact ⟨rfl, h⟩
  · replace h : (a.client stage holder state s).dial a.number .stream = some c' := h
    rw [dial, calls_client] at h
    cases stage with
    | dialing g => exact absurd rfl (undialed g)
    | _ => cases h
  · replace h : (a.client stage holder state s).write a.number .written = some c' := h
    rw [write, calls_client] at h
    cases stage with
    | writingAuth g | writingCommand g => exact absurd (unwritten g) (by simp [Stage.writesOn])
    | _ => cases h
  · exact absurd rfl (unframed g bytes)

/-- A call that writes goes on when its write ends. -/
theorem write_of_step {packet : Packet} (unwatched : s.watch = .off) (own : action.comesAbout = true)
    (served : (a.client (.writingAuth g attempts packet bytes) holder state s).served action = true)
    (unframed : ∀ g bytes, action ≠ .frame g bytes)
    (h : (a.client (.writingAuth g attempts packet bytes) holder state s).step action = some c') :
    action = .write a.number .written := by
  obtain rfl | rfl | rfl | ⟨g, bytes, rfl⟩ := served_cases unwatched own served h
  · replace h : (a.client (.writingAuth g attempts packet bytes) holder state s).advance
      a.number = some c' := h
    rw [advance, calls_client] at h
    cases h
  · replace h : (a.client (.writingAuth g attempts packet bytes) holder state s).dial
      a.number .stream = some c' := h
    rw [dial, calls_client] at h
    cases h
  · rfl
  · exact absurd rfl (unframed g bytes)

/-- After the call nothing happens but that frames arrive. -/
theorem frame_of_step_ended (unwatched : s.watch = .off) (own : action.comesAbout = true)
    (served : (a.ended answer state s).served action = true)
    (h : (a.ended answer state s).step action = some c') : ∃ g bytes, action = .frame g bytes := by
  refine frame_of_step (fun s' hs' => ?_) own served (call?_of_over (fun call hcall => ?_) h) h
  · rw [List.mem_singleton.mp hs']
    exact unwatched
  · obtain hcall | hcall := List.mem_append.mp hcall
    · exact a.finished call hcall
    · rw [List.mem_singleton.mp hcall]
      rfl

end Attempt

/-- What the client of an attempt does by itself, or the network does for it, brings the attempt
nearer to its end, and no verdict. -/
theorem Trying.step_of_unframed (trying : Trying a progress left c) (own : action.comesAbout = true)
    (served : c.served action = true) (unframed : ∀ g bytes, action ≠ .frame g bytes)
    (h : c.step action = some c') : ∃ progress' left',
      Trying a progress' left' c' ∧ progress'.verdict? = progress.verdict? ∧ left' < left := by
  cases trying with
  | @opening config unchecked left c opens =>
    obtain ⟨-, ⟨left', hlt, opens'⟩ | ⟨hlt, rfl⟩⟩ := opens.step unchecked own served h
    · exact ⟨_, left', .opening opens', rfl, hlt⟩
    · exact ⟨_, 6, .waiting _ _, rfl, hlt⟩
  | waiting a written =>
    obtain ⟨-, h⟩ := Attempt.advance_of_step rfl own served unframed nofun (fun _ => rfl) h
    obtain rfl := Option.some.inj (Attempt.advance_waiting.symm.trans h)
    exact ⟨_, 5, .looking a written, rfl, by decide⟩
  | looking a written =>
    obtain ⟨-, h⟩ := Attempt.advance_of_step rfl own served unframed nofun (fun _ => rfl) h
    obtain rfl := Option.some.inj (Attempt.advance_looking.symm.trans h)
    exact ⟨_, 4, .beginning a written, rfl, by decide⟩
  | beginning a written =>
    obtain ⟨-, h⟩ := Attempt.advance_of_step rfl own served unframed nofun (fun _ => rfl) h
    obtain rfl := Option.some.inj (Attempt.advance_beginning.symm.trans h)
    cases hencode : (Packet.ofPassword a.password).encode a.config.encoding
      a.config.maxPacketSize with
    | ok bytes => exact ⟨_, 3, .writing a written bytes, rfl, by decide⟩
    | error e => exact ⟨_, 1, .unsendable a written hencode, rfl, by decide⟩
  | writing a written bytes =>
    obtain rfl := Attempt.write_of_step rfl own served unframed h
    obtain rfl := Option.some.inj (Attempt.write_writing.symm.trans h)
    exact ⟨_, 2, .posted a _, rfl, by decide⟩
  | posted a written =>
    obtain ⟨-, h⟩ := Attempt.advance_of_step rfl own served unframed nofun (fun _ => rfl) h
    cases Attempt.advance_posted.symm.trans h
  | answered a written accepted =>
    obtain ⟨-, h⟩ := Attempt.advance_of_step rfl own served unframed nofun (fun _ => rfl) h
    obtain rfl := Option.some.inj (Attempt.advance_answered.symm.trans h)
    cases accepted with
    | true => exact ⟨_, 1, .accepted a written, rfl, by decide⟩
    | false => exact ⟨_, 1, .rejected a written, rfl, by decide⟩
  | accepted a written | rejected a written | unsendable a written =>
    obtain ⟨g, bytes, rfl⟩ := Attempt.frame_of_step_ended rfl own served h
    exact absurd rfl (unframed g bytes)

/-- A frame brings the verdict that the server owes, or nothing. -/
theorem Trying.step_of_frame (trying : Trying a progress left c)
    (served : c.served (.frame g bytes) = true) (h : c.step (.frame g bytes) = some c') :
    ∃ progress', Trying a progress' left c' ∧ progress'.verdict?.toList =
      progress.verdict?.toList ++ (Packet.verdictIn? a.config.encoding bytes).toList := by
  -- Where the server owes nothing, the client stays as it is.
  suffices hsame : progress ≠ .sent →
      Packet.verdictIn? a.config.encoding bytes = none ∧ c' = c by
    by_cases hsent : progress = .sent
    · subst hsent
      cases trying with
      | posted a written =>
        obtain ⟨rfl, rfl⟩ := receive_connected h
        cases hverdict : Packet.verdictIn? a.config.encoding bytes with
        | none => exact ⟨.sent, .posted a written, rfl⟩
        | some accepted => exact ⟨.told accepted, .answered a written accepted, rfl⟩
    · obtain ⟨hverdict, rfl⟩ := hsame hsent
      exact ⟨progress, trying, by rw [hverdict]; exact (List.append_nil _).symm⟩
  intro hsent
  cases trying with
  | opening opens =>
    have hsession : c.session? g = none := by cases opens <;> rfl
    replace h : c.receive g bytes = some c' := h
    rw [receive, hsession] at h
    cases h
  | waiting | looking | beginning | writing =>
    exact receive_of_answered (length_refusals _).ge served h
  | posted => exact absurd rfl hsent
  | answered | accepted | rejected =>
    refine receive_of_answered ?_ served h
    rw [List.length_append, List.length_append, length_refusals]
    rfl
  | unsendable =>
    refine receive_of_answered ?_ served h
    rw [List.length_append, length_refusals]
    exact Nat.le_add_right ..

/-- Whether the call of an attempt is over. -/
def Progress.isOver : Progress → Bool
  | .accepted | .rejected | .unsendable _ => true
  | .unsent | .sent | .told _ => false

/-- An attempt that is not over goes on without a frame, unless the server owes a verdict. -/
theorem Trying.goesOn (trying : Trying a progress left c) :
    progress.isOver = true ∨ c.owesVerdict 1 = true ∨
      ∃ action, action.comesAbout = true ∧ c.served action = true ∧
        (∀ g bytes, action ≠ .frame g bytes) ∧ (c.step action).isSome = true := by
  cases trying with
  | opening opens =>
    cases opens with
    | dialing => exact .inr (.inr ⟨.dial 0 .stream, rfl, rfl, nofun, rfl⟩)
    | waiting | looking | dialed | replacing | installing =>
      exact .inr (.inr ⟨.advance 0, rfl, rfl, nofun, rfl⟩)
  | waiting =>
    exact .inr (.inr ⟨.advance a.number, rfl, rfl, nofun,
      (congrArg Option.isSome Attempt.advance_waiting).trans rfl⟩)
  | looking =>
    exact .inr (.inr ⟨.advance a.number, rfl, rfl, nofun,
      (congrArg Option.isSome Attempt.advance_looking).trans rfl⟩)
  | beginning =>
    exact .inr (.inr ⟨.advance a.number, rfl, rfl, nofun,
      (congrArg Option.isSome Attempt.advance_beginning).trans rfl⟩)
  | writing =>
    exact .inr (.inr ⟨.write a.number .written, rfl, rfl, nofun,
      (congrArg Option.isSome Attempt.write_writing).trans rfl⟩)
  | posted a written =>
    -- only here does the call wait for the server
    refine .inr (.inl ?_)
    rw [owesVerdict, Attempt.client, session?_connected rfl, Option.any_some, decide_eq_true_iff]
    have hsent : (a.posted written).sent.countP (·.type = .auth) = a.trial + 1 := by
      rw [Attempt.posted, loginSession, List.countP_map]
      refine (List.countP_eq_length.mpr fun _ _ => rfl).trans ?_
      rw [List.length_append]
      rfl
    rw [hsent]
    exact (length_refusals _).trans_lt (Nat.lt_succ_self _)
  | answered =>
    exact .inr (.inr ⟨.advance a.number, rfl, rfl, nofun,
      (congrArg Option.isSome Attempt.advance_answered).trans rfl⟩)
  | accepted | rejected | unsendable => exact .inl rfl

/-- An attempt that is not over has steps to go. -/
theorem Trying.left_pos (trying : Trying a progress left c) : 0 < left := by
  cases trying with
  | opening opens => cases opens <;> decide
  | _ => decide

theorem Attempt.calls_ended {answer : Answer} : (a.ended answer state s).calls[a.number]? =
    some ⟨a.errand, .finished answer⟩ :=
  List.getElem?_concat_length ..

/-- An attempt is over when its call is. -/
theorem Trying.isOver_of_answer {answer : Answer} (trying : Trying a progress left c)
    (hcall : c.calls[a.number]? = some call) (hanswer : call.answer? = some answer) :
    progress.isOver = true := by
  cases trying with
  | opening opens =>
    cases opens <;> (obtain rfl := Option.some.inj hcall; cases hanswer)
  | waiting | looking | beginning | writing | posted | answered =>
    obtain rfl := Option.some.inj (Attempt.calls_client.symm.trans hcall)
    cases hanswer
  | accepted | rejected | unsendable => rfl

/-- The call of an attempt that is over has an answer. -/
theorem Trying.exists_answer (trying : Trying a progress left c)
    (finished : progress.isOver = true) :
    ∃ call answer, c.calls[a.number]? = some call ∧ call.answer? = some answer := by
  cases trying with
  | opening | waiting | looking | beginning | writing | posted | answered => cases finished
  | accepted | rejected | unsendable => exact ⟨_, _, Attempt.calls_ended, rfl⟩

/-! ## Between two attempts -/

/-- A client that has tried some passwords, which were rejected, and waits for another. -/
inductive Idle (config : Config) : List String → Client → Prop where
  | fresh : Idle config [] (.ofConfig config)
  | tried {first password : String} {rejected : List String} {done : List Call} {written : Bytes}
    (retried : rejected ≠ []) (finished : ∀ call ∈ done, call.isOver = true) :
    Idle config rejected (connected { config with password := first } password done none none
      .authenticating (loginSession { config with password := first } none rejected.length written
        rejected (refusals rejected.length)))

/-- After a rejection the client waits for another password. -/
theorem Idle.of_rejected {first : String}
    (configured : a.config = { config with password := first }) :
    Idle config (a.rejected ++ [a.password])
      (a.ended (a.errand.refusal .invalidPassword) .authenticating (a.answered written false)) := by
  have hrefusals : refusals a.trial ++ [⟨a.trial, some false⟩] =
      refusals (a.rejected ++ [a.password]).length := by
    rw [refusals, refusals, List.length_append, List.length_singleton, List.range_succ,
      List.map_append]
    rfl
  have htrial : a.trial + 1 = (a.rejected ++ [a.password]).length := by
    rw [List.length_append]
    rfl
  rw [Attempt.ended, Attempt.answered, hrefusals, htrial, configured]
  refine .tried (List.append_ne_nil_of_right_ne_nil _ (List.cons_ne_nil _ _)) fun call hcall => ?_
  obtain hcall | hcall := List.mem_append.mp hcall
  · exact a.finished call hcall
  · rw [List.mem_singleton.mp hcall]
    rfl

/-- Between two attempts nothing happens to the client. -/
theorem Idle.step {rejected : List String} (idle : Idle config rejected c)
    (own : action.comesAbout = true) (served : c.served action = true)
    (h : c.step action = some c') :
    c' = c ∧ action.verdict? config.encoding = none ∧ ∃ g bytes, action = .frame g bytes := by
  cases idle with
  | fresh =>
    obtain ⟨g, bytes, rfl⟩ := frame_of_step (fun s hs => by cases hs) own served
      (call?_of_over (fun call hcall => by cases hcall) h) h
    cases h
  | tried retried finished =>
    obtain ⟨g, bytes, rfl⟩ := frame_of_step (fun s hs => by rw [List.mem_singleton.mp hs]; rfl) own
      served (call?_of_over finished h) h
    obtain ⟨hverdict, rfl⟩ := receive_of_answered (length_refusals _).ge served h
    exact ⟨rfl, hverdict, g, bytes, rfl⟩

end RemoteConsole.Client
