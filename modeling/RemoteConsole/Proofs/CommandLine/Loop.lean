import Mathlib.Data.List.Induction
import Mathlib.Data.List.TakeWhile
import RemoteConsole.CommandLine.Conversation

/-!
# The loop over lines

Once it is connected, the program reads lines and sends the commands among them. A command is a line
that is not blank and does not start with an exclamation mark once it is trimmed, and the loop ends
with the first line that says `!quit`, or with the input. `commands` says so of a list of lines, and
`Course` that the program keeps to it at every point of every conversation, whatever comes of the
commands. What carries the proof is that each exchange leads back to the next line, with one command
between two lines at most (`Course.concat`).
-/

namespace RemoteConsole.CommandLine

variable {address line : String} {config : Config} {turn turn' : Turn} {log : List Exchange}
  {e : Exchange} {read : Except InputError (Option String)}
  {reads : List (Except InputError (Option String))}

namespace Turn

theorem after?_append (log rest : List Exchange) :
    turn.after? address (log ++ rest) =
      (turn.after? address log).bind (·.after? address rest) := by
  induction log generalizing turn with
  | nil => rfl
  | cons e log ih =>
    rw [List.cons_append, after?, after?]
    split_ifs
    · exact ih
    · rfl

/-- A conversation goes on with one exchange, about what is asked for. -/
theorem after?_concat :
    turn.after? address (log ++ [e]) = some turn' ↔ ∃ t, turn.after? address log = some t ∧
      e.demand = t.demand ∧ turn' = Program.resume address e.demand e.reply := by
  rw [after?_append, Option.bind_eq_some_iff]
  refine exists_congr fun t => and_congr_right fun _ => ?_
  rw [after?, after?, Option.ite_none_right_eq_some, Option.some.injEq]
  exact and_congr_right fun _ => eq_comm

end Turn

/-! ## Lines -/

/-- What follows the exclamation mark at the start of a line, if there is one. -/
def builtin? (line : String) : Option String :=
  match (Text.trim line).toList with
  | '!' :: builtin => some (String.ofList builtin)
  | _ => none

/-- Whether a line says `!quit`. -/
def quits (line : String) : Bool :=
  (builtin? line).any (Text.trim · == "quit")

/-- The command in a line. -/
def command? (line : String) : Option String :=
  if Text.trim line = "" ∨ (builtin? line).isSome then none else some (Text.trim line)

/-- Whether the loop ends with what was read: a line that says so, the end of the input, or something
that is no text. -/
def ends : Except InputError (Option String) → Bool
  | .ok (some line) => quits line
  | .ok none | .error _ => true

/-- The command in what was read. -/
def sends? : Except InputError (Option String) → Option String
  | .ok (some line) => command? line
  | .ok none | .error _ => none

/-- The commands in what was read, up to where the loop ends. -/
def commands (reads : List (Except InputError (Option String))) : List String :=
  (reads.takeWhile (!ends ·)).filterMap sends?

/-- The program finds the exclamation mark that is there. -/
theorem after?_trim (line : String) : Text.after? (Text.trim line) "!" = builtin? line := by
  rw [Text.after?, Text.startsWith, builtin?]
  change (if List.isPrefixOf ['!'] _ then some (String.ofList (List.drop 1 _)) else none) = _
  split_ifs with hprefix
  · obtain ⟨rest, hrest⟩ := List.isPrefixOf_iff_prefix.mp hprefix
    rw [← hrest]
    rfl
  · split
    · rename_i heq
      rw [heq] at hprefix
      exact absurd rfl hprefix
    · rfl

/-- What the demand is that what was read leads to: the end of the loop, the command, or something
that sends nothing. -/
inductive Heeded (read : Except InputError (Option String)) : Demand → Prop where
  | ended (hends : ends read = true) : Heeded read .disconnect
  | sent {text : String} (hends : ends read = false) (hsends : sends? read = some text) :
    Heeded read (.send text)
  | line (hends : ends read = false) (hsends : sends? read = none) : Heeded read .line
  | state (hends : ends read = false) (hsends : sends? read = none) : Heeded read .state

/-- A line is heeded. -/
theorem heeded_enter (address line : String) :
    Heeded (.ok (some line)) (Program.enter address line).demand := by
  rw [Program.enter]
  generalize hentry : Program.Entry.ofLine line = entry
  rw [Program.Entry.ofLine, after?_trim] at hentry
  split_ifs at hentry with hempty
  · have hnone : builtin? line = none := by
      rw [builtin?, hempty]
      rfl
    subst hentry
    exact .line (by rw [ends, quits, hnone]; rfl) (by rw [sends?, command?, if_pos (.inl hempty)])
  cases hbuiltin : builtin? line with
  | none =>
    rw [hbuiltin] at hentry
    subst hentry
    refine .sent (by rw [ends, quits, hbuiltin]; rfl) ?_
    rw [sends?, command?, if_neg (not_or.mpr ⟨hempty, by rw [hbuiltin]; exact Bool.false_ne_true⟩)]
  | some builtin =>
    have hsends : sends? (.ok (some line)) = none := by
      rw [sends?, command?, if_pos (.inr (by rw [hbuiltin]; rfl))]
    have hends : ends (.ok (some line)) = (Text.trim builtin == "quit") := by
      rw [ends, quits, hbuiltin]
      rfl
    rw [hbuiltin] at hentry
    dsimp only at hentry
    split at hentry
    all_goals subst hentry
    · rename_i heq
      exact .line (by rw [hends, heq]; rfl) hsends
    · rename_i heq
      exact .state (by rw [hends, heq]; rfl) hsends
    · rename_i heq
      exact .ended (by rw [hends, heq]; rfl)
    · rename_i hquit
      exact .line (by rw [hends]; exact beq_eq_false_iff_ne.mpr hquit) hsends

/-- What was read is heeded. -/
theorem heeded_resume (address : String) (read : Except InputError (Option String)) :
    Heeded read (Program.resume address .line read).demand :=
  match read with
  | .ok (some line) => heeded_enter address line
  | .ok none => .ended rfl
  | .error _ => .ended rfl

/-- The commands in what was read, if one more thing is read while the loop goes on. -/
theorem commands_concat (hgoing : reads.any ends = false) :
    commands (reads ++ [read]) =
      commands reads ++ if ends read then [] else (sends? read).toList := by
  have hall : ∀ r ∈ reads, (!ends r) = true := fun r hr => by
    rw [Bool.not_eq_true', ← Bool.not_eq_true]
    exact List.any_eq_false.mp hgoing r hr
  rw [commands, commands, List.takeWhile_append_of_pos hall, List.filterMap_append,
    List.takeWhile_eq_self_iff.mpr hall]
  cases hends : ends read
  · rw [List.takeWhile_cons_of_pos (by rw [hends]; rfl), List.takeWhile_nil]
    cases hsends : sends? read with
    | none => simp [hsends]
    | some text => simp [hsends]
  · rw [List.takeWhile_cons_of_neg (by rw [hends]; exact Bool.false_ne_true)]
    rfl

/-! ## The course of the loop -/

/-- What holds of the loop after some exchanges. -/
structure Course (config : Config) (log : List Exchange) (turn : Turn) : Prop where
  /-- The client has been asked to send each command that was read, in this order, and to close the
  connection after the end of the loop, and nothing else. -/
  errands : (turn.asked log).filterMap (Demand.errand? config) =
    (commands (readIn log)).map (Errand.command · config.multiPacket config.commandTimeout) ++
      if (readIn log).any ends then [.disconnect] else []
  /-- What the loop ends with is the last that was read. -/
  last : ∀ read ∈ (readIn log).dropLast, ends read = false
  /-- Before its end, the loop asks for a line, for the state, or to send a command. -/
  going : (readIn log).any ends = false →
    turn.demand = .line ∨ turn.demand = .state ∨ ∃ text, turn.demand = .send text
  /-- After its end, the program closes the connection and exits. -/
  ended : (readIn log).any ends = true → turn.demand = .disconnect ∨ turn.demand = .exit 0

/-- The loop is on course where it starts. -/
theorem course_ask (address : String) (outputs : List Output) :
    Course config [] (Program.ask address outputs) where
  errands := rfl
  last := fun _ h => by cases h
  going := fun _ => .inl rfl
  ended := fun h => by cases h

/-- The loop goes on with the next line after the response to a command, or the error. -/
theorem demand_resume_send (address text : String) (result : Except Error String) :
    (Program.resume address (.send text) result).demand = .line := by
  simp only [Program.resume]
  split <;> rfl

theorem asked_concat (hdemand : e.demand = turn.demand) :
    turn'.asked (log ++ [e]) = turn.asked log ++ [turn'.demand] := by
  rw [Turn.asked, Turn.asked, List.map_append, ← hdemand]
  rfl

/-- An exchange about something that is not read, and after which no errand is asked for, leaves the
loop on course. -/
theorem Course.concat_of_not_read (course : Course config log turn)
    (hdemand : e.demand = turn.demand) (hread : e.read? = none)
    (hgoing : (readIn log).any ends = false → turn'.demand = .line)
    (hover : (readIn log).any ends = true → turn'.demand = .exit 0) :
    Course config (log ++ [e]) turn' := by
  have hreads : readIn (log ++ [e]) = readIn log := by
    rw [readIn, List.filterMap_append, List.filterMap_cons_none hread, List.filterMap_nil,
      List.append_nil, readIn]
  have hnone : turn'.demand.errand? config = none := by
    cases h : (readIn log).any ends
    · rw [hgoing h]
      rfl
    · rw [hover h]
      rfl
  constructor
  · rw [asked_concat hdemand, List.filterMap_append, List.filterMap_cons_none hnone,
      List.filterMap_nil, List.append_nil, hreads]
    exact course.errands
  · rw [hreads]
    exact course.last
  · rw [hreads]
    exact fun h => .inl (hgoing h)
  · rw [hreads]
    exact fun h => .inr (hover h)

/-- What is read while the loop goes on leaves it on course. -/
theorem Course.concat_of_read (course : Course config log turn) (hdemand : e.demand = turn.demand)
    (hread : e.read? = some read) (hgoing : (readIn log).any ends = false)
    (heeded : Heeded read turn'.demand) : Course config (log ++ [e]) turn' := by
  obtain ⟨outputs, demand⟩ := turn'
  dsimp only at heeded
  have hreads : readIn (log ++ [e]) = readIn log ++ [read] := by
    rw [readIn, List.filterMap_append, List.filterMap_cons_some hread]
    rfl
  have hends : (readIn (log ++ [e])).any ends = ends read := by
    rw [hreads, List.any_append, hgoing, List.any_cons, List.any_nil, Bool.or_false, Bool.false_or]
  constructor
  · rw [asked_concat hdemand, List.filterMap_append, course.errands, hends, hreads, hgoing,
      commands_concat hgoing]
    cases heeded with
    | ended h => simp [h, Demand.errand?]
    | sent h hsends => simp [h, hsends, Demand.errand?]
    | line h hsends | state h hsends => simp [h, hsends, Demand.errand?]
  · rw [hreads, List.dropLast_concat]
    exact fun r hr => by simpa using List.any_eq_false.mp hgoing r hr
  · rw [hends]
    intro h
    cases heeded with
    | ended h' => rw [h] at h'; cases h'
    | sent => exact .inr (.inr ⟨_, rfl⟩)
    | line => exact .inl rfl
    | state => exact .inr (.inl rfl)
  · rw [hends]
    intro h
    cases heeded with
    | ended => exact .inl rfl
    | sent h' | line h' | state h' => rw [h] at h'; cases h'

/-- Every exchange leaves the loop on course. -/
theorem Course.concat (course : Course config log turn) (hdemand : e.demand = turn.demand) :
    Course config (log ++ [e]) (Program.resume address e.demand e.reply) := by
  obtain ⟨demand, reply⟩ := e
  dsimp only at hdemand
  cases hends : (readIn log).any ends with
  | false =>
    have hgoing : demand = .line ∨ demand = .state ∨ ∃ text, demand = .send text := by
      rw [hdemand]
      exact course.going hends
    obtain rfl | rfl | ⟨text, rfl⟩ := hgoing
    · exact course.concat_of_read hdemand rfl hends (heeded_resume address reply)
    · exact course.concat_of_not_read hdemand rfl (fun _ => rfl)
        fun h => by rw [hends] at h; cases h
    · exact course.concat_of_not_read hdemand rfl (fun _ => demand_resume_send ..)
        fun h => by rw [hends] at h; cases h
  | true =>
    have hover : demand = .disconnect ∨ demand = .exit 0 := by
      rw [hdemand]
      exact course.ended hends
    obtain rfl | rfl := hover
    · exact course.concat_of_not_read hdemand rfl (fun h => by rw [hends] at h; cases h)
        fun _ => rfl
    · exact reply.elim

/-- The loop is on course after every conversation. -/
theorem course_of_after? {outputs : List Output}
    (h : (Program.ask address outputs).after? address log = some turn) : Course config log turn := by
  induction log using List.reverseRecOn generalizing turn with
  | nil =>
    obtain rfl := Option.some.inj h
    exact course_ask address outputs
  | append_singleton log e ih =>
    obtain ⟨t, ht, hdemand, rfl⟩ := Turn.after?_concat.mp h
    exact (ih ht).concat hdemand

/-! ## The end of the loop -/

variable {inputs inputs' : List (Except InputError (Option String))}
  {outcomes outcomes' : ℕ → Except Error String} {states states' : ℕ → ConnectionState}

/-- The program exits after some more exchanges, which take what they read, the outcomes of commands
and the states of the connection from what there is, in order. -/
structure Completes (address : String) (inputs : List (Except InputError (Option String)))
    (outcomes : ℕ → Except Error String) (states : ℕ → ConnectionState) (turn : Turn)
    (rest : List Exchange) (final : Turn) : Prop where
  /-- The program ends up there. -/
  after : turn.after? address rest = some final
  /-- It exits. -/
  exits : final.demand = .exit 0
  /-- What was read. -/
  read : readIn rest <+: inputs
  /-- What came of the commands. -/
  sent : ∃ k, rest.filterMap Exchange.outcome? = (List.range k).map outcomes
  /-- What the states were. -/
  shown : ∃ k, rest.filterMap Exchange.state? = (List.range k).map states

/-- The program exits in the end, given what there is to read, the outcomes of commands and the
states of the connection. -/
def Exits (address : String) (inputs : List (Except InputError (Option String)))
    (outcomes : ℕ → Except Error String) (states : ℕ → ConnectionState) (turn : Turn) : Prop :=
  ∃ rest final, Completes address inputs outcomes states turn rest final

theorem exits_of_exit (h : turn.demand = .exit 0) : Exits address inputs outcomes states turn :=
  ⟨[], turn, rfl, h, List.nil_prefix, ⟨0, rfl⟩, ⟨0, rfl⟩⟩

/-- A program that has closed the connection exits. -/
theorem exits_of_disconnect (h : turn.demand = .disconnect) :
    Exits address inputs outcomes states turn :=
  ⟨[⟨.disconnect, ()⟩], _, if_pos h.symm, rfl, List.nil_prefix, ⟨0, rfl⟩, ⟨0, rfl⟩⟩

/-- A program that exits after the next exchange exits. -/
theorem Exits.cons (hdemand : e.demand = turn.demand)
    (exits : Exits address inputs' outcomes' states' (Program.resume address e.demand e.reply))
    (hinputs : e.read?.toList ++ inputs' = inputs)
    (houtcomes : ∀ k, ∃ l, e.outcome?.toList ++ (List.range k).map outcomes' =
      (List.range l).map outcomes)
    (hstates : ∀ k, ∃ l, e.state?.toList ++ (List.range k).map states' =
      (List.range l).map states) : Exits address inputs outcomes states turn := by
  have hfilter {α : Type} (f : Exchange → Option α) (rest : List Exchange) :
      (e :: rest).filterMap f = (f e).toList ++ rest.filterMap f := by
    cases h : f e with
    | none => rw [List.filterMap_cons_none h]; rfl
    | some a => rw [List.filterMap_cons_some h]; rfl
  obtain ⟨rest, final, hafter, hexit, hread, ⟨k, houtcome⟩, ⟨l, hstate⟩⟩ := exits
  refine ⟨e :: rest, final, (if_pos hdemand).trans hafter, hexit, ?_, ?_, ?_⟩
  · rw [readIn, hfilter, ← hinputs]
    exact (List.prefix_append_right_inj _).mpr hread
  · rw [hfilter, houtcome]
    exact houtcomes k
  · rw [hfilter, hstate]
    exact hstates l

/-- The first of a sequence and those that follow. -/
theorem exists_range_succ {α : Type} (f : ℕ → α) (k : ℕ) :
    ∃ l, f 0 :: (List.range k).map (fun n => f (n + 1)) = (List.range l).map f := by
  refine ⟨k + 1, ?_⟩
  rw [List.range_succ_eq_map, List.map_cons, List.map_map]
  rfl

/-- A program that shows a state exits if it does so after it reads the next line. -/
theorem Exits.of_state (h : turn.demand = .state)
    (exits : ∀ states', Exits address inputs outcomes states'
      (Program.resume address .state (states 0))) : Exits address inputs outcomes states turn :=
  .cons (e := ⟨.state, states 0⟩) h.symm (exits fun n => states (n + 1)) rfl (fun k => ⟨k, rfl⟩)
    (exists_range_succ states)

/-- A program that sends a command exits if it does so after its outcome. -/
theorem Exits.of_send {text : String} (h : turn.demand = .send text)
    (exits : ∀ outcomes', Exits address inputs outcomes' states
      (Program.resume address (.send text) (outcomes 0))) :
    Exits address inputs outcomes states turn :=
  .cons (e := ⟨.send text, outcomes 0⟩) h.symm (exits fun n => outcomes (n + 1)) rfl
    (exists_range_succ outcomes) fun k => ⟨k, rfl⟩

/-- A program that reads a line exits if it does so after it. -/
theorem Exits.of_read (h : turn.demand = .line)
    (exits : Exits address inputs outcomes states (Program.resume address .line read)) :
    Exits address (read :: inputs) outcomes states turn :=
  .cons (e := ⟨.line, read⟩) h.symm exits rfl (fun k => ⟨k, rfl⟩) fun k => ⟨k, rfl⟩

/-- Whatever is read and comes of the commands, a program that reads lines exits in the end. -/
theorem exits_of_line (h : turn.demand = .line) :
    Exits address (inputs ++ [.ok none]) outcomes states turn := by
  induction inputs generalizing turn outcomes states with
  | nil => exact .of_read h (exits_of_disconnect rfl)
  | cons read inputs ih =>
    refine .of_read h ?_
    have heeded := heeded_resume address read
    generalize Program.resume address .line read = next at heeded
    obtain ⟨outputs, demand⟩ := next
    cases heeded with
    | ended => exact exits_of_disconnect rfl
    | sent => exact .of_send rfl fun _ => ih (demand_resume_send ..)
    | line => exact ih rfl
    | state => exact .of_state rfl fun _ => ih rfl

/-- A loop on course exits in the end. -/
theorem Course.exits (course : Course config log turn) :
    Exits address (inputs ++ [.ok none]) outcomes states turn := by
  cases hends : (readIn log).any ends with
  | false =>
    obtain h | h | ⟨text, h⟩ := course.going hends
    · exact exits_of_line h
    · exact .of_state h fun _ => exits_of_line rfl
    · exact .of_send h fun _ => exits_of_line (demand_resume_send ..)
  | true => exact (course.ended hends).elim exits_of_disconnect exits_of_exit

/-- What comes after the end of the loop does not matter. -/
theorem commands_append (hends : reads.any ends = true) :
    commands (reads ++ inputs) = commands reads := by
  have hshorter : (reads.takeWhile (!ends ·)).length ≠ reads.length := fun hlength => by
    have hall := List.takeWhile_eq_self_iff.mp
      ((List.takeWhile_prefix _).eq_of_length hlength)
    obtain ⟨read, hread, h⟩ := List.any_eq_true.mp hends
    have := hall read hread
    rw [h] at this
    cases this
  rw [commands, commands, List.takeWhile_append, if_neg hshorter]

/-- The end of the input is no command. -/
theorem commands_end (reads : List (Except InputError (Option String))) :
    commands (reads ++ [.ok none]) = commands reads := by
  cases hends : reads.any ends with
  | false =>
    rw [commands_concat hends]
    exact List.append_nil _
  | true => exact commands_append hends

/-- When the program has exited, the client has been asked to send every command there is to read. -/
theorem Completes.errands {rest : List Exchange} {final : Turn}
    (completes : Completes address (inputs ++ [.ok none]) outcomes states turn rest final)
    (course : Course config (log ++ rest) final) :
    (final.asked (log ++ rest)).filterMap (Demand.errand? config) =
      (commands (readIn log ++ inputs)).map
        (Errand.command · config.multiPacket config.commandTimeout) ++ [.disconnect] := by
  have hends : (readIn (log ++ rest)).any ends = true := by
    rw [← Bool.not_eq_false]
    intro h
    obtain h | h | ⟨text, h⟩ := course.going h
    all_goals rw [completes.exits] at h; cases h
  obtain ⟨later, hlater⟩ := completes.read
  have hreads : readIn log ++ inputs ++ [.ok none] = readIn (log ++ rest) ++ later := by
    rw [List.append_assoc, ← hlater, ← List.append_assoc, readIn, readIn, readIn,
      List.filterMap_append]
  rw [course.errands, if_pos hends, ← commands_end (readIn log ++ inputs), hreads,
    commands_append hends]

/-- At every point of every conversation, the loop over lines has asked the client to send exactly
the commands that were read, up to where the loop ends. Whatever comes of them, it goes on from there
until it has sent every command there is to read, and exits. -/
theorem commands_sent (address : String) (outputs : List Output) (config : Config)
    (log : List Exchange) (turn : Turn)
    (h : (Program.ask address outputs).after? address log = some turn) :
    Course config log turn ∧
      ∀ (inputs : List (Except InputError (Option String))) (outcomes : ℕ → Except Error String)
        (states : ℕ → ConnectionState), ∃ rest final,
        Completes address (inputs ++ [.ok none]) outcomes states turn rest final ∧
          (final.asked (log ++ rest)).filterMap (Demand.errand? config) =
            (commands (readIn log ++ inputs)).map
              (Errand.command · config.multiPacket config.commandTimeout) ++ [.disconnect] := by
  have course : Course config log turn := course_of_after? h
  refine ⟨course, fun inputs outcomes states => ?_⟩
  obtain ⟨rest, final, completes⟩ : Exits address (inputs ++ [.ok none]) outcomes states turn :=
    course.exits
  have hrest : (Program.ask address outputs).after? address (log ++ rest) = some final := by
    rw [Turn.after?_append, h]
    exact completes.after
  exact ⟨rest, final, completes, completes.errands (course_of_after? hrest)⟩

/-- A command fails, a line is blank, and the next is no builtin. -/
def failedCommand : List Exchange :=
  [⟨.line, .ok (some " status ")⟩, ⟨.send "status", .error .timeout⟩, ⟨.line, .ok (some " ")⟩,
    ⟨.line, .ok (some "!stop")⟩]

/-- The loop goes on after that, and does not send what comes after `!quit`. -/
theorem commands_sent_failing : ∃ turn rest, ∃ final : Turn,
    (Program.ask "" []).after? "" failedCommand = some turn ∧
      (final.asked (failedCommand ++ rest)).filterMap (Demand.errand? {}) =
        [.command "status" false 5000, .command "users" false 5000, .disconnect] := by
  have hafter : ((Program.ask "" []).after? "" failedCommand).isSome = true := by decide
  obtain ⟨turn, hturn⟩ := Option.isSome_iff_exists.mp hafter
  obtain ⟨rest, final, -, herrands⟩ := (commands_sent "" [] {} failedCommand turn hturn).2
    [.ok (some "users"), .ok (some "! quit"), .ok (some "say")] (fun _ => .ok "") fun _ => .ready
  refine ⟨turn, rest, final, hturn, herrands.trans ?_⟩
  decide

end RemoteConsole.CommandLine
