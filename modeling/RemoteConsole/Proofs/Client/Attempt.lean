import RemoteConsole.Proofs.Client.Trials
import RemoteConsole.Proofs.Client.Unattended

/-!
# Attempts to authenticate on one connection

A client that has made one connection and sends nothing but passwords on it is known in every detail
(`connected`, `loginSession`). An `Attempt` is the call that tries one more password there, after
others were rejected, and each of its steps has an equation here.
-/

namespace RemoteConsole

namespace Client

/-- A connection on which passwords are tried. -/
def loginSession (config : Config) (auth : Option Nat) (attempts : Nat) (written : Bytes)
    (sent : List String) (verdicts : List Verdict) : Session where
  conn := {
    generation := 1
    routing := config.routing
    auth, attempts
    tasks := [0, 1]
    tracked := 2 }
  written
  sent := sent.map Packet.ofPassword
  verdicts

/-- A client that has made one connection. -/
def connected (config : Config) (password : String) (calls : List Call) (connecting : Option Nat)
    (holder : Option Holder) (state : ConnectionState) (s : Session) : Client where
  config
  password
  cell := ⟨1, state⟩
  generation := 1
  sessions := [s]
  current := some 1
  connectLock := connecting
  sessionLock := holder
  calls

variable {config : Config} {password : String} {calls done : List Call} {connecting : Option Nat}
  {holder : Option Holder} {state : ConnectionState} {s : Session} {c c' : Client} {g : Nat}
  {bytes : Bytes} {auth : Option Nat} {attempts : Nat} {written : Bytes} {sent : List String}
  {verdicts : List Verdict} {action : Action} {call : Call}

/-- No check starts where connections are not checked. -/
theorem startWatch_of_unchecked (h : c.config.checkInterval = none) (g : Nat) :
    c.startWatch g = c := by
  rw [startWatch, h]

theorem session?_connected (hs : s.conn.generation = 1) :
    (connected config password calls connecting holder state s).session? 1 = some s := by
  rw [session?, connected, List.find?_cons_of_pos (by rw [hs]; rfl)]

/-- An operation on the connection, of which no listener is told. -/
theorem onLink_connected {f : Link → Effects × Link} {effects : Effects} {conn : Connection}
    (hs : s.conn.generation = 1)
    (hf : f ⟨s.conn, ⟨1, state⟩, {}⟩ = (effects, ⟨conn, ⟨1, state⟩, {}⟩))
    (heard : effects.heard = []) :
    (connected config password calls connecting holder state s).onLink 1 f =
      connected config password calls connecting holder state { s with
        conn
        ended := s.ended ++ effects.ended
        verdicts := s.verdicts ++ effects.verdicts } := by
  have hsession : (s.conn.generation == 1) = true := by
    rw [hs]
    rfl
  have hlink : f ⟨s.conn, (connected config password calls connecting holder state s).cell,
      (connected config password calls connecting holder state s).listeners⟩ =
        (effects, ⟨conn, ⟨1, state⟩, {}⟩) := hf
  rw [onLink, session?_connected hs]
  dsimp only
  rw [hlink]
  simp only [modifySession, connected, heard, List.append_nil, List.map_cons, List.map_nil,
    hsession, if_true]

/-- A frame ends the authentication that waits, if it holds a verdict, and does nothing else. -/
theorem receive_connected (h : (connected config password calls connecting holder state
    (loginSession config auth attempts written sent verdicts)).receive g bytes = some c') :
    g = 1 ∧ c' = connected config password calls connecting holder state
      (match Packet.verdictIn? config.encoding bytes with
      | some accepted => loginSession config none attempts written sent
          (verdicts ++ auth.toList.map (⟨·, some accepted⟩))
      | none => loginSession config auth attempts written sent verdicts) := by
  by_cases hg : g = 1
  · subst hg
    refine ⟨rfl, ?_⟩
    rw [receive, session?_connected rfl] at h
    obtain rfl := Option.some.inj h
    cases hverdict : Packet.verdictIn? config.encoding bytes with
    | some accepted =>
      exact onLink_connected (f := (·.frameReceived bytes)) rfl
        (Link.frameReceived_of_verdictIn rfl hverdict) rfl
    | none =>
      refine (onLink_connected (f := (·.frameReceived bytes)) rfl
        (Link.frameReceived_of_idle rfl rfl hverdict) rfl).trans ?_
      rw [List.append_nil, List.append_nil]
  · have hnone : (connected config password calls connecting holder state
        (loginSession config auth attempts written sent verdicts)).session? g = none := by
      refine List.find?_eq_none.mpr fun s hs => ?_
      rw [List.mem_singleton.mp hs]
      exact fun h => hg (beq_iff_eq.mp h).symm
    rw [receive, hnone] at h
    cases h

/-! ## Attempts -/

/-- The verdicts on some passwords that were rejected. -/
def refusals (count : Nat) : List Verdict :=
  (List.range count).map (⟨·, some false⟩)

theorem length_refusals (count : Nat) : (refusals count).length = count := by
  rw [refusals, List.length_map, List.length_range]

/-- There is no verdict yet on the authentication that comes next. -/
theorem find?_refusals (count : Nat) : (refusals count).find? (·.attempt == count) = none := by
  refine List.find?_eq_none.mpr fun v hv => ?_
  obtain ⟨i, hi, rfl⟩ := List.mem_map.mp hv
  exact fun h => (List.mem_range.mp hi).ne (beq_iff_eq.mp h)

/-- An attempt with a password, after others were rejected. -/
structure Attempt where
  /-- The configuration. -/
  config : Config
  /-- Connections are not checked. -/
  unchecked : config.checkInterval = none
  /-- The calls before it. -/
  done : List Call
  /-- They are over. -/
  finished : ∀ call ∈ done, call.isOver = true
  /-- What its call is to do. -/
  errand : Errand
  /-- It is to authenticate and nothing else. -/
  authenticates : ∀ text multi timeout, errand ≠ .command text multi timeout
  /-- The call that has the connect lock, if one has it. -/
  connecting : Option Nat
  /-- It is that of the attempt. -/
  connects : connecting = none ∨ connecting = some done.length
  /-- The passwords that were rejected. -/
  rejected : List String
  /-- The password. -/
  password : String

namespace Attempt

variable (a : Attempt)

/-- The number of its call. -/
def number : Nat :=
  a.done.length

/-- The number of its authentication on the connection. -/
def trial : Nat :=
  a.rejected.length

/-- The client, with the call at a stage. -/
def client (stage : Stage) (holder : Option Holder) (state : ConnectionState) (s : Session) :
    Client :=
  connected a.config a.password (a.done ++ [⟨a.errand, stage⟩]) a.connecting holder state s

/-- The client after the call. -/
def ended (answer : Answer) (state : ConnectionState) (s : Session) : Client :=
  connected a.config a.password (a.done ++ [⟨a.errand, .finished answer⟩]) none none state s

/-- The connection before the authentication begins. -/
def before (written : Bytes) : Session :=
  loginSession a.config none a.trial written a.rejected (refusals a.trial)

/-- The connection when it has begun. -/
def begun (written : Bytes) : Session :=
  loginSession a.config (some a.trial) (a.trial + 1) written a.rejected (refusals a.trial)

/-- The connection when the password has been sent. -/
def posted (written : Bytes) : Session :=
  loginSession a.config (some a.trial) (a.trial + 1) written (a.rejected ++ [a.password])
    (refusals a.trial)

/-- The connection when the server has answered. -/
def answered (written : Bytes) (accepted : Bool) : Session :=
  loginSession a.config none (a.trial + 1) written (a.rejected ++ [a.password])
    (refusals a.trial ++ [⟨a.trial, some accepted⟩])

/-- The connection when the password could not be sent. -/
def dropped (written : Bytes) : Session :=
  loginSession a.config none (a.trial + 1) written a.rejected
    (refusals a.trial ++ [⟨a.trial, none⟩])

variable {a} {stage stage' : Stage}

theorem calls_client : (a.client stage holder state s).calls[a.number]? = some ⟨a.errand, stage⟩ :=
  List.getElem?_concat_length ..

theorem setStage_client :
    (a.client stage holder state s).setStage a.number stage' = a.client stage' holder state s := by
  have hmodify (call : Call) (f : Call → Call) :
      (a.done ++ [call]).modify a.number f = a.done ++ [f call] := by
    rw [number]
    induction a.done with
    | nil => rfl
    | cons call done ih =>
      rw [List.cons_append, List.length_cons, List.modify_succ_cons, ih]
      rfl
  rw [setStage, client, connected]
  dsimp only
  rw [hmodify]
  rfl

/-- A call that ends gives up the locks that it may have. -/
theorem finish_client (answer : Answer) (hholder : holder = none ∨ holder = some (.call a.number)) :
    (a.client stage holder state s).finish a.number answer = a.ended answer state s := by
  -- The first attempt has the connect lock, which it gives up with the session lock.
  have hunlock : (a.client stage holder state s).unlock a.number =
      { a.client stage none state s with connectLock := none } := by
    have hsession : (a.client stage holder state s).unlockSession (.call a.number) =
        a.client stage none state s := by
      obtain rfl | rfl := hholder
      · rfl
      · exact if_pos rfl
    rw [unlock, hsession, unlockConnect]
    obtain hnone | hsome := a.connects
    · rw [client, connected, hnone, if_neg (Option.some_ne_none _).symm]
    · exact if_pos hsome
  rw [finish, hunlock]
  exact setStage_client (a := { a with connecting := none, connects := .inl rfl })

theorem refuse_client (error : AuthError)
    (hholder : holder = none ∨ holder = some (.call a.number)) :
    (a.client stage holder state s).refuse a.number a.errand error =
      a.ended (a.errand.refusal error) state s :=
  finish_client _ hholder

theorem proceed_client (hholder : holder = none ∨ holder = some (.call a.number)) :
    (a.client stage holder state s).proceed a.number a.errand = a.ended .done state s := by
  have hauth := a.authenticates
  cases herrand : a.errand with
  | command text multi timeout => exact absurd herrand (hauth text multi timeout)
  | connect | authenticate | disconnect => exact finish_client _ hholder

theorem advance_waiting {written : Bytes} :
    (a.client (.awaitAuthLock a.password) none state (a.before written)).advance a.number =
      some (a.client (.lookForAuth a.password) (some (.call a.number)) state
        (a.before written)) := by
  rw [advance, calls_client]
  exact congrArg some setStage_client

theorem advance_looking {written : Bytes} :
    (a.client (.lookForAuth a.password) (some (.call a.number)) state (a.before written)).advance
      a.number = some (a.client (.beginningAuth 1 a.password) (some (.call a.number)) state
        (a.before written)) := by
  rw [advance, calls_client]
  exact congrArg some setStage_client

theorem advance_beginning {written : Bytes} :
    (a.client (.beginningAuth 1 a.password) (some (.call a.number)) state
      (a.before written)).advance a.number =
      some (match (Packet.ofPassword a.password).encode a.config.encoding
          a.config.maxPacketSize with
        | .ok bytes => a.client (.writingAuth 1 a.trial (.ofPassword a.password) bytes)
            (some (.call a.number)) state (a.begun written)
        | .error e => a.ended (a.errand.refusal (.fatal e)) state (a.dropped written)) := by
  have hsession : (a.client (.beginningAuth 1 a.password) (some (.call a.number)) state
      (a.before written)).session? 1 = some (a.before written) := session?_connected rfl
  have hbegin : (a.client (.beginningAuth 1 a.password) (some (.call a.number)) state
      (a.before written)).onConn 1 (·.beginAuth) = a.client (.beginningAuth 1 a.password)
        (some (.call a.number)) state (a.begun written) := by
    refine (onLink_connected (f := (·.within (·.beginAuth))) rfl rfl rfl).trans ?_
    simp only [before, loginSession, Connection.verdict, Option.toList_none, List.map_nil,
      List.append_nil]
    rfl
  have hcancel : (a.client (.beginningAuth 1 a.password) (some (.call a.number)) state
      (a.begun written)).onConn 1 (·.cancelAuth) = a.client (.beginningAuth 1 a.password)
        (some (.call a.number)) state (a.dropped written) := by
    refine (onLink_connected (f := (·.within (·.cancelAuth))) rfl rfl rfl).trans ?_
    rw [List.append_nil]
    rfl
  simp only [advance, calls_client, hsession, Option.bind_eq_bind, Option.bind_some, hbegin]
  -- What the connection was made with is the configuration of the client.
  change (match (Packet.ofPassword a.password).encode a.config.encoding a.config.maxPacketSize with
    | .ok bytes => _ | .error e => _) = _
  cases (Packet.ofPassword a.password).encode a.config.encoding a.config.maxPacketSize with
  | ok bytes => exact congrArg some setStage_client
  | error e =>
    dsimp only
    rw [hcancel]
    exact congrArg some (refuse_client _ (.inr rfl))

theorem write_writing {written bytes : Bytes} :
    (a.client (.writingAuth 1 a.trial (.ofPassword a.password) bytes) (some (.call a.number)) state
      (a.begun written)).write a.number .written = some (a.client (.awaitVerdict 1 a.trial) none
        state (a.posted (written ++ bytes))) := by
  have hput : (a.client (.writingAuth 1 a.trial (.ofPassword a.password) bytes)
      (some (.call a.number)) state (a.begun written)).put 1 [.ofPassword a.password] bytes
        .written = (a.client (.writingAuth 1 a.trial (.ofPassword a.password) bytes)
          (some (.call a.number)) state (a.posted (written ++ bytes)), none) := by
    rw [posted, loginSession, List.map_append]
    rfl
  simp only [write, calls_client, Option.bind_eq_bind, Option.bind_some, hput]
  have hunlock : (a.client (.writingAuth 1 a.trial (.ofPassword a.password) bytes)
      (some (.call a.number)) state (a.posted (written ++ bytes))).unlockSession (.call a.number) =
        a.client (.writingAuth 1 a.trial (.ofPassword a.password) bytes) none state
          (a.posted (written ++ bytes)) := if_pos rfl
  rw [hunlock, setStage_client]

theorem advance_posted {written : Bytes} :
    (a.client (.awaitVerdict 1 a.trial) none state (a.posted written)).advance a.number = none := by
  have hsession : (a.client (.awaitVerdict 1 a.trial) none state (a.posted written)).session? 1 =
      some (a.posted written) := session?_connected rfl
  have hverdict : (a.posted written).verdict? a.trial = none := by
    rw [Session.verdict?, posted, loginSession, find?_refusals, Option.map_none]
  simp only [advance, calls_client, hsession, hverdict, Option.bind_eq_bind, Option.bind_some,
    Option.bind_none]

theorem advance_answered {written : Bytes} {accepted : Bool} :
    (a.client (.awaitVerdict 1 a.trial) none .authenticating (a.answered written accepted)).advance
      a.number = some (match accepted with
        | true => a.ended .done .ready (a.answered written true)
        | false => a.ended (a.errand.refusal .invalidPassword) .authenticating
            (a.answered written false)) := by
  have hsession : (a.client (.awaitVerdict 1 a.trial) none .authenticating
      (a.answered written accepted)).session? 1 = some (a.answered written accepted) :=
    session?_connected rfl
  have hverdict : (a.answered written accepted).verdict? a.trial = some (some accepted) := by
    rw [Session.verdict?, answered, loginSession, List.find?_append, find?_refusals, Option.none_or,
      List.find?_cons_of_pos (by exact beq_self_eq_true _)]
    rfl
  simp only [advance, calls_client, hsession, hverdict, Option.bind_eq_bind, Option.bind_some]
  cases accepted with
  | true =>
    dsimp only
    have hwatch : ((a.client (.awaitVerdict 1 a.trial) none .authenticating
        (a.answered written true)).setState 1 .ready).startWatch 1 =
          a.client (.awaitVerdict 1 a.trial) none .ready (a.answered written true) :=
      startWatch_of_unchecked a.unchecked 1
    rw [hwatch]
    exact congrArg some (proceed_client (.inl rfl))
  | false => exact congrArg some (refuse_client _ (.inl rfl))

end Attempt

end Client

end RemoteConsole
