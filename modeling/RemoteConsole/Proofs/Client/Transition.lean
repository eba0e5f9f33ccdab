import RemoteConsole.Proofs.Client.Sound
import RemoteConsole.Proofs.Client.Tickets
import RemoteConsole.Proofs.Connection.Balance

/-!
# What a step does

What a step of a call can do is said once (`CallStep`): it does some operations on one connection,
and the call moves on. What every step does to the connections of a client (`transition_of_step`)
and to its calls (`moves_of_step`) follows from that.

Every step deals with one connection at most, unless it begins an attempt to connect, ends one
without a stream, or puts a new connection in place. A step that is taken on behalf of a connection
deals with no other. A step either asks something, which leaves somebody waiting for an answer, or
leaves nobody waiting who did not wait before. It moves one call at most, which keeps its ticket,
gives it up, or takes the one that the connection has just given out.
-/

namespace RemoteConsole

/-- The generation of the connection that a call at a stage makes, uses or closes. -/
def Stage.generation? : Stage → Option Nat
  | dialing g | dialed g | replacing g | installing g | beginningAuth g _ | writingAuth g _ _ _
  | awaitVerdict g _ | registering g | writingCommand g _ _ _ _ | awaitResponse g _ _
  | shuttingDown g => some g
  | awaitConnectLock | lookAtState | awaitAuthLock _ | lookForAuth _ | awaitCommandLock
  | lookForCommand | awaitDisconnectLock | finished _ | abandoned => none

/-- A call at a stage uses no connection but that of a generation, unless it makes one. -/
def Stage.ActsOn (stage : Stage) (g : Nat) : Prop :=
  stage.generation? = none ∨ stage.generation? = some g ∨ stage.attempt? = stage.generation?

namespace Client

open Link (Quiet)

variable {c c' d : Client} {action : Action} {n g : Nat} {errand : Errand} {stage stage' : Stage}
  {ops : List Link.Op}

/-- The generation of the connection on whose behalf a step is taken. -/
def actsFor? (c : Client) : Action → Option Nat
  | .frame g _ | .hangUp g | .watch g | .watchWrite g _ | .watchExpire g => some g
  | .advance n | .dial n _ | .write n _ | .expire n | .abandon n _ =>
    (c.calls[n]?).bind (·.stage.generation?)
  | .call _ | .setPassword _ => none

/-- Whether a step asks something on the connection of a generation: a call registers a request or
begins an authentication there, and goes on to write it, or a connection check does. -/
def asks (c : Client) (action : Action) (g : Nat) : Bool :=
  match action with
  | .advance n => ((c.advance n).bind (·.calls[n]?)).any (·.stage.writesOn g)
  | .watch h => h == g && (c.session? g).any (·.watch == .registering)
  | _ => false

/-- A call makes the connection of a generation. -/
def Attempts (c : Client) (g : Nat) : Prop :=
  ∃ n stage, c.outline.stage? n = some stage ∧ stage.attempt? = some g

/-- A step is taken on behalf of the connection of a generation, or makes one, or neither. -/
def Acts (c : Client) (action : Action) (g : Nat) : Prop :=
  ∀ h, c.actsFor? action = some h → h = g ∨ c.Attempts h

/-- What a step does to a connection on which it leaves nobody waiting who did not wait before. -/
inductive Calm (g : Nat) : Action → List Link.Op → Prop where
  /-- It asks nothing, and concerns authentications only if it closes the connection. -/
  | plain {action : Action} {ops : List Link.Op} (h : ∀ op ∈ ops, op.isPlain = true) :
    Calm g action ops
  /-- A request is taken back at once. -/
  | request {action : Action} (id : Int32) (multi : Bool) :
    Calm g action [.register id multi, .remove id]
  /-- An authentication is dropped at once. -/
  | authentication {action : Action} : Calm g action [.beginAuth, .cancelAuth]
  /-- A call whose time is up drops its authentication. -/
  | expired {n : Nat} : Calm g (.expire n) [.cancelAuth]
  /-- A call whose write has failed drops its authentication. -/
  | broken {action : Action} : Calm g action [.close, .cancelAuth]
  /-- A frame arrives. -/
  | frame (bytes : Bytes) : Calm g (.frame g bytes) [.frame bytes]

namespace Calm

theorem nil : Calm g action [] :=
  .plain fun _ hop => absurd hop List.not_mem_nil

/-- A single operation. -/
theorem single {op : Link.Op} (h : op.isPlain = true) : Calm g action [op] :=
  .plain (List.forall_mem_singleton.mpr h)

/-- Two operations. -/
theorem pair {op op' : Link.Op} (h : op.isPlain = true) (h' : op'.isPlain = true) :
    Calm g action [op, op'] :=
  .plain (List.forall_mem_cons.mpr ⟨h, List.forall_mem_singleton.mpr h'⟩)

/-- Such a step leaves nobody waiting. -/
theorem quiet (calm : Calm g action ops) : Quiet ops := by
  cases calm with
  | plain h => exact .unasked fun op hop => Link.Op.asks_of_isPlain (h op hop)
  | request id multi => exact .request id multi
  | authentication => exact .authentication
  | expired | frame => exact .single rfl
  | broken => exact .pair rfl rfl

end Calm

/-- What one step does to the connections of a client. -/
inductive Transition (c : Client) (action : Action) (c' : Client) : Prop where
  /-- It deals with one, and leaves nobody waiting on it who did not wait before. -/
  | dealt {g : Nat} {ops : List Link.Op} (acts : c.Acts action g) (calm : Calm g action ops)
    (unasked : ∀ h, c.asks action h = false) (deals : Deals g ops c c')
  /-- It asks something on one. -/
  | asked {g : Nat} {op : Link.Op} (acts : c.Acts action g) (asking : op.asks = true)
    (asked : c.asks action g = true) (deals : Deals g [op] c c')
  /-- It begins an attempt to connect, or ends one without a stream. -/
  | attempted (acts : ∀ h, c.actsFor? action = some h → c.Attempts h)
    (unasked : ∀ h, c.asks action h = false) (sessions : c'.sessions = c.sessions)
    (listeners : c'.listeners = c.listeners) (heard : c'.heard = c.heard)
  /-- It puts a new one in place. -/
  | made {g : Nat} (acts : ∀ h, c.actsFor? action = some h → c.Attempts h)
    (unasked : ∀ h, c.asks action h = false) (attempt : c.Attempts g)
    (sessions : c'.sessions = c.sessions ++ [c.newSession g])
    (listeners : c'.listeners = c.listeners) (heard : c'.heard = c.heard)

/-- What one step does to the calls of a client. -/
inductive Moves (c : Client) (action : Action) (c' : Client) : Prop where
  /-- It moves none. -/
  | kept (calls : c'.calls = c.calls)
  /-- It makes one, which has no ticket. -/
  | made {call : Call} (calls : c'.calls = c.calls ++ [call]) (fresh : call.stage.ticket? = none)
  /-- It moves one, which has no other ticket than before unless that has just been given out. -/
  | moved {n : Nat} {errand : Errand} {stage stage' : Stage} (taker : action.call? = some n)
    (call : c.calls[n]? = some ⟨errand, stage⟩)
    (calls : c'.calls = c.calls.modify n fun call => { call with stage := stage' })
    (ticket : ∀ g t, stage'.ticket? = some (g, t) →
      stage.ticket? = some (g, t) ∨ c'.HasIssued g t)

/-- What a step of a call at a stage does: `d` is the client before the call moves on. -/
inductive CallStep (c : Client) (n : Nat) (stage : Stage) : Action → Client → Prop where
  /-- It deals with a connection and leaves nobody waiting there who did not wait before. The call
  gives up its ticket, unless it has written. -/
  | dealt {action : Action} {g : Nat} {ops : List Link.Op} {d : Client} {stage' : Stage}
    (acts : stage.ActsOn g) (calm : Calm g action ops) (deals : Deals g ops c d)
    (calls : d.calls = c.calls) (silent : ∀ h, stage'.writesOn h = false)
    (ticket : stage'.ticket? = none ∨
      action = .write n .written ∧ stage'.ticket? = stage.ticket?) :
    CallStep c n stage action (d.setStage n stage')
  /-- It asks something on a connection, and gets a ticket for it. Only a call that is about to begin
  an authentication gets a ticket for one. -/
  | asked {g : Nat} {op : Link.Op} {d : Client} {stage' : Stage} {s : Session} {t : Ticket}
    (acts : stage.ActsOn g) (asking : op.asks = true) (session : c.session? g = some s)
    (deals : Deals g [op] c d) (calls : d.calls = c.calls) (writes : stage'.writesOn g = true)
    (ticket : stage'.ticket? = some (g, t))
    (issued : ((c.account s).link.apply op).2.2.conn.HasIssued t)
    (begins : ∀ attempt, t = .authentication attempt →
      ∃ password, stage = .beginningAuth g password) :
    CallStep c n stage (.advance n) (d.setStage n stage')
  /-- It begins an attempt to connect, or ends one without a stream. -/
  | attempted {action : Action} {d : Client} {stage' : Stage}
    (attempts : stage.attempt? = stage.generation?) (sessions : d.sessions = c.sessions)
    (listeners : d.listeners = c.listeners) (heard : d.heard = c.heard)
    (calls : d.calls = c.calls) (ticket : stage'.ticket? = none) :
    CallStep c n stage action (d.setStage n stage')
  /-- It puts the connection in place that it has made. -/
  | made {action : Action} {g : Nat} {d : Client} {stage' : Stage}
    (attempts : stage.attempt? = stage.generation?) (attempt : stage.attempt? = some g)
    (sessions : d.sessions = c.sessions ++ [c.newSession g])
    (listeners : d.listeners = c.listeners) (heard : d.heard = c.heard)
    (calls : d.calls = c.calls) (ticket : stage'.ticket? = none) :
    CallStep c n stage action (d.setStage n stage')

namespace CallStep

/-- A call that deals with a connection, and goes on without a ticket. -/
theorem go (acts : stage.ActsOn g) (calm : Calm g action ops) (deals : Deals g ops c d)
    (calls : d.calls = c.calls) (ticket : stage'.ticket? = none) :
    CallStep c n stage action (d.setStage n stage') :=
  .dealt acts calm deals calls (Stage.writesOn_of_ticket?_eq_none ticket) (.inl ticket)

/-- A call that deals with a connection, gives up its locks, and goes on without a ticket. -/
theorem leave (acts : stage.ActsOn g) (calm : Calm g action ops) (deals : Deals g ops c d)
    (calls : d.calls = c.calls) (ticket : stage'.ticket? = none) :
    CallStep c n stage action ((d.unlock n).setStage n stage') :=
  .go acts calm (deals.trans_nil (deals_unlock ..)) ((calls_unlock ..).trans calls) ticket

/-- A call that deals with a connection, and is connected. -/
theorem proceed (acts : stage.ActsOn g) (calm : Calm g action ops) (deals : Deals g ops c d)
    (calls : d.calls = c.calls) : CallStep c n stage action (d.proceed n errand) := by
  cases errand with
  | command text multi timeout => exact .leave acts calm deals calls rfl
  | connect | authenticate password | disconnect => exact .leave acts calm deals calls rfl

end CallStep

/-! ## The steps of calls -/

/-- A call that looks at the state goes on with the connection it finds, or begins to make one. -/
theorem callStep_of_lookAtState (hcall : c.calls[n]? = some ⟨errand, .lookAtState⟩)
    (h : c.advance n = some c') : CallStep c n .lookAtState (.advance n) c' := by
  unfold advance at h
  obtain ⟨call, hcall', h⟩ := Option.bind_eq_some_iff.mp h
  obtain rfl := Option.some.inj (hcall.symm.trans hcall')
  dsimp only at h
  split at h
  · obtain rfl := Option.some.inj h
    exact .proceed (g := 0) (.inl rfl) .nil (.of_eq rfl rfl rfl rfl) rfl
  · obtain rfl := Option.some.inj h
    exact .go (g := 0) (.inl rfl) .nil (.of_eq rfl rfl rfl rfl) rfl rfl
  -- Disconnected or connecting is the same to the call.
  all_goals
    obtain rfl := Option.some.inj h
    exact .attempted rfl rfl rfl rfl rfl rfl

/-- A call that begins an authentication writes it, unless the password is too large. -/
theorem callStep_of_beginningAuth {password : String}
    (hcall : c.calls[n]? = some ⟨errand, .beginningAuth g password⟩) (h : c.advance n = some c') :
    CallStep c n (.beginningAuth g password) (.advance n) c' := by
  have hacts : (Stage.beginningAuth g password).ActsOn g := .inr (.inl rfl)
  unfold advance at h
  obtain ⟨call, hcall', h⟩ := Option.bind_eq_some_iff.mp h
  obtain rfl := Option.some.inj (hcall.symm.trans hcall')
  obtain ⟨s, hs, h⟩ := Option.bind_eq_some_iff.mp h
  dsimp only at h
  split at h
  · obtain rfl := Option.some.inj h
    have hissued : s.conn.attempts < s.conn.attempts + 1 := Nat.lt_succ_self _
    exact .asked hacts rfl hs (deals_beginAuth c g) (calls_onConn ..) (beq_self_eq_true g) rfl
      hissued fun _ _ => ⟨password, rfl⟩
  · obtain rfl := Option.some.inj h
    exact .leave hacts .authentication ((deals_beginAuth c g).trans (deals_cancelAuth ..)) (by simp)
      rfl

/-- A call whose verdict has come takes it over, or is told that there will be none. -/
theorem callStep_of_awaitVerdict {attempt : Nat}
    (hcall : c.calls[n]? = some ⟨errand, .awaitVerdict g attempt⟩) (h : c.advance n = some c') :
    CallStep c n (.awaitVerdict g attempt) (.advance n) c' := by
  have hacts : (Stage.awaitVerdict g attempt).ActsOn g := .inr (.inl rfl)
  unfold advance at h
  obtain ⟨call, hcall', h⟩ := Option.bind_eq_some_iff.mp h
  obtain rfl := Option.some.inj (hcall.symm.trans hcall')
  obtain ⟨s, hs, h⟩ := Option.bind_eq_some_iff.mp h
  obtain ⟨verdict, -, h⟩ := Option.bind_eq_some_iff.mp h
  match verdict with
  | some true =>
    obtain rfl := Option.some.inj h
    obtain ⟨ops, hops, hwatch⟩ := deals_startWatch (c.setState g .ready) g
    have hplain : ∀ op ∈ Link.Op.state (.set g .ready) :: ops, op.isPlain = true := by
      refine List.forall_mem_cons.mpr ⟨rfl, fun op hop => ?_⟩
      obtain rfl | rfl := hops op hop
      · rfl
      · rfl
    exact .proceed hacts (.plain hplain) ((deals_setState hs .ready).trans hwatch) (by simp)
  | some false =>
    obtain rfl := Option.some.inj h
    exact .leave hacts (.single rfl) (deals_setState hs .authenticating) rfl rfl
  | none =>
    obtain rfl := Option.some.inj h
    exact .leave hacts .nil (.of_eq rfl rfl rfl rfl) rfl rfl

/-- An id is used up, and a request is registered with it. -/
theorem deals_registerNext (c : Client) (g : Nat) (multi : Bool) :
    Deals g [.register c.nextId multi] c
      ({ c with nextId := succId c.nextId }.onConn g (·.register c.nextId multi)) := by
  have hid : Deals g [] c { c with nextId := succId c.nextId } := .of_eq rfl rfl rfl rfl
  exact hid.trans (deals_register ..)

/-- A call that registers a request writes it, unless the command is too large. -/
theorem callStep_of_registering (hcall : c.calls[n]? = some ⟨errand, .registering g⟩)
    (h : c.advance n = some c') : CallStep c n (.registering g) (.advance n) c' := by
  have hacts : (Stage.registering g).ActsOn g := .inr (.inl rfl)
  unfold advance at h
  obtain ⟨call, hcall', h⟩ := Option.bind_eq_some_iff.mp h
  obtain rfl := Option.some.inj (hcall.symm.trans hcall')
  obtain ⟨s, hs, h⟩ := Option.bind_eq_some_iff.mp h
  match errand with
  | .command text multi timeout =>
    have hregister := deals_registerNext c g multi
    dsimp only at h
    split at h
    · obtain rfl := Option.some.inj h
      have hissued : s.conn.requests.issued < s.conn.requests.issued + 1 := Nat.lt_succ_self _
      exact .asked hacts rfl hs hregister (calls_onConn ..) (beq_self_eq_true g) rfl hissued nofun
    · obtain rfl := Option.some.inj h
      exact .leave hacts (.request _ _) (hregister.trans (deals_remove ..)) (by simp) rfl
  | .connect | .authenticate _ | .disconnect => cases h

/-- What the next step of a call does. -/
theorem callStep_of_advance (h : c.advance n = some c') :
    ∃ errand stage, c.calls[n]? = some ⟨errand, stage⟩ ∧ CallStep c n stage (.advance n) c' := by
  have hadvance := h
  unfold advance at h
  obtain ⟨⟨errand, stage⟩, hcall, h⟩ := Option.bind_eq_some_iff.mp h
  refine ⟨errand, stage, hcall, ?_⟩
  have hsame {g : Nat} : Deals g [] c c := .of_eq rfl rfl rfl rfl
  cases stage with
  | lookAtState => exact callStep_of_lookAtState hcall hadvance
  | beginningAuth g password => exact callStep_of_beginningAuth hcall hadvance
  | awaitVerdict g attempt => exact callStep_of_awaitVerdict hcall hadvance
  | registering g => exact callStep_of_registering hcall hadvance
  -- A call at one of these stages waits for the network or is over, and does not go on by itself.
  | dialing _ | writingAuth _ _ _ _ | writingCommand _ _ _ _ _ | finished _ | abandoned => cases h
  | awaitConnectLock =>
    dsimp only at h
    split_ifs at h
    obtain rfl := Option.some.inj h
    exact .go (g := 0) (.inl rfl) .nil (.of_eq rfl rfl rfl rfl) rfl rfl
  | dialed g =>
    obtain ⟨d, hlock, h⟩ := Option.bind_eq_some_iff.mp h
    obtain rfl := Option.some.inj h
    exact .go (.inr (.inl rfl)) .nil (deals_lockSession hlock g) (calls_lockSession hlock) rfl
  | replacing g =>
    obtain rfl := Option.some.inj h
    cases c.current with
    | none => exact .go (g := 0) (.inr (.inr rfl)) .nil hsame rfl rfl
    | some previous =>
      have hclose : Deals previous [.close] c { c.close previous with current := none } :=
        (deals_close c previous).trans_nil (.of_eq rfl rfl rfl rfl)
      exact .go (.inr (.inr rfl)) (.single rfl) hclose (calls_close ..) rfl
  | installing g =>
    obtain rfl := Option.some.inj h
    obtain ⟨hsessions, -, hlisteners, hheard⟩ := unlockSession_spec (Client.setState
      { c with sessions := c.sessions ++ [c.newSession g], current := g } g .authenticating)
      (.call n)
    exact .made rfl rfl hsessions hlisteners hheard (calls_unlockSession ..) rfl
  | awaitAuthLock _ | awaitCommandLock =>
    obtain ⟨d, hlock, h⟩ := Option.bind_eq_some_iff.mp h
    obtain rfl := Option.some.inj h
    exact .go (.inl rfl) .nil (deals_lockSession hlock 0) (calls_lockSession hlock) rfl
  | lookForAuth _ | lookForCommand =>
    dsimp only at h
    split at h
    · obtain rfl := Option.some.inj h
      exact .go (g := 0) (.inl rfl) .nil hsame rfl rfl
    · obtain rfl := Option.some.inj h
      exact .leave (g := 0) (.inl rfl) .nil hsame rfl rfl
  | awaitResponse g id slot =>
    obtain ⟨s, -, h⟩ := Option.bind_eq_some_iff.mp h
    obtain ⟨outcome, -, h⟩ := Option.bind_eq_some_iff.mp h
    cases outcome with
    | answered body | failed e | dropped =>
      obtain rfl := Option.some.inj h
      exact .leave (g := g) (.inr (.inl rfl)) .nil hsame rfl rfl
  | awaitDisconnectLock =>
    dsimp only at h
    split_ifs at h
    split at h
    · obtain rfl := Option.some.inj h
      exact .go (g := 0) (.inl rfl) .nil (.of_eq rfl rfl rfl rfl) rfl rfl
    · obtain rfl := Option.some.inj h
      exact .leave (g := 0) (.inl rfl) .nil hsame rfl rfl
  | shuttingDown g =>
    obtain rfl := Option.some.inj h
    exact .leave (.inr (.inl rfl)) (.single rfl) (deals_close c g) (calls_close ..) rfl

theorem callStep_of_dial {outcome : DialOutcome} (h : c.dial n outcome = some c') :
    ∃ errand stage, c.calls[n]? = some ⟨errand, stage⟩ ∧
      CallStep c n stage (.dial n outcome) c' := by
  unfold dial at h
  obtain ⟨⟨errand, stage⟩, hcall, h⟩ := Option.bind_eq_some_iff.mp h
  refine ⟨errand, stage, hcall, ?_⟩
  cases stage with
  | dialing g =>
    cases outcome with
    | stream =>
      obtain rfl := Option.some.inj h
      exact .go (g := g) (.inr (.inl rfl)) .nil (.of_eq rfl rfl rfl rfl) rfl rfl
    | refused | timedOut =>
      obtain rfl := Option.some.inj h
      obtain ⟨hsessions, -, hlisteners, hheard⟩ := unlock_spec (c.setState g .disconnected) n
      exact .attempted rfl hsessions hlisteners hheard (calls_unlock ..) rfl
  | _ => cases h

/-- A call that has written waits with the ticket that it wrote with. -/
theorem callStep_of_write {outcome : WriteOutcome} (h : c.write n outcome = some c') :
    ∃ errand stage, c.calls[n]? = some ⟨errand, stage⟩ ∧
      CallStep c n stage (.write n outcome) c' := by
  unfold write at h
  obtain ⟨⟨errand, stage⟩, hcall, h⟩ := Option.bind_eq_some_iff.mp h
  refine ⟨errand, stage, hcall, ?_⟩
  cases stage with
  | writingAuth g attempt packet bytes =>
    dsimp only at h
    split at h
    · rename_i hput
      obtain rfl := Option.some.inj h
      obtain rfl := written_of_put hput
      exact .dealt (.inr (.inl rfl)) .nil ((deals_put_of_none hput).trans (deals_unlockSession ..))
        (by simp) (fun _ => rfl) (.inr ⟨rfl, rfl⟩)
    · rename_i hput
      obtain rfl := Option.some.inj h
      exact .leave (.inr (.inl rfl)) .broken
        ((deals_put_of_some hput).trans (deals_cancelAuth _ g)) (by simp) rfl
  | writingCommand g id slot packets bytes =>
    dsimp only at h
    split at h
    · rename_i hput
      obtain rfl := Option.some.inj h
      obtain rfl := written_of_put hput
      exact .dealt (.inr (.inl rfl)) .nil ((deals_put_of_none hput).trans (deals_unlockSession ..))
        (by simp) (fun _ => rfl) (.inr ⟨rfl, rfl⟩)
    · rename_i hput
      obtain rfl := Option.some.inj h
      exact .leave (.inr (.inl rfl)) (.pair rfl rfl)
        ((deals_put_of_some hput).trans (deals_remove _ g id)) (by simp) rfl
  | _ => cases h

theorem callStep_of_expire (h : c.expire n = some c') :
    ∃ errand stage, c.calls[n]? = some ⟨errand, stage⟩ ∧ CallStep c n stage (.expire n) c' := by
  unfold expire at h
  obtain ⟨⟨errand, stage⟩, hcall, h⟩ := Option.bind_eq_some_iff.mp h
  refine ⟨errand, stage, hcall, ?_⟩
  cases stage with
  | awaitVerdict g attempt =>
    obtain ⟨s, -, h⟩ := Option.bind_eq_some_iff.mp h
    split_ifs at h
    obtain rfl := Option.some.inj h
    exact .leave (.inr (.inl rfl)) .expired (deals_cancelAuth c g) (calls_onConn ..) rfl
  | awaitResponse g id slot =>
    obtain ⟨s, -, h⟩ := Option.bind_eq_some_iff.mp h
    split_ifs at h
    obtain rfl := Option.some.inj h
    exact .leave (.inr (.inl rfl)) (.single rfl) (deals_remove c g id) (calls_onConn ..) rfl
  | _ => cases h

/-- Whoever is dropped gives up the locks, whatever else happens. -/
theorem callStep_of_abandon {count : Nat} (h : c.abandon n count = some c') :
    ∃ errand stage, c.calls[n]? = some ⟨errand, stage⟩ ∧
      CallStep c n stage (.abandon n count) c' := by
  unfold abandon at h
  obtain ⟨⟨errand, stage⟩, hcall, h⟩ := Option.bind_eq_some_iff.mp h
  refine ⟨errand, stage, hcall, ?_⟩
  have hsame {g : Nat} : Deals g [] c c := .of_eq rfl rfl rfl rfl
  cases stage with
  | dialing g | dialed g | awaitVerdict g _ | awaitResponse g _ _ =>
    obtain rfl := Option.some.inj h
    exact .leave (g := g) (.inr (.inl rfl)) .nil hsame rfl rfl
  | shuttingDown g =>
    obtain rfl := Option.some.inj h
    exact .leave (.inr (.inl rfl)) (.single rfl) (deals_close c g) (calls_close ..) rfl
  | writingAuth g _ _ bytes | writingCommand g _ _ _ bytes =>
    obtain rfl := Option.some.inj h
    exact .leave (g := g) (.inr (.inl rfl)) .nil (deals_modifySession fun _ => ⟨rfl, rfl, rfl⟩)
      rfl rfl
  -- A call that waits for nothing cannot be dropped.
  | lookAtState | replacing g | installing g | lookForAuth password | beginningAuth g password
  | lookForCommand | registering g | finished answer | abandoned => cases h
  | awaitConnectLock | awaitAuthLock _ | awaitCommandLock | awaitDisconnectLock =>
    obtain rfl := Option.some.inj h
    exact .leave (g := 0) (.inl rfl) .nil hsame rfl rfl

/-- What a step that a call takes does. -/
theorem callStep_of_step (h : c.step action = some c') (taker : action.call? = some n) :
    ∃ errand stage, c.calls[n]? = some ⟨errand, stage⟩ ∧ CallStep c n stage action c' := by
  cases action with
  | advance m =>
    obtain rfl := Option.some.inj taker
    exact callStep_of_advance h
  | dial m outcome =>
    obtain rfl := Option.some.inj taker
    exact callStep_of_dial h
  | write m outcome =>
    obtain rfl := Option.some.inj taker
    exact callStep_of_write h
  | expire m =>
    obtain rfl := Option.some.inj taker
    exact callStep_of_expire h
  | abandon m count =>
    obtain rfl := Option.some.inj taker
    exact callStep_of_abandon h
  | _ => cases taker

/-! ## What follows from a step of a call -/

/-- A call takes a step on behalf of the connection that its stage names. -/
theorem actsFor?_of_call (taker : action.call? = some n)
    (hcall : c.calls[n]? = some ⟨errand, stage⟩) : c.actsFor? action = stage.generation? := by
  have hbind : c.actsFor? action = (c.calls[n]?).bind (·.stage.generation?) := by
    cases action with
    | advance m | dial m _ | write m _ | expire m | abandon m _ =>
      obtain rfl := Option.some.inj taker
      rfl
    | _ => cases taker
  rw [hbind, hcall, Option.bind_some]

/-- A call that moves to another stage keeps its errand. -/
theorem call_setStage (hcall : d.calls[n]? = some ⟨errand, stage⟩) (stage' : Stage) :
    (d.setStage n stage').calls[n]? = some ⟨errand, stage'⟩ := by
  change (d.calls.modify n fun call => { call with stage := stage' })[n]? = _
  rw [List.getElem?_modify, hcall]
  exact congrArg some (if_pos rfl)

/-- A call that goes on asks something exactly if it writes next. -/
theorem asks_of_setStage (h : c.advance n = some (d.setStage n stage'))
    (hcall : d.calls[n]? = some ⟨errand, stage⟩) (g : Nat) :
    c.asks (.advance n) g = stage'.writesOn g := by
  rw [asks, h, Option.bind_some, call_setStage hcall stage', Option.any_some]

/-- A call that does not write next asks nothing. -/
theorem unasked_of_setStage (h : c.step action = some (d.setStage n stage'))
    (taker : action.call? = some n) (hcall : d.calls[n]? = some ⟨errand, stage⟩)
    (silent : ∀ g, stage'.writesOn g = false) (g : Nat) : c.asks action g = false := by
  cases action with
  | advance m =>
    obtain rfl := Option.some.inj taker
    rw [asks_of_setStage h hcall, silent]
  | watch h => cases taker
  | _ => rfl

/-- What a step of a call does to the connections. -/
theorem CallStep.transition (step : CallStep c n stage action c') (h : c.step action = some c')
    (taker : action.call? = some n) (hcall : c.calls[n]? = some ⟨errand, stage⟩) :
    Transition c action c' := by
  have hactsFor := actsFor?_of_call taker hcall
  have hattempts (attempts : stage.attempt? = stage.generation?) (k : Nat)
      (hk : c.actsFor? action = some k) : c.Attempts k :=
    ⟨n, stage, stage?_of_call hcall, attempts.trans (hactsFor.symm.trans hk)⟩
  have hacts {g : Nat} (acts : stage.ActsOn g) : c.Acts action g := by
    intro k hk
    obtain hnone | hsome | attempts := acts
    · cases hnone.symm.trans (hactsFor.symm.trans hk)
    · exact .inl (Option.some.inj ((hactsFor.symm.trans hk).symm.trans hsome))
    · exact .inr (hattempts attempts k hk)
  cases step with
  | dealt acts calm deals calls silent ticket =>
    exact .dealt (hacts acts) calm (unasked_of_setStage h taker (calls ▸ hcall) silent)
      (deals.trans_nil (deals_setStage ..))
  | asked acts asking session deals calls writes ticket issued begins =>
    refine .asked (hacts acts) asking ?_ (deals.trans_nil (deals_setStage ..))
    rw [asks_of_setStage h (calls ▸ hcall), writes]
  | attempted attempts sessions listeners heard calls ticket =>
    have hsilent := Stage.writesOn_of_ticket?_eq_none ticket
    exact .attempted (hattempts attempts) (unasked_of_setStage h taker (calls ▸ hcall) hsilent)
      sessions listeners heard
  | made attempts attempt sessions listeners heard calls ticket =>
    have hsilent := Stage.writesOn_of_ticket?_eq_none ticket
    exact .made (hattempts attempts) (unasked_of_setStage h taker (calls ▸ hcall) hsilent)
      ⟨n, stage, stage?_of_call hcall, attempt⟩ sessions listeners heard

/-- What a step of a call does to the calls. -/
theorem CallStep.moves (step : CallStep c n stage action c') (taker : action.call? = some n)
    (hcall : c.calls[n]? = some ⟨errand, stage⟩) : Moves c action c' := by
  have hmodify {d : Client} {stage' : Stage} (calls : d.calls = c.calls) :
      (d.setStage n stage').calls = c.calls.modify n fun call => { call with stage := stage' } := by
    rw [← calls]
    rfl
  cases step with
  | dealt acts calm deals calls silent ticket =>
    refine .moved taker hcall (hmodify calls) fun g t ht => .inl ?_
    obtain hnone | ⟨-, hsame⟩ := ticket
    · cases hnone.symm.trans ht
    · exact hsame ▸ ht
  | asked acts asking session deals calls writes ticket issued begins =>
    refine .moved taker hcall (hmodify calls) fun g' t' ht => .inr ?_
    obtain ⟨rfl, rfl⟩ := Prod.mk.inj (Option.some.inj (ticket.symm.trans ht))
    obtain ⟨s', hs', haccount⟩ := deals.exists_session session
    rw [Account.after_singleton] at haccount
    have hconn : s'.conn = _ := congrArg (·.link.conn) haccount
    exact ⟨s', hs', hconn ▸ issued⟩
  | attempted attempts sessions listeners heard calls ticket
  | made attempts attempt sessions listeners heard calls ticket =>
    exact .moved taker hcall (hmodify calls) fun g t ht => by cases ticket.symm.trans ht

/-! ## The steps of connections and their checks -/

/-- What else happens to a connection is on its behalf. -/
theorem acts_of_eq (h : c.actsFor? action = some g) : c.Acts action g :=
  fun _ hh => .inl (Option.some.inj (hh.symm.trans h))

theorem acts_of_none (h : c.actsFor? action = none) (g : Nat) : c.Acts action g :=
  fun _ hh => by cases h.symm.trans hh

theorem transition_of_receive {bytes : Bytes} (h : c.receive g bytes = some c') :
    Transition c (.frame g bytes) c' ∧ c'.calls = c.calls := by
  unfold receive at h
  obtain ⟨s, -, h⟩ := Option.bind_eq_some_iff.mp h
  split_ifs at h
  obtain rfl := Option.some.inj h
  have hframe : Deals g [.frame bytes] c (c.onLink g (·.frameReceived bytes)) :=
    deals_onLink (fun _ => rfl) trivial
  exact ⟨.dealt (acts_of_eq rfl) (.frame bytes) (fun _ => rfl) hframe, calls_onLink ..⟩

theorem transition_of_hangUp (h : c.hangUp g = some c') :
    Transition c (.hangUp g) c' ∧ c'.calls = c.calls := by
  unfold hangUp at h
  obtain ⟨s, -, h⟩ := Option.bind_eq_some_iff.mp h
  split_ifs at h
  obtain rfl := Option.some.inj h
  have hstopped : Deals g [] c (c.modifySession g fun s => { s with dispatching := false }) :=
    deals_modifySession fun _ => ⟨rfl, rfl, rfl⟩
  exact ⟨.dealt (acts_of_eq rfl) (.single rfl) (fun _ => rfl) (hstopped.trans (deals_close ..)),
    calls_close ..⟩

/-- A connection check that registers its request asks something. Nothing else that it does concerns
the connection. -/
theorem transition_of_advanceWatch (h : c.advanceWatch g = some c') :
    Transition c (.watch g) c' ∧ c'.calls = c.calls := by
  unfold advanceWatch at h
  obtain ⟨s, hs, h⟩ := Option.bind_eq_some_iff.mp h
  have hacts : c.Acts (.watch g) g := acts_of_eq rfl
  have hasks (k : Nat) : c.asks (.watch g) k = (g == k && s.watch == .registering) := by
    by_cases hk : g = k
    · rw [asks, ← hk, hs, Option.any_some]
    · rw [asks, beq_eq_false_iff_ne.mpr hk, Bool.false_and, Bool.false_and]
  -- The check goes to its next step, or is over.
  have hgo {d : Client} (watch : Watch) (hother : s.watch ≠ .registering) (deals : Deals g [] c d)
      (calls : d.calls = c.calls) :
      Transition c (.watch g) (d.setWatch g watch) ∧ (d.setWatch g watch).calls = c.calls := by
    refine ⟨.dealt hacts .nil (fun k => ?_) (deals.trans (deals_setWatch ..)), calls⟩
    rw [hasks, beq_eq_false_iff_ne.mpr hother, Bool.and_false]
  have hsame : Deals g [] c c := .of_eq rfl rfl rfl rfl
  have hleave (hother : s.watch ≠ .registering) :=
    hgo .over hother (deals_unlockSession c (.watch g) g) (calls_unlockSession ..)
  cases hwatch : s.watch with
  | sleeping =>
    have hother : s.watch ≠ .registering := by simp [hwatch]
    simp only [hwatch] at h
    split_ifs at h
    · exact Option.some.inj h ▸ hleave hother
    · exact Option.some.inj h ▸ hgo _ hother hsame rfl
  | awaitLock =>
    have hother : s.watch ≠ .registering := by simp [hwatch]
    simp only [hwatch] at h
    split_ifs at h
    · exact Option.some.inj h ▸ hleave hother
    · obtain ⟨d, hlock, h⟩ := Option.bind_eq_some_iff.mp h
      exact Option.some.inj h ▸ hgo _ hother (deals_lockSession hlock g) (calls_lockSession hlock)
  | looking =>
    have hother : s.watch ≠ .registering := by simp [hwatch]
    simp only [hwatch] at h
    split_ifs at h
    · exact Option.some.inj h ▸ hgo _ hother hsame rfl
    · exact Option.some.inj h ▸ hleave hother
  | registering =>
    have hasked : c.asks (.watch g) g = true := by
      rw [hasks, hwatch, beq_self_eq_true, beq_self_eq_true, Bool.and_self]
    have hregister := deals_registerNext c g false
    simp only [hwatch] at h
    split at h
    · obtain rfl := Option.some.inj h
      exact ⟨.asked hacts rfl hasked (hregister.trans_nil (deals_setWatch ..)), calls_onConn ..⟩
    · obtain rfl := Option.some.inj h
      have hunlock := hregister.trans_nil (deals_unlockSession _ (.watch g) g)
      exact ⟨.asked hacts rfl hasked (hunlock.trans_nil (deals_setWatch ..)), by simp⟩
  | writing id slot packet bytes =>
    have hother : s.watch ≠ .registering := by simp [hwatch]
    simp only [hwatch] at h
    split_ifs at h
    exact Option.some.inj h ▸ hleave hother
  | awaitAnswer id slot =>
    have hother : s.watch ≠ .registering := by simp [hwatch]
    simp only [hwatch] at h
    split_ifs at h
    · exact Option.some.inj h ▸ hleave hother
    · obtain ⟨outcome, -, h⟩ := Option.bind_eq_some_iff.mp h
      cases outcome with
      | answered body => exact Option.some.inj h ▸ hgo _ hother hsame rfl
      | failed e | dropped => exact Option.some.inj h ▸ hleave hother
  -- A check that is off or over takes no step.
  | _ => simp only [hwatch, reduceCtorEq] at h

theorem transition_of_writeWatch {outcome : WriteOutcome} (h : c.writeWatch g outcome = some c') :
    Transition c (.watchWrite g outcome) c' ∧ c'.calls = c.calls := by
  unfold writeWatch at h
  obtain ⟨s, -, h⟩ := Option.bind_eq_some_iff.mp h
  split at h
  · dsimp only at h
    split at h
    · rename_i hput
      obtain rfl := Option.some.inj h
      refine ⟨.dealt (acts_of_eq rfl) .nil (fun _ => rfl) ?_, by simp⟩
      exact ((deals_put_of_none hput).trans (deals_unlockSession ..)).trans (deals_setWatch ..)
    · rename_i hput
      obtain rfl := Option.some.inj h
      have hbroken := (deals_put_of_some hput).trans_nil (deals_unlockSession _ (.watch g) g)
      have hover := hbroken.trans_nil (deals_setWatch _ g .over)
      exact ⟨.dealt (acts_of_eq rfl) (.single rfl) (fun _ => rfl) hover, by simp⟩
  · cases h

theorem transition_of_expireWatch (h : c.expireWatch g = some c') :
    Transition c (.watchExpire g) c' ∧ c'.calls = c.calls := by
  unfold expireWatch at h
  obtain ⟨s, -, h⟩ := Option.bind_eq_some_iff.mp h
  split at h
  · rename_i id slot _
    split_ifs at h
    obtain rfl := Option.some.inj h
    have hclosed := (deals_remove c g id).trans (deals_close _ g)
    have hover := hclosed.trans_nil (deals_setWatch _ g .over)
    exact ⟨.dealt (acts_of_eq rfl) (.pair rfl rfl) (fun _ => rfl) hover, by simp⟩
  · cases h

/-! ## Every step -/

/-- A call that has just been made has no ticket. -/
theorem moves_of_makeCall (c : Client) (errand : Errand) :
    Moves c (.call errand) (c.makeCall errand) := by
  refine .made rfl ?_
  cases errand with
  | connect | authenticate password | disconnect => rfl
  | command text multi timeout =>
    dsimp only
    split_ifs <;> rfl

/-- What one step does to the connections of a client, and to its calls. -/
theorem turn_of_step (h : c.step action = some c') :
    Transition c action c' ∧ Moves c action c' := by
  have hcallStep {n : Nat} (taker : action.call? = some n) :
      Transition c action c' ∧ Moves c action c' := by
    obtain ⟨errand, stage, hcall, step⟩ := callStep_of_step h taker
    exact ⟨step.transition h taker hcall, step.moves taker hcall⟩
  cases action with
  | advance n | dial n outcome | write n outcome | expire n | abandon n count =>
    exact hcallStep rfl
  | call errand =>
    obtain rfl := Option.some.inj h
    exact ⟨.dealt (acts_of_none rfl 0) .nil (fun _ => rfl) (.of_eq rfl rfl rfl rfl),
      moves_of_makeCall c errand⟩
  | setPassword password =>
    obtain rfl := Option.some.inj h
    exact ⟨.dealt (acts_of_none rfl 0) .nil (fun _ => rfl) (.of_eq rfl rfl rfl rfl), .kept rfl⟩
  | frame g bytes => exact (transition_of_receive h).imp_right .kept
  | hangUp g => exact (transition_of_hangUp h).imp_right .kept
  | watch g => exact (transition_of_advanceWatch h).imp_right .kept
  | watchWrite g outcome => exact (transition_of_writeWatch h).imp_right .kept
  | watchExpire g => exact (transition_of_expireWatch h).imp_right .kept

/-- What one step does to the connections of a client. -/
theorem transition_of_step (h : c.step action = some c') : Transition c action c' :=
  (turn_of_step h).1

/-- What one step does to the calls of a client. -/
theorem moves_of_step (h : c.step action = some c') : Moves c action c' :=
  (turn_of_step h).2

/-- A step moves no call but the one that takes it. -/
theorem Moves.other (moves : Moves c action c') {m : Nat} {call : Call}
    (hm : c.calls[m]? = some call) (hother : action.call? ≠ some m) :
    c'.calls[m]? = some call := by
  cases moves with
  | kept calls => rw [calls, hm]
  | made calls fresh =>
    have hlt : m < c.calls.length := (List.getElem?_eq_some_iff.mp hm).1
    rw [calls, List.getElem?_append_left hlt, hm]
  | @moved n _ _ _ taker hcall calls ticket =>
    have hne : n ≠ m := by
      rintro rfl
      exact hother taker
    rw [calls, List.getElem?_modify, hm]
    exact congrArg some (if_neg hne)

/-- A call with a ticket has not moved in a step, or has taken it: with the same ticket, or with one
that has just been given out. -/
theorem Moves.ticketed (moves : Moves c action c') {m : Nat} {call : Call} {t : Ticket}
    (hm : c'.calls[m]? = some call) (ht : call.stage.ticket? = some (g, t)) :
    c.calls[m]? = some call ∨ action.call? = some m ∧
      ((∃ call₀, c.calls[m]? = some call₀ ∧ call₀.stage.ticket? = some (g, t)) ∨
        c'.HasIssued g t) := by
  cases moves with
  | kept calls => exact .inl (calls ▸ hm)
  | @made call' calls fresh =>
    rw [calls, List.getElem?_append] at hm
    split_ifs at hm
    · exact .inl hm
    · rw [List.getElem?_singleton] at hm
      split_ifs at hm
      obtain rfl := Option.some.inj hm
      cases fresh.symm.trans ht
  | @moved n _ _ _ taker before calls ticket =>
    rw [calls, List.getElem?_modify] at hm
    obtain ⟨call₀, hcall₀, rfl⟩ := Option.map_eq_some_iff.mp hm
    by_cases hn : n = m
    · subst hn
      rw [if_pos rfl] at ht
      exact .inr ⟨taker, (ticket g t ht).imp_left fun kept => ⟨_, before, kept⟩⟩
    · rw [if_neg hn]
      exact .inl hcall₀

end Client

end RemoteConsole
