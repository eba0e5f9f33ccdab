import RemoteConsole.Proofs.Client.Leftovers
import RemoteConsole.Proofs.Client.Notices
import RemoteConsole.Proofs.Client.Standing
import RemoteConsole.Proofs.Client.Stream
import RemoteConsole.Proofs.Request.Withdrawal

/-!
# Commands that are not sent

A command that is blank, or that finds no connection, changes nothing. A command whose packet is too
large is found out after it has been given an id and its request has been registered, and the
request is taken back. As long as no id is registered while it is pending, nothing but the id and a
slot is left of that (`withdrawn`): what is pending, how much of each response has arrived, and
which request a body without an id goes to are what they would be without it
(`unsent_leaves_no_trace`).

What carries the proof is that the queue of ids of every connection is in step with its requests
(`Aligned`), along every run that registers no id while it is pending (`replaces`).
-/

namespace RemoteConsole

open RequestTable (Step)

/-- A packet that is too large keeps those after it from being written, too. -/
theorem Packet.encodeAll_of_tooLarge {e : Encoding} {maxSize : Nat} {p : Packet}
    (large : maxSize < minSize + (e.encode p.body).length) (ps : List Packet) :
    encodeAll e maxSize (p :: ps) =
      .error (.packetTooLarge (minSize + (e.encode p.body).length) maxSize) := by
  rw [encodeAll, encode_eq, if_pos large]
  rfl

namespace Session

/-- A connection after an operation that concerns it alone, with what has become of those who
waited. -/
def within (s : Session) (f : Connection → Effects × Connection) : Session :=
  { s with
    conn := (f s.conn).2
    ended := s.ended ++ (f s.conn).1.ended
    verdicts := s.verdicts ++ (f s.conn).1.verdicts }

/-- A connection on which a request was registered and taken back. Its slot has ended. -/
def withdrawn (s : Session) : Session :=
  { s with
    conn := { s.conn with requests := s.conn.requests.withdrawn }
    ended := s.ended ++ [⟨s.conn.requests.issued, .dropped⟩] }

/-- Registering a request under an id that is not pending, and taking it back. -/
theorem remove_register {s : Session} (aligned : s.conn.requests.Aligned) {id : Int32}
    (absent : s.conn.requests.contains id = false) (multi : Bool) :
    (s.within (·.register id multi)).within (·.remove id) = s.withdrawn := by
  -- Nobody's request is replaced, so the one that ends is the one that is taken back.
  have hended : (s.conn.requests.register id multi).2 = none := by
    rw [RequestTable.register, RequestTable.contains_eq_false_iff.mp absent, Option.map_none]
  simp only [within, Connection.register, Connection.remove, hended,
    aligned.remove_register absent multi, Option.toList_none, Option.toList_some, List.append_nil]
  rfl

end Session

namespace Link

variable {l : Link} {op : Op} {ops : List Op}

/-- An operation that registers no pending id leaves the queue of a connection in step with its
requests. -/
theorem aligned_apply (h : l.conn.requests.Aligned)
    (distinct : ∀ id multi, op = .register id multi → l.conn.requests.contains id = false) :
    (l.apply op).2.2.conn.requests.Aligned := by
  have hdispatch (p : Packet) : (l.conn.dispatch p).2.requests.Aligned := by
    unfold Connection.dispatch
    split_ifs
    · exact h
    · exact h
    · exact h.deliver_aligned ..
  cases op with
  | register id multi =>
    refine h.apply_aligned (.register id multi) ?_
    rw [RequestTable.isFresh, distinct id multi rfl, Bool.not_false]
  | remove id => exact h.without id
  | frame bytes =>
    change (l.frameReceived bytes).2.conn.requests.Aligned
    unfold frameReceived
    split
    · exact hdispatch _
    · exact h
  | packet p => exact hdispatch p
  | close =>
    change l.close.2.conn.requests.Aligned
    cases hclosed : l.conn.closed with
    | true =>
      rw [close_of_closed hclosed]
      exact h
    | false =>
      rw [close_of_open hclosed]
      exact .empty _
  | beginAuth | cancelAuth | claimWatch | track | state op => exact h

/-- So do operations that leave nobody waiting who did not wait before, whatever ids they use. -/
theorem aligned_after_quiet (h : l.conn.requests.Aligned) (quiet : Quiet ops) :
    (l.after ops).conn.requests.Aligned := by
  cases quiet with
  | unasked hops =>
    induction ops generalizing l with
    | nil => exact h
    | cons op ops ih =>
      obtain ⟨hop, hops⟩ := List.forall_mem_cons.mp hops
      refine ih (aligned_apply h ?_) hops
      rintro id multi rfl
      cases hop
  | request id multi => exact h.withdraw id multi
  | authentication => exact h

end Link

namespace Outline

variable {o o' : Outline}

/-- Only a call that was made has the connect lock. -/
def LockMade (o : Outline) : Prop :=
  ∀ n, o.connectLock = some n → (o.stage? n).isSome

namespace LockMade

variable {n : Nat}

theorem move (made : o.LockMade) (n : Nat) (s : Stage) : (o.move n s).LockMade := by
  intro m hm
  show (if m = n then (o.stage? m).map fun _ => s else o.stage? m).isSome
  split_ifs
  · rw [Option.isSome_map]
    exact made m hm
  · exact made m hm

theorem leave (made : o.LockMade) (n : Nat) (s : Stage) : (o.leave n s).LockMade := by
  intro m hm
  refine made.move n s m ?_
  have hlock : (if o.connectLock = some n then none else o.connectLock) = some m := hm
  split_ifs at hlock
  exact hlock

theorem lock (stage : o.stage? n = some .awaitConnectLock) :
    ({ o with connectLock := some n }.move n .lookAtState).LockMade := by
  refine LockMade.move (fun m hm => ?_) n .lookAtState
  obtain rfl := Option.some.inj hm
  exact Option.isSome_of_eq_some stage

theorem vacate (made : o.LockMade) : o.vacate.LockMade := by
  unfold Outline.vacate
  cases o.current with
  | none => exact made
  | some g => exact made

end LockMade

/-- Every move keeps it so. -/
theorem Move.lockMade {late : Bool} (move : Move late o o') (made : o.LockMade) : o'.LockMade := by
  cases move with
  | kept | closed => exact made
  | @made _ n s _ _ =>
    intro m hm
    show (if m = n then some s else o.stage? m).isSome
    split_ifs
    · rfl
    · exact made m hm
  | moved | dialed | entered | began | installed | took => exact LockMade.move made _ _
  | left | missed | gaveUp | judged | broke | shut => exact LockMade.leave made _ _
  | locked stage => exact LockMade.lock stage
  | replaced => exact made.vacate.move _ _

end Outline

namespace Client

variable {c c' : Client} {action : Action} {actions : List Action} {g n : Nat} {errand : Errand}

/-! ## Runs that register no pending id -/

/-- Whether the id that is given out next is pending on the connection of a generation. -/
def isNextPending (c : Client) (g : Nat) : Bool :=
  (c.session? g).any (·.conn.requests.contains c.nextId)

/-- Whether a step registers a request under an id that is pending. -/
def replaces (c : Client) : Action → Bool
  | .advance n => (c.calls[n]?).any fun call =>
    match call.stage with
    | .registering g => c.isNextPending g
    | _ => false
  | .watch g => (c.session? g).any (·.watch == .registering) && c.isNextPending g
  | _ => false

/-- The queue of ids of every connection is in step with its requests. -/
def Aligned (c : Client) : Prop :=
  ∀ g s, c.session? g = some s → s.conn.requests.Aligned

/-- What is pending on a connection after a call has registered its request there. -/
theorem requests_of_registering (hcall : c.calls[n]? = some ⟨errand, .registering g⟩)
    (h : c.advance n = some c') {s s' : Session} (hs : c.session? g = some s)
    (hs' : c'.session? g = some s') :
    ∃ multi, s'.conn.requests = (s.conn.requests.register c.nextId multi).1 ∨
      s'.conn.requests = ((s.conn.requests.register c.nextId multi).1.remove c.nextId).1 := by
  unfold advance at h
  obtain ⟨call, hcall', h⟩ := Option.bind_eq_some_iff.mp h
  obtain rfl := Option.some.inj (hcall.symm.trans hcall')
  obtain ⟨t, ht, h⟩ := Option.bind_eq_some_iff.mp h
  have hrequests {ops : List Link.Op} (deals : Deals g ops c c') :
      s'.conn.requests = ((c.account s).link.after ops).conn.requests := by
    obtain ⟨s'', hs'', haccount⟩ := deals.exists_session hs
    obtain rfl := Option.some.inj (hs'.symm.trans hs'')
    exact congrArg (·.link.conn.requests) haccount
  match errand with
  | .command text multi timeout =>
    have hregister := deals_registerNext c g multi
    refine ⟨multi, ?_⟩
    dsimp only at h
    split at h
    · obtain rfl := Option.some.inj h
      exact .inl (hrequests (hregister.trans_nil (deals_setStage ..)))
    · obtain rfl := Option.some.inj h
      have htaken := hregister.trans (deals_remove _ g c.nextId)
      exact .inr (hrequests (htaken.trans_nil (deals_finish ..)))
  | .connect | .authenticate _ | .disconnect => cases h

/-- A step that registers no pending id keeps every queue in step. -/
theorem Aligned.step (aligned : c.Aligned) (distinct : c.replaces action = false)
    (h : c.step action = some c') : c'.Aligned := by
  have hdeals {k : Nat} {ops : List Link.Op} (deals : Deals k ops c c')
      (own : ∀ s s', c.session? k = some s → c'.session? k = some s' →
        s'.conn.requests = ((c.account s).link.after ops).conn.requests →
          s'.conn.requests.Aligned) : c'.Aligned := by
    intro g s' hs'
    obtain hs | ⟨rfl, s, hs, haccount⟩ := deals.session_cases hs'
    · exact aligned g s' hs
    · exact own s s' hs hs' (congrArg (·.link.conn.requests) haccount)
  cases transition_of_step h with
  | dealt _ calm _ deals =>
    refine hdeals deals fun s s' hs _ hrequests => ?_
    rw [hrequests]
    exact Link.aligned_after_quiet (aligned _ s hs) calm.quiet
  | attempted _ _ sessions =>
    intro g s hs
    rw [session?, sessions] at hs
    exact aligned g s hs
  | made _ _ _ sessions =>
    intro g s hs
    rw [session?_append sessions] at hs
    obtain hold | ⟨-, hmade⟩ := Option.or_eq_some_iff.mp hs
    · exact aligned g s hold
    · split_ifs at hmade
      obtain rfl := Option.some.inj hmade
      exact .empty 0
  | @asked k op _ asking asked deals =>
    refine hdeals deals fun s s' hs hs' hrequests => ?_
    by_cases hother : ∀ id multi, op ≠ .register id multi
    · rw [hrequests]
      exact Link.aligned_apply (aligned k s hs) fun id multi hop => absurd hop (hother id multi)
    push Not at hother
    obtain ⟨id, multi, rfl⟩ := hother
    -- The id is the next one, whether a call registers a request or a check does.
    have hregister (absent : c.isNextPending k = false) (multi : Bool) :
        (s.conn.requests.register c.nextId multi).1.Aligned := by
      rw [isNextPending, hs, Option.any_some] at absent
      refine (aligned k s hs).apply_aligned (.register c.nextId multi) ?_
      rw [RequestTable.isFresh, absent, Bool.not_false]
    have hissued : s'.conn.requests.issued ≠ s.conn.requests.issued := by
      rw [hrequests]
      exact Nat.succ_ne_self _
    obtain ⟨n, errand, rfl, call⟩ | ⟨rfl, registering⟩ :=
      registering_of_issued h asked hs hs' hissued
    · rw [replaces, call, Option.any_some] at distinct
      obtain ⟨multi, heq | heq⟩ := requests_of_registering call h hs hs'
      · exact heq ▸ hregister distinct multi
      · exact heq ▸ (aligned k s hs).withdraw c.nextId multi
    · rw [replaces, hs, Option.any_some, registering, beq_self_eq_true, Bool.true_and] at distinct
      obtain ⟨t, ht, hconn, -⟩ := session?_of_registering hs registering h
      obtain rfl := Option.some.inj (ht.symm.trans hs')
      rw [hconn]
      exact hregister distinct false

/-- So does a run. -/
theorem aligned_of_run {config : Config} {listeners : Registry}
    (distinct : (fresh config listeners).happens replaces actions = false)
    (h : (fresh config listeners).run actions = some c) : c.Aligned :=
  keeps_of_not_happens (fun _ aligned hdistinct hstep => aligned.step hdistinct hstep)
    (fun _ _ hs => by cases hs) distinct List.prefix_rfl h

/-! ## Requests that are taken back -/

/-- A client that has given out an id, and on a connection of which a request was registered and
taken back. -/
def withdrawn (c : Client) (g : Nat) : Client :=
  { c with nextId := succId c.nextId }.modifySession g Session.withdrawn

/-- What is done to a connection is what is done to the one that is found. -/
theorem modifySession_congr (distinct : c.generations.Nodup) {s : Session}
    (hs : c.session? g = some s) {f f' : Session → Session} (hf : f s = f' s) :
    c.modifySession g f = c.modifySession g f' := by
  have hsessions : (c.sessions.map fun s => if s.conn.generation == g then f s else s) =
      c.sessions.map fun s => if s.conn.generation == g then f' s else s := by
    refine List.map_congr_left fun s' hs' => ?_
    split_ifs with hg
    · obtain rfl : s' = s := by
        have hfound := session?_of_mem distinct hs'
        rw [eq_of_beq hg, hs] at hfound
        exact (Option.some.inj hfound).symm
      exact hf
    · rfl
  rw [modifySession, modifySession, hsessions]

/-- One change of a connection after another. -/
theorem modifySession_modifySession {f f' : Session → Session}
    (hf : ∀ s, s.conn.generation = g → (f s).conn.generation = g) :
    (c.modifySession g f).modifySession g f' = c.modifySession g (f' ∘ f) := by
  have hsessions : ((c.modifySession g f).sessions.map fun s =>
      if s.conn.generation == g then f' s else s) =
        c.sessions.map fun s => if s.conn.generation == g then (f' ∘ f) s else s := by
    rw [modifySession, List.map_map]
    refine List.map_congr_left fun s _ => ?_
    by_cases hg : s.conn.generation = g
    · simp [hg, hf s hg]
    · simp [hg]
  rw [modifySession, hsessions]
  rfl

/-- An operation that no listener hears of changes the connection alone. -/
theorem onConn_eq (distinct : c.generations.Nodup) {s : Session} (hs : c.session? g = some s)
    {f : Connection → Effects × Connection} (unheard : (f s.conn).1.heard = []) :
    c.onConn g f = c.modifySession g (·.within f) := by
  have hfound : c.onConn g f = c.modifySession g fun s' => { s' with
      conn := (f s.conn).2
      ended := s'.ended ++ (f s.conn).1.ended
      verdicts := s'.verdicts ++ (f s.conn).1.verdicts } := by
    rw [onConn, onLink, hs]
    dsimp only [Link.within]
    rw [unheard, List.append_nil]
  rw [hfound]
  exact modifySession_congr distinct hs rfl

/-- A request that is registered under an id that is not pending, and taken back, is withdrawn. -/
theorem onConn_remove_register (distinct : c.generations.Nodup) {s : Session}
    (hs : c.session? g = some s) (aligned : s.conn.requests.Aligned) {id : Int32}
    (absent : s.conn.requests.contains id = false) (multi : Bool) :
    (c.onConn g (·.register id multi)).onConn g (·.remove id) =
      c.modifySession g Session.withdrawn := by
  have hkeeps (s : Session) (hg : s.conn.generation = g) :
      (s.within (·.register id multi)).conn.generation = g := hg
  have hregister := onConn_eq distinct hs (f := (·.register id multi)) rfl
  have hs' : (c.modifySession g (·.within (·.register id multi))).session? g =
      some (s.within (·.register id multi)) := by
    rw [session?_modifySession hkeeps, if_pos rfl, hs, Option.map_some]
  have distinct' : (c.modifySession g (·.within (·.register id multi))).generations.Nodup := by
    rwa [generations_modifySession hkeeps]
  -- Both operations find the same connection, so what they make of it is all that matters.
  rw [hregister, onConn_eq distinct' hs' rfl, modifySession_modifySession hkeeps]
  exact modifySession_congr distinct hs (Session.remove_register aligned absent multi)

/-- The connection that a withdrawn request leaves behind. -/
theorem session?_withdrawn {s : Session} (hs : c.session? g = some s) :
    (c.withdrawn g).session? g = some s.withdrawn := by
  have hkeeps (s : Session) (hg : s.conn.generation = g) : s.withdrawn.conn.generation = g := hg
  rw [withdrawn, session?_modifySession hkeeps, if_pos rfl]
  exact congrArg (Option.map Session.withdrawn) hs

/-- A call whose packet is too large takes its request back and ends with that error. -/
theorem advance_of_tooLarge {config : Config} (generations : c.generations.Nodup) {s : Session}
    (hs : c.session? g = some s) (routing : s.conn.routing = config.routing)
    (aligned : s.conn.requests.Aligned) (absent : s.conn.requests.contains c.nextId = false)
    {text : String} {multi : Bool} {timeout : Nat}
    (large : config.maxPacketSize < Packet.minSize + (config.encoding.encode text).length)
    (hcall : c.calls[n]? = some ⟨.command text multi timeout, .registering g⟩) :
    c.advance n = some ((c.withdrawn g).finish n (.failed (.packetTooLarge
      (Packet.minSize + (config.encoding.encode text).length) config.maxPacketSize))) := by
  have htaken : (onConn { c with nextId := succId c.nextId } g (·.register c.nextId multi)).onConn g
      (·.remove c.nextId) = c.withdrawn g :=
    onConn_remove_register (c := { c with nextId := succId c.nextId }) generations hs aligned absent
      multi
  have hencode := Packet.encodeAll_of_tooLarge (p := ⟨c.nextId, .execCommand, text⟩) large
  rw [advance, hcall, Option.bind_eq_bind, Option.bind_some]
  dsimp only
  rw [hs, Option.bind_eq_bind, Option.bind_some, routing, Config.routing, hencode]
  dsimp only
  rw [htaken]

/-! ## Calls that send nothing -/

/-- A client with one more call, which is at a stage. -/
def withCall (c : Client) (errand : Errand) (stage : Stage) : Client :=
  { c with calls := c.calls ++ [⟨errand, stage⟩] }

theorem calls_withCall (c : Client) (errand : Errand) (stage : Stage) :
    (c.withCall errand stage).calls[c.calls.length]? = some ⟨errand, stage⟩ :=
  List.getElem?_concat_length

/-- The call moves to another stage. -/
theorem setStage_withCall (c : Client) (errand : Errand) (stage stage' : Stage) :
    (c.withCall errand stage).setStage c.calls.length stage' = c.withCall errand stage' := by
  have hcalls : (c.withCall errand stage).calls.modify c.calls.length
      (fun call => { call with stage := stage' }) = (c.withCall errand stage').calls := by
    rw [withCall, List.modify_eq_take_cons_drop (by simp)]
    simp [withCall]
  rw [setStage, hcalls]
  rfl

/-- A client with one more call, which has the session lock. -/
def withHolder (c : Client) (errand : Errand) (stage : Stage) : Client :=
  { c with sessionLock := some (.call c.calls.length) }.withCall errand stage

theorem calls_withHolder (c : Client) (errand : Errand) (stage : Stage) :
    (c.withHolder errand stage).calls[c.calls.length]? = some ⟨errand, stage⟩ :=
  calls_withCall c errand stage

theorem setStage_withHolder (c : Client) (errand : Errand) (stage stage' : Stage) :
    (c.withHolder errand stage).setStage c.calls.length stage' = c.withHolder errand stage' :=
  setStage_withCall { c with sessionLock := some (.call c.calls.length) } errand stage stage'

/-- The call gets the session lock if nobody has it. -/
theorem lockSession_withCall (unlocked : c.sessionLock = none) (errand : Errand) (stage : Stage) :
    (c.withCall errand stage).lockSession (.call c.calls.length) =
      some (c.withHolder errand stage) := by
  have hfree : (c.withCall errand stage).sessionLock.isNone = true := by
    rw [withCall, unlocked]
    rfl
  rw [lockSession, if_pos hfree]
  rfl

/-- When it is over, nothing but the call is left of it. -/
theorem finish_withHolder (unlocked : c.sessionLock = none)
    (other : c.connectLock ≠ some c.calls.length) (errand : Errand) (stage : Stage)
    (answer : Answer) :
    (c.withHolder errand stage).finish c.calls.length answer =
      c.withCall errand (.finished answer) := by
  have hsession : (c.withHolder errand stage).unlockSession (.call c.calls.length) =
      c.withCall errand stage := by
    rw [unlockSession, withHolder, if_pos (by rfl), ← unlocked]
    rfl
  have hconnect : (c.withCall errand stage).unlockConnect c.calls.length =
      c.withCall errand stage := if_neg other
  rw [finish, unlock, hsession, hconnect, setStage_withCall]

/-- A command that is not blank, and for which no connection is to be made first, waits for the
session lock. -/
theorem makeCall_command {text : String} (filled : Text.isBlankText text = false)
    (soon : c.config.autoConnect = false ∨ c.cell.state = .ready) (multi : Bool) (timeout : Nat) :
    c.makeCall (.command text multi timeout) =
      c.withCall (.command text multi timeout) .awaitCommandLock := by
  have hsoon : (c.config.autoConnect && c.cell.state != .ready) = false := by
    obtain h | h := soon
    · rw [h, Bool.false_and]
    · rw [h, bne_self_eq_false, Bool.and_false]
  simp only [makeCall, filled, hsoon]
  rfl

/-- It gets the lock if nobody has it, and is about to look for a connection. -/
theorem run_command {text : String} (filled : Text.isBlankText text = false)
    (soon : c.config.autoConnect = false ∨ c.cell.state = .ready) (unlocked : c.sessionLock = none)
    (multi : Bool) (timeout : Nat) (actions : List Action) :
    c.run (.call (.command text multi timeout) :: .advance c.calls.length :: actions) =
      (c.withHolder (.command text multi timeout) .lookForCommand).run actions := by
  have hlock : (c.withCall (.command text multi timeout) .awaitCommandLock).advance c.calls.length =
      some (c.withHolder (.command text multi timeout) .lookForCommand) := by
    rw [advance, calls_withCall, Option.bind_eq_bind, Option.bind_some]
    dsimp only
    rw [lockSession_withCall unlocked]
    exact congrArg some (setStage_withHolder ..)
  rw [run, step, makeCall_command filled soon, Option.bind_some, run, step, hlock, Option.bind_some]

/-- A command that finds no connection ends with that error. -/
theorem advance_of_notConnected (apart : c.open? = none ∨ c.cell.state ≠ .ready)
    (hcall : c.calls[n]? = some ⟨errand, .lookForCommand⟩) :
    c.advance n = some (c.finish n (.failed .notConnected)) := by
  have hfilter : (c.open?.filter fun _ => c.cell.state == .ready) = none := by
    obtain h | h := apart
    · rw [h, Option.filter_none]
    · rw [beq_eq_false_iff_ne.mpr h]
      cases c.open? <;> rfl
  rw [advance, hcall, Option.bind_eq_bind, Option.bind_some]
  dsimp only
  rw [hfilter]

/-- A command that finds a connection is about to register its request. -/
theorem advance_of_ready (place : c.open? = some g) (ready : c.cell.state = .ready)
    (hcall : c.calls[n]? = some ⟨errand, .lookForCommand⟩) :
    c.advance n = some (c.setStage n (.registering g)) := by
  have hfilter : (c.open?.filter fun _ => c.cell.state == .ready) = some g := by
    rw [place, ready]
    rfl
  rw [advance, hcall, Option.bind_eq_bind, Option.bind_some]
  dsimp only
  rw [hfilter]

/-- A command that is the only call at work, and finds no connection. -/
theorem run_of_notConnected {text : String} (filled : Text.isBlankText text = false)
    (manual : c.config.autoConnect = false) (apart : c.open? = none ∨ c.cell.state ≠ .ready)
    (unlocked : c.sessionLock = none) (other : c.connectLock ≠ some c.calls.length) (multi : Bool)
    (timeout : Nat) :
    c.run [.call (.command text multi timeout), .advance c.calls.length,
        .advance c.calls.length] =
      some (c.withCall (.command text multi timeout) (.finished (.failed .notConnected))) := by
  have hmissed : (c.withHolder (.command text multi timeout) .lookForCommand).advance
      c.calls.length =
        some (c.withCall (.command text multi timeout) (.finished (.failed .notConnected))) := by
    rw [advance_of_notConnected (c := c.withHolder _ .lookForCommand) apart (calls_withHolder ..),
      finish_withHolder unlocked other]
  calc c.run [.call (.command text multi timeout), .advance c.calls.length,
        .advance c.calls.length]
      = (c.withHolder (.command text multi timeout) .lookForCommand).run
          [.advance c.calls.length] := run_command filled (.inl manual) unlocked multi timeout _
    _ = some (c.withCall (.command text multi timeout) (.finished (.failed .notConnected))) := by
        rw [run, step, hmissed]
        rfl

/-- A command that is the only call at work, and too large. -/
theorem run_of_tooLarge {config : Config} (generations : c.generations.Nodup) {s : Session}
    (hs : c.session? g = some s) (routing : s.conn.routing = config.routing)
    (aligned : s.conn.requests.Aligned) (absent : s.conn.requests.contains c.nextId = false)
    {text : String}
    (large : config.maxPacketSize < Packet.minSize + (config.encoding.encode text).length)
    (filled : Text.isBlankText text = false) (place : c.open? = some g)
    (ready : c.cell.state = .ready) (unlocked : c.sessionLock = none)
    (other : c.connectLock ≠ some c.calls.length) (multi : Bool) (timeout : Nat) :
    c.run [.call (.command text multi timeout), .advance c.calls.length, .advance c.calls.length,
        .advance c.calls.length] =
      some ((c.withdrawn g).withCall (.command text multi timeout) (.finished (.failed
        (.packetTooLarge (Packet.minSize + (config.encoding.encode text).length)
          config.maxPacketSize)))) := by
  have hfound : (c.withHolder (.command text multi timeout) .lookForCommand).advance
      c.calls.length = some (c.withHolder (.command text multi timeout) (.registering g)) := by
    rw [advance_of_ready (c := c.withHolder _ .lookForCommand) place ready (calls_withHolder ..),
      setStage_withHolder]
  -- What is done to the connection does not depend on the call, nor on who has the lock.
  have hended := advance_of_tooLarge
    (c := c.withHolder (.command text multi timeout) (.registering g)) generations hs routing
    aligned absent large (calls_withHolder ..)
  calc c.run [.call (.command text multi timeout), .advance c.calls.length,
        .advance c.calls.length, .advance c.calls.length]
      = (c.withHolder (.command text multi timeout) .lookForCommand).run
          [.advance c.calls.length, .advance c.calls.length] :=
        run_command filled (.inr ready) unlocked multi timeout _
    _ = (c.withHolder (.command text multi timeout) (.registering g)).run
          [.advance c.calls.length] := by
        rw [run, step, hfound, Option.bind_some]
    _ = some (((c.withdrawn g).withHolder (.command text multi timeout) (.registering g)).finish
          c.calls.length (.failed (.packetTooLarge
            (Packet.minSize + (config.encoding.encode text).length) config.maxPacketSize))) := by
        rw [run, step, hended]
        rfl
    _ = _ := congrArg some (finish_withHolder (c := c.withdrawn g) unlocked other ..)

/-- In a run, no call that is still to be made has the connect lock. -/
theorem connectLock_ne_of_run {config : Config} {listeners : Registry}
    (h : (fresh config listeners).run actions = some c) : c.connectLock ≠ some c.calls.length := by
  intro hlock
  have hmade : c.outline.LockMade :=
    run_keeps (p := fun d => d.outline.LockMade)
      (fun made hstep => (move_of_step hstep).lockMade made) (fun _ h => by cases h) h
  have hstage := hmade c.calls.length hlock
  rw [outline_stage?, List.getElem?_eq_none (Nat.le_refl _)] at hstage
  cases hstage

/-- A command that is not sent leaves no trace. A blank one is answered at once, and one that finds
no connection that is ready is answered as soon as it looks; neither changes anything else. One that
is too large uses up its id and a slot, whether it is the only call at work or one of many. The
requests that are pending and how much of each response has arrived, the authentication that waits,
what has been written, the client's state and whether the connection is closed are what they were,
and whatever arrives afterwards goes where it would have gone. -/
theorem unsent_leaves_no_trace (config : Config) (listeners : Registry) (actions : List Action)
    (c : Client) (reached : (fresh config listeners).run actions = some c) (text : String)
    (multi : Bool) (timeout : Nat) :
    let command : Errand := .command text multi timeout
    let n := c.calls.length
    let size := Packet.minSize + (config.encoding.encode text).length
    let tooLarge : Answer := .failed (.packetTooLarge size config.maxPacketSize)
    (Text.isBlankText text = true →
      c.step (.call command) = some (c.withCall command (.finished (.failed .emptyCommand)))) ∧
    (c.open? = none ∨ c.cell.state ≠ .ready →
      (Text.isBlankText text = false → config.autoConnect = false → c.sessionLock = none →
        c.run [.call command, .advance n, .advance n] =
          some (c.withCall command (.finished (.failed .notConnected)))) ∧
      ∀ m, c.calls[m]? = some ⟨command, .lookForCommand⟩ →
        c.step (.advance m) = some (c.finish m (.failed .notConnected))) ∧
    ((fresh config listeners).happens replaces actions = false → ∀ g s, c.session? g = some s →
      s.conn.requests.contains c.nextId = false → config.maxPacketSize < size →
        (Text.isBlankText text = false → c.open? = some g → c.cell.state = .ready →
          c.sessionLock = none →
            c.run [.call command, .advance n, .advance n, .advance n] =
              some ((c.withdrawn g).withCall command (.finished tooLarge))) ∧
        (∀ m, c.calls[m]? = some ⟨command, .registering g⟩ →
          c.step (.advance m) = some ((c.withdrawn g).finish m tooLarge)) ∧
        (c.withdrawn g).session? g = some s.withdrawn ∧
        ∀ ops, s.withdrawn.conn.requests.steps ops =
          (s.conn.requests.steps ops).map (Step.skip s.conn.requests.issued)) := by
  intro command n size tooLarge
  have inTurn := (inTurn_of_run reached).2.2
  have other : c.connectLock ≠ some n := connectLock_ne_of_run reached
  refine ⟨fun blank => ?_, fun apart => ⟨fun filled manual unlocked => ?_, fun m hcall => ?_⟩,
    fun distinct g s hs absent large => ?_⟩
  · simp only [step, makeCall, command, blank]
    rfl
  · have hmanual : c.config.autoConnect = false := inTurn.configured ▸ manual
    exact run_of_notConnected filled hmanual apart unlocked other multi timeout
  · exact advance_of_notConnected apart hcall
  · have aligned := aligned_of_run distinct reached g s hs
    have generations := (Noticed.of_run reached).distinct
    have routing := inTurn.routing hs
    refine ⟨fun filled place ready unlocked => ?_, fun m hcall => ?_, session?_withdrawn hs,
      aligned.steps_withdrawn⟩
    · exact run_of_tooLarge generations hs routing aligned absent large filled place ready unlocked
        other multi timeout
    · exact advance_of_tooLarge generations hs routing aligned absent large hcall

/-- A client connects whose packets may not be larger than twenty bytes, and the first part of the
response to a command arrives. -/
def halfway : List Action :=
  accepted ++ [.advance 0, .call (.command "list" true 5000), .advance 1, .advance 1, .advance 1,
    .write 1 .written, .frame 1 (Packet.layout 1 .response [111, 110, 101])]

/-- A command that is too large leaves that part where it is. -/
theorem unsent_leaves_no_trace_halfway :
    (fresh {} {}).step (.call (.command " " false 5000)) =
        some ((fresh {} {}).withCall (.command " " false 5000)
          (.finished (.failed .emptyCommand))) ∧
    (fresh {} {}).run [.call (.command "list" false 5000), .advance 0, .advance 0] =
        some ((fresh {} {}).withCall (.command "list" false 5000)
          (.finished (.failed .notConnected))) ∧
    ∃ c s, (fresh { maxPacketSize := 20 } {}).run halfway = some c ∧ c.session? 1 = some s ∧
      s.withdrawn.conn.requests.pending = [⟨0, 1, true, "one"⟩] ∧
      c.run [.call (.command "say hello to all" false 5000), .advance 2, .advance 2, .advance 2] =
        some ((c.withdrawn 1).withCall (.command "say hello to all" false 5000)
          (.finished (.failed (.packetTooLarge 26 20)))) ∧
      ∀ ops, s.withdrawn.conn.requests.steps ops =
        (s.conn.requests.steps ops).map (Step.skip s.conn.requests.issued) := by
  have blank := (unsent_leaves_no_trace {} {} [] _ rfl " " false 5000).1 (by decide)
  have missed := ((unsent_leaves_no_trace {} {} [] _ rfl "list" false 5000).2.1 (.inl rfl)).1
    (by decide) rfl rfl
  refine ⟨blank, missed, ?_⟩
  have hrun : ((fresh { maxPacketSize := 20 } {}).run halfway).isSome = true := by decide
  obtain ⟨c, hc⟩ := Option.isSome_iff_exists.mp hrun
  have hsession : (c.session? 1).isSome = true := by
    obtain rfl := Option.get_of_eq_some hrun hc
    clear hc
    decide +revert
  obtain ⟨s, hs⟩ := Option.isSome_iff_exists.mp hsession
  have hfacts : c.calls.length = 2 ∧ c.open? = some 1 ∧ c.cell.state = .ready ∧
      c.sessionLock = none ∧ s.conn.requests.pending = [⟨0, 1, true, "one"⟩] ∧
        s.conn.requests.contains c.nextId = false := by
    obtain rfl := Option.get_of_eq_some hrun hc
    obtain rfl := Option.get_of_eq_some hsession hs
    clear hc
    refine ⟨?_, ?_, ?_, ?_, ?_, ?_⟩ <;> decide +revert
  obtain ⟨hcalls, place, ready, unlocked, hpending, absent⟩ := hfacts
  have unsent := unsent_leaves_no_trace { maxPacketSize := 20 } {} halfway c hc
    "say hello to all" false 5000
  rw [hcalls] at unsent
  obtain ⟨hended, -, -, hsteps⟩ := unsent.2.2 (by decide) 1 s hs absent (by decide)
  exact ⟨c, s, hc, hs, hpending, hended (by decide) place ready unlocked, hsteps⟩

end Client

end RemoteConsole
