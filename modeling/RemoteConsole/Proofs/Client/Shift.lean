import RemoteConsole.Proofs.Client.Desk

/-!
# Who writes when

A step leaves the desk of a client alone, or somebody who writes goes one step further (`Shift`).
That enters something on the page of one connection at most (`Entry`). Whoever is on the way has the
session lock, what they write is what they were asked to send, and it is encoded under the client's
configuration (`InTurn`).
-/

namespace RemoteConsole.Client

variable {c c' d : Client} {action : Action} {g n : Nat} {errand : Errand} {stage stage' : Stage}

/-! ## What a step does to the desk -/

/-- Who takes a step, if it is somebody who may take the session lock. -/
def Action.actor? (action : Action) : Option Holder :=
  (action.call?.map Holder.call).or (action.check?.map Holder.watch)

/-- Whoever takes a step as a call is that call. -/
theorem Action.call?_of_actor? {action : Action} {n : Nat}
    (actor : action.actor? = some (.call n)) : action.call? = some n := by
  obtain h | ⟨-, h⟩ := Option.or_eq_some_iff.mp actor
  · obtain ⟨m, hm, h⟩ := Option.map_eq_some_iff.mp h
    exact Holder.call.inj h ▸ hm
  · obtain ⟨m, -, h⟩ := Option.map_eq_some_iff.mp h
    cases h

/-- Whoever takes one as a connection check is that check. -/
theorem Action.check?_of_actor? {action : Action} {g : Nat}
    (actor : action.actor? = some (.watch g)) : action.check? = some g := by
  obtain h | ⟨-, h⟩ := Option.or_eq_some_iff.mp actor
  · obtain ⟨m, -, h⟩ := Option.map_eq_some_iff.mp h
    cases h
  · obtain ⟨m, hm, h⟩ := Option.map_eq_some_iff.mp h
    exact Holder.watch.inj h ▸ hm

/-- Whether a write ends in a step before it is done. -/
def Action.isCut : Action → Bool
  | .write _ outcome | .watchWrite _ outcome => outcome != .written
  | .abandon .. => true
  | _ => false

/-- The text that somebody sends as a command, and whether the response may span several packets. -/
def wants (c : Client) : Holder → Option (String × Bool)
  | .call n => (c.calls[n]?).bind fun call =>
    match call.errand with
    | .command text multi _ => some (text, multi)
    | _ => none
  | .watch _ => some (watchCommand, false)

/-- The packets of a command. -/
def commandPackets (id : Int32) (text : String) (multi : Bool) : List Packet :=
  ⟨id, .execCommand, text⟩ :: if multi then [⟨id, .response, ""⟩] else []

/-- The packets of an authentication. -/
def authPackets (password : String) : List Packet :=
  [⟨Packet.authId, .auth, password⟩]

/-- Somebody who has asked writes packets as they are encoded on the connection of a generation, or
goes away if they are too large. -/
inductive Writes (c : Client) (h : Holder) (g : Nat) (request : Option (Int32 × Nat))
    (packets : List Packet) (d : Desk) : Desk → Prop where
  /-- The packets are written next. -/
  | goes {s : Session} {bytes : Bytes} (session : c.session? g = some s)
      (encoded : Packet.encodeAll s.conn.routing.encoding s.conn.routing.maxSize packets =
        .ok bytes) :
    Writes c h g request packets d (d.move h (.writing g request packets bytes))
  /-- They are too large. -/
  | refused : Writes c h g request packets d (d.leave h)

/-- What one step does to the desk of a client. -/
inductive Shift (c : Client) (action : Action) (c' : Client) : Prop where
  /-- Nothing. -/
  | kept (desk : c'.desk = c.desk)
  /-- Somebody goes away, and gives up the lock. -/
  | left {h : Holder} (actor : action.actor? = some h) (desk : c'.desk = c.desk.leave h)
  /-- Somebody gets the lock. -/
  | took {h : Holder} (actor : action.actor? = some h) (free : c.sessionLock = none)
      (desk : c'.desk = { c.desk.move h .looking with lock := some h })
  /-- Somebody with the lock finds the connection in place open. -/
  | found {h : Holder} {g : Nat} {password : Option String} (actor : action.actor? = some h)
      (post : c.desk.post h = .looking) (isOpen : c.open? = some g)
      (desk : c'.desk = c.desk.move h (.asking g password))
  /-- A call begins an authentication. -/
  | began {n g : Nat} {password : String} (taker : action = .advance n)
      (post : c.desk.post (.call n) = .asking g (some password))
      (desk : Writes c (.call n) g none (authPackets password)
        (c.desk.turn g { c.page g with attempts := (c.page g).attempts + 1 }) c'.desk)
  /-- Somebody registers a request, which uses up an id. -/
  | registered {h : Holder} {g : Nat} {text : String} {multi : Bool}
      (actor : action.actor? = some h) (post : c.desk.post h = .asking g none)
      (wants : c.wants h = some (text, multi))
      (desk : Writes c h g (some (c.nextId, (c.page g).issued))
        (commandPackets c.nextId text multi)
        { c.desk.turn g { c.page g with issued := (c.page g).issued + 1 } with
          nextId := succId c.nextId } c'.desk)
  /-- Somebody has written. -/
  | wrote {h : Holder} {g : Nat} {request : Option (Int32 × Nat)} {packets : List Packet}
      {bytes : Bytes} (actor : action.actor? = some h)
      (post : c.desk.post h = .writing g request packets bytes)
      (desk : c'.desk = (c.desk.turn g { c.page g with
        written := (c.page g).written ++ bytes
        sent := (c.page g).sent ++ packets }).leave h)
  /-- Somebody has written a part. -/
  | broke {h : Holder} {g : Nat} {request : Option (Int32 × Nat)} {packets : List Packet}
      {bytes : Bytes} (count : Nat) (actor : action.actor? = some h) (cut : action.isCut = true)
      (post : c.desk.post h = .writing g request packets bytes)
      (desk : c'.desk = (c.desk.turn g { c.page g with
        written := (c.page g).written ++ bytes.take count }).leave h)

namespace Shift

/-- A call that goes on to a stage that is the same to the desk. -/
theorem keep (hcall : c.calls[n]? = some ⟨errand, stage⟩) (desk : d.desk = c.desk)
    (calls : d.calls = c.calls) (same : stage'.post = stage.post) :
    Shift c action (d.setStage n stage') := by
  refine .kept ?_
  rw [desk_setStage (calls ▸ hcall), desk, same]
  exact Desk.move_self (post_of_call hcall)

/-- A call that gives up its locks. -/
theorem leave (hcall : c.calls[n]? = some ⟨errand, stage⟩) (actor : action.actor? = some (.call n))
    (desk : d.desk = c.desk) (calls : d.calls = c.calls) (away : stage'.post = .away) :
    Shift c action ((d.unlock n).setStage n stage') := by
  refine .left actor ?_
  rw [desk_leave (calls ▸ hcall) away, desk]

/-- A call that is connected. -/
theorem proceed (hcall : c.calls[n]? = some ⟨errand, stage⟩)
    (actor : action.actor? = some (.call n)) (desk : d.desk = c.desk) (calls : d.calls = c.calls)
    (errand' : Errand) : Shift c action (d.proceed n errand') := by
  cases errand' with
  | command text multi timeout => exact .leave hcall actor desk calls rfl
  | connect | authenticate password | disconnect => exact .leave hcall actor desk calls rfl

/-- A call that gets the session lock. -/
theorem lock (hcall : c.calls[n]? = some ⟨errand, stage⟩) (actor : action.actor? = some (.call n))
    (hlock : c.lockSession (.call n) = some d) (looking : stage'.post = .looking) :
    Shift c action (d.setStage n stage') := by
  obtain ⟨hfree, hdesk⟩ := desk_lockSession hlock
  refine .took actor hfree ?_
  rw [desk_setStage ((calls_lockSession hlock).symm ▸ hcall), hdesk, looking]
  rfl

end Shift

/-- Packets that are written one by one are written as all of them. -/
theorem encodeAll_of_encode {p : Packet} {e : Encoding} {maxSize : Nat} {bytes : Bytes}
    (h : p.encode e maxSize = .ok bytes) : Packet.encodeAll e maxSize [p] = .ok bytes := by
  rw [Packet.encodeAll, h]
  exact congrArg Except.ok (List.append_nil bytes)

/-- A call that puts a new connection in place gives up the lock. -/
theorem shift_of_installing (hcall : c.calls[n]? = some ⟨errand, .installing g⟩)
    (h : c.advance n = some c') : Shift c (.advance n) c' := by
  unfold advance at h
  obtain ⟨call, hcall', h⟩ := Option.bind_eq_some_iff.mp h
  obtain rfl := Option.some.inj (hcall.symm.trans hcall')
  obtain rfl := Option.some.inj h
  have hinstalled : ((setState { c with
      sessions := c.sessions ++ [c.newSession g], current := some g } g
        .authenticating).unlockSession (.call n)).calls[n]? = some ⟨errand, .installing g⟩ := by
    rw [calls_unlockSession]
    exact hcall
  refine .left rfl ?_
  rw [desk_setStage hinstalled, desk_unlockSession, desk_setState, desk_install]
  rfl

/-- A call begins an authentication and is about to write it, or drops it at once. -/
theorem shift_of_beginningAuth {password : String}
    (hcall : c.calls[n]? = some ⟨errand, .beginningAuth g password⟩) (h : c.advance n = some c') :
    Shift c (.advance n) c' := by
  unfold advance at h
  obtain ⟨call, hcall', h⟩ := Option.bind_eq_some_iff.mp h
  obtain rfl := Option.some.inj (hcall.symm.trans hcall')
  obtain ⟨s, hs, h⟩ := Option.bind_eq_some_iff.mp h
  have hpage : c.page g = s.page := page_of_session? hs
  have hbegun := desk_beginAuth hs
  have hasking : c.desk.post (.call n) = .asking g (some password) := post_of_call hcall
  refine .began rfl hasking ?_
  dsimp only at h
  split at h
  · rename_i bytes hencode
    obtain rfl := Option.some.inj h
    rw [desk_setStage (calls_onConn c g _ ▸ hcall), hbegun, hpage]
    exact .goes hs (encodeAll_of_encode hencode)
  · obtain rfl := Option.some.inj h
    rw [desk_refuse (by rw [calls_onConn, calls_onConn, hcall]), desk_cancelAuth, hbegun, hpage]
    exact .refused

/-- A call registers its request and is about to write the command, or takes it back at once. -/
theorem shift_of_registering (hcall : c.calls[n]? = some ⟨errand, .registering g⟩)
    (h : c.advance n = some c') : Shift c (.advance n) c' := by
  unfold advance at h
  obtain ⟨call, hcall', h⟩ := Option.bind_eq_some_iff.mp h
  obtain rfl := Option.some.inj (hcall.symm.trans hcall')
  obtain ⟨s, hs, h⟩ := Option.bind_eq_some_iff.mp h
  match errand with
  | .command text multi timeout =>
    have hpage : c.page g = s.page := page_of_session? hs
    have hregistered := desk_registerNext hs multi
    have hwants : c.wants (.call n) = some (text, multi) := by
      change (c.calls[n]?).bind _ = _
      rw [hcall, Option.bind_some]
    refine .registered rfl (post_of_call hcall) hwants ?_
    dsimp only at h
    split at h
    · rename_i bytes hencode
      obtain rfl := Option.some.inj h
      rw [desk_setStage (by rw [calls_onConn]; exact hcall), hregistered, hpage]
      exact .goes hs hencode
    · obtain rfl := Option.some.inj h
      rw [desk_finish (by rw [calls_onConn, calls_onConn, hcall]), desk_remove, hregistered,
        hpage]
      exact .refused
  | .connect | .authenticate _ | .disconnect => cases h

/-- What the next step of a call does to the desk. -/
theorem shift_of_advance (orderly : Orderly c) (h : c.advance n = some c') :
    Shift c (.advance n) c' := by
  have hadvance := h
  unfold advance at h
  obtain ⟨⟨errand, stage⟩, hcall, h⟩ := Option.bind_eq_some_iff.mp h
  have hactor : (Action.advance n).actor? = some (.call n) := rfl
  cases stage with
  | awaitConnectLock =>
    dsimp only at h
    split_ifs at h
    exact Option.some.inj h ▸ .keep hcall rfl rfl rfl
  | lookAtState =>
    dsimp only at h
    split at h
    · exact Option.some.inj h ▸ .proceed hcall hactor rfl rfl errand
    · exact Option.some.inj h ▸ .keep hcall rfl rfl rfl
    all_goals exact Option.some.inj h ▸ .keep hcall rfl rfl rfl
  | dialed g =>
    obtain ⟨d, hlock, h⟩ := Option.bind_eq_some_iff.mp h
    exact Option.some.inj h ▸ .lock hcall hactor hlock rfl
  | awaitAuthLock _ | awaitCommandLock =>
    obtain ⟨d, hlock, h⟩ := Option.bind_eq_some_iff.mp h
    exact Option.some.inj h ▸ .lock hcall hactor hlock rfl
  | replacing g =>
    obtain rfl := Option.some.inj h
    cases c.current with
    | none => exact .keep hcall rfl rfl rfl
    | some previous =>
      have hdesk : ({ c.close previous with current := none } : Client).desk = c.desk :=
        desk_close c previous
      exact .keep hcall hdesk (calls_close ..) rfl
  | installing g => exact shift_of_installing hcall hadvance
  | lookForAuth password =>
    dsimp only at h
    split at h
    · rename_i g hopen
      obtain rfl := Option.some.inj h
      exact .found hactor (post_of_call hcall) hopen (desk_setStage hcall _)
    · exact Option.some.inj h ▸ .leave hcall hactor rfl rfl rfl
  | lookForCommand =>
    dsimp only at h
    split at h
    · rename_i g hopen
      obtain rfl := Option.some.inj h
      have hopen := (Option.filter_eq_some_iff.mp hopen).1
      exact .found hactor (post_of_call hcall) hopen (desk_setStage hcall _)
    · exact Option.some.inj h ▸ .leave hcall hactor rfl rfl rfl
  | beginningAuth g password => exact shift_of_beginningAuth hcall hadvance
  | awaitVerdict g attempt =>
    obtain ⟨s, -, h⟩ := Option.bind_eq_some_iff.mp h
    obtain ⟨verdict, -, h⟩ := Option.bind_eq_some_iff.mp h
    match verdict with
    | some true =>
      obtain rfl := Option.some.inj h
      have hdesk : ((c.setState g .ready).startWatch g).desk = c.desk := by
        rw [desk_startWatch, desk_setState]
        exact orderly
      exact .proceed hcall hactor hdesk (calls_startWatch ..) errand
    | some false | none => exact Option.some.inj h ▸ .leave hcall hactor rfl rfl rfl
  | registering g => exact shift_of_registering hcall hadvance
  | awaitResponse g id slot =>
    obtain ⟨s, -, h⟩ := Option.bind_eq_some_iff.mp h
    obtain ⟨outcome, -, h⟩ := Option.bind_eq_some_iff.mp h
    cases outcome with
    | answered body | failed e | dropped =>
      exact Option.some.inj h ▸ .leave hcall hactor rfl rfl rfl
  | awaitDisconnectLock =>
    dsimp only at h
    split_ifs at h
    split at h
    · exact Option.some.inj h ▸ .keep hcall rfl rfl rfl
    · exact Option.some.inj h ▸ .leave hcall hactor rfl rfl rfl
  | shuttingDown g =>
    exact Option.some.inj h ▸ .leave hcall hactor (desk_close ..) (calls_close ..) rfl
  -- A call at one of these stages waits for the network or is over.
  | dialing _ | writingAuth _ _ _ _ | writingCommand _ _ _ _ _ | finished _ | abandoned => cases h

theorem shift_of_dial {outcome : DialOutcome} (h : c.dial n outcome = some c') :
    Shift c (.dial n outcome) c' := by
  unfold dial at h
  obtain ⟨⟨errand, stage⟩, hcall, h⟩ := Option.bind_eq_some_iff.mp h
  cases stage with
  | dialing g =>
    cases outcome with
    | stream => exact Option.some.inj h ▸ .keep hcall rfl rfl rfl
    | refused | timedOut => exact Option.some.inj h ▸ .leave hcall rfl (desk_setState ..) rfl rfl
  | _ => cases h

/-- A call that writes has a connection to write on. -/
theorem session?_of_ticket (attended : Attended c) {call : Call} (hcall : c.calls[n]? = some call)
    {t : Ticket} (ticket : call.stage.ticket? = some (g, t)) : ∃ s, c.session? g = some s := by
  obtain ⟨s, hs, -⟩ := attended.issued hcall ticket
  exact ⟨s, hs⟩

/-- The write of somebody ends. What follows deals with the same connection at most. -/
inductive WriteEnds (c : Client) (h : Holder) (outcome : WriteOutcome) (c' : Client) : Prop where
  | mk {g : Nat} {s : Session} {request : Option (Int32 × Nat)} {packets : List Packet}
    {bytes : Bytes} {ops : List Link.Op} (session : c.session? g = some s)
    (post : c.desk.post h = .writing g request packets bytes)
    (desk : c'.desk = (c.put g packets bytes outcome).1.desk.leave h)
    (deals : Deals g ops (c.put g packets bytes outcome).1 c')

theorem WriteEnds.shift {h : Holder} {outcome : WriteOutcome} (ends : WriteEnds c h outcome c')
    (actor : action.actor? = some h) (cut : action.isCut = (outcome != .written)) :
    Shift c action c' := by
  obtain ⟨hs, post, desk, -⟩ := ends
  rename_i g s request packets bytes ops
  have hpage : c.page g = s.page := page_of_session? hs
  cases hput : (c.put g packets bytes outcome).2 with
  | none =>
    rw [desk_put_of_none hs hput] at desk
    refine .wrote actor post ?_
    rw [hpage]
    exact desk
  | some e =>
    obtain ⟨count, hdesk⟩ := desk_put_of_some hs hput
    have hcut : (outcome != .written) = true := by
      cases outcome with
      | written => cases hput
      | broken _ | timedOut _ => rfl
    rw [hdesk] at desk
    refine .broke count actor (cut.trans hcut) post ?_
    rw [hpage]
    exact desk

/-- The end of a call's write. -/
theorem writeEnds_of_write (attended : Attended c) {outcome : WriteOutcome}
    (h : c.write n outcome = some c') : WriteEnds c (.call n) outcome c' := by
  unfold write at h
  obtain ⟨⟨errand, stage⟩, hcall, h⟩ := Option.bind_eq_some_iff.mp h
  cases stage with
  | writingAuth g attempt packet bytes =>
    obtain ⟨s, hs⟩ := session?_of_ticket attended hcall rfl
    have hcall' := (congrArg (·[n]?) (calls_put c g [packet] bytes outcome)).trans hcall
    dsimp only at h
    split at h
    · obtain rfl := Option.some.inj h
      refine ⟨hs, post_of_call hcall, ?_, (deals_unlockSession ..).trans (deals_setStage ..)⟩
      rw [desk_setStage (by rw [calls_unlockSession]; exact hcall'), desk_unlockSession]
      rfl
    · obtain rfl := Option.some.inj h
      refine ⟨hs, post_of_call hcall, ?_, (deals_cancelAuth ..).trans (deals_refuse ..)⟩
      rw [desk_refuse (by rw [calls_onConn]; exact hcall'), desk_cancelAuth]
  | writingCommand g id slot packets bytes =>
    obtain ⟨s, hs⟩ := session?_of_ticket attended hcall rfl
    have hcall' := (congrArg (·[n]?) (calls_put c g packets bytes outcome)).trans hcall
    dsimp only at h
    split at h
    · obtain rfl := Option.some.inj h
      refine ⟨hs, post_of_call hcall, ?_, (deals_unlockSession ..).trans (deals_setStage ..)⟩
      rw [desk_setStage (by rw [calls_unlockSession]; exact hcall'), desk_unlockSession]
      rfl
    · obtain rfl := Option.some.inj h
      refine ⟨hs, post_of_call hcall, ?_, (deals_remove ..).trans (deals_finish ..)⟩
      rw [desk_finish (by rw [calls_onConn]; exact hcall'), desk_remove]
  | _ => cases h

theorem shift_of_expire (h : c.expire n = some c') : Shift c (.expire n) c' := by
  unfold expire at h
  obtain ⟨⟨errand, stage⟩, hcall, h⟩ := Option.bind_eq_some_iff.mp h
  cases stage with
  | awaitVerdict g _ =>
    obtain ⟨s, -, h⟩ := Option.bind_eq_some_iff.mp h
    split_ifs at h
    exact Option.some.inj h ▸ .leave hcall rfl (desk_cancelAuth c g) (calls_onConn ..) rfl
  | awaitResponse g id _ =>
    obtain ⟨s, -, h⟩ := Option.bind_eq_some_iff.mp h
    split_ifs at h
    exact Option.some.inj h ▸ .leave hcall rfl (desk_remove c g id) (calls_onConn ..) rfl
  | _ => cases h

/-- A call that is dropped while it writes leaves a part of its bytes on the connection. -/
theorem shift_of_abandon (attended : Attended c) {count : Nat} (h : c.abandon n count = some c') :
    Shift c (.abandon n count) c' := by
  unfold abandon at h
  obtain ⟨⟨errand, stage⟩, hcall, h⟩ := Option.bind_eq_some_iff.mp h
  cases stage with
  | awaitConnectLock | dialing _ | dialed _ | awaitAuthLock _ | awaitVerdict _ _
  | awaitCommandLock | awaitResponse _ _ _ | awaitDisconnectLock =>
    exact Option.some.inj h ▸ .leave hcall rfl rfl rfl rfl
  | shuttingDown g =>
    exact Option.some.inj h ▸ .leave hcall rfl (desk_close ..) (calls_close ..) rfl
  | writingAuth g _ _ bytes | writingCommand g _ _ _ bytes =>
    obtain rfl := Option.some.inj h
    obtain ⟨s, hs⟩ := session?_of_ticket attended hcall rfl
    have hwritten := desk_written hs (bytes.take count) []
    simp only [List.append_nil] at hwritten
    refine .broke count rfl rfl (post_of_call hcall) ?_
    rw [desk_leave (by exact hcall) rfl, hwritten, page_of_session? hs]
    rfl
  | _ => cases h

/-- What happens to a connection by itself does not concern the desk. -/
theorem desk_of_receive {bytes : Bytes} (h : c.receive g bytes = some c') : c'.desk = c.desk := by
  unfold receive at h
  obtain ⟨s, -, h⟩ := Option.bind_eq_some_iff.mp h
  split_ifs at h
  exact Option.some.inj h ▸ desk_onLink_of_op (.frame bytes) (fun _ => rfl) rfl

theorem desk_of_hangUp (h : c.hangUp g = some c') : c'.desk = c.desk := by
  unfold hangUp at h
  obtain ⟨s, -, h⟩ := Option.bind_eq_some_iff.mp h
  split_ifs at h
  obtain rfl := Option.some.inj h
  exact (desk_close ..).trans (desk_modifySession_of_same (fun _ ht => ht) fun _ _ => ⟨rfl, rfl⟩)

section Checks

variable {s : Session} {watch : Watch}

/-- A connection check that goes on to a stage that is the same to the desk. -/
theorem Shift.keepWatch (hs : c.session? g = some s) (same : watch.post g = s.watch.post g) :
    Shift c action (c.setWatch g watch) := by
  refine .kept ?_
  rw [desk_setWatch hs, same]
  exact Desk.move_self (post_of_watch hs)

/-- A connection check that ends. -/
theorem Shift.leaveWatch (hs : c.session? g = some s) :
    Shift c (.watch g) ((c.unlockSession (.watch g)).setWatch g .over) := by
  have hunlocked : (c.unlockSession (.watch g)).session? g = some s := by
    rw [session?, (unlockSession_spec c (.watch g)).1]
    exact hs
  refine .left rfl ?_
  rw [desk_setWatch hunlocked, desk_unlockSession]
  rfl

/-- A connection check that gets the session lock. -/
theorem Shift.lockWatch (hs : c.session? g = some s) (hlock : c.lockSession (.watch g) = some d) :
    Shift c (.watch g) (d.setWatch g .looking) := by
  obtain ⟨hfree, hdesk⟩ := desk_lockSession hlock
  obtain ⟨t, ht, -⟩ := (deals_lockSession hlock g).exists_session hs
  refine .took rfl hfree ?_
  rw [desk_setWatch ht, hdesk]
  rfl

/-- A connection check registers its request and is about to write, or ends with it. -/
theorem shift_of_watchRegistering (hs : c.session? g = some s) (hwatch : s.watch = .registering)
    (h : c.advanceWatch g = some c') : Shift c (.watch g) c' := by
  have hasking : c.desk.post (.watch g) = .asking g none :=
    (post_of_watch hs).trans (by rw [hwatch]; rfl)
  have hpage : c.page g = s.page := page_of_session? hs
  have hregistered := desk_registerNext hs false
  obtain ⟨t, ht, -⟩ := (deals_registerNext c g false).exists_session hs
  unfold advanceWatch at h
  obtain ⟨s', hs', h⟩ := Option.bind_eq_some_iff.mp h
  obtain rfl := Option.some.inj (hs.symm.trans hs')
  simp only [hwatch] at h
  refine .registered rfl hasking rfl ?_
  split at h
  · rename_i bytes hencode
    obtain rfl := Option.some.inj h
    rw [desk_setWatch ht, hregistered, hpage]
    exact .goes hs (encodeAll_of_encode hencode)
  · obtain rfl := Option.some.inj h
    obtain ⟨u, hu, -⟩ := (deals_unlockSession _ (.watch g) g).exists_session ht
    rw [desk_setWatch hu, desk_unlockSession, hregistered, hpage]
    exact .refused

/-- What the next step of a connection check does to the desk. -/
theorem shift_of_advanceWatch (h : c.advanceWatch g = some c') : Shift c (.watch g) c' := by
  have hadvance := h
  unfold advanceWatch at h
  obtain ⟨s, hs, h⟩ := Option.bind_eq_some_iff.mp h
  cases hwatch : s.watch with
  | sleeping =>
    simp only [hwatch] at h
    split_ifs at h
    · exact Option.some.inj h ▸ .leaveWatch hs
    · exact Option.some.inj h ▸ .keepWatch hs (by rw [hwatch]; rfl)
  | awaitLock =>
    simp only [hwatch] at h
    split_ifs at h
    · exact Option.some.inj h ▸ .leaveWatch hs
    · obtain ⟨d, hlock, h⟩ := Option.bind_eq_some_iff.mp h
      exact Option.some.inj h ▸ .lockWatch hs hlock
  | looking =>
    simp only [hwatch] at h
    split_ifs at h with hopen
    · obtain rfl := Option.some.inj h
      exact .found rfl ((post_of_watch hs).trans (by rw [hwatch]; rfl)) hopen (desk_setWatch hs _)
    · exact Option.some.inj h ▸ .leaveWatch hs
  | registering => exact shift_of_watchRegistering hs hwatch hadvance
  | writing id slot packet bytes =>
    simp only [hwatch] at h
    split_ifs at h
    exact Option.some.inj h ▸ .leaveWatch hs
  | awaitAnswer id slot =>
    simp only [hwatch] at h
    split_ifs at h
    · exact Option.some.inj h ▸ .leaveWatch hs
    · obtain ⟨outcome, -, h⟩ := Option.bind_eq_some_iff.mp h
      cases outcome with
      | answered body => exact Option.some.inj h ▸ .keepWatch hs (by rw [hwatch]; rfl)
      | failed e | dropped => exact Option.some.inj h ▸ .leaveWatch hs
  -- A check that is off or over takes no step.
  | _ => simp only [hwatch, reduceCtorEq] at h

end Checks

/-- The end of a connection check's write. -/
theorem writeEnds_of_writeWatch {outcome : WriteOutcome} (h : c.writeWatch g outcome = some c') :
    WriteEnds c (.watch g) outcome c' := by
  unfold writeWatch at h
  obtain ⟨s, hs, h⟩ := Option.bind_eq_some_iff.mp h
  split at h
  · rename_i id slot packet bytes hwatch
    have hpost : c.desk.post (.watch g) = .writing g (some (id, slot)) [packet] bytes :=
      (post_of_watch hs).trans (by rw [hwatch]; rfl)
    obtain ⟨ops, hput⟩ : ∃ ops, Deals g ops c (c.put g [packet] bytes outcome).1 := by
      cases hfailed : (c.put g [packet] bytes outcome).2 with
      | none => exact ⟨_, deals_put_of_none hfailed⟩
      | some e => exact ⟨_, deals_put_of_some hfailed⟩
    obtain ⟨t, ht, -⟩ := (hput.trans (deals_unlockSession _ (.watch g) g)).exists_session hs
    dsimp only at h
    split at h
    all_goals
      obtain rfl := Option.some.inj h
      refine ⟨hs, hpost, ?_, (deals_unlockSession ..).trans (deals_setWatch ..)⟩
      rw [desk_setWatch ht, desk_unlockSession]
      rfl
  · cases h

theorem shift_of_expireWatch (h : c.expireWatch g = some c') : Shift c (.watchExpire g) c' := by
  unfold expireWatch at h
  obtain ⟨s, hs, h⟩ := Option.bind_eq_some_iff.mp h
  split at h
  · rename_i id slot hwatch
    split_ifs at h
    obtain rfl := Option.some.inj h
    obtain ⟨t, ht, -⟩ := ((deals_remove c g id).trans (deals_close _ g)).exists_session hs
    refine .kept ?_
    rw [desk_setWatch ht, desk_close, desk_remove]
    exact Desk.move_self ((post_of_watch hs).trans (by rw [hwatch]; rfl))
  · cases h

/-- A call that has just been made is away. -/
theorem desk_makeCall (c : Client) (errand : Errand) : (c.makeCall errand).desk = c.desk := by
  have hadd (call : Call) (password : String) (away : call.stage.post = .away) :
      desk { c with password, calls := c.calls ++ [call] } = c.desk := by
    refine Desk.ext rfl rfl rfl (funext fun h => ?_) rfl
    cases h with
    | call m =>
      change ((c.calls ++ [call])[m]?).elim _ _ = (c.calls[m]?).elim _ _
      rw [List.getElem?_append]
      split_ifs with hm
      · rfl
      · rw [List.getElem?_eq_none (Nat.le_of_not_lt hm), List.getElem?_singleton]
        split_ifs
        · exact away
        · rfl
    | watch g => rfl
  refine hadd _ _ ?_
  cases errand with
  | connect | authenticate password | disconnect => rfl
  | command text multi timeout =>
    dsimp only
    split_ifs <;> rfl

/-- What one step does to the desk. -/
theorem shift_of_step (attended : Attended c) (orderly : Orderly c) (h : c.step action = some c') :
    Shift c action c' := by
  cases action with
  | call errand => exact Option.some.inj h ▸ .kept (desk_makeCall c errand)
  | setPassword password => exact Option.some.inj h ▸ .kept rfl
  | advance n => exact shift_of_advance orderly h
  | dial n outcome => exact shift_of_dial h
  | write n outcome => exact (writeEnds_of_write attended h).shift rfl rfl
  | expire n => exact shift_of_expire h
  | abandon n count => exact shift_of_abandon attended h
  | frame g bytes => exact .kept (desk_of_receive h)
  | hangUp g => exact .kept (desk_of_hangUp h)
  | watch g => exact shift_of_advanceWatch h
  | watchWrite g outcome => exact (writeEnds_of_writeWatch h).shift rfl rfl
  | watchExpire g => exact shift_of_expireWatch h

/-! ## Everybody in turn -/

/-- What somebody wants to send is encoded, and is what they were asked to send. -/
inductive Prepared (routing : Routing) (wants : Option (String × Bool)) : Post → Prop where
  /-- Nothing is sent. -/
  | away : Prepared routing wants .away
  /-- Nothing is sent yet. -/
  | looking : Prepared routing wants .looking
  /-- Nothing is sent yet. -/
  | asking {g : Nat} {password : Option String} : Prepared routing wants (.asking g password)
  /-- An authentication is sent. -/
  | authentication {g : Nat} {password : String} {bytes : Bytes}
      (encoded : Packet.encodeAll routing.encoding routing.maxSize (authPackets password) =
        .ok bytes) :
    Prepared routing wants (.writing g none (authPackets password) bytes)
  /-- A command is sent. -/
  | command {g : Nat} {id : Int32} {slot : Nat} {text : String} {multi : Bool} {bytes : Bytes}
      (wanted : wants = some (text, multi))
      (encoded : Packet.encodeAll routing.encoding routing.maxSize
        (commandPackets id text multi) = .ok bytes) :
    Prepared routing wants (.writing g (some (id, slot)) (commandPackets id text multi) bytes)

/-- What somebody was asked to send does not change. -/
theorem Prepared.mono {routing : Routing} {wants wants' : Option (String × Bool)} {post : Post}
    (prepared : Prepared routing wants post) (same : ∀ w, wants = some w → wants' = some w) :
    Prepared routing wants' post := by
  cases prepared with
  | away => exact .away
  | looking => exact .looking
  | asking => exact .asking
  | authentication encoded => exact .authentication encoded
  | command wanted encoded => exact .command (same _ wanted) encoded

/-- Everybody writes in turn, under the configuration, and what they were asked to. -/
structure InTurn (config : Config) (c : Client) : Prop where
  /-- The configuration stays what it is. -/
  configured : c.config = config
  /-- Every connection has it. -/
  routing : ∀ {g s}, c.session? g = some s → s.conn.routing = config.routing
  /-- Whoever has begun to take the session lock has it. -/
  held : c.desk.Held
  /-- What somebody sends is what they want to send. -/
  prepared : ∀ h, Prepared config.routing (c.wants h) (c.desk.post h)

theorem inTurn_fresh (config : Config) (listeners : Registry) :
    InTurn config (fresh config listeners) where
  configured := rfl
  routing := fun h => by cases h
  held := fun h => by
    cases h with
    | call n | watch g => exact fun h => absurd rfl h
  prepared := fun h => by
    cases h with
    | call n | watch g => exact .away

/-- No step changes the configuration. -/
theorem Shift.config_eq (shift : Shift c action c') : c'.config = c.config := by
  have hwrites {h : Holder} {g : Nat} {request : Option (Int32 × Nat)} {packets : List Packet}
      {d d' : Desk} (writes : Writes c h g request packets d d') : d'.config = d.config := by
    cases writes with
    | goes | refused => rfl
  change c'.desk.config = c.desk.config
  cases shift with
  | kept desk | left _ desk | took _ _ desk | found _ _ _ desk | wrote _ _ desk
  | broke _ _ _ _ desk => exact (congrArg Desk.config desk).trans rfl
  | began _ _ desk => exact (hwrites desk).trans rfl
  | registered _ _ _ desk => exact (hwrites desk).trans rfl

/-- What a call was asked to send stays. -/
theorem wants_of_step (h : c.step action = some c') {k : Holder} {w : String × Bool}
    (wants : c.wants k = some w) : c'.wants k = some w := by
  cases k with
  | watch g => exact wants
  | call m =>
    obtain ⟨call, hcall, hwants⟩ := Option.bind_eq_some_iff.mp wants
    change (c'.calls[m]?).bind _ = _
    cases moves_of_step h with
    | kept calls => rw [calls, hcall, Option.bind_some, hwants]
    | made calls fresh =>
      have hlt : m < c.calls.length := (List.getElem?_eq_some_iff.mp hcall).1
      rw [calls, List.getElem?_append_left hlt, hcall, Option.bind_some, hwants]
    | moved _ _ calls =>
      rw [calls, List.getElem?_modify, hcall]
      refine Option.bind_eq_some_iff.mpr ⟨_, rfl, ?_⟩
      split_ifs <;> exact hwants

/-- Where everybody is once somebody has asked. -/
theorem Writes.post_cases {h : Holder} {request : Option (Int32 × Nat)} {packets : List Packet}
    {d d' : Desk} (writes : Writes c h g request packets d d') (k : Holder) :
    k ≠ h ∧ d'.post k = d.post k ∨
      k = h ∧ (d'.post k = .away ∨ ∃ s bytes, c.session? g = some s ∧
        Packet.encodeAll s.conn.routing.encoding s.conn.routing.maxSize packets = .ok bytes ∧
          d'.post k = .writing g request packets bytes) := by
  by_cases hk : k = h
  · refine .inr ⟨hk, ?_⟩
    cases writes with
    | @goes s bytes session encoded =>
      exact .inr ⟨s, bytes, session, encoded, (Desk.post_move ..).trans (if_pos hk)⟩
    | refused => exact .inl ((Desk.post_leave ..).trans (if_pos hk))
  · refine .inl ⟨hk, ?_⟩
    cases writes with
    | goes => exact (Desk.post_move ..).trans (if_neg hk)
    | refused => exact (Desk.post_leave ..).trans (if_neg hk)

/-- What does not change once somebody has asked. -/
theorem Writes.frame {h : Holder} {request : Option (Int32 × Nat)} {packets : List Packet}
    {d d' : Desk} (writes : Writes c h g request packets d d') :
    (d'.lock = d.lock ∨ d'.lock = none) ∧ d'.nextId = d.nextId ∧ d'.page = d.page := by
  cases writes with
  | goes => exact ⟨.inl rfl, rfl, rfl⟩
  | refused => exact ⟨Desk.lock_leave d h, rfl, rfl⟩

/-- What one step enters on the page of the connection of a generation. -/
inductive Entry (c : Client) (action : Action) (g : Nat) : Page → Prop where
  /-- Nothing. -/
  | kept : Entry c action g (c.page g)
  /-- An authentication, which a call begins. -/
  | began {n : Nat} {password : String} (taker : action = .advance n)
      (post : c.desk.post (.call n) = .asking g (some password)) :
    Entry c action g { c.page g with attempts := (c.page g).attempts + 1 }
  /-- A request, which somebody registers. -/
  | registered {h : Holder} (actor : action.actor? = some h)
      (post : c.desk.post h = .asking g none) :
    Entry c action g { c.page g with issued := (c.page g).issued + 1 }
  /-- What somebody has written. -/
  | wrote {h : Holder} {request : Option (Int32 × Nat)} {packets : List Packet} {bytes : Bytes}
      (actor : action.actor? = some h) (post : c.desk.post h = .writing g request packets bytes) :
    Entry c action g { c.page g with
      written := (c.page g).written ++ bytes
      sent := (c.page g).sent ++ packets }
  /-- A part of what somebody writes. -/
  | broke {h : Holder} {request : Option (Int32 × Nat)} {packets : List Packet} {bytes : Bytes}
      (count : Nat) (actor : action.actor? = some h) (cut : action.isCut = true)
      (post : c.desk.post h = .writing g request packets bytes) :
    Entry c action g { c.page g with written := (c.page g).written ++ bytes.take count }

/-- What a step does to the desk is an entry on one page at most. -/
theorem Shift.entry (shift : Shift c action c') (g : Nat) : Entry c action g (c'.page g) := by
  change Entry c action g (c'.desk.page g)
  have hturned {d : Desk} {j : Nat} {page : Page} (desk : c'.desk.page = d.page)
      (turned : d.page = (c.desk.turn j page).page) (entered : g = j → Entry c action g page) :
      Entry c action g (c'.desk.page g) := by
    rw [desk, turned, Desk.page_turn]
    split_ifs with hg
    · exact entered hg
    · exact .kept
  cases shift with
  | kept desk | left _ desk | took _ _ desk | found _ _ _ desk =>
    rw [desk]
    exact .kept
  | began taker post desk =>
    refine hturned desk.frame.2.2 rfl ?_
    rintro rfl
    exact .began taker post
  | registered actor post _ desk =>
    refine hturned desk.frame.2.2 rfl ?_
    rintro rfl
    exact .registered actor post
  | wrote actor post desk =>
    refine hturned (congrArg Desk.page desk) rfl ?_
    rintro rfl
    exact .wrote actor post
  | broke count actor cut post desk =>
    refine hturned (congrArg Desk.page desk) rfl ?_
    rintro rfl
    exact .broke count actor cut post

/-- What is sent in a step is what somebody has written who takes it. -/
theorem sent_of_step (attended : Attended c) (orderly : Orderly c) (h : c.step action = some c')
    (g : Nat) :
    ∃ packets, (c'.page g).sent = (c.page g).sent ++ packets ∧
      (packets = [] ∨ ∃ k request bytes, action.actor? = some k ∧
        c.desk.post k = .writing g request packets bytes) := by
  have hentry := (shift_of_step attended orderly h).entry g
  generalize c'.page g = page at hentry ⊢
  cases hentry with
  | wrote actor post => exact ⟨_, rfl, .inr ⟨_, _, _, actor, post⟩⟩
  | kept | began | registered | broke => exact ⟨[], (List.append_nil _).symm, .inl rfl⟩

/-- Whoever has asked writes with the lock, or goes away. -/
theorem Writes.held {h : Holder} {request : Option (Int32 × Nat)} {packets : List Packet}
    {d d' : Desk} (writes : Writes c h g request packets d d') (held : d.Held)
    (locked : d.lock = some h) : d'.Held := by
  cases writes with
  | goes => exact held.move locked _
  | refused => exact held.leave h

/-- Whoever goes on to write has the lock. -/
theorem Shift.held (shift : Shift c action c') (held : c.desk.Held) : c'.desk.Held := by
  have hlock {h : Holder} {post : Post} (hpost : c.desk.post h = post) (on : post ≠ .away) :
      c.desk.lock = some h := held h (hpost ▸ on)
  cases shift with
  | kept desk => exact desk ▸ held
  | left _ desk => exact desk ▸ held.leave _
  | @took h _ free desk =>
    rw [desk]
    intro k hk
    change (c.desk.move h .looking).post k ≠ .away at hk
    rw [Desk.post_move] at hk
    split_ifs at hk with hkh
    · exact congrArg some hkh.symm
    · exact absurd (held.away_of_free free k) hk
  | found _ post _ desk => exact desk ▸ held.move (hlock post (by simp)) _
  | began _ post desk => exact desk.held held (hlock post (by simp))
  | registered _ post _ desk => exact desk.held held (hlock post (by simp))
  | wrote _ post desk => exact desk ▸ Desk.Held.leave (d := c.desk.turn _ _) held _
  | broke _ _ _ post desk => exact desk ▸ Desk.Held.leave (d := c.desk.turn _ _) held _

/-- Every step keeps everybody in turn. -/
theorem InTurn.step {config : Config} (inTurn : InTurn config c) (attended : Attended c)
    (orderly : Orderly c) (h : c.step action = some c') : InTurn config c' := by
  have shift := shift_of_step attended orderly h
  refine ⟨shift.config_eq.trans inTurn.configured, fun hs => ?_, shift.held inTurn.held, fun k => ?_⟩
  · obtain ⟨s, hs, l, ops, hl, hconn, -⟩ | rfl := (transition_of_step h).origin hs
    · rw [hconn, Link.routing_after, hl, inTurn.routing hs]
    · exact congrArg Config.routing inTurn.configured
  · have hkept : Prepared config.routing (c'.wants k) (c.desk.post k) :=
      (inTurn.prepared k).mono fun _ => wants_of_step h
    have hmove {d : Desk} {post : Post} (h : Holder) (hd : d.post = c.desk.post)
        (hpost : Prepared config.routing (c'.wants k) post) :
        Prepared config.routing (c'.wants k) ((d.move h post).post k) := by
      rw [Desk.post_move]
      split_ifs
      · exact hpost
      · exact hd ▸ hkept
    have hleave {d : Desk} (h : Holder) (hd : d.post = c.desk.post) :
        Prepared config.routing (c'.wants k) ((d.leave h).post k) :=
      hmove (d := d.release h) h hd .away
    cases shift with
    | kept desk => exact desk ▸ hkept
    | left _ desk => exact desk ▸ hleave _ rfl
    | took _ _ desk => exact desk ▸ hmove (d := c.desk) _ rfl .looking
    | found _ _ _ desk => exact desk ▸ hmove _ rfl .asking
    | began _ _ desk =>
      obtain ⟨-, hpost⟩ | ⟨-, hpost | ⟨s, bytes, session, encoded, hpost⟩⟩ := desk.post_cases k
      · exact hpost ▸ hkept
      · exact hpost ▸ .away
      · rw [inTurn.routing session] at encoded
        exact hpost ▸ .authentication encoded
    | registered _ _ wants desk =>
      obtain ⟨-, hpost⟩ | ⟨rfl, hpost | ⟨s, bytes, session, encoded, hpost⟩⟩ := desk.post_cases k
      · exact hpost ▸ hkept
      · exact hpost ▸ .away
      · rw [inTurn.routing session] at encoded
        exact hpost ▸ .command (wants_of_step h wants) encoded
    | wrote _ _ desk => exact desk ▸ hleave _ rfl
    | broke _ _ _ _ desk => exact desk ▸ hleave _ rfl

end RemoteConsole.Client
