import RemoteConsole.Proofs.Client.Checks
import RemoteConsole.Proofs.Connection.Authentication
import Mathlib.Logic.Function.Basic

/-!
# The session lock and who writes

Calls that authenticate, calls that send a command, and connection checks write on a connection.
Each gets the session lock, finds the connection in place, begins an authentication or registers a
request there, writes, and gives the lock up. How far somebody has come on this way is a `Post`, the
same for all three. Together with the lock, the next id, and what was written and given out on each
connection (`Page`), the posts are the `Desk` of a client.

Every operation of a client has an equation here that says what it does to the desk. Most leave it
alone.
-/

namespace RemoteConsole

/-- How far somebody has come who takes the session lock to write. -/
inductive Post where
  /-- Without the lock. -/
  | away
  /-- With the lock, and without a connection. -/
  | looking
  /-- About to begin an authentication with a password on the connection of a generation, or to
  register a request there. -/
  | asking (generation : Nat) (password : Option String)
  /-- Writing packets on the connection of a generation, with the id and the slot of the request. -/
  | writing (generation : Nat) (request : Option (Int32 × Nat)) (packets : List Packet)
      (bytes : Bytes)

/-- The generation of the connection that somebody has found. -/
def Post.generation? : Post → Option Nat
  | asking g _ | writing g _ _ _ => some g
  | away | looking => none

/-- Whether somebody writes on the connection of a generation. -/
def Post.writesOn (g : Nat) : Post → Bool
  | writing h _ _ _ => h == g
  | _ => false

/-- How far a call at a stage has come. -/
def Stage.post : Stage → Post
  | replacing _ | installing _ | lookForAuth _ | lookForCommand => .looking
  | beginningAuth g password => .asking g (some password)
  | registering g => .asking g none
  | writingAuth g _ packet bytes => .writing g none [packet] bytes
  | writingCommand g id slot packets bytes => .writing g (some (id, slot)) packets bytes
  | awaitConnectLock | lookAtState | dialing _ | dialed _ | awaitAuthLock _ | awaitVerdict ..
  | awaitCommandLock | awaitResponse .. | awaitDisconnectLock | shuttingDown _ | finished _
  | abandoned => .away

/-- How far the check of the connection of a generation has come. -/
def Watch.post (g : Nat) : Watch → Post
  | looking => .looking
  | registering => .asking g none
  | writing id slot packet bytes => .writing g (some (id, slot)) [packet] bytes
  | off | sleeping | awaitLock | awaitAnswer .. | .over => .away

/-- What was written on a connection, and how many numbers it has given out. -/
structure Page where
  /-- The bytes written. -/
  written : Bytes := []
  /-- The packets of the writes that succeeded. -/
  sent : List Packet := []
  /-- The number of requests ever registered. -/
  issued : Nat := 0
  /-- The number of authentications ever begun. -/
  attempts : Nat := 0

/-- What was written on a connection, and how many numbers it has given out. -/
def Session.page (s : Session) : Page :=
  ⟨s.written, s.sent, s.conn.requests.issued, s.conn.attempts⟩

/-- What those who write share. -/
@[ext] structure Desk where
  /-- The configuration. -/
  config : Config
  /-- Who has the session lock. -/
  lock : Option Holder
  /-- The next packet id. -/
  nextId : Int32
  /-- How far everybody has come. -/
  post : Holder → Post
  /-- What was written on the connection of each generation. -/
  page : Nat → Page

namespace Desk

variable {d : Desk} {h : Holder} {post : Post} {g : Nat}

/-- Somebody goes on. -/
def move (d : Desk) (h : Holder) (post : Post) : Desk :=
  { d with post := Function.update d.post h post }

/-- Somebody gives the lock up, if it is theirs. -/
def release (d : Desk) (h : Holder) : Desk :=
  { d with lock := if d.lock = some h then none else d.lock }

/-- Somebody goes away. -/
def leave (d : Desk) (h : Holder) : Desk :=
  (d.release h).move h .away

/-- Something happens on the connection of a generation. -/
def turn (d : Desk) (g : Nat) (page : Page) : Desk :=
  { d with page := Function.update d.page g page }

@[simp] theorem post_move (d : Desk) (h k : Holder) (post : Post) :
    (d.move h post).post k = if k = h then post else d.post k :=
  Function.update_apply ..

@[simp] theorem page_turn (d : Desk) (g k : Nat) (page : Page) :
    (d.turn g page).page k = if k = g then page else d.page k :=
  Function.update_apply ..

theorem move_self (hpost : d.post h = post) : d.move h post = d := by
  rw [move, ← hpost, Function.update_eq_self]

theorem turn_self : d.turn g (d.page g) = d := by
  rw [turn, Function.update_eq_self]

/-- What an entry does not change on one connection, it changes on none. -/
theorem page_turn_of_same {α : Type} (f : Page → α) {page : Page} (same : f page = f (d.page g))
    (k : Nat) : f ((d.turn g page).page k) = f (d.page k) := by
  rw [page_turn]
  split_ifs with hk
  · rw [hk, same]
  · rfl

/-- Whoever has begun to take the lock has it. -/
def Held (d : Desk) : Prop :=
  ∀ h, d.post h ≠ .away → d.lock = some h

/-- While somebody is on the way with the lock, nobody else is. -/
theorem Held.eq {d : Desk} (held : d.Held) {h k : Holder} (hon : d.post h ≠ .away)
    (kon : d.post k ≠ .away) : k = h :=
  Option.some.inj ((held k kon).symm.trans (held h hon))

/-- While the lock is free, nobody is on the way. -/
theorem Held.away_of_free {d : Desk} (held : d.Held) (free : d.lock = none) (h : Holder) :
    d.post h = .away := by
  by_contra on
  cases free.symm.trans (held h on)

theorem post_leave (d : Desk) (h k : Holder) :
    (d.leave h).post k = if k = h then .away else d.post k :=
  post_move ..

/-- Nobody gets the lock when somebody goes away. -/
theorem lock_leave (d : Desk) (h : Holder) :
    (d.leave h).lock = d.lock ∨ (d.leave h).lock = none := by
  change (if d.lock = some h then none else d.lock) = d.lock ∨ _
  split_ifs with hlock
  · exact .inr (if_pos hlock)
  · exact .inl rfl

/-- Somebody goes away. -/
theorem Held.leave (held : Held d) (h : Holder) : Held (d.leave h) := by
  intro k hk
  rw [post_leave] at hk
  split_ifs at hk with hkh
  · exact absurd rfl hk
  · have hlock := held k hk
    change (if d.lock = some h then none else d.lock) = some k
    rw [hlock, if_neg fun h => hkh (Option.some.inj h)]

/-- Somebody who has the lock goes on. -/
theorem Held.move (held : Held d) (hlock : d.lock = some h) (post : Post) :
    Held (d.move h post) := by
  intro k hk
  rw [post_move] at hk
  split_ifs at hk with hkh
  · rw [hkh]
    exact hlock
  · exact held k hk

end Desk

namespace Link

/-- An operation that asks nothing gives out no number. -/
theorem numbers_apply (l : Link) {op : Op} (unasked : op.asks = false) :
    (l.apply op).2.2.conn.requests.issued = l.conn.requests.issued ∧
      (l.apply op).2.2.conn.attempts = l.conn.attempts := by
  have hcount : [op].count .beginAuth = 0 := by
    refine List.count_eq_zero_of_not_mem fun h => ?_
    rw [← List.mem_singleton.mp h] at unasked
    cases unasked
  have hattempts := (settles_apply l op).attempts
  rw [hcount] at hattempts
  refine ⟨?_, hattempts⟩
  cases op with
  | register | beginAuth => cases unasked
  | frame bytes => exact (minor_frameReceived bytes l).2.2.1
  | close => exact (minor_close l).2.2.1
  | packet p =>
    change (l.conn.dispatch p).2.requests.issued = _
    unfold Connection.dispatch
    split_ifs
    · rfl
    · rfl
    · exact RequestTable.deliver_issued ..
  | remove | cancelAuth | claimWatch | track | state => rfl

end Link

namespace Client

variable {c c' d : Client} {action : Action} {g n : Nat} {errand : Errand} {stage stage' : Stage}

/-- How far somebody has come. -/
def post (c : Client) : Holder → Post
  | .call n => (c.calls[n]?).elim .away (·.stage.post)
  | .watch g => (c.session? g).elim .away (·.watch.post g)

/-- What was written on the connection of a generation. -/
def page (c : Client) (g : Nat) : Page :=
  (c.session? g).elim {} Session.page

/-- What those who write share. -/
def desk (c : Client) : Desk :=
  ⟨c.config, c.sessionLock, c.nextId, c.post, c.page⟩

theorem page_of_session? {s : Session} (hs : c.session? g = some s) : c.page g = s.page := by
  rw [page, hs, Option.elim_some]

theorem post_of_call (hcall : c.calls[n]? = some ⟨errand, stage⟩) :
    c.desk.post (.call n) = stage.post := by
  change (c.calls[n]?).elim Post.away (·.stage.post) = _
  rw [hcall, Option.elim_some]

theorem post_of_watch {s : Session} (hs : c.session? g = some s) :
    c.desk.post (.watch g) = s.watch.post g := by
  change (c.session? g).elim Post.away (·.watch.post g) = _
  rw [hs, Option.elim_some]

/-! ## What the operations of a client do to the desk -/

/-- A connection is changed. -/
theorem desk_modifySession {f : Session → Session}
    (hf : ∀ s, s.conn.generation = g → (f s).conn.generation = g) {s : Session}
    (hs : c.session? g = some s) :
    (c.modifySession g f).desk =
      (c.desk.turn g (f s).page).move (.watch g) ((f s).watch.post g) := by
  have hfound (k : Nat) : (c.modifySession g f).session? k =
      if k = g then some (f s) else c.session? k := by
    rw [session?_modifySession hf]
    split_ifs with hk
    · rw [hk, hs, Option.map_some]
    · rfl
  refine Desk.ext rfl rfl rfl (funext fun h => ?_) (funext fun k => ?_)
  · rw [Desk.post_move]
    cases h with
    | call n => rfl
    | watch k =>
      change ((c.modifySession g f).session? k).elim _ _ = _
      rw [hfound]
      by_cases hk : k = g
      · rw [if_pos hk, if_pos (by rw [hk]), hk]
        rfl
      · rw [if_neg hk, if_neg fun h => hk (Holder.watch.inj h)]
        rfl
  · change ((c.modifySession g f).session? k).elim _ _ =
      (c.desk.turn g (f s).page).page k
    rw [hfound, Desk.page_turn]
    by_cases hk : k = g
    · rw [if_pos hk, if_pos hk]
      rfl
    · rw [if_neg hk, if_neg hk]
      rfl

/-- A connection that is not there cannot be changed. -/
theorem modifySession_of_none (hs : c.session? g = none) (f : Session → Session) :
    c.modifySession g f = c := by
  have hnone : ∀ s ∈ c.sessions, (s.conn.generation == g) = false := by
    simpa [session?, List.find?_eq_none] using hs
  have hsame : (c.sessions.map fun s => if s.conn.generation == g then f s else s) =
      c.sessions := by
    refine (List.map_congr_left fun s hmem => ?_).trans (List.map_id _)
    rw [hnone s hmem]
    rfl
  rw [modifySession, hsame]

/-- A change of a connection that shows nowhere leaves the desk alone. -/
theorem desk_modifySession_of_same {f : Session → Session}
    (hf : ∀ s, s.conn.generation = g → (f s).conn.generation = g)
    (same : ∀ s, c.session? g = some s →
      (f s).page = s.page ∧ (f s).watch.post g = s.watch.post g) :
    (c.modifySession g f).desk = c.desk := by
  cases hs : c.session? g with
  | none => rw [modifySession_of_none hs]
  | some s =>
    obtain ⟨hpage, hpost⟩ := same s hs
    have hsame : c.desk.turn g (f s).page = c.desk := by
      rw [hpage, ← page_of_session? hs]
      exact Desk.turn_self
    rw [desk_modifySession hf hs, hpost, hsame]
    exact Desk.move_self (post_of_watch hs)

/-- An operation on a connection gives out numbers at most. -/
theorem desk_onLink {f : Link → Effects × Link}
    (hf : ∀ l, (f l).2.conn.generation = l.conn.generation) {s : Session}
    (hs : c.session? g = some s) :
    (c.onLink g f).desk =
      let conn := (f ⟨s.conn, c.cell, c.listeners⟩).2.conn
      c.desk.turn g { s.page with issued := conn.requests.issued, attempts := conn.attempts } := by
  have hgeneration := (hf ⟨s.conn, c.cell, c.listeners⟩).trans (generation_of_session? hs)
  unfold onLink
  rw [hs]
  refine (desk_modifySession (fun _ _ => hgeneration) hs).trans ?_
  have hpost : c.desk.post (.watch g) = s.watch.post g := post_of_watch hs
  exact Desk.move_self hpost

/-- An operation that asks nothing gives out no number. -/
theorem desk_onLink_of_op {f : Link → Effects × Link} (op : Link.Op)
    (hf : ∀ l, f l = (l.apply op).2) (unasked : op.asks = false) :
    (c.onLink g f).desk = c.desk := by
  cases hs : c.session? g with
  | none => rw [onLink_of_none hs]
  | some s =>
    have hgeneration (l : Link) : (f l).2.conn.generation = l.conn.generation := by
      rw [hf, Link.generation_apply]
    obtain ⟨hissued, hattempts⟩ := Link.numbers_apply ⟨s.conn, c.cell, c.listeners⟩ unasked
    rw [desk_onLink hgeneration hs, hf]
    dsimp only
    rw [hissued, hattempts]
    change c.desk.turn g s.page = c.desk
    rw [← page_of_session? hs]
    exact Desk.turn_self

@[simp] theorem desk_close (c : Client) (g : Nat) : (c.close g).desk = c.desk :=
  desk_onLink_of_op .close (fun _ => rfl) rfl

@[simp] theorem desk_remove (c : Client) (g : Nat) (id : Int32) :
    (c.onConn g (·.remove id)).desk = c.desk :=
  desk_onLink_of_op (.remove id) (fun _ => rfl) rfl

@[simp] theorem desk_cancelAuth (c : Client) (g : Nat) :
    (c.onConn g (·.cancelAuth)).desk = c.desk :=
  desk_onLink_of_op .cancelAuth (fun _ => rfl) rfl

@[simp] theorem desk_track (c : Client) (g : Nat) : (c.onConn g (·.track)).desk = c.desk :=
  desk_onLink_of_op .track (fun _ => rfl) rfl

@[simp] theorem desk_setState (c : Client) (g : Nat) (state : ConnectionState) :
    (c.setState g state).desk = c.desk :=
  rfl

/-- An authentication begins. -/
theorem desk_beginAuth {s : Session} (hs : c.session? g = some s) :
    (c.onConn g (·.beginAuth)).desk =
      c.desk.turn g { s.page with attempts := s.conn.attempts + 1 } :=
  desk_onLink (fun _ => rfl) hs

/-- An id is used up, and a request is registered with it. -/
theorem desk_registerNext {s : Session} (hs : c.session? g = some s) (multi : Bool) :
    ({ c with nextId := succId c.nextId }.onConn g (·.register c.nextId multi)).desk =
      { c.desk.turn g { s.page with issued := s.conn.requests.issued + 1 } with
        nextId := succId c.nextId } :=
  desk_onLink (c := { c with nextId := succId c.nextId }) (fun _ => rfl) hs

/-- A connection on which nothing was written yet is put in place. -/
theorem desk_install (c : Client) (g : Nat) :
    desk { c with sessions := c.sessions ++ [c.newSession g], current := some g } = c.desk := by
  have hnew : (c.newSession g).conn.generation = g := rfl
  refine Desk.ext rfl rfl rfl (funext fun h => ?_) (funext fun k => ?_)
  · cases h with
    | call n => rfl
    | watch k =>
      change (session? { c with sessions := _, current := _ } k).elim _ _ = (c.session? k).elim _ _
      rw [session?_append (c := c) rfl]
      cases c.session? k with
      | some s => rfl
      | none =>
        rw [Option.none_or]
        split_ifs <;> rfl
  · change (session? { c with sessions := _, current := _ } k).elim _ _ = (c.session? k).elim _ _
    rw [session?_append (c := c) rfl]
    cases c.session? k with
    | some s => rfl
    | none =>
      rw [Option.none_or]
      split_ifs <;> rfl

/-- A call moves to another stage. -/
theorem desk_setStage {call : Call} (hcall : c.calls[n]? = some call) (stage : Stage) :
    (c.setStage n stage).desk = c.desk.move (.call n) stage.post := by
  refine Desk.ext rfl rfl rfl (funext fun h => ?_) rfl
  rw [Desk.post_move]
  cases h with
  | call m =>
    change ((c.calls.modify n fun call => { call with stage })[m]?).elim _ _ = _
    rw [List.getElem?_modify]
    by_cases hm : n = m
    · subst hm
      simp [hcall]
    · simp [hm, Ne.symm hm]
      rfl
  | watch g => rfl

/-- A connection check moves on. -/
theorem desk_setWatch {s : Session} (hs : c.session? g = some s) (watch : Watch) :
    (c.setWatch g watch).desk = c.desk.move (.watch g) (watch.post g) := by
  have hkeep : ∀ t : Session, t.conn.generation = g →
      ({ t with watch } : Session).conn.generation = g := fun _ ht => ht
  have hsame : c.desk.turn g { s with watch : Session }.page = c.desk := by
    change c.desk.turn g s.page = c.desk
    rw [← page_of_session? hs]
    exact Desk.turn_self
  exact (desk_modifySession hkeep hs).trans (congrArg (Desk.move · _ _) hsame)

theorem desk_lockSession {h : Holder} (hlock : c.lockSession h = some c') :
    c.sessionLock = none ∧ c'.desk = { c.desk with lock := some h } := by
  unfold lockSession at hlock
  split_ifs at hlock with hnone
  obtain rfl := Option.some.inj hlock
  exact ⟨Option.isNone_iff_eq_none.mp hnone, rfl⟩

@[simp] theorem desk_unlockSession (c : Client) (h : Holder) :
    (c.unlockSession h).desk = c.desk.release h := by
  unfold unlockSession
  change _ = { c.desk with lock := if c.sessionLock = some h then none else c.sessionLock }
  split_ifs <;> rfl

@[simp] theorem desk_unlock (c : Client) (n : Nat) :
    (c.unlock n).desk = c.desk.release (.call n) := by
  have hconnect (d : Client) : (d.unlockConnect n).desk = d.desk := by
    unfold unlockConnect
    split_ifs <;> rfl
  rw [unlock, hconnect, desk_unlockSession]

/-- A call gives up its locks, and goes where it needs none. -/
theorem desk_leave {call : Call} (hcall : c.calls[n]? = some call) (away : stage.post = .away) :
    ((c.unlock n).setStage n stage).desk = c.desk.leave (.call n) := by
  have hcall' : (c.unlock n).calls[n]? = some call := by rw [calls_unlock, hcall]
  rw [desk_setStage hcall', desk_unlock, away]
  rfl

theorem desk_finish {call : Call} (hcall : c.calls[n]? = some call) (answer : Answer) :
    (c.finish n answer).desk = c.desk.leave (.call n) :=
  desk_leave hcall rfl

theorem desk_refuse {call : Call} (hcall : c.calls[n]? = some call) (errand : Errand)
    (error : AuthError) : (c.refuse n errand error).desk = c.desk.leave (.call n) :=
  desk_leave hcall rfl

/-- A connection check that starts is not there before. -/
theorem desk_startWatch (orderly : Orderly c) (g : Nat) : (c.startWatch g).desk = c.desk := by
  unfold startWatch
  split
  · rename_i s _ hs
    have hgeneration : s.conn.claimWatch.2.generation = g := generation_of_session? hs
    have hkeep : ∀ t : Session, t.conn.generation = g →
        ({ t with conn := s.conn.claimWatch.2 } : Session).conn.generation = g :=
      fun _ _ => hgeneration
    have hclaim : (c.modifySession g fun t => { t with conn := s.conn.claimWatch.2 }).desk =
        c.desk := by
      refine desk_modifySession_of_same hkeep fun t ht => ?_
      obtain rfl : s = t := Option.some.inj (hs.symm.trans ht)
      exact ⟨rfl, rfl⟩
    dsimp only
    split_ifs with hfirst hclosed
    all_goals try exact hclaim
    all_goals
      have hwatched : s.conn.watched = false := by simpa [Connection.claimWatch] using hfirst
      have hoff : s.watch = .off := by
        by_contra hon
        cases hwatched.symm.trans ((orderly (docket?_of_session? hs)).claimed hon)
      have htracked := (desk_track _ g).trans hclaim
      obtain ⟨t, ht⟩ : ∃ t, ((c.modifySession g fun t =>
          { t with conn := s.conn.claimWatch.2 }).onConn g (·.track)).session? g = some t := by
        have hfound := (deals_track (c.modifySession g fun t =>
          { t with conn := s.conn.claimWatch.2 }) g).exists_session
            (by rw [session?_modifySession hkeep, if_pos rfl, hs, Option.map_some])
        exact hfound.imp fun _ h => h.1
      rw [desk_setWatch ht, htracked]
      refine Desk.move_self ?_
      rw [post_of_watch hs, hoff]
      rfl
  · rfl

/-- Something is written on a connection. -/
theorem desk_written {s : Session} (hs : c.session? g = some s) (bytes : Bytes)
    (packets : List Packet) :
    (c.modifySession g fun s =>
      { s with written := s.written ++ bytes, sent := s.sent ++ packets }).desk =
      c.desk.turn g { s.page with written := s.written ++ bytes, sent := s.sent ++ packets } := by
  have hkeep : ∀ t : Session, t.conn.generation = g →
      ({ t with written := t.written ++ bytes, sent := t.sent ++ packets } :
        Session).conn.generation = g := fun _ ht => ht
  have hpost : c.desk.post (.watch g) = s.watch.post g := post_of_watch hs
  exact (desk_modifySession hkeep hs).trans (Desk.move_self hpost)

theorem desk_put_of_none {s : Session} (hs : c.session? g = some s) {packets : List Packet}
    {bytes : Bytes} {outcome : WriteOutcome} (h : (c.put g packets bytes outcome).2 = none) :
    (c.put g packets bytes outcome).1.desk =
      c.desk.turn g { s.page with written := s.written ++ bytes, sent := s.sent ++ packets } := by
  cases outcome with
  | written => exact desk_written hs bytes packets
  | broken count | timedOut count => cases h

/-- A write that fails may have sent a part of its bytes. -/
theorem desk_put_of_some {s : Session} (hs : c.session? g = some s) {packets : List Packet}
    {bytes : Bytes} {outcome : WriteOutcome} {e : Error}
    (h : (c.put g packets bytes outcome).2 = some e) :
    ∃ count, (c.put g packets bytes outcome).1.desk =
      c.desk.turn g { s.page with written := s.written ++ bytes.take count } := by
  have hpart (count : Nat) : ((c.modifySession g fun s =>
      { s with written := s.written ++ bytes.take count }).close g).desk =
        c.desk.turn g { s.page with written := s.written ++ bytes.take count } := by
    have hwritten := desk_written hs (bytes.take count) []
    simp only [List.append_nil] at hwritten
    exact (desk_close _ g).trans hwritten
  cases outcome with
  | written => cases h
  | broken count | timedOut count => exact ⟨count, hpart count⟩

end Client

end RemoteConsole
