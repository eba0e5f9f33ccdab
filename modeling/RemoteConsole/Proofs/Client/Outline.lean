import RemoteConsole.Client.Step
import RemoteConsole.Proofs.Connection.Closing
import Mathlib.Tactic.SplitIfs

/-!
# The outline of a client

What decides whether a client has a connection: its state, the attempts to connect, whether the
connection of each is closed, which one is in place, and where the calls are. Requests,
authentications, writes, connection checks and the session lock are left out, so most of what
happens to a client leaves its outline alone. Every operation of a client has an equation here that
says what it does to the outline.
-/

namespace RemoteConsole

/-- What decides whether a client has a connection. -/
@[ext] structure Outline where
  /-- The state, and the generation it belongs to. -/
  cell : StateCell
  /-- The number of attempts to get a stream. -/
  generation : Nat
  /-- Whether the connection of a generation is closed, if that has a connection. -/
  closed? : Nat → Option Bool
  /-- The generation of the connection in place. -/
  current : Option Nat
  /-- The call that has the connect lock. -/
  connectLock : Option Nat
  /-- How far a call has come. -/
  stage? : Nat → Option Stage

namespace Outline

/-- Closes the connection of a generation. Only the first time counts. -/
def close (o : Outline) (g : Nat) : Outline :=
  { o with
    closed? := fun h => if h = g then (o.closed? h).map fun _ => true else o.closed? h
    cell := if o.closed? g = some false then o.cell.set g .disconnected else o.cell }

/-- Takes over a state from a generation. -/
def set (o : Outline) (g : Nat) (state : ConnectionState) : Outline :=
  { o with cell := o.cell.set g state }

/-- Puts an open connection in place. -/
def install (o : Outline) (g : Nat) : Outline :=
  { o with
    closed? := fun h => (o.closed? h).or (if h = g then some false else none)
    current := some g }

/-- Makes a call, which begins at a stage. -/
def add (o : Outline) (n : Nat) (stage : Stage) : Outline :=
  { o with stage? := fun m => if m = n then some stage else o.stage? m }

/-- Moves a call to another stage. -/
def move (o : Outline) (n : Nat) (stage : Stage) : Outline :=
  { o with stage? := fun m => if m = n then (o.stage? m).map fun _ => stage else o.stage? m }

/-- Takes the connect lock from a call that may have it, and moves the call to another stage. -/
def leave (o : Outline) (n : Nat) (stage : Stage) : Outline :=
  { o.move n stage with connectLock := if o.connectLock = some n then none else o.connectLock }

end Outline

namespace Connection

/-- An operation that leaves a connection open if it is, and closed if it is. -/
def Keeps (f : Connection → Effects × Connection) : Prop :=
  ∀ c, (f c).2.generation = c.generation ∧ (f c).2.closed = c.closed

-- Everything but closing a connection keeps it open.

theorem keeps_register (id : Int32) (multi : Bool) : Keeps (·.register id multi) :=
  fun _ => ⟨rfl, rfl⟩

theorem keeps_remove (id : Int32) : Keeps (·.remove id) :=
  fun _ => ⟨rfl, rfl⟩

theorem keeps_beginAuth : Keeps beginAuth :=
  fun _ => ⟨rfl, rfl⟩

theorem keeps_cancelAuth : Keeps cancelAuth :=
  fun _ => ⟨rfl, rfl⟩

theorem keeps_track : Keeps track :=
  fun _ => ⟨rfl, rfl⟩

/-- Routing a packet keeps a connection open. -/
theorem keeps_dispatch (p : Packet) : Keeps (·.dispatch p) := by
  intro c
  obtain ⟨-, -, requests, auth, attempts, hconn⟩ := routes_dispatch p c
  rw [hconn]
  exact ⟨rfl, rfl⟩

end Connection

namespace Link

/-- A frame that arrives keeps the connection open, and the client's state as it is. -/
theorem frameReceived_keeps (l : Link) (frame : Bytes) :
    (l.frameReceived frame).2.conn.generation = l.conn.generation ∧
      (l.frameReceived frame).2.conn.closed = l.conn.closed ∧
        (l.frameReceived frame).2.cell = l.cell := by
  unfold frameReceived
  split
  · rename_i p _
    obtain ⟨hgeneration, hclosed⟩ := Connection.keeps_dispatch p l.conn
    exact ⟨hgeneration, hclosed, rfl⟩
  · exact ⟨rfl, rfl, rfl⟩

/-- A connection that is closed, or was, is closed. The client's state is told if it was not. -/
theorem close_spec (l : Link) :
    l.close.2.conn.generation = l.conn.generation ∧ l.close.2.conn.closed = true ∧
      l.close.2.cell =
        if l.conn.closed then l.cell else l.cell.set l.conn.generation .disconnected := by
  split_ifs with h
  · rw [close_of_closed h]
    exact ⟨rfl, h, rfl⟩
  · rw [close_of_open (Bool.eq_false_iff.mpr h)]
    exact ⟨rfl, rfl, rfl⟩

/-- Whatever follows. -/
theorem closed_of_close (l : Link) (ops : List Op) : (l.after (.close :: ops)).conn.closed = true := by
  have hclosed : l.close.2.conn.closed = true := (close_spec l).2.1
  exact (stays_after l.close.2 ops fun _ => hclosed).closed.trans hclosed

end Link

namespace Client

variable {c : Client} {g n : Nat}

/-- The outline of a client. -/
def outline (c : Client) : Outline where
  cell := c.cell
  generation := c.generation
  closed? := fun g => (c.session? g).map fun s => s.conn.closed
  current := c.current
  connectLock := c.connectLock
  stage? := fun n => c.calls[n]?.map Call.stage

theorem outline_closed? (c : Client) (g : Nat) :
    c.outline.closed? g = (c.session? g).map fun s => s.conn.closed :=
  rfl

theorem outline_stage? (c : Client) (n : Nat) : c.outline.stage? n = c.calls[n]?.map Call.stage :=
  rfl

/-- The connection in place is open exactly if it is in the outline. -/
theorem open?_eq_some_iff :
    c.open? = some g ↔ c.outline.current = some g ∧ c.outline.closed? g = some false := by
  have hopen : c.isOpen g = true ↔ c.outline.closed? g = some false := by
    unfold isOpen outline
    cases hs : c.session? g <;> simp [hs]
  rw [open?, Option.filter_eq_some_iff, hopen]
  rfl

/-- The connection found under a generation is of that generation. -/
theorem generation_of_session? {s : Session} (hs : c.session? g = some s) :
    s.conn.generation = g := by
  simpa using List.find?_some hs

/-- What is found under a generation after the connection of one was changed. -/
theorem session?_modifySession {f : Session → Session}
    (hf : ∀ s, s.conn.generation = g → (f s).conn.generation = g) (h : Nat) :
    (c.modifySession g f).session? h =
      if h = g then (c.session? h).map f else c.session? h := by
  have hkeep : ((fun s : Session => s.conn.generation == h) ∘ fun s =>
      if s.conn.generation == g then f s else s) = fun s => s.conn.generation == h := by
    funext s
    by_cases hs : s.conn.generation = g
    · simp [hs, hf s hs]
    · simp [hs]
  -- Generations do not change, so the same connection is found and may have been changed.
  rw [session?, modifySession, List.find?_map, hkeep, ← session?]
  split_ifs with hg
  · refine Option.map_congr fun s hs => ?_
    have hgeneration : s.conn.generation = h := by simpa using List.find?_some hs
    rw [if_pos (by simp [hgeneration, hg])]
  · cases hs : c.session? h with
    | none => rfl
    | some s =>
      have hgeneration : s.conn.generation = h := by simpa using List.find?_some hs
      rw [Option.map_some, if_neg (by simp [hgeneration, hg])]

/-- The outline after a change of a connection. -/
theorem outline_modifySession_eq {f : Session → Session}
    (hf : ∀ s, s.conn.generation = g → (f s).conn.generation = g) :
    (c.modifySession g f).outline =
      { c.outline with
        closed? := fun h =>
          if h = g then (c.session? g).map fun s => (f s).conn.closed
          else c.outline.closed? h } := by
  have hclosed : (c.modifySession g f).outline.closed? = fun h =>
      if h = g then (c.session? g).map fun s => (f s).conn.closed
      else c.outline.closed? h := by
    funext h
    show ((c.modifySession g f).session? h).map (fun s => s.conn.closed) = _
    rw [session?_modifySession hf]
    split_ifs with hg
    · rw [hg, Option.map_map]
      rfl
    · rfl
  rw [← hclosed]
  rfl

/-- A change that leaves a connection open or closed leaves the outline alone. -/
theorem outline_modifySession {f : Session → Session}
    (hf : ∀ s, s.conn.generation = g → (f s).conn.generation = g)
    (hclosed : ∀ s, c.session? g = some s → (f s).conn.closed = s.conn.closed) :
    (c.modifySession g f).outline = c.outline := by
  rw [outline_modifySession_eq hf]
  refine Outline.ext rfl rfl (funext fun h => ?_) rfl rfl rfl
  dsimp only
  split_ifs with hg
  · rw [hg]
    exact Option.map_congr hclosed
  · rfl

/-- A change that does not concern the connection itself leaves the outline alone. -/
theorem outline_modifySession_of_conn {f : Session → Session} (hf : ∀ s, (f s).conn = s.conn) :
    (c.modifySession g f).outline = c.outline :=
  outline_modifySession (fun s hs => by rw [hf, hs]) fun s _ => by rw [hf]

/-- The outline after an operation on a connection. -/
theorem outline_onLink {f : Link → Effects × Link}
    (hf : ∀ l, (f l).2.conn.generation = l.conn.generation) {s : Session}
    (hs : c.session? g = some s) :
    (c.onLink g f).outline =
      { c.outline with
        cell := (f ⟨s.conn, c.cell, c.listeners⟩).2.cell
        closed? := fun h =>
          if h = g then some (f ⟨s.conn, c.cell, c.listeners⟩).2.conn.closed
          else c.outline.closed? h } := by
  have hgeneration := (hf ⟨s.conn, c.cell, c.listeners⟩).trans (generation_of_session? hs)
  rw [onLink, hs]
  dsimp only
  rw [outline_modifySession_eq fun _ _ => hgeneration]
  simp only [session?] at hs ⊢
  rw [hs]
  rfl

/-- An operation on a connection that is not there does nothing. -/
theorem onLink_of_none (hs : c.session? g = none) (f : Link → Effects × Link) :
    c.onLink g f = c := by
  rw [onLink, hs]

/-- An operation that leaves a connection open or closed, and the client's state as it is, leaves
the outline alone. -/
theorem outline_onLink_of_keeps {f : Link → Effects × Link}
    (hf : ∀ l, (f l).2.conn.generation = l.conn.generation ∧
      (f l).2.conn.closed = l.conn.closed ∧ (f l).2.cell = l.cell) :
    (c.onLink g f).outline = c.outline := by
  cases hs : c.session? g with
  | none => rw [onLink_of_none hs]
  | some s =>
    obtain ⟨-, hclosed, hcell⟩ := hf ⟨s.conn, c.cell, c.listeners⟩
    have hsame : (fun h => if h = g then some s.conn.closed else c.outline.closed? h) =
        c.outline.closed? := by
      funext h
      split_ifs with hg
      · rw [hg, outline_closed?, hs]
        rfl
      · rfl
    -- The connection that is put back is as closed as the one that was found.
    rw [outline_onLink (fun l => (hf l).1) hs, hclosed, hcell, hsame]
    rfl

/-- An operation that leaves a connection open or closed leaves the outline alone. -/
theorem outline_onConn {f : Connection → Effects × Connection} (hf : Connection.Keeps f) :
    (c.onConn g f).outline = c.outline :=
  outline_onLink_of_keeps fun l => ⟨(hf l.conn).1, (hf l.conn).2, rfl⟩

/-- Closing a connection closes it in the outline. -/
@[simp] theorem outline_close (c : Client) (g : Nat) : (c.close g).outline = c.outline.close g := by
  cases hs : c.session? g with
  | none =>
    have hnone : c.outline.closed? g = none := by rw [outline_closed?, hs, Option.map_none]
    -- There is nothing to close, on either side.
    rw [close, onLink_of_none hs]
    refine Outline.ext ?_ rfl (funext fun h => ?_) rfl rfl rfl
    · simp [Outline.close, hnone]
    · by_cases hg : h = g <;> simp [Outline.close, hg, hnone]
  | some s =>
    have hsome : c.outline.closed? g = some s.conn.closed := by
      rw [outline_closed?, hs, Option.map_some]
    obtain ⟨-, hclosed, hcell⟩ := Link.close_spec ⟨s.conn, c.cell, c.listeners⟩
    rw [close, outline_onLink (fun l => (Link.close_spec l).1) hs, hclosed, hcell]
    refine Outline.ext ?_ rfl (funext fun h => ?_) rfl rfl rfl
    · show (if s.conn.closed then c.cell else c.cell.set s.conn.generation .disconnected) =
        if c.outline.closed? g = some false then c.cell.set g .disconnected else c.cell
      rw [generation_of_session? hs, hsome]
      cases s.conn.closed <;> rfl
    · by_cases hg : h = g <;> simp [Outline.close, hg, hsome]

@[simp] theorem outline_setState (c : Client) (g : Nat) (state : ConnectionState) :
    (c.setState g state).outline = c.outline.set g state :=
  rfl

/-- Moving a call moves it in the outline. -/
@[simp] theorem outline_setStage (c : Client) (n : Nat) (stage : Stage) :
    (c.setStage n stage).outline = c.outline.move n stage := by
  refine Outline.ext rfl rfl rfl rfl rfl (funext fun m => ?_)
  show (c.calls.modify n fun call => { call with stage })[m]?.map Call.stage =
    if m = n then (c.calls[m]?.map Call.stage).map fun _ => stage else c.calls[m]?.map Call.stage
  rw [List.getElem?_modify]
  cases c.calls[m]? <;> by_cases hm : n = m <;> simp [hm, eq_comm]

@[simp] theorem outline_setWatch (c : Client) (g : Nat) (watch : Watch) :
    (c.setWatch g watch).outline = c.outline :=
  outline_modifySession_of_conn fun _ => rfl

/-- The session lock does not show in the outline. -/
theorem outline_lockSession {c' : Client} {holder : Holder} (h : c.lockSession holder = some c') :
    c'.outline = c.outline := by
  unfold lockSession at h
  split_ifs at h
  rw [← Option.some.inj h]
  rfl

@[simp] theorem outline_unlockSession (c : Client) (holder : Holder) :
    (c.unlockSession holder).outline = c.outline := by
  unfold unlockSession
  split_ifs <;> rfl

/-- Only the call that has the connect lock can give it up. -/
@[simp] theorem outline_unlockConnect (c : Client) (n : Nat) :
    (c.unlockConnect n).outline =
      { c.outline with
        connectLock := if c.connectLock = some n then none else c.connectLock } := by
  unfold unlockConnect
  split_ifs <;> rfl

/-- A call that gives up its locks and moves on leaves in the outline. -/
@[simp] theorem outline_unlock_setStage (c : Client) (n : Nat) (stage : Stage) :
    ((c.unlock n).setStage n stage).outline = c.outline.leave n stage := by
  have hunlock : (c.unlock n).outline =
      { c.outline with
        connectLock := if c.connectLock = some n then none else c.connectLock } := by
    rw [unlock, outline_unlockConnect, outline_unlockSession]
    unfold unlockSession
    split_ifs <;> rfl
  rw [outline_setStage, hunlock]
  rfl

@[simp] theorem outline_finish (c : Client) (n : Nat) (answer : Answer) :
    (c.finish n answer).outline = c.outline.leave n (.finished answer) :=
  outline_unlock_setStage c n _

/-- Starting a connection check leaves the outline alone. -/
@[simp] theorem outline_startWatch (c : Client) (g : Nat) :
    (c.startWatch g).outline = c.outline := by
  unfold startWatch
  split
  · rename_i s _ hs
    -- Claiming the watch puts back the connection that was found, marked as watched.
    have hclaim : (c.modifySession g fun s' => { s' with conn := s.conn.claimWatch.2 }).outline =
        c.outline := by
      have hgeneration : s.conn.claimWatch.2.generation = g := generation_of_session? hs
      refine outline_modifySession (fun _ _ => hgeneration) fun s' hs' => ?_
      rw [← Option.some.inj (hs.symm.trans hs')]
      rfl
    dsimp only
    split_ifs
    · rw [outline_setWatch, outline_onConn Connection.keeps_track]
      exact hclaim
    · rw [outline_setWatch, outline_onConn Connection.keeps_track]
      exact hclaim
    · exact hclaim
  · rfl

variable {packets : List Packet} {bytes : Bytes} {outcome : WriteOutcome}

/-- A write that succeeds leaves the outline alone. -/
theorem outline_put_of_none (h : (c.put g packets bytes outcome).2 = none) :
    (c.put g packets bytes outcome).1.outline = c.outline := by
  cases outcome with
  | written => exact outline_modifySession_of_conn fun _ => rfl
  | broken count => cases h
  | timedOut count => cases h

/-- A write that fails closes the connection. -/
theorem outline_put_of_some {e : Error} (h : (c.put g packets bytes outcome).2 = some e) :
    (c.put g packets bytes outcome).1.outline = c.outline.close g := by
  have hpart (count : Nat) : ((c.modifySession g fun s =>
      { s with written := s.written ++ bytes.take count }).close g).outline =
      c.outline.close g := by
    rw [outline_close]
    refine congrArg (·.close g) (outline_modifySession_of_conn ?_)
    exact fun _ => rfl
  cases outcome with
  | written => cases h
  | broken count => exact hpart count
  | timedOut count => exact hpart count

end Client

end RemoteConsole
