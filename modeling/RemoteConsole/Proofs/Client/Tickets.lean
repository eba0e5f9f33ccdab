import RemoteConsole.Proofs.Client.Dealings

/-!
# What the calls wait with

A call that writes a request or an authentication, or waits for the answer to it, has a ticket: the
number under which its connection will say how that ended. Calls have stages of their own, which
no operation on a connection and no lock touches.
-/

namespace RemoteConsole

/-- The number of what a call waits for on its connection. -/
inductive Ticket where
  /-- The slot of a request. -/
  | request (slot : Nat)
  /-- The number of an authentication. -/
  | authentication (attempt : Nat)

/-- The ticket of a call at a stage, and the generation of the connection that it is for. -/
def Stage.ticket? : Stage → Option (Nat × Ticket)
  | writingAuth g attempt _ _ | awaitVerdict g attempt => some (g, .authentication attempt)
  | writingCommand g _ slot _ _ | awaitResponse g _ slot => some (g, .request slot)
  | _ => none

/-- Whether a call at a stage writes on the connection of a generation. -/
def Stage.writesOn (g : Nat) : Stage → Bool
  | writingAuth h _ _ _ | writingCommand h _ _ _ _ => h == g
  | _ => false

/-- A call without a ticket does not write. -/
theorem Stage.writesOn_of_ticket?_eq_none {stage : Stage} (h : stage.ticket? = none) (g : Nat) :
    stage.writesOn g = false := by
  cases stage with
  | writingAuth _ _ _ _ | writingCommand _ _ _ _ _ => cases h
  | _ => rfl

/-- A connection has given out a ticket. -/
def Connection.HasIssued (conn : Connection) : Ticket → Prop
  | .request slot => slot < conn.requests.issued
  | .authentication attempt => attempt < conn.attempts

namespace Client

variable {c c' : Client} {n g : Nat}

/-- The call that takes a step. -/
def Action.call? : Action → Option Nat
  | .advance n | .dial n _ | .write n _ | .expire n | .abandon n _ => some n
  | _ => none

/-- The connection of a generation has given out a ticket. -/
def HasIssued (c : Client) (g : Nat) (ticket : Ticket) : Prop :=
  ∃ s, c.session? g = some s ∧ s.conn.HasIssued ticket

-- No operation but `setStage` moves a call.

@[simp] theorem calls_onLink (c : Client) (g : Nat) (f : Link → Effects × Link) :
    (c.onLink g f).calls = c.calls := by
  unfold onLink
  split <;> rfl

@[simp] theorem calls_onConn (c : Client) (g : Nat) (f : Connection → Effects × Connection) :
    (c.onConn g f).calls = c.calls :=
  calls_onLink ..

@[simp] theorem calls_close (c : Client) (g : Nat) : (c.close g).calls = c.calls :=
  calls_onLink ..

@[simp] theorem calls_modifySession (c : Client) (g : Nat) (f : Session → Session) :
    (c.modifySession g f).calls = c.calls :=
  rfl

@[simp] theorem calls_setState (c : Client) (g : Nat) (state : ConnectionState) :
    (c.setState g state).calls = c.calls :=
  rfl

@[simp] theorem calls_setWatch (c : Client) (g : Nat) (watch : Watch) :
    (c.setWatch g watch).calls = c.calls :=
  rfl

theorem calls_lockSession {holder : Holder} (h : c.lockSession holder = some c') :
    c'.calls = c.calls := by
  unfold lockSession at h
  split_ifs at h
  rw [← Option.some.inj h]

@[simp] theorem calls_unlockSession (c : Client) (holder : Holder) :
    (c.unlockSession holder).calls = c.calls := by
  unfold unlockSession
  split_ifs <;> rfl

@[simp] theorem calls_unlock (c : Client) (n : Nat) : (c.unlock n).calls = c.calls := by
  have hconnect (d : Client) : (d.unlockConnect n).calls = d.calls := by
    unfold unlockConnect
    split_ifs <;> rfl
  rw [unlock, hconnect, calls_unlockSession]

@[simp] theorem calls_startWatch (c : Client) (g : Nat) : (c.startWatch g).calls = c.calls := by
  unfold startWatch
  split
  · dsimp only
    split_ifs
    · rw [calls_setWatch, calls_onConn, calls_modifySession]
    · rw [calls_setWatch, calls_onConn, calls_modifySession]
    · rfl
  · rfl

@[simp] theorem calls_put (c : Client) (g : Nat) (packets : List Packet) (bytes : Bytes)
    (outcome : WriteOutcome) : (c.put g packets bytes outcome).1.calls = c.calls := by
  cases outcome with
  | written => rfl
  | broken count | timedOut count => exact calls_close ..

end Client

end RemoteConsole
