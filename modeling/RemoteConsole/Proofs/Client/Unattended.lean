import RemoteConsole.Proofs.Client.Transition
import RemoteConsole.Proofs.Connection.Authentication

/-!
# Clients that nobody listens to

A client without listeners tells nobody of anything, and stays without listeners (`Unattended`).
While it has no request pending either, a frame that arrives is only about the authentication that
waits: a verdict ends it, and nothing else matters.
-/

namespace RemoteConsole

/-- Where no request is pending, a body is for nobody. -/
theorem RequestTable.deliver_of_empty {t : RequestTable} (h : t = {}) (id : Int32) (body : String)
    (strict : Bool) (terminator : Terminator) :
    ∃ delivery, t.deliver id body strict terminator = (delivery, t, none) := by
  subst h
  have hroute : ({} : RequestTable).route id strict = (none, {}) := by
    unfold route
    split_ifs with hcontains
    · cases hcontains
    · rfl
    · rfl
  rw [deliver, hroute]
  split_ifs
  · exact ⟨_, rfl⟩
  · exact ⟨_, rfl⟩

/-- Where no request is pending, nothing but a verdict changes a connection. -/
theorem Connection.dispatch_of_idle {c : Connection} (requests : c.requests = {}) {p : Packet}
    (h : p.verdict? = none) : c.dispatch p = ({}, c) := by
  have hother : p.type ≠ .authResponse := fun htype => by
    rw [Packet.verdict?, if_pos htype] at h
    cases h
  obtain ⟨delivery, hdeliver⟩ := RequestTable.deliver_of_empty requests p.id p.body c.routing.strict
    c.routing.terminator
  rw [dispatch, if_neg hother, hdeliver]
  split_ifs <;> rfl

namespace Registry

/-- Where nobody listens, nobody is told of a packet. -/
theorem packetReceived_of_none (p : Packet) : ({} : Registry).packetReceived p = ([], {}) := by
  unfold packetReceived
  split_ifs <;> rfl

end Registry

/-- What a frame says of a password, if it holds a verdict. -/
def Packet.verdictIn? (e : Encoding) (bytes : Bytes) : Option Bool :=
  (decode bytes e).toOption.bind verdict?

namespace Link

variable {l : Link} {bytes : Bytes}

/-- Where nobody listens, a verdict ends the authentication that waits, and does nothing else. -/
theorem frameReceived_of_verdictIn (listeners : l.listeners = {}) {accepted : Bool}
    (h : Packet.verdictIn? l.conn.routing.encoding bytes = some accepted) :
    l.frameReceived bytes = ({ verdicts := l.conn.verdict (some accepted) },
      { l with conn := { l.conn with auth := none } }) := by
  rw [Packet.verdictIn?] at h
  cases hdecode : Packet.decode bytes l.conn.routing.encoding with
  | error e =>
    rw [hdecode] at h
    cases h
  | ok p =>
    rw [hdecode] at h
    rw [frameReceived_of_verdict hdecode h, listeners, Registry.packetReceived_of_none]

/-- Where nobody listens and no request is pending, nothing else that is received matters. -/
theorem frameReceived_of_idle (requests : l.conn.requests = {}) (listeners : l.listeners = {})
    (h : Packet.verdictIn? l.conn.routing.encoding bytes = none) :
    l.frameReceived bytes = ({}, l) := by
  obtain ⟨conn, cell, registry⟩ := l
  obtain rfl : registry = {} := listeners
  rw [Packet.verdictIn?] at h
  rw [frameReceived]
  cases hdecode : Packet.decode bytes conn.routing.encoding with
  | error e => rfl
  | ok p =>
    rw [hdecode] at h
    dsimp only [packetReceived]
    rw [Registry.packetReceived_of_none, Connection.dispatch_of_idle requests h]
    rfl

/-- Where nobody listens, nobody hears of an operation, and nobody starts to listen. -/
theorem unattended_apply (h : l.listeners = {}) (op : Op) :
    (l.apply op).2.1.heard = [] ∧ (l.apply op).2.2.listeners = {} := by
  obtain ⟨conn, cell, registry⟩ := l
  obtain rfl : registry = {} := h
  cases op with
  | frame bytes =>
    change (frameReceived _ bytes).1.heard = [] ∧ (frameReceived _ bytes).2.listeners = {}
    rw [frameReceived]
    split
    · rename_i p _
      dsimp only [packetReceived]
      rw [Registry.packetReceived_of_none]
      exact ⟨(Connection.routes_dispatch p conn).2.1, rfl⟩
    · exact ⟨rfl, rfl⟩
  | packet p => exact ⟨(Connection.routes_dispatch p conn).2.1, rfl⟩
  | close =>
    change (close _).1.heard = [] ∧ (close _).2.listeners = {}
    rw [close]
    split_ifs
    · exact ⟨rfl, rfl⟩
    · exact ⟨rfl, rfl⟩
  | _ => exact ⟨rfl, rfl⟩

theorem unattended_after (h : l.listeners = {}) (ops : List Op) :
    (l.effects ops).heard = [] ∧ (l.after ops).listeners = {} := by
  induction ops generalizing l with
  | nil => exact ⟨rfl, h⟩
  | cons op ops ih =>
    obtain ⟨hheard, hlisteners⟩ := unattended_apply h op
    obtain ⟨hrest, hafter⟩ := ih hlisteners
    refine ⟨?_, hafter⟩
    rw [effects_cons]
    change (l.apply op).2.1.heard ++ _ = []
    rw [hheard, hrest]
    rfl

end Link

namespace Client

variable {c c' : Client} {action : Action} {g : Nat}

/-- Nobody listens, and nobody has heard of anything. -/
structure Unattended (c : Client) : Prop where
  /-- Nobody listens. -/
  listeners : c.listeners = {}
  /-- Nobody has heard of anything. -/
  heard : c.heard = []

theorem Unattended.deals {ops : List Link.Op} (unattended : Unattended c)
    (deals : Deals g ops c c') : Unattended c' := by
  cases hs : c.session? g with
  | none =>
    obtain ⟨-, hlisteners, hheard⟩ := deals.absent hs
    exact ⟨hlisteners.trans unattended.listeners, hheard.trans unattended.heard⟩
  | some s =>
    obtain ⟨s', -, haccount⟩ := deals.exists_session hs
    obtain ⟨hnone, hlisteners⟩ :=
      Link.unattended_after (l := (c.account s).link) unattended.listeners ops
    have hheard : c'.heard = c.heard ++ ((c.account s).link.effects ops).heard :=
      congrArg (·.heard) haccount
    refine ⟨(congrArg (·.link.listeners) haccount).trans hlisteners, ?_⟩
    rw [hheard, hnone, unattended.heard]
    rfl

/-- No step changes that. -/
theorem Unattended.step (unattended : Unattended c) (h : c.step action = some c') :
    Unattended c' := by
  cases transition_of_step h with
  | dealt _ _ _ deals | asked _ _ _ deals => exact unattended.deals deals
  | attempted _ _ _ listeners heard | made _ _ _ _ listeners heard =>
    exact ⟨listeners.trans unattended.listeners, heard.trans unattended.heard⟩

end Client

end RemoteConsole
