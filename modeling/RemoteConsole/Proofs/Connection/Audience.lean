import RemoteConsole.Proofs.Connection.Closing
import RemoteConsole.Proofs.Listener.Calls
import RemoteConsole.Proofs.Packet.Layout

/-!
# What listeners see of a connection

Listeners are shown every packet before it is routed, and are told when the connection closes. So
what they are called with depends on the frames that arrive and on when the connection is closed,
and on nothing that decides where packets go: not on the terminator, on strictness, or on what is
registered, awaited, tied or reported in between (`audience_apart`). A packet listener sees every
packet that can be read, wherever it is routed.

Operations come in two kinds (`Op.isShown`). Those that are not shown leave the audience of a
connection alone (`SameAudience`), and those that are do the same to every connection with the same
audience.
-/

namespace RemoteConsole.Link

open Registry (Extends)

/-- Whether listeners may be called when an operation is carried out. -/
def Op.isShown : Op → Bool
  | .frame _ | .close => true
  | _ => false

/-- The packet that an operation shows to listeners, if it shows one. -/
def Op.packet? (e : Encoding) : Op → Option Packet
  | .frame bytes => (Packet.decode bytes e).toOption
  | _ => none

/-- The calls of listeners when an operation is carried out. -/
def callsOf (l : Link) : Op → List Registry.Call
  | .frame bytes =>
    match Packet.decode bytes l.conn.routing.encoding with
    | .ok p => l.listeners.packetCalls p
    | .error _ => []
  | .close => if l.conn.closed then [] else l.listeners.calls .disconnected
  | _ => []

/-- The calls of listeners in a history. -/
def calls (l : Link) : List Op → List Registry.Call
  | [] => []
  | op :: ops => l.callsOf op ++ (l.apply op).2.2.calls ops

/-- Two connections have the same listeners, and agree in what decides what these are called
with. -/
structure SameAudience (l l' : Link) : Prop where
  encoding : l.conn.routing.encoding = l'.conn.routing.encoding
  listeners : l.listeners = l'.listeners
  closed : l.conn.closed = l'.conn.closed

variable {l l' l'' : Link} {op : Op} {ops ops' : List Op}

theorem SameAudience.trans (h : SameAudience l l') (h' : SameAudience l' l'') :
    SameAudience l l'' :=
  ⟨h.encoding.trans h'.encoding, h.listeners.trans h'.listeners, h.closed.trans h'.closed⟩

theorem SameAudience.symm (h : SameAudience l l') : SameAudience l' l :=
  ⟨h.encoding.symm, h.listeners.symm, h.closed.symm⟩

/-! ## The listeners after an operation -/

theorem frameReceived_of_decode {bytes : Bytes} {p : Packet}
    (h : Packet.decode bytes l.conn.routing.encoding = .ok p) :
    l.frameReceived bytes = l.packetReceived p := by
  rw [frameReceived, h]

theorem frameReceived_of_error {bytes : Bytes} {e : Error}
    (h : Packet.decode bytes l.conn.routing.encoding = .error e) :
    l.frameReceived bytes = ({}, l) := by
  rw [frameReceived, h]

/-- An operation that is not shown leaves the audience alone. -/
theorem sameAudience_of_hidden (l : Link) (hidden : op.isShown = false) :
    SameAudience (l.apply op).2.2 l := by
  have hclosed := (stays_apply l op fun hop => by
    rw [hop] at hidden
    cases hidden).closed
  have hlisteners : (l.apply op).2.2.listeners = l.listeners := by
    cases op with
    | frame _ | close => cases hidden
    | _ => rfl
  exact ⟨congrArg Routing.encoding (routing_apply l op), hlisteners, hclosed⟩

/-- An operation that is shown does the same to the audience of every connection that has it. -/
theorem SameAudience.apply (same : SameAudience l l') (shown : op.isShown = true) :
    SameAudience (l.apply op).2.2 (l'.apply op).2.2 := by
  have hencoding : (l.apply op).2.2.conn.routing.encoding =
      (l'.apply op).2.2.conn.routing.encoding := by
    rw [routing_apply, routing_apply, same.encoding]
  cases op with
  | frame bytes =>
    have hclosed := (stays_frameReceived l bytes).closed.trans
      (same.closed.trans (stays_frameReceived l' bytes).closed.symm)
    refine ⟨hencoding, ?_, hclosed⟩
    change (l.frameReceived bytes).2.listeners = (l'.frameReceived bytes).2.listeners
    cases hdecode : Packet.decode bytes l.conn.routing.encoding with
    | ok p =>
      rw [frameReceived_of_decode hdecode, frameReceived_of_decode (same.encoding ▸ hdecode)]
      exact congrArg (fun r : Registry => (r.packetReceived p).2) same.listeners
    | error e =>
      rw [frameReceived_of_error hdecode, frameReceived_of_error (same.encoding ▸ hdecode)]
      exact same.listeners
  | close =>
    have hboth : l.close.2.listeners = l'.close.2.listeners ∧
        l.close.2.conn.closed = l'.close.2.conn.closed := by
      cases hclosed : l.conn.closed with
      | true =>
        rw [close_of_closed hclosed, close_of_closed (same.closed ▸ hclosed)]
        exact ⟨same.listeners, same.closed⟩
      | false =>
        rw [close_of_open hclosed, close_of_open (same.closed ▸ hclosed), same.listeners]
        exact ⟨rfl, rfl⟩
    exact ⟨hencoding, hboth.1, hboth.2⟩
  | _ => cases shown

/-- No operation takes a listener away. -/
theorem extends_apply (l : Link) (op : Op) : Extends l.listeners (l.apply op).2.2.listeners := by
  cases op with
  | frame bytes =>
    change Extends l.listeners (l.frameReceived bytes).2.listeners
    unfold frameReceived
    split
    · exact Registry.extends_packetReceived _ _
    · exact .refl _
  | close =>
    change Extends l.listeners l.close.2.listeners
    cases hclosed : l.conn.closed with
    | true =>
      rw [close_of_closed hclosed]
      exact .refl _
    | false =>
      rw [close_of_open hclosed]
      exact Registry.extends_notify _ .disconnected
  | _ => exact .refl _

theorem extends_after (l : Link) (ops : List Op) :
    Extends l.listeners (l.after ops).listeners := by
  induction ops generalizing l with
  | nil => exact .refl _
  | cons op ops ih => exact (extends_apply l op).trans (ih _)

/-! ## The calls of a history -/

/-- What is heard when an operation is carried out is what the listeners that are called take note
of. -/
theorem heard_apply {r : Registry} (l : Link) (op : Op)
    (h : Extends (l.apply op).2.2.listeners r) :
    (l.apply op).2.1.heard = (l.callsOf op).flatMap r.notesOf := by
  cases op with
  | frame bytes =>
    change Extends (l.frameReceived bytes).2.listeners r at h
    change (l.frameReceived bytes).1.heard = _
    rw [callsOf]
    cases hdecode : Packet.decode bytes l.conn.routing.encoding with
    | ok p =>
      rw [frameReceived_of_decode hdecode] at h ⊢
      have hheard : (l.packetReceived p).1.heard =
          (l.listeners.packetReceived p).1 ++ (l.conn.dispatch p).1.heard := rfl
      rw [hheard, (Connection.routes_dispatch p l.conn).2.1, List.append_nil]
      exact Registry.packetReceived_eq_calls h
    | error e =>
      rw [frameReceived_of_error hdecode]
      rfl
  | close =>
    change Extends l.close.2.listeners r at h
    change l.close.1.heard = _
    rw [callsOf]
    cases hclosed : l.conn.closed with
    | true =>
      rw [close_of_closed hclosed]
      rfl
    | false =>
      rw [close_of_open hclosed] at h ⊢
      exact Registry.notify_eq_calls ((Registry.extends_notify _ .disconnected).trans h) _
  | packet p => exact (Connection.routes_dispatch p l.conn).2.1
  | _ => rfl

/-- What is heard in a history is what the listeners that are called take note of, call by call. -/
theorem heard_effects (l : Link) (ops : List Op) :
    (l.effects ops).heard = (l.calls ops).flatMap (l.after ops).listeners.notesOf := by
  induction ops generalizing l with
  | nil => rfl
  | cons op ops ih =>
    have hheard : (l.effects (op :: ops)).heard =
        (l.apply op).2.1.heard ++ ((l.apply op).2.2.effects ops).heard := rfl
    rw [hheard, heard_apply l op (extends_after _ ops), ih, calls, List.flatMap_append]
    rfl

/-- Connections with the same audience call the same listeners. -/
theorem SameAudience.callsOf (same : SameAudience l l') (op : Op) :
    l.callsOf op = l'.callsOf op := by
  cases op with
  | frame bytes => rw [Link.callsOf, Link.callsOf, same.encoding, same.listeners]
  | close => rw [Link.callsOf, Link.callsOf, same.closed, same.listeners]
  | _ => rfl

/-- An operation that is not shown calls nobody. -/
theorem callsOf_of_hidden (l : Link) (hidden : op.isShown = false) : l.callsOf op = [] := by
  cases op with
  | frame _ | close => cases hidden
  | _ => rfl

/-- What is not shown can be left out of a history. -/
theorem SameAudience.filter (same : SameAudience l l') (ops : List Op) :
    l.calls ops = l'.calls (ops.filter Op.isShown) ∧
      SameAudience (l.after ops) (l'.after (ops.filter Op.isShown)) := by
  induction ops generalizing l l' with
  | nil => exact ⟨rfl, same⟩
  | cons op ops ih =>
    cases hop : op.isShown with
    | true =>
      obtain ⟨hcalls, hafter⟩ := ih (same.apply hop)
      rw [List.filter_cons_of_pos hop, calls, calls, same.callsOf, hcalls]
      exact ⟨rfl, hafter⟩
    | false =>
      obtain ⟨hcalls, hafter⟩ := ih ((sameAudience_of_hidden l hop).trans same)
      rw [List.filter_cons_of_neg (by rw [hop]; exact Bool.false_ne_true), calls,
        callsOf_of_hidden l hop, hcalls]
      exact ⟨rfl, hafter⟩

/-- Histories with the same frames and closes call the same listeners of connections with the same
audience, and leave these the same. -/
theorem SameAudience.calls (same : SameAudience l l')
    (shown : ops.filter Op.isShown = ops'.filter Op.isShown) :
    l.calls ops = l'.calls ops' ∧ SameAudience (l.after ops) (l'.after ops') := by
  obtain ⟨hcalls, hafter⟩ := same.filter ops
  obtain ⟨hcalls', hafter'⟩ := (SameAudience.mk rfl rfl rfl : SameAudience l' l').filter ops'
  rw [hcalls, hcalls', shown]
  rw [shown] at hafter
  exact ⟨rfl, hafter.trans hafter'.symm⟩

/-- A packet listener is called once with every packet that an operation shows. -/
theorem filter_callsOf {place : Nat} (there : place < l.listeners.packets.length) (op : Op) :
    (l.callsOf op).filter (Registry.Call.isOf place) =
      (op.packet? l.conn.routing.encoding).toList.map (⟨place, .packet ·⟩) := by
  cases op with
  | frame bytes =>
    rw [callsOf, Op.packet?]
    cases Packet.decode bytes l.conn.routing.encoding with
    | ok p => exact Registry.filter_packetCalls there p
    | error e => rfl
  | close =>
    rw [callsOf]
    split
    · rfl
    · exact Registry.filter_calls_disconnected l.listeners place
  | _ => rfl

/-- In a history, it is called with the packets that can be read, in order, once with each. -/
theorem filter_calls {place : Nat} (there : place < l.listeners.packets.length) (ops : List Op) :
    (l.calls ops).filter (Registry.Call.isOf place) =
      (ops.filterMap (Op.packet? l.conn.routing.encoding)).map (⟨place, .packet ·⟩) := by
  induction ops generalizing l with
  | nil => rfl
  | cons op ops ih =>
    have there' : place < (l.apply op).2.2.listeners.packets.length :=
      Nat.lt_of_lt_of_le there (extends_apply l op .packet).length_le
    rw [calls, List.filter_append, filter_callsOf there, ih there', routing_apply]
    cases h : op.packet? l.conn.routing.encoding with
    | none => rw [List.filterMap_cons_none h]; rfl
    | some p => rw [List.filterMap_cons_some h]; rfl

/-- Two connections with the same encoding and the same listeners are given the same frames and are
closed at the same points between them. Whatever else is done on each, and however each routes its
packets, the listeners are called with the same, take the same notes, and register the same further
listeners. What is heard is what the listeners that are called take note of, and a packet listener
that was there from the start is called with every packet that can be read, once and in order. -/
theorem audience_apart (generation generation' : Nat) (routing routing' : Routing)
    (cell cell' : StateCell) (listeners : Registry) (ops ops' : List Op)
    (encoding : routing.encoding = routing'.encoding)
    (shown : ops.filter Op.isShown = ops'.filter Op.isShown) :
    let l := start generation routing cell listeners
    let l' := start generation' routing' cell' listeners
    l.calls ops = l'.calls ops' ∧ (l.effects ops).heard = (l'.effects ops').heard ∧
      (l.after ops).listeners = (l'.after ops').listeners ∧
      (l.effects ops).heard = (l.calls ops).flatMap (l.after ops).listeners.notesOf ∧
      ∀ place < listeners.packets.length, (l.calls ops).filter (Registry.Call.isOf place) =
        (ops.filterMap (Op.packet? routing.encoding)).map (⟨place, .packet ·⟩) := by
  intro l l'
  have same : SameAudience l l' := ⟨encoding, rfl, rfl⟩
  obtain ⟨hcalls, hafter⟩ := same.calls shown
  refine ⟨hcalls, ?_, hafter.listeners, heard_effects l ops, fun place there =>
    filter_calls (l := l) there ops⟩
  rw [heard_effects, heard_effects, hcalls, hafter.listeners]

/-- The preamble of a verdict, the verdict, a frame that is no packet, a packet that one connection
discards and the other has no request for, and the end: for a listener that registers another at
each packet, and one behind it. One connection authenticates and waits for a response, and the other
does nothing. -/
theorem audience_apart_idle :
    let listeners : Registry :=
      { packets :=
          [.ofReact fun _ => { registrations := [(.body, .noting "added")] }, .noting "seen"]
        disconnected := [.noting "ended"] }
    let preamble : Packet := ⟨0, .response, ""⟩
    let verdict : Packet := ⟨0, .authResponse, ""⟩
    let marker : Packet := ⟨7, .response, Terminator.trailer⟩
    let frames : List Op := [.frame (Packet.layout 0 .response []),
      .frame (Packet.layout 0 .authResponse []), .frame [1, 2],
      .frame (Packet.layout 7 .response [0, 1, 0, 0])]
    let busy := start 1 {} {} listeners
    let idle := start 2 { terminator := .body "end", strict := false } {} listeners
    let history := [.register 7 true, .beginAuth] ++ frames ++ [.remove 7, .close]
    let added : Heard := ⟨.body Terminator.trailer, ["added"]⟩
    let heard : List Heard := [⟨.packet preamble, []⟩, ⟨.packet preamble, ["seen"]⟩,
      ⟨.packet verdict, []⟩, ⟨.packet verdict, ["seen"]⟩, ⟨.packet marker, []⟩,
      ⟨.packet marker, ["seen"]⟩, added, added, added, ⟨.disconnected, ["ended"]⟩]
    (busy.calls history).filter (Registry.Call.isOf 1) =
        [⟨1, .packet preamble⟩, ⟨1, .packet verdict⟩, ⟨1, .packet marker⟩] ∧
      (busy.effects history).heard = heard ∧ (idle.effects (frames ++ [.close])).heard = heard := by
  intro listeners preamble verdict marker frames busy idle history added heard
  obtain ⟨-, hsame, -, -, hpackets⟩ := audience_apart 1 2 {}
    { terminator := .body "end", strict := false } {} {} listeners history (frames ++ [.close]) rfl
    rfl
  have hidle : (idle.effects (frames ++ [.close])).heard = heard := by decide
  refine ⟨?_, hsame.trans hidle, hidle⟩
  rw [hpackets 1 (by decide)]
  decide

end RemoteConsole.Link
