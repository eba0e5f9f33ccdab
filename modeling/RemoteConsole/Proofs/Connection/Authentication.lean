import RemoteConsole.Proofs.Connection.Closing
import RemoteConsole.Proofs.Packet.Format
import RemoteConsole.Proofs.Packet.Layout

/-!
# Authentications and requests

A packet is either the verdict on an authentication or meant for the requests, and what it is
depends on its type alone. A verdict leaves the requests as they are and ends the authentication
that waits, if one does; everything else leaves the authentication as it is, and the preamble that
some servers send ahead of a verdict leaves the whole connection as it is.

The authentications of a connection are numbered as they begin. At any time those that have ended,
in the order in which they did, and the one that waits are all that were begun, each once
(`Connection.Numbered`).
-/

namespace RemoteConsole

namespace Packet

/-- What a packet says of a password, if it is a verdict: whether it was accepted. -/
def verdict? (p : Packet) : Option Bool :=
  if p.type = .authResponse then some (p.id != authFailedId) else none

/-- The type of a packet that was received is the one that its number on the wire stands for. -/
theorem type_of_decode {bytes : Bytes} {e : Encoding} {p : Packet} (h : decode bytes e = .ok p) :
    p.type = .ofWire p.type.toWire := by
  unfold decode at h
  dsimp only at h
  split_ifs at h
  obtain rfl := Except.ok.inj h
  exact congrArg PacketType.ofWire (PacketType.toWire_ofWire _).symm

end Packet

namespace Connection

variable {c : Connection} {p : Packet}

/-- A verdict ends the authentication that waits, and does nothing else. -/
theorem dispatch_of_verdict {accepted : Bool} (h : p.verdict? = some accepted) :
    c.dispatch p = c.resolveAuth accepted := by
  unfold Packet.verdict? at h
  split_ifs at h with htype
  obtain rfl := Option.some.inj h
  exact if_pos htype

/-- A preamble does nothing while an authentication waits. -/
theorem dispatch_of_preamble (type : p.type = .response) (id : p.id = Packet.authId)
    (body : p.body = "") (waits : c.auth.isSome = true) : c.dispatch p = ({}, c) := by
  have hother : p.type ≠ .authResponse := by
    rw [type]
    decide
  unfold dispatch
  rw [if_neg hother, if_pos ⟨type, id, body, waits⟩]

/-- What is no verdict concerns no authentication. -/
theorem dispatch_of_other (h : p.verdict? = none) :
    (c.dispatch p).1.verdicts = [] ∧ (c.dispatch p).2.auth = c.auth ∧
      (c.dispatch p).2.attempts = c.attempts := by
  unfold Packet.verdict? at h
  unfold dispatch
  split_ifs at h ⊢ with htype
  · exact ⟨rfl, rfl, rfl⟩
  · exact ⟨rfl, rfl, rfl⟩

/-- The authentications that have ended and the one that waits are those that were begun. -/
def Numbered (c : Connection) (ended : List Nat) : Prop :=
  ended ++ c.auth.toList = List.range c.attempts

/-- The one that waits was begun last, and has not ended. -/
theorem Numbered.last {ended : List Nat} (numbered : c.Numbered ended) {attempt : Nat}
    (waits : c.auth = some attempt) : c.attempts = attempt + 1 ∧ attempt ∉ ended := by
  rw [Numbered, waits, Option.toList_some] at numbered
  have hlength := congrArg List.length numbered
  rw [List.length_append, List.length_singleton, List.length_range] at hlength
  rw [← hlength, List.range_succ] at numbered
  obtain ⟨hended, hattempt⟩ := List.append_inj numbered (by rw [List.length_range])
  have hattempt : attempt = ended.length := List.singleton_inj.mp hattempt
  refine ⟨by rw [hattempt, hlength], fun hmem => ?_⟩
  rw [hended, List.mem_range] at hmem
  omega

/-- The one that waits is the one that ends. -/
theorem mem_verdict {v : Verdict} {accepted : Option Bool} :
    v ∈ c.verdict accepted ↔ c.auth = some v.attempt ∧ v.accepted = accepted := by
  rw [verdict, List.mem_map]
  constructor
  · rintro ⟨attempt, hattempt, rfl⟩
    exact ⟨Option.mem_toList.mp hattempt, rfl⟩
  · rintro ⟨hattempt, rfl⟩
    exact ⟨v.attempt, Option.mem_toList.mpr hattempt, rfl⟩

end Connection

namespace Link

open Connection (Numbered)

variable {l : Link} {ended : List Nat}

/-- The packet that an operation routes, if it routes one. -/
def Op.routed? (e : Encoding) : Op → Option Packet
  | .frame bytes => (Packet.decode bytes e).toOption
  | .packet p => some p
  | _ => none

/-- How an operation ends the authentication that waits, unless it leaves it waiting: with the
verdict of a packet, or without one where another begins, where it is dropped, and where the
connection closes. -/
def authEnd? (l : Link) (op : Op) : Option (Option Bool) :=
  match op with
  | .beginAuth | .cancelAuth => some none
  | .close => if l.conn.closed then none else some none
  | _ => ((op.routed? l.conn.routing.encoding).bind Packet.verdict?).map some

/-! ## Frames -/

/-- A frame that holds a verdict ends the authentication that waits. But for the listeners, which
are shown the packet, it does nothing else. -/
theorem frameReceived_of_verdict {bytes : Bytes} {p : Packet} {accepted : Bool}
    (hdecode : Packet.decode bytes l.conn.routing.encoding = .ok p)
    (h : p.verdict? = some accepted) :
    l.frameReceived bytes =
      ({ verdicts := l.conn.verdict (some accepted), heard := (l.listeners.packetReceived p).1 },
        { l with
          conn := { l.conn with auth := none }
          listeners := (l.listeners.packetReceived p).2 }) := by
  rw [frameReceived, hdecode]
  dsimp only [packetReceived]
  rw [Connection.dispatch_of_verdict h, Connection.resolveAuth]
  simp only [Effects.mk_append_mk, List.append_nil, List.nil_append]

/-- A preamble is shown to the listeners, and does nothing else while an authentication waits. -/
theorem frameReceived_of_preamble {bytes : Bytes} {p : Packet}
    (hdecode : Packet.decode bytes l.conn.routing.encoding = .ok p) (type : p.type = .response)
    (id : p.id = Packet.authId) (body : p.body = "") (waits : l.conn.auth.isSome = true) :
    l.frameReceived bytes =
      ({ heard := (l.listeners.packetReceived p).1 },
        { l with listeners := (l.listeners.packetReceived p).2 }) := by
  rw [frameReceived, hdecode]
  dsimp only [packetReceived]
  rw [Connection.dispatch_of_preamble type id body waits]
  simp only [Effects.mk_append_mk, List.append_nil]

/-- A packet that is no verdict concerns no authentication. -/
theorem packetReceived_of_other {p : Packet} (h : p.verdict? = none) :
    (l.packetReceived p).1.verdicts = [] ∧ (l.packetReceived p).2.conn.auth = l.conn.auth ∧
      (l.packetReceived p).2.conn.attempts = l.conn.attempts :=
  Connection.dispatch_of_other h

/-! ## Operations -/

/-- What an operation does to the authentications of a connection. -/
structure Settles (l : Link) (op : Op) (e : Effects) (l' : Link) : Prop where
  /-- If one waits that the operation ends, it ends as the operation says. -/
  verdicts : e.verdicts = (l.authEnd? op).elim [] l.conn.verdict
  /-- It waits no longer then, unless another has begun in its place. -/
  auth : l'.conn.auth =
    if op = .beginAuth then some l.conn.attempts
    else if (l.authEnd? op).isSome then none else l.conn.auth
  /-- They are numbered as they begin. -/
  attempts : l'.conn.attempts = l.conn.attempts + [op].count .beginAuth

/-- An operation that routes a packet ends the authentication that waits if it routes a verdict. -/
theorem settles_of_routed {op : Op} {p : Packet} {e : Effects} {l' : Link}
    (hend : l.authEnd? op = p.verdict?.map some) (hother : op ≠ .beginAuth)
    (hverdicts : e.verdicts = (l.conn.dispatch p).1.verdicts)
    (hconn : l'.conn = (l.conn.dispatch p).2) : Settles l op e l' := by
  have hcount : [op].count .beginAuth = 0 :=
    List.count_eq_zero_of_not_mem fun h => hother (List.mem_singleton.mp h).symm
  cases hverdict : p.verdict? with
  | some accepted =>
    rw [hverdict] at hend
    have hdispatch := Connection.dispatch_of_verdict (c := l.conn) hverdict
    rw [hdispatch] at hverdicts hconn
    refine ⟨?_, ?_, ?_⟩
    · rw [hend]
      exact hverdicts
    · rw [hend, if_neg hother]
      exact congrArg Connection.auth hconn
    · rw [hcount, hconn]
      rfl
  | none =>
    rw [hverdict] at hend
    obtain ⟨hnone, hauth, hattempts⟩ := Connection.dispatch_of_other (c := l.conn) hverdict
    refine ⟨?_, ?_, ?_⟩
    · rw [hend, hverdicts, hnone]
      rfl
    · rw [hend, if_neg hother, hconn, hauth]
      rfl
    · rw [hcount, hconn, hattempts, Nat.add_zero]

/-- An operation that leaves the authentications alone. -/
theorem settles_of_same {op : Op} {e : Effects} {l' : Link} (hend : l.authEnd? op = none)
    (hother : op ≠ .beginAuth) (hverdicts : e.verdicts = []) (hauth : l'.conn.auth = l.conn.auth)
    (hattempts : l'.conn.attempts = l.conn.attempts) : Settles l op e l' := by
  have hcount : [op].count .beginAuth = 0 :=
    List.count_eq_zero_of_not_mem fun h => hother (List.mem_singleton.mp h).symm
  refine ⟨?_, ?_, ?_⟩
  · rw [hend, hverdicts]
    rfl
  · rw [hend, if_neg hother, hauth]
    rfl
  · rw [hcount, hattempts, Nat.add_zero]

/-- What every operation does to the authentications of a connection. -/
theorem settles_apply (l : Link) (op : Op) :
    Settles l op (l.apply op).2.1 (l.apply op).2.2 := by
  cases op with
  | beginAuth | cancelAuth => exact ⟨rfl, rfl, rfl⟩
  | frame bytes =>
    change Settles l (.frame bytes) (l.frameReceived bytes).1 (l.frameReceived bytes).2
    unfold frameReceived
    cases hdecode : Packet.decode bytes l.conn.routing.encoding with
    | ok p =>
      have hend : l.authEnd? (.frame bytes) = p.verdict?.map some := by
        change ((Packet.decode bytes l.conn.routing.encoding).toOption.bind _).map _ = _
        rw [hdecode]
        rfl
      exact settles_of_routed hend (fun h => by cases h) rfl rfl
    | error e =>
      have hend : l.authEnd? (.frame bytes) = none := by
        change ((Packet.decode bytes l.conn.routing.encoding).toOption.bind _).map _ = _
        rw [hdecode]
        rfl
      exact settles_of_same hend (fun h => by cases h) rfl rfl rfl
  | packet p => exact settles_of_routed rfl (fun h => by cases h) rfl rfl
  | close =>
    change Settles l .close l.close.1 l.close.2
    cases hclosed : l.conn.closed with
    | true =>
      rw [close_of_closed hclosed]
      exact settles_of_same (if_pos hclosed) (fun h => by cases h) rfl rfl rfl
    | false =>
      have hend : l.authEnd? .close = some none := if_neg (by simp [hclosed])
      rw [close_of_open hclosed]
      refine ⟨?_, ?_, rfl⟩
      · rw [hend]
        rfl
      · rw [hend]
        rfl
  | register | remove | claimWatch | track | state =>
    exact settles_of_same rfl (fun h => by cases h) rfl rfl rfl

theorem verdicts_single (l : Link) (op : Op) :
    (l.effects [op]).verdicts = (l.apply op).2.1.verdicts :=
  List.append_nil _

theorem verdicts_pair (l : Link) (op op' : Op) :
    (l.effects [op, op']).verdicts =
      (l.apply op).2.1.verdicts ++ ((l.apply op).2.2.apply op').2.1.verdicts :=
  congrArg _ (List.append_nil _)

/-- One more operation. -/
theorem numbered_apply (numbered : l.conn.Numbered ended) (op : Op) :
    (l.apply op).2.2.conn.Numbered (ended ++ (l.apply op).2.1.verdicts.map Verdict.attempt) := by
  obtain ⟨hverdicts, hauth, hattempts⟩ := settles_apply l op
  have hwaited (accepted : Option Bool) :
      (l.conn.verdict accepted).map Verdict.attempt = l.conn.auth.toList := by
    rw [Connection.verdict, List.map_map]
    exact List.map_id _
  unfold Numbered at numbered ⊢
  rw [hverdicts, hauth, hattempts]
  split_ifs with hbegin hend
  · -- The one that waited ends, and the next number waits.
    subst hbegin
    change ended ++ (l.conn.verdict none).map Verdict.attempt ++ [l.conn.attempts] =
      List.range (l.conn.attempts + 1)
    rw [hwaited, numbered, List.range_succ]
  · -- The one that waited ends.
    obtain ⟨accepted, haccepted⟩ := Option.isSome_iff_exists.mp hend
    have hcount : [op].count .beginAuth = 0 :=
      List.count_eq_zero_of_not_mem fun h => hbegin (List.mem_singleton.mp h).symm
    rw [haccepted, hcount, Option.elim_some, hwaited, numbered]
    exact List.append_nil _
  · have hcount : [op].count .beginAuth = 0 :=
      List.count_eq_zero_of_not_mem fun h => hbegin (List.mem_singleton.mp h).symm
    rw [Option.not_isSome_iff_eq_none.mp hend, hcount, Option.elim_none, List.map_nil,
      List.append_nil, numbered]
    rfl

/-- So every number is accounted for once, whatever happens. -/
theorem numbered_after (numbered : l.conn.Numbered ended) (ops : List Op) :
    (l.after ops).conn.Numbered (ended ++ (l.effects ops).verdicts.map Verdict.attempt) := by
  induction ops generalizing l ended with
  | nil =>
    rw [show (l.effects []).verdicts = [] from rfl, List.map_nil, List.append_nil]
    exact numbered
  | cons op ops ih =>
    have hverdicts : (l.effects (op :: ops)).verdicts =
        (l.apply op).2.1.verdicts ++ ((l.apply op).2.2.effects ops).verdicts := rfl
    rw [hverdicts, List.map_append, ← List.append_assoc]
    exact ih (numbered_apply numbered op)

theorem attempts_after (l : Link) (ops : List Op) :
    (l.after ops).conn.attempts = l.conn.attempts + ops.count .beginAuth := by
  induction ops generalizing l with
  | nil => rfl
  | cons op ops ih =>
    have hcount : (op :: ops).count .beginAuth = [op].count .beginAuth + ops.count .beginAuth := by
      rw [← List.count_append, List.singleton_append]
    rw [after, ih, (settles_apply l op).attempts, hcount, Nat.add_assoc]

/-- An operation ends one authentication at most. -/
theorem length_verdicts_le (l : Link) (op : Op) : (l.apply op).2.1.verdicts.length ≤ 1 := by
  rw [(settles_apply l op).verdicts]
  cases l.authEnd? op with
  | none => exact Nat.zero_le _
  | some accepted =>
    rw [Option.elim_some, Connection.verdict, List.length_map]
    cases l.conn.auth <;> simp

/-- Whatever has happened to a connection, a frame whose type is 2 on the wire leaves its requests as
they are and gives the authentication that waits, if one does, its verdict. A frame of another type
leaves the authentication as it is. One that is a preamble leaves everything but the listeners as it
is while an authentication waits, and one that is no packet leaves everything as it is.

Every operation ends one authentication at most, in the way that `authEnd?` says: by the verdict of
a packet, or without one where another begins, where it is dropped, and where the connection closes.
Each that was begun has ended once by then, or is the one that waits. -/
theorem authentication_apart (generation : Nat) (routing : Routing) (cell : StateCell)
    (listeners : Registry) (ops : List Op) :
    let made := start generation routing cell listeners
    let l := made.after ops
    (∀ bytes p, Packet.decode bytes routing.encoding = .ok p →
      let shown := l.listeners.packetReceived p
      (p.type.toWire = 2 → l.frameReceived bytes =
        ({ verdicts := l.conn.verdict (some (p.id != Packet.authFailedId)), heard := shown.1 },
          { l with conn := { l.conn with auth := none }, listeners := shown.2 })) ∧
      (p.type.toWire ≠ 2 → (l.frameReceived bytes).1.verdicts = [] ∧
        (l.frameReceived bytes).2.conn.auth = l.conn.auth) ∧
      (p.type.toWire = 0 → p.id = 0 → p.body = "" → l.conn.auth.isSome = true →
        l.frameReceived bytes = ({ heard := shown.1 }, { l with listeners := shown.2 }))) ∧
    (∀ bytes e, Packet.decode bytes routing.encoding = .error e →
      l.frameReceived bytes = ({}, l)) ∧
    (∀ op, (l.apply op).2.1.verdicts = (l.authEnd? op).elim [] l.conn.verdict ∧
      (l.apply op).2.1.verdicts.length ≤ 1) ∧
    (made.effects ops).verdicts.map Verdict.attempt ++ l.conn.auth.toList =
      List.range (ops.count .beginAuth) := by
  intro made l
  have hrouting : l.conn.routing = routing := routing_after made ops
  refine ⟨fun bytes p hdecode => ?_, fun bytes e hdecode => ?_, fun op => ?_, ?_⟩
  · have htype := Packet.type_of_decode hdecode
    rw [← hrouting] at hdecode
    refine ⟨fun hwire => ?_, fun hwire => ?_, fun hwire id body waits => ?_⟩
    · rw [hwire] at htype
      have htype : p.type = .authResponse := htype
      exact frameReceived_of_verdict hdecode (if_pos htype)
    · have hother : p.type ≠ .authResponse := fun h => hwire (congrArg PacketType.toWire h)
      obtain ⟨hnone, hauth, -⟩ := packetReceived_of_other (l := l) (if_neg hother)
      rw [frameReceived, hdecode]
      exact ⟨hnone, hauth⟩
    · rw [hwire] at htype
      have htype : p.type = .response := htype
      exact frameReceived_of_preamble hdecode htype id body waits
  · rw [frameReceived, hrouting, hdecode]
  · exact ⟨(settles_apply l op).verdicts, length_verdicts_le l op⟩
  · have hnone : made.conn.Numbered [] := rfl
    have hall := numbered_after hnone ops
    rw [Numbered, attempts_after, List.nil_append] at hall
    rw [hall]
    exact congrArg List.range (Nat.zero_add _)

/-- Half a response has arrived, and ids need not match. While an authentication waits, a preamble
is no more of the response, and the verdict is none. -/
theorem authentication_apart_pending :
    let l := (start 1 { strict := false } {} {}).after
      [.register 5 true, .frame (Packet.layout 5 .response [104, 105]), .beginAuth]
    l.conn.requests.pending = [⟨0, 5, true, "hi"⟩] ∧
      l.frameReceived (Packet.layout 0 .response []) = ({}, l) ∧
      l.frameReceived (Packet.layout (-1) .authResponse []) =
        ({ verdicts := [⟨0, some false⟩] }, { l with conn := { l.conn with auth := none } }) := by
  intro l
  obtain ⟨hframes, -⟩ := authentication_apart 1 { strict := false } {} {}
    [.register 5 true, .frame (Packet.layout 5 .response [104, 105]), .beginAuth]
  have hpreamble := (hframes (Packet.layout 0 .response []) ⟨0, .response, ""⟩ (by decide)).2.2
    rfl rfl rfl (by decide)
  have hverdict := (hframes (Packet.layout (-1) .authResponse []) ⟨-1, .authResponse, ""⟩
    (by decide)).1 rfl
  exact ⟨by decide, hpreamble, hverdict⟩

end Link

end RemoteConsole
