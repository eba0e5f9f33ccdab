import RemoteConsole.Proofs.Connection.Closing
import RemoteConsole.Proofs.Request.Ledger

/-!
# Who waits on a connection

Of the requests and authentications that a connection has given a number, each waits or has ended
(`Balanced`), whatever happens to the connection. Closing it ends those that wait. Nobody waits on
it from then on (`Connection.Rests`) unless something is asked on it after that, because registering
a request and beginning an authentication do not look whether the connection is closed.
-/

namespace RemoteConsole

namespace Link

/-- Whether an operation leaves somebody waiting for an answer. -/
def Op.asks : Op → Bool
  | .register .. | .beginAuth => true
  | _ => false

/-- Whether an operation neither asks anything, nor takes in anything, nor drops an authentication by
itself. -/
def Op.isPlain : Op → Bool
  | .remove _ | .close | .claimWatch | .track | .state _ => true
  | _ => false

theorem Op.asks_of_isPlain {op : Op} (h : op.isPlain = true) : op.asks = false := by
  cases op with
  | register | beginAuth => cases h
  | _ => rfl

/-- Operations that leave nobody waiting who did not wait before. -/
inductive Quiet : List Op → Prop where
  /-- Nothing is asked. -/
  | unasked {ops : List Op} (h : ∀ op ∈ ops, op.asks = false) : Quiet ops
  /-- A request is taken back at once. -/
  | request (id : Int32) (multi : Bool) : Quiet [.register id multi, .remove id]
  /-- An authentication is dropped at once. -/
  | authentication : Quiet [.beginAuth, .cancelAuth]

theorem Quiet.nil : Quiet [] :=
  .unasked fun _ hop => absurd hop List.not_mem_nil

/-- A single operation that asks nothing. -/
theorem Quiet.single {op : Op} (h : op.asks = false) : Quiet [op] :=
  .unasked fun op' hop' => by rwa [List.mem_singleton.mp hop']

/-- Two operations that ask nothing. -/
theorem Quiet.pair {op op' : Op} (h : op.asks = false) (h' : op'.asks = false) :
    Quiet [op, op'] :=
  .unasked (List.forall_mem_cons.mpr ⟨h, List.forall_mem_singleton.mpr h'⟩)

end Link

/-! ## Nobody waits on a closed connection -/

namespace Connection

variable {conn : Connection}

/-- Nobody waits on a connection if it is closed. -/
def Rests (conn : Connection) : Prop :=
  conn.closed = true → conn.requests.pending = [] ∧ conn.auth = none

/-- A body that arrives where no request is pending leaves none pending. -/
theorem pending_deliver {t : RequestTable} (h : t.pending = []) (id : Int32) (body : String)
    (strict : Bool) (terminator : Terminator) :
    (t.deliver id body strict terminator).2.1.pending = [] := by
  have hnone : t.target? id strict = none := by
    cases htarget : t.target? id strict with
    | none => rfl
    | some r =>
      have hmem := RequestTable.mem_of_find? (RequestTable.find?_of_target? htarget)
      rw [h] at hmem
      cases hmem
  rw [RequestTable.deliver_eq, hnone]
  split
  · exact h
  · rw [RequestTable.route_pending]
    exact h

/-- A packet that is routed leaves nobody waiting who did not wait before. -/
theorem Rests.dispatch (rests : Rests conn) (p : Packet) : Rests (conn.dispatch p).2 := by
  unfold Connection.dispatch
  split_ifs
  · exact fun hclosed => ⟨(rests hclosed).1, rfl⟩
  · exact rests
  · exact fun hclosed => ⟨pending_deliver (rests hclosed).1 .., (rests hclosed).2⟩

end Connection

namespace Link

open Connection (Rests)

variable {l : Link} {ops : List Op}

/-- An operation that asks nothing leaves nobody waiting on a closed connection, also the one that
closes it. -/
theorem rests_apply (rests : Rests l.conn) {op : Op} (quiet : op.asks = false) :
    Rests (l.apply op).2.2.conn := by
  cases op with
  | register | beginAuth => cases quiet
  | remove id =>
    intro hclosed
    obtain ⟨hpending, hauth⟩ := rests hclosed
    have hwithout : (l.conn.requests.remove id).1.pending = [] := by
      show l.conn.requests.pending.filter _ = []
      rw [hpending, List.filter_nil]
    exact ⟨hwithout, hauth⟩
  | cancelAuth => exact fun hclosed => ⟨(rests hclosed).1, rfl⟩
  | frame bytes =>
    change Rests (l.frameReceived bytes).2.conn
    unfold frameReceived
    split
    · exact rests.dispatch _
    · exact rests
  | packet p => exact rests.dispatch p
  | close =>
    change Rests l.close.2.conn
    cases hclosed : l.conn.closed with
    | true =>
      rw [close_of_closed hclosed]
      exact rests
    | false =>
      rw [close_of_open hclosed]
      exact fun _ => ⟨rfl, rfl⟩
  | claimWatch | track | state op => exact rests

/-- So do operations that leave nobody waiting who did not wait before. -/
theorem rests_after (rests : Rests l.conn) (quiet : Quiet ops) : Rests (l.after ops).conn := by
  cases quiet with
  | unasked h =>
    induction ops generalizing l with
    | nil => exact rests
    | cons op ops ih =>
      obtain ⟨hop, hops⟩ := List.forall_mem_cons.mp h
      exact ih (rests_apply rests hop) hops
  | request id multi =>
    intro hclosed
    obtain ⟨hpending, hauth⟩ := rests hclosed
    -- The request that was registered is the only one, and is taken back.
    have hwithout : ((l.conn.requests.register id multi).1.remove id).1.pending = [] := by
      simp [RequestTable.remove, RequestTable.register, RequestTable.without, hpending]
    exact ⟨hwithout, hauth⟩
  | authentication => exact fun hclosed => ⟨(rests hclosed).1, rfl⟩

/-- What is asked on a connection that is closed waits there. -/
theorem not_rests_of_asks (closed : l.conn.closed = true) {op : Op} (asks : op.asks = true) :
    ¬Rests (l.apply op).2.2.conn := by
  intro rests
  cases op with
  | register id multi =>
    have hpending : (l.conn.requests.register id multi).1.pending = [] := (rests closed).1
    simp [RequestTable.register] at hpending
  | beginAuth => cases (rests closed).2
  | _ => cases asks

end Link

/-! ## Every number is accounted for -/

/-- Every number that a connection has given out waits, or is among those that ended. What fails,
fails because the connection is closed. -/
structure Balanced (conn : Connection) (ended : List Settlement) (verdicts : List Verdict) :
    Prop where
  /-- The requests that ended are those of the history of the table. -/
  ledger : ∃ past, RequestTable.Ledger past conn.requests ∧ RequestTable.settlements past = ended
  /-- A request fails only because the connection is closed. -/
  failures : ∀ s ∈ ended, ∀ e, s.outcome = .failed e → e = .connectionClosed
  /-- Every authentication waits or has ended. -/
  attempts : ∀ attempt < conn.attempts,
    conn.auth = some attempt ∨ attempt ∈ verdicts.map Verdict.attempt

namespace Balanced

variable {conn : Connection} {ended : List Settlement} {verdicts : List Verdict}

/-- A connection that has just been made has given out no number. -/
theorem of_new (requests : conn.requests = {}) (attempts : conn.attempts = 0) :
    Balanced conn [] [] where
  ledger := ⟨[], by rw [requests]; exact .empty, rfl⟩
  failures := fun s hs => absurd hs List.not_mem_nil
  attempts := fun attempt h => by
    rw [attempts] at h
    exact absurd h (Nat.not_lt_zero _)

/-- Every request that was registered is pending or has ended. -/
theorem slot (balanced : Balanced conn ended verdicts) {slot : Nat}
    (h : slot < conn.requests.issued) :
    slot ∈ conn.requests.pending.map Request.slot ∨ slot ∈ ended.map Settlement.slot := by
  obtain ⟨past, hledger, hended⟩ := balanced.ledger
  have hmem := hledger.perm.mem_iff.mpr (List.mem_range.mpr h)
  rwa [List.mem_append, hended] at hmem

/-- One more operation on the requests. -/
theorem table (balanced : Balanced conn ended verdicts) (op : RequestTable.Op)
    (closing : ∀ e, op = .failAll e → e = .connectionClosed) :
    Balanced { conn with requests := (conn.requests.apply op).2.1 }
      (ended ++ (conn.requests.apply op).2.2) verdicts := by
  obtain ⟨past, hledger, hended⟩ := balanced.ledger
  refine ⟨⟨_, hledger.apply op, ?_⟩, fun s hs e he => ?_, balanced.attempts⟩
  · rw [RequestTable.settlements_append, hended]
    simp [RequestTable.settlements, RequestTable.step]
  · obtain hs | hs := List.mem_append.mp hs
    · exact balanced.failures s hs e he
    · have hends : RequestTable.Ends past op s := (hledger.ends hs).2
      cases hends with
      | replaced => exact (Outcome.failed.inj he).symm
      | failed => exact Outcome.failed.inj he ▸ closing _ rfl
      | removed | answered | completed => cases he

/-- The authentication that waits, if one does, ends. -/
theorem settle (balanced : Balanced conn ended verdicts) (accepted : Option Bool) :
    Balanced { conn with auth := none } ended (verdicts ++ conn.verdict accepted) := by
  refine ⟨balanced.ledger, balanced.failures, fun attempt h => .inr ?_⟩
  rw [List.map_append, List.mem_append]
  obtain hwaits | hended := balanced.attempts attempt h
  · refine .inr ?_
    rw [Connection.verdict, hwaits]
    exact List.mem_singleton.mpr rfl
  · exact .inl hended

/-- A new authentication begins, and another that may have waited ends. -/
theorem begin (balanced : Balanced conn ended verdicts) :
    Balanced conn.beginAuth.2 ended (verdicts ++ conn.verdict none) := by
  refine ⟨balanced.ledger, balanced.failures, fun attempt h => ?_⟩
  have hbegun : attempt < conn.attempts + 1 := h
  obtain hlt | rfl := Nat.lt_succ_iff_lt_or_eq.mp hbegun
  · refine .inr (((balanced.settle none).attempts attempt hlt).resolve_left ?_)
    exact fun hnone => by cases hnone
  · exact .inl rfl

/-- What concerns neither requests nor authentications. -/
theorem of_eq (balanced : Balanced conn ended verdicts) {conn' : Connection}
    (requests : conn'.requests = conn.requests) (auth : conn'.auth = conn.auth)
    (attempts : conn'.attempts = conn.attempts) : Balanced conn' ended verdicts where
  ledger := by
    rw [requests]
    exact balanced.ledger
  failures := balanced.failures
  attempts := by
    rw [auth, attempts]
    exact balanced.attempts

/-- A packet that is routed ends a request or an authentication at most. -/
theorem dispatch (balanced : Balanced conn ended verdicts) (p : Packet) :
    Balanced (conn.dispatch p).2 (ended ++ (conn.dispatch p).1.ended)
      (verdicts ++ (conn.dispatch p).1.verdicts) := by
  unfold Connection.dispatch
  split_ifs
  · have hsettle := balanced.settle (some (p.id != Packet.authFailedId))
    rw [show ended ++ (conn.resolveAuth (p.id != Packet.authFailedId)).1.ended = ended from
      List.append_nil _]
    exact hsettle
  · dsimp only
    rw [List.append_nil, List.append_nil]
    exact balanced
  · have htable := balanced.table
      (.deliver p.id p.body conn.routing.strict conn.routing.terminator)
      fun e he => by cases he
    dsimp only
    rw [List.append_nil]
    exact htable

/-- Every operation on a connection keeps its numbers accounted for. -/
theorem apply {l : Link} (balanced : Balanced l.conn ended verdicts) (op : Link.Op) :
    Balanced (l.apply op).2.2.conn (ended ++ (l.apply op).2.1.ended)
      (verdicts ++ (l.apply op).2.1.verdicts) := by
  have hsame : Balanced l.conn (ended ++ []) (verdicts ++ []) := by
    rw [List.append_nil, List.append_nil]
    exact balanced
  cases op with
  | register id multi =>
    have htable := balanced.table (.register id multi) fun e he => by cases he
    rw [← List.append_nil verdicts] at htable
    exact htable
  | remove id =>
    have htable := balanced.table (.remove id) fun e he => by cases he
    rw [← List.append_nil verdicts] at htable
    exact htable
  | beginAuth =>
    have hbegin := balanced.begin
    rw [← List.append_nil ended] at hbegin
    exact hbegin
  | cancelAuth =>
    have hsettle := balanced.settle none
    rw [← List.append_nil ended] at hsettle
    exact hsettle
  | frame bytes =>
    change Balanced (l.frameReceived bytes).2.conn (ended ++ (l.frameReceived bytes).1.ended)
      (verdicts ++ (l.frameReceived bytes).1.verdicts)
    unfold Link.frameReceived
    split
    · exact balanced.dispatch _
    · exact hsame
  | packet p => exact balanced.dispatch p
  | close =>
    change Balanced l.close.2.conn (ended ++ l.close.1.ended) (verdicts ++ l.close.1.verdicts)
    cases hclosed : l.conn.closed with
    | true =>
      rw [Link.close_of_closed hclosed]
      exact hsame
    | false =>
      rw [Link.close_of_open hclosed]
      -- The requests fail first, and then the authentication ends.
      have hfailed := balanced.table (.failAll .connectionClosed) fun e he =>
        (RequestTable.Op.failAll.inj he).symm
      exact (hfailed.settle none).of_eq rfl rfl rfl
  | claimWatch => exact hsame.of_eq rfl rfl rfl
  | track => exact hsame.of_eq rfl rfl rfl
  | state op => exact hsame

/-- So does a history. -/
theorem after {l : Link} (balanced : Balanced l.conn ended verdicts) (ops : List Link.Op) :
    Balanced (l.after ops).conn (ended ++ (l.effects ops).ended)
      (verdicts ++ (l.effects ops).verdicts) := by
  induction ops generalizing l ended verdicts with
  | nil =>
    have hnothing : l.effects [] = {} := rfl
    rw [hnothing, List.append_nil, List.append_nil]
    exact balanced
  | cons op ops ih =>
    have hrest := ih (balanced.apply op)
    rw [List.append_assoc, List.append_assoc] at hrest
    exact hrest

end Balanced

end RemoteConsole
