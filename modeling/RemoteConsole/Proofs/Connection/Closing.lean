import RemoteConsole.Connection.Journal
import RemoteConsole.Proofs.Listener.Notes

/-!
# The end of a connection

A connection may be closed any number of times and at any time, and whatever else happens to it
before and after, it ends once. The first close ends everything that waits on the connection and
tells the listeners; no other operation tells them, a later close does nothing, and a task that is
tied later is aborted at once (`ends_once`). So every task that is ever tied to a connection that is
closed at last is aborted, and only once (`aborted_once`).

Every operation but the first close leaves an open connection open and a closed one closed
(`Stays`), and so does a whole history of them. A history with a close falls into such a history on
the open connection, the first close, and such a history on the closed one.
-/

namespace RemoteConsole

/-- The calls of listeners to the end of a connection. -/
def Effects.disconnects (e : Effects) : List Heard :=
  e.heard.filter (·.event = .disconnected)

@[simp] theorem Effects.mk_append_mk (ended ended' : List Settlement)
    (verdicts verdicts' : List Verdict) (aborted aborted' : List Nat) (heard heard' : List Heard) :
    Effects.mk ended verdicts aborted heard ++ ⟨ended', verdicts', aborted', heard'⟩ =
      ⟨ended ++ ended', verdicts ++ verdicts', aborted ++ aborted', heard ++ heard'⟩ :=
  rfl

theorem Effects.append_assoc (a b c : Effects) : a ++ b ++ c = a ++ (b ++ c) := by
  cases a
  cases b
  cases c
  simp only [mk_append_mk, List.append_assoc]

theorem Effects.disconnects_append (a b : Effects) :
    (a ++ b).disconnects = a.disconnects ++ b.disconnects :=
  List.filter_append ..

namespace Connection

/-- An operation that concerns nothing but the requests and the authentication of a connection, and
that no listener is told of. -/
def Routes (f : Connection → Effects × Connection) : Prop :=
  ∀ c, (f c).1.aborted = [] ∧ (f c).1.heard = [] ∧
    ∃ requests auth attempts, (f c).2 = { c with requests, auth, attempts }

theorem routes_register (id : Int32) (multi : Bool) : Routes (·.register id multi) :=
  fun _ => ⟨rfl, rfl, _, _, _, rfl⟩

theorem routes_remove (id : Int32) : Routes (·.remove id) :=
  fun _ => ⟨rfl, rfl, _, _, _, rfl⟩

theorem routes_beginAuth : Routes beginAuth :=
  fun _ => ⟨rfl, rfl, _, _, _, rfl⟩

theorem routes_cancelAuth : Routes cancelAuth :=
  fun _ => ⟨rfl, rfl, _, _, _, rfl⟩

theorem routes_dispatch (p : Packet) : Routes (·.dispatch p) := by
  intro c
  change (c.dispatch p).1.aborted = [] ∧ (c.dispatch p).1.heard = [] ∧
    ∃ requests auth attempts, (c.dispatch p).2 = { c with requests, auth, attempts }
  unfold dispatch
  split
  · exact ⟨rfl, rfl, _, _, _, rfl⟩
  · split <;> exact ⟨rfl, rfl, _, _, _, rfl⟩

end Connection

namespace Link

/-- A connection that has just been made. -/
def start (generation : Nat) (routing : Routing) (cell : StateCell) (listeners : Registry) :
    Link where
  conn := { generation, routing }
  cell
  listeners

/-- The link after a history. -/
def after (l : Link) : List Op → Link
  | [] => l
  | op :: ops => (l.apply op).2.2.after ops

/-- What a history brings about. -/
def effects (l : Link) (ops : List Op) : Effects :=
  ((l.run ops).map (·.2.1)).foldr (· ++ ·) {}

theorem effects_cons (l : Link) (op : Op) (ops : List Op) :
    l.effects (op :: ops) = (l.apply op).2.1 ++ (l.apply op).2.2.effects ops :=
  rfl

theorem after_append (l : Link) (ops more : List Op) :
    l.after (ops ++ more) = (l.after ops).after more := by
  induction ops generalizing l with
  | nil => rfl
  | cons op ops ih => exact ih _

theorem effects_append (l : Link) (ops more : List Op) :
    l.effects (ops ++ more) = l.effects ops ++ (l.after ops).effects more := by
  induction ops generalizing l with
  | nil => rfl
  | cons op ops ih =>
    rw [List.cons_append, effects_cons, effects_cons, ih, Effects.append_assoc]
    rfl

/-! ## Everything but the first close -/

/-- A connection stays open, or stays closed, while `n` tasks are tied to it, which are aborted if
it is closed. No listener is told that it ends. -/
structure Stays (n : Nat) (l : Link) (e : Effects) (l' : Link) : Prop where
  generation : l'.conn.generation = l.conn.generation
  closed : l'.conn.closed = l.conn.closed
  tracked : l'.conn.tracked = l.conn.tracked + n
  tasks : l'.conn.tasks = l.conn.tasks ++ List.range' l.conn.tracked n
  aborted : e.aborted = if l.conn.closed then List.range' l.conn.tracked n else []
  disconnects : e.disconnects = []

variable {l l' l'' : Link} {e e' : Effects} {n m : Nat} {op : Op} {ops : List Op}

/-- A connection stays as it is while nothing concerns its tasks and whether it is closed. -/
theorem Stays.of_conn {requests : RequestTable} {auth : Option Nat} {attempts : Nat}
    {watched : Bool} (hconn : l'.conn = { l.conn with requests, auth, attempts, watched })
    (haborted : e.aborted = []) (hdisconnects : e.disconnects = []) : Stays 0 l e l' where
  generation := by rw [hconn]
  closed := by rw [hconn]
  tracked := by rw [hconn, Nat.add_zero]
  tasks := by rw [hconn, List.range'_zero, List.append_nil]
  aborted := by rw [haborted, List.range'_zero, ite_self]
  disconnects := hdisconnects

theorem Stays.refl (l : Link) : Stays 0 l {} l :=
  .of_conn rfl rfl rfl

/-- One history after another. -/
theorem Stays.trans (h : Stays n l e l') (h' : Stays m l' e' l'') :
    Stays (n + m) l (e ++ e') l'' where
  generation := h'.generation.trans h.generation
  closed := h'.closed.trans h.closed
  tracked := by rw [h'.tracked, h.tracked, Nat.add_assoc]
  tasks := by rw [h'.tasks, h.tasks, h.tracked, List.append_assoc, List.range'_append_1]
  aborted := by
    have happend : (e ++ e').aborted = e.aborted ++ e'.aborted := rfl
    rw [happend, h.aborted, h'.aborted, h.closed, h.tracked]
    split
    · rw [List.range'_append_1]
    · rfl
  disconnects := by rw [Effects.disconnects_append, h.disconnects, h'.disconnects, List.append_nil]

theorem effects_track (l : Link) :
    (l.apply .track).2.1 = { aborted := if l.conn.closed then [l.conn.tracked] else [] } :=
  rfl

/-- A task that is tied is aborted if the connection is closed. -/
theorem stays_track (l : Link) : Stays 1 l (l.apply .track).2.1 (l.apply .track).2.2 :=
  ⟨rfl, rfl, rfl, rfl, rfl, rfl⟩

theorem stays_within {f : Connection → Effects × Connection} (hf : Connection.Routes f) (l : Link) :
    Stays 0 l (l.within f).1 (l.within f).2 := by
  obtain ⟨haborted, hheard, requests, auth, attempts, hconn⟩ := hf l.conn
  refine .of_conn hconn haborted ?_
  unfold Effects.disconnects
  rw [show (l.within f).1.heard = [] from hheard, List.filter_nil]

/-- A packet is shown to listeners, but not to those to the end of the connection. -/
theorem stays_frameReceived (l : Link) (frame : Bytes) :
    Stays 0 l (l.frameReceived frame).1 (l.frameReceived frame).2 := by
  unfold frameReceived
  split
  · rename_i p _
    obtain ⟨haborted, hheard, requests, auth, attempts, hconn⟩ :=
      Connection.routes_dispatch p l.conn
    refine .of_conn hconn haborted ?_
    have happend : (l.packetReceived p).1.heard =
        (l.listeners.packetReceived p).1 ++ (l.conn.dispatch p).1.heard := rfl
    rw [Effects.disconnects, happend, hheard, List.append_nil, List.filter_eq_nil_iff]
    intro h hh
    simpa using Registry.event_of_packetReceived hh
  · exact .refl l

/-- Closing a closed connection does nothing. -/
theorem close_of_closed (closed : l.conn.closed = true) : l.close = ({}, l) :=
  if_pos closed

/-- No operation but the first close opens or closes a connection, or tells listeners that it
ends. -/
theorem stays_apply (l : Link) (op : Op) (later : op = .close → l.conn.closed = true) :
    Stays ([op].count .track) l (l.apply op).2.1 (l.apply op).2.2 := by
  cases op with
  | register id multi => exact stays_within (Connection.routes_register id multi) l
  | remove id => exact stays_within (Connection.routes_remove id) l
  | beginAuth => exact stays_within Connection.routes_beginAuth l
  | cancelAuth => exact stays_within Connection.routes_cancelAuth l
  | frame bytes => exact stays_frameReceived l bytes
  | packet p => exact stays_within (Connection.routes_dispatch p) l
  | close =>
    rw [apply, close_of_closed (later rfl)]
    exact .refl l
  | claimWatch => exact .of_conn rfl rfl rfl
  | track => exact stays_track l
  | state op => exact .of_conn rfl rfl rfl

/-- Nor does any history of such operations. -/
theorem stays_after (l : Link) (ops : List Op) (later : .close ∈ ops → l.conn.closed = true) :
    Stays (ops.count .track) l (l.effects ops) (l.after ops) := by
  induction ops generalizing l with
  | nil => exact .refl l
  | cons op ops ih =>
    have hop := stays_apply l op fun h => later (h ▸ List.mem_cons_self)
    -- The first operation keeps a closed connection closed, so the condition holds for the others.
    have hops := ih (l.apply op).2.2 fun h => by
      rw [hop.closed]
      exact later (List.mem_cons_of_mem _ h)
    have hcount : (op :: ops).count .track = [op].count .track + ops.count .track := by
      rw [← List.count_append, List.singleton_append]
    rw [hcount, effects_cons]
    exact hop.trans hops

/-! ## The first close -/

/-- A connection of a generation, with `n` tasks, comes to its end. -/
structure TornDown (generation n : Nat) (l : Link) (e : Effects) (l' : Link) : Prop where
  /-- It is closed from then on. -/
  closed : l'.conn.closed = true
  /-- Every pending request fails. -/
  ended : e.ended = l.conn.requests.pending.map fun r => ⟨r.slot, .failed .connectionClosed⟩
  /-- None is pending any more. -/
  pending : l'.conn.requests.pending = []
  /-- The authentication that waits gets no answer. -/
  verdicts : e.verdicts = l.conn.auth.toList.map fun attempt => ⟨attempt, none⟩
  /-- None waits any more. -/
  auth : l'.conn.auth = none
  /-- Every task is aborted. -/
  aborted : e.aborted = List.range n
  /-- The client is disconnected, unless a newer generation has begun. -/
  cell : l'.cell =
    if l.cell.generation = generation then { l.cell with state := .disconnected } else l.cell
  /-- Every listener to the end of a connection is called, and nobody else. -/
  heard : e.heard = l.listeners.disconnected.map (·.hear .disconnected)

/-- Closing an open connection ends its requests, its authentication and its tasks, and tells the
client's state and the listeners. -/
theorem close_of_open (isOpen : l.conn.closed = false) :
    l.close =
      ({ ended := (l.conn.requests.failAll .connectionClosed).2
         verdicts := l.conn.verdict none
         aborted := l.conn.tasks
         heard := (l.listeners.notify .disconnected).1 },
       { conn := { l.conn with
           closed := true
           tasks := []
           requests := (l.conn.requests.failAll .connectionClosed).1
           auth := none }
         cell := l.cell.set l.conn.generation .disconnected
         listeners := (l.listeners.notify .disconnected).2 }) := by
  rw [close, if_neg (by simp [isOpen])]
  refine Prod.ext ?_ rfl
  -- Each of the four steps brings about something else.
  change ({ aborted := l.conn.tasks } : Effects) ++
    { ended := (l.conn.requests.failAll .connectionClosed).2 } ++
    { verdicts := l.conn.verdict none } ++ { heard := (l.listeners.notify .disconnected).1 } = _
  simp only [Effects.mk_append_mk, List.append_nil, List.nil_append]

/-- An operation leaves the routing of a connection as it is. -/
theorem routing_apply (l : Link) (op : Op) : (l.apply op).2.2.conn.routing = l.conn.routing := by
  have hdispatch (p : Packet) : (l.conn.dispatch p).2.routing = l.conn.routing := by
    obtain ⟨-, -, requests, auth, attempts, hconn⟩ := Connection.routes_dispatch p l.conn
    rw [hconn]
  cases op with
  | frame bytes =>
    change (l.frameReceived bytes).2.conn.routing = _
    unfold frameReceived
    split
    · exact hdispatch _
    · rfl
  | packet p => exact hdispatch p
  | close =>
    change l.close.2.conn.routing = _
    cases hclosed : l.conn.closed with
    | true => rw [close_of_closed hclosed]
    | false => rw [close_of_open hclosed]
  | _ => rfl

/-- So does a history. -/
theorem routing_after (l : Link) (ops : List Op) :
    (l.after ops).conn.routing = l.conn.routing := by
  induction ops generalizing l with
  | nil => rfl
  | cons op ops ih => exact (ih _).trans (routing_apply l op)

/-- Closing an open connection is its end. -/
theorem tornDown_of_open (isOpen : l.conn.closed = false) (htasks : l.conn.tasks = List.range n) :
    TornDown l.conn.generation n l l.close.1 l.close.2 := by
  rw [close_of_open isOpen]
  exact ⟨rfl, rfl, rfl, rfl, rfl, htasks, rfl, Registry.notify_fst ..⟩

section History

variable (generation : Nat) (routing : Routing) (cell : StateCell) (listeners : Registry)
  (before later : List Op)

/-- A history without a close leaves a connection open. -/
theorem open_after (first : Op.close ∉ before) :
    let l := (start generation routing cell listeners).after before
    l.conn.closed = false ∧ l.conn.generation = generation ∧
      l.conn.tracked = before.count .track ∧ l.conn.tasks = List.range (before.count .track) := by
  have hstays := stays_after (start generation routing cell listeners) before
    fun h => absurd h first
  refine ⟨hstays.closed, hstays.generation, ?_, ?_⟩
  · exact hstays.tracked.trans (Nat.zero_add _)
  · rw [List.range_eq_range']
    exact hstays.tasks

/-- The first close leaves it closed, and it stays so. -/
theorem closed_after (first : Op.close ∉ before) :
    let l := (start generation routing cell listeners).after before
    l.close.2.conn.closed = true ∧ l.close.2.conn.tracked = before.count .track ∧
      Stays (later.count .track) l.close.2 (l.close.2.effects later) (l.close.2.after later) := by
  intro l
  obtain ⟨hopen, -, htracked, -⟩ := open_after generation routing cell listeners before first
  have hclose := close_of_open hopen
  have hclosed : l.close.2.conn.closed = true := by rw [hclose]
  refine ⟨hclosed, ?_, stays_after _ later fun _ => hclosed⟩
  rw [hclose]
  exact htracked

/-- The tasks that are tied before the first close and after it. -/
theorem count_track :
    (before ++ Op.close :: later).count .track = before.count .track + later.count .track := by
  rw [List.count_append, List.count_cons_of_ne (by decide)]

/-- Every task that is tied to a connection is aborted once if that is closed at some time, and else
not at all. -/
theorem aborted_once (ops : List Op) :
    ((start generation routing cell listeners).effects ops).aborted =
      if .close ∈ ops then List.range (ops.count .track) else [] := by
  split
  · rename_i hclose
    obtain ⟨before, later, rfl, first⟩ := List.eq_append_cons_of_mem hclose
    obtain ⟨hopen, -, -, htasks⟩ := open_after generation routing cell listeners before first
    obtain ⟨hclosed, htracked, hlater⟩ :=
      closed_after generation routing cell listeners before later first
    have hbefore := (stays_after (start generation routing cell listeners) before
      fun h => absurd h first).aborted
    have hclosing := (tornDown_of_open hopen htasks).aborted
    have hafter := hlater.aborted
    rw [if_pos hclosed, htracked] at hafter
    rw [effects_append, effects_cons, count_track]
    -- None are aborted before the first close, all that are tied by then at it, and each of the
    -- others as it is tied.
    change _ ++ (_ ++ _) = _
    calc _ = [] ++ (List.range (before.count .track) ++
          List.range' (before.count .track) (later.count .track)) :=
        congr (congrArg _ hbefore) (congr (congrArg _ hclosing) hafter)
      _ = List.range (before.count .track + later.count .track) := by
        rw [List.nil_append, List.range_eq_range', List.range_eq_range', ← List.range'_append_1,
          Nat.zero_add]
  · rename_i hopen
    exact (stays_after _ ops fun h => absurd h hopen).aborted

/-- The first close of a connection ends everything that waits on it, whatever happened before, and
calls the listeners to its end that are registered by then, which no operation does before or after.
Whatever happens after it, one more close does nothing, and one more task is aborted at once. -/
theorem ends_once (first : Op.close ∉ before) :
    let made := start generation routing cell listeners
    let l := made.after before
    let l' := made.after (before ++ .close :: later)
    let tasks := before.count .track
    let tasks' := (before ++ .close :: later).count .track
    TornDown generation tasks l (l.apply .close).2.1 (l.apply .close).2.2 ∧
      (made.effects before).disconnects = [] ∧
      ((l.apply .close).2.2.effects later).disconnects = [] ∧
      l'.apply .close = (.nothing, {}, l') ∧
      (l.apply .track).1 = .number tasks ∧ (l.apply .track).2.1 = {} ∧
      (l'.apply .track).1 = .number tasks' ∧ (l'.apply .track).2.1 = { aborted := [tasks'] } := by
  intro made l l' tasks tasks'
  obtain ⟨hopen, hgeneration, htied, htasks⟩ :=
    open_after generation routing cell listeners before first
  have hdown := tornDown_of_open hopen htasks
  rw [hgeneration] at hdown
  have hbefore := stays_after made before fun h => absurd h first
  obtain ⟨hclosed, htracked, hlater⟩ :=
    closed_after generation routing cell listeners before later first
  have hl' : l' = l.close.2.after later := after_append made before _
  have hclosed' : l'.conn.closed = true := by rw [hl', hlater.closed, hclosed]
  have htracked' : l'.conn.tracked = tasks' :=
    calc l'.conn.tracked = l.close.2.conn.tracked + later.count .track := by
          rw [hl', hlater.tracked]
      _ = before.count .track + later.count .track := by rw [htracked]
      _ = tasks' := (count_track before later).symm
  refine ⟨hdown, hbefore.disconnects, hlater.disconnects, ?_, congrArg _ htied, ?_,
    congrArg _ htracked', ?_⟩
  · rw [apply, close_of_closed hclosed']
  · rw [effects_track, if_neg (by simp [l, made, hopen])]
  · rw [effects_track, if_pos hclosed', htracked']

/-- A connection is closed before two listeners, one of which came with a packet, while a newer one
is being made. -/
theorem ends_once_superseded :
    let listeners : Registry :=
      { disconnected := [.noting "first"]
        packets := [.ofReact fun _ => { registrations := [(.disconnected, .noting "second")] }] }
    let before : List Op := [.track, .register 4 false, .track, .beginAuth,
      .frame [10, 0, 0, 0, 9, 0, 0, 0, 0, 0, 0, 0, 0, 0], .state (.start 2)]
    let l := (start 1 {} (.start 1) listeners).after before
    Op.close ∉ before ∧
      (l.apply .close).2.1 =
        { ended := [⟨0, .failed .connectionClosed⟩]
          verdicts := [⟨0, none⟩]
          aborted := [0, 1]
          heard := [⟨.disconnected, ["first"]⟩, ⟨.disconnected, ["second"]⟩] } ∧
      (l.apply .close).2.2.cell = .start 2 := by
  intro listeners before l
  have first : Op.close ∉ before := by decide
  obtain ⟨hdown, -⟩ := ends_once 1 {} (.start 1) listeners before [] first
  have heffects : (l.apply .close).2.1 =
      ⟨(l.apply .close).2.1.ended, (l.apply .close).2.1.verdicts, (l.apply .close).2.1.aborted,
        (l.apply .close).2.1.heard⟩ := rfl
  refine ⟨first, ?_, ?_⟩
  · rw [heffects, hdown.ended, hdown.verdicts, hdown.aborted, hdown.heard]
    decide
  · rw [hdown.cell]
    decide

end History

end Link

end RemoteConsole
