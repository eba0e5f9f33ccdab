import RemoteConsole.Proofs.Request.Ledger
import RemoteConsole.Proofs.Request.Queue

/-!
# Commands answered in turn

Some servers answer every command with id 0, one after the other. Where ids need not match, each
body then goes to the command that waits longest, and so every command gets its own response,
however registrations and responses interleave and wherever trailers arrive between them
(`answered_in_turn`).

The proof follows the schedule of the server (`Served`). At any time the pending requests are the
commands whose responses are not complete, in order of registration, and what the server still owes
for them are the rests of their responses, in the same order (`Owing`). A registration adds a
command and its response at the end, and a body is taken off the response in front.
-/

namespace RemoteConsole

namespace RequestTable

/-- A command and the response to it. -/
structure Exchange where
  /-- The id of the command. -/
  id : Int32
  /-- Whether the response may span several packets. -/
  multi : Bool
  /-- The bodies of the response, without what ends it. -/
  bodies : List String
deriving Repr, DecidableEq

namespace Exchange

/-- A response that a server may give: one body, or several of which none looks like the end, and no
trailer in either. -/
structure Proper (τ : Terminator) (e : Exchange) : Prop where
  /-- No body is one that is discarded. -/
  kept : ∀ b ∈ e.bodies, τ.discards b = false
  /-- No body of several looks like the end. -/
  goesOn : e.multi = true → ∀ b ∈ e.bodies, τ.endsWith b = false
  /-- A response of one packet has one body. -/
  single : e.multi = false → ∃ b, e.bodies = [b]

/-- The bodies that a server sends. -/
def packets (τ : Terminator) (e : Exchange) : List String :=
  if e.multi then e.bodies ++ [τ.marker] else e.bodies

/-- What should become of each body that a server sends: it is added to the response to its own
command, or completes it. -/
def handled (τ : Terminator) (e : Exchange) : List (String × Delivery) :=
  if e.multi then e.bodies.map (fun b => (b, .buffered e.id)) ++ [(τ.marker, .completed e.id)]
  else e.bodies.map fun b => (b, .completed e.id)

/-- What a server sends is never without a command to go to. -/
theorem ne_unmatched_of_handled {τ : Terminator} {e : Exchange} {b : String} {d : Delivery}
    (h : (b, d) ∈ e.handled τ) : d ≠ .unmatched := by
  rintro rfl
  unfold handled at h
  split_ifs at h <;> simp at h

/-- What a server sends first for a command: one body of several, the end of a response of several,
or the only body of a response of one packet. -/
theorem packets_eq_cons {τ : Terminator} {e : Exchange} (proper : e.Proper τ) {b : String}
    {more owed : List String} (h : e.packets τ ++ more = b :: owed) :
    (e.multi = true ∧ ∃ rest, e.bodies = b :: rest ∧
        owed = { e with bodies := rest }.packets τ ++ more) ∨
      (e.multi = true ∧ e.bodies = [] ∧ b = τ.marker ∧ owed = more) ∨
      (e.multi = false ∧ e.bodies = [b] ∧ owed = more) := by
  unfold packets at h
  cases hmulti : e.multi with
  | true =>
    rw [if_pos hmulti] at h
    cases hbodies : e.bodies with
    | nil =>
      rw [hbodies] at h
      obtain ⟨rfl, rfl⟩ := List.cons.inj h
      exact .inr (.inl ⟨rfl, rfl, rfl, rfl⟩)
    | cons b' rest =>
      rw [hbodies] at h
      obtain ⟨rfl, rfl⟩ := List.cons.inj h
      exact .inl ⟨rfl, rest, rfl, by simp [packets]⟩
  | false =>
    obtain ⟨b', hbodies⟩ := proper.single hmulti
    rw [if_neg (by simp [hmulti]), hbodies] at h
    obtain ⟨rfl, rfl⟩ := List.cons.inj h
    exact .inr (.inr ⟨rfl, hbodies, rfl⟩)

/-- A server sends something for every command. -/
theorem packets_ne_nil {τ : Terminator} {e : Exchange} (proper : e.Proper τ) :
    e.packets τ ≠ [] := by
  unfold packets
  cases hmulti : e.multi with
  | true => simp
  | false =>
    obtain ⟨b, hbodies⟩ := proper.single hmulti
    simp [hbodies]

end Exchange

/-- The histories in which some commands are registered in order and a server answers each under id
0 after its registration, one after the other. `owed` is what the server has still to send for the
commands that are registered already. Trailers may arrive at any time. -/
inductive Served (τ : Terminator) : List Exchange → List String → List Op → Prop where
  /-- Every command is registered, and every response has arrived. -/
  | done : Served τ [] [] []
  /-- The next command is registered, and the server owes its response last. -/
  | register {e : Exchange} {es : List Exchange} {owed : List String} {ops : List Op}
      (h : Served τ es (owed ++ e.packets τ) ops) :
      Served τ (e :: es) owed (.register e.id e.multi :: ops)
  /-- The server sends what it owes first. -/
  | answer {es : List Exchange} {b : String} {owed : List String} {ops : List Op}
      (h : Served τ es owed ops) :
      Served τ es (b :: owed) (.deliver unmatchedId b false τ :: ops)
  /-- The server sends a trailer. -/
  | trailer {es : List Exchange} {b : String} {owed : List String} {ops : List Op}
      (discarded : τ.discards b = true) (h : Served τ es owed ops) :
      Served τ es owed (.deliver unmatchedId b false τ :: ops)

/-- The slot that a step opened, and for which command. -/
def Step.opening? (s : Step) : Option (Nat × Int32 × Bool) :=
  match s.op, s.reply with
  | .register id multi, .slot n => some (n, id, multi)
  | _, _ => none

/-- The body that a step delivered and did not discard, and what became of it. -/
def Step.handled? (s : Step) : Option (String × Delivery) :=
  match s.op, s.reply with
  | .deliver _ body _ _, .delivery d => if d = .discarded then none else some (body, d)
  | _, _ => none

/-- A command that waits, and what is still to come of its response. -/
structure Waiting where
  /-- Its request. -/
  request : Request
  /-- The bodies still to come, without what ends the response. -/
  rest : List String

namespace Waiting

/-- A command that is registered under a slot, and nothing of whose response has come yet. -/
def fresh (slot : Nat) (e : Exchange) : Waiting where
  request := { slot, id := e.id, multi := e.multi }
  rest := e.bodies

/-- What is left of an exchange. -/
def exchange (w : Waiting) : Exchange where
  id := w.request.id
  multi := w.request.multi
  bodies := w.rest

/-- How the command will end. -/
def outcome (w : Waiting) : Settlement :=
  ⟨w.request.slot, .answered (w.request.body ++ String.join w.rest)⟩

@[simp] theorem exchange_fresh (slot : Nat) (e : Exchange) : (fresh slot e).exchange = e :=
  rfl

@[simp] theorem outcome_fresh (slot : Nat) (e : Exchange) :
    (fresh slot e).outcome = ⟨slot, .answered (String.join e.bodies)⟩ := by
  simp [outcome, fresh]

end Waiting

/-- A table in which some commands wait for a server that answers in turn, and others are still to
be registered. -/
structure Owing (τ : Terminator) (t : RequestTable) (ws : List Waiting) (es : List Exchange) :
    Prop where
  /-- The queue of the table is in step with its requests. -/
  aligned : t.Aligned
  /-- The commands that wait are the pending requests. -/
  pending : t.pending = ws.map Waiting.request
  /-- No two commands share an id. -/
  ids : (ws.map (·.request.id) ++ es.map Exchange.id).Nodup
  /-- No command has the id under which every response arrives. -/
  nonzero : unmatchedId ∉ ws.map (·.request.id) ++ es.map Exchange.id
  /-- What is still to come completes the response. -/
  waiting : ∀ w ∈ ws, w.exchange.Proper τ
  /-- So does every response to a command that is not registered yet. -/
  proper : ∀ e ∈ es, e.Proper τ

variable {τ : Terminator} {t : RequestTable} {w : Waiting} {ws : List Waiting} {e : Exchange}
  {es : List Exchange} {owed : List String} {ops : List Op} {b : String}

/-- A body under id 0 is handed to the request that waits longest. -/
theorem Aligned.deliver_head (h : t.Aligned) {r : Request} {rs : List Request}
    (hpending : t.pending = r :: rs) (nonzero : ∀ s ∈ t.pending, s.id ≠ unmatchedId)
    (kept : τ.discards b = false) :
    t.deliver unmatchedId b false τ =
      if r.multi && !τ.endsWith b then (.buffered r.id, t.append r.id b, none)
      else
        (.completed r.id, t.complete r.id,
          some ⟨r.slot, .answered (if r.multi then r.body else r.body ++ b)⟩) := by
  have htarget : t.target? unmatchedId false = some r := by
    have hnone : t.toQueue.waiting.find? (·.id == unmatchedId) = none :=
      find?_eq_none_iff.mpr nonzero
    rw [h.target?_eq, RequestQueue.target?, hnone]
    change (if false = false ∧ unmatchedId = 0 then t.pending.head? else none) = _
    rw [if_pos ⟨rfl, rfl⟩, hpending]
    rfl
  rw [deliver_eq, if_neg (by simp [kept]), htarget, h.route_snd]

namespace Owing

/-- No pending request has the id under which responses arrive. -/
theorem id_ne (h : Owing τ t ws es) : ∀ r ∈ t.pending, r.id ≠ unmatchedId := by
  rw [h.pending]
  intro r hr hid
  obtain ⟨w, hw, rfl⟩ := List.mem_map.mp hr
  exact h.nonzero (List.mem_append_left _ (hid ▸ List.mem_map_of_mem hw))

/-- No pending request has the id of the next command. -/
theorem id_ne_next (h : Owing τ t ws (e :: es)) : ∀ r ∈ t.pending, r.id ≠ e.id := by
  rw [h.pending]
  intro r hr hid
  obtain ⟨w, hw, rfl⟩ := List.mem_map.mp hr
  exact (List.nodup_append.mp h.ids).2.2 _ (List.mem_map_of_mem hw) _ (by simp) hid

/-- Registering the next command adds it to those that wait. -/
theorem register (h : Owing τ t ws (e :: es)) :
    Owing τ (t.register e.id e.multi).1 (ws ++ [.fresh t.issued e]) es := by
  have hfresh := h.id_ne_next
  have hwithout : t.without e.id = t.pending := Aligned.without_eq_self hfresh
  have hids : (ws ++ [Waiting.fresh t.issued e]).map (·.request.id) ++ es.map Exchange.id =
      ws.map (·.request.id) ++ (e :: es).map Exchange.id := by
    simp [Waiting.fresh]
  refine ⟨?_, ?_, ?_, ?_, ?_, ?_⟩
  · have hpush := h.aligned.push hfresh e.multi
    rw [← hwithout] at hpush
    exact hpush
  · change t.without e.id ++ [_] = _
    rw [hwithout, h.pending, List.map_append]
    rfl
  · rw [hids]
    exact h.ids
  · rw [hids]
    exact h.nonzero
  · intro w hw
    rcases List.mem_append.mp hw with hw | hw
    · exact h.waiting w hw
    · obtain rfl := List.mem_singleton.mp hw
      exact h.proper e List.mem_cons_self
  · exact fun e' he' => h.proper e' (List.mem_cons_of_mem _ he')

/-- A body of several is added to the response in front. -/
theorem more (h : Owing τ t (w :: ws) es) (multi : w.request.multi = true) {rest : List String}
    (hrest : w.rest = b :: rest) :
    t.deliver unmatchedId b false τ = (.buffered w.request.id, t.append w.request.id b, none) ∧
      Owing τ (t.append w.request.id b)
        (⟨{ w.request with body := w.request.body ++ b }, rest⟩ :: ws) es := by
  have hw := h.waiting w List.mem_cons_self
  have hbodies : w.exchange.bodies = b :: rest := hrest
  have hb : b ∈ w.exchange.bodies := by
    rw [hbodies]
    exact List.mem_cons_self
  have hlater : ∀ b' ∈ rest, b' ∈ w.exchange.bodies := by
    intro b' hb'
    rw [hbodies]
    exact List.mem_cons_of_mem _ hb'
  have hgoes := hw.goesOn multi b hb
  have hmem : w.request ∈ t.pending := by
    rw [h.pending]
    exact List.mem_cons_self
  constructor
  · rw [h.aligned.deliver_head h.pending h.id_ne (hw.kept b hb), if_pos (by simp [multi, hgoes])]
  · refine ⟨h.aligned.append hmem multi b, ?_, h.ids, h.nonzero, ?_, h.proper⟩
    · rw [h.aligned.append_pending hmem, h.pending, List.map_cons, List.map_cons, if_pos rfl]
      congr 1
      -- The requests behind it stay as they are.
      refine (List.map_congr_left fun r hr => ?_).trans (List.map_id _)
      have hne : r ≠ w.request := by
        rintro rfl
        have hnodup := h.aligned.nodup.of_map
        rw [h.pending] at hnodup
        exact (List.nodup_cons.mp hnodup).1 hr
      exact if_neg hne
    · intro w' hw'
      rcases List.mem_cons.mp hw' with rfl | hw'
      · exact ⟨fun b' hb' => hw.kept b' (hlater b' hb'),
          fun _ b' hb' => hw.goesOn multi b' (hlater b' hb'),
          fun hsingle => absurd (multi.symm.trans hsingle) (by decide)⟩
      · exact h.waiting w' (List.mem_cons_of_mem _ hw')

/-- What completes the response in front takes its command out. -/
theorem last (h : Owing τ t (w :: ws) es) (kept : τ.discards b = false)
    (ends : w.request.multi = true → τ.endsWith b = true) :
    t.deliver unmatchedId b false τ =
        (.completed w.request.id, t.complete w.request.id,
          some ⟨w.request.slot,
            .answered (if w.request.multi then w.request.body else w.request.body ++ b)⟩) ∧
      Owing τ (t.complete w.request.id) ws es := by
  have hmem : w.request ∈ t.pending := by
    rw [h.pending]
    exact List.mem_cons_self
  have hstops : ¬(w.request.multi && !τ.endsWith b) = true := by
    cases hmulti : w.request.multi with
    | true => simp [ends hmulti]
    | false => simp
  constructor
  · rw [h.aligned.deliver_head h.pending h.id_ne kept, if_neg hstops]
  · refine ⟨?_, ?_, (List.nodup_cons.mp h.ids).2,
      fun hzero => h.nonzero (List.mem_cons_of_mem _ hzero),
      fun w' hw' => h.waiting w' (List.mem_cons_of_mem _ hw'), h.proper⟩
    · rw [h.aligned.complete_eq]
      exact h.aligned.without _
    · rw [h.aligned.complete_pending hmem, h.pending, List.map_cons, List.erase_cons_head]

end Owing

/-- A history in which the commands that wait and those that are registered end with their own
responses, each body of which goes to its own command. -/
structure InTurn (τ : Terminator) (t : RequestTable) (ws : List Waiting) (es : List Exchange)
    (past : List Step) : Prop where
  /-- The commands get their slots in order. -/
  openings : past.filterMap Step.opening? = es.mapIdx fun k e => (t.issued + k, e.id, e.multi)
  /-- The commands end in order, each with its own response. -/
  settled : settlements past = ws.map Waiting.outcome ++
    es.mapIdx fun k e => ⟨t.issued + k, .answered (String.join e.bodies)⟩
  /-- Every body goes to the command to which it is sent. -/
  handled : past.filterMap Step.handled? =
    ws.flatMap (·.exchange.handled τ) ++ es.flatMap (·.handled τ)

namespace InTurn

variable {past : List Step}

/-- A registration comes before what happens to its command. -/
theorem register (ht : Owing τ t ws (e :: es))
    (h : InTurn τ (t.register e.id e.multi).1 (ws ++ [.fresh t.issued e]) es past) :
    InTurn τ t ws (e :: es) (t.step (.register e.id e.multi) :: past) := by
  have hshift : ∀ k, t.issued + 1 + k = t.issued + (k + 1) := by
    intro k
    omega
  have hended : (t.step (.register e.id e.multi)).ended = [] := by
    have hnone : t.find? e.id = none := find?_eq_none_iff.mpr ht.id_ne_next
    simp [step, apply, RequestTable.register, hnone]
  have hissued : (t.register e.id e.multi).1.issued = t.issued + 1 := rfl
  obtain ⟨hopenings, hsettled, hhandled⟩ := h
  rw [hissued] at hopenings hsettled
  simp only [hshift] at hopenings hsettled
  refine ⟨?_, ?_, ?_⟩
  · rw [List.filterMap_cons, hopenings, List.mapIdx_cons]
    rfl
  · rw [settlements, List.flatMap_cons, hended, List.mapIdx_cons]
    change settlements past = _
    rw [hsettled]
    simp
  · rw [List.filterMap_cons]
    change past.filterMap Step.handled? = _
    rw [hhandled]
    simp

/-- A body of several comes before the rest of its response. -/
theorem more (multi : w.request.multi = true) {rest : List String} (hrest : w.rest = b :: rest)
    (hdeliver : t.deliver unmatchedId b false τ =
      (.buffered w.request.id, t.append w.request.id b, none))
    (h : InTurn τ (t.append w.request.id b)
      (⟨{ w.request with body := w.request.body ++ b }, rest⟩ :: ws) es past) :
    InTurn τ t (w :: ws) es (t.step (.deliver unmatchedId b false τ) :: past) := by
  rw [(step_deliver hdeliver).1]
  refine ⟨h.openings, ?_, ?_⟩
  · refine h.settled.trans ?_
    simp [Waiting.outcome, hrest, String.append_assoc]
  · change (b, Delivery.buffered w.request.id) :: past.filterMap Step.handled? = _
    rw [h.handled]
    simp [Exchange.handled, Waiting.exchange, multi, hrest]

/-- What completes a response comes before the next response. -/
theorem last {outcome : Outcome} (hdeliver : t.deliver unmatchedId b false τ =
      (.completed w.request.id, t.complete w.request.id, some ⟨w.request.slot, outcome⟩))
    (houtcome : w.outcome = ⟨w.request.slot, outcome⟩)
    (hhandled : w.exchange.handled τ = [(b, .completed w.request.id)])
    (h : InTurn τ (t.complete w.request.id) ws es past) :
    InTurn τ t (w :: ws) es (t.step (.deliver unmatchedId b false τ) :: past) := by
  rw [(step_deliver hdeliver).1]
  refine ⟨h.openings, ?_, ?_⟩
  · rw [List.map_cons, houtcome, List.cons_append]
    exact congrArg _ h.settled
  · rw [List.flatMap_cons, hhandled, List.append_assoc, ← h.handled]
    rfl

/-- A trailer may come at any time. -/
theorem trailer (hdeliver : t.deliver unmatchedId b false τ = (.discarded, t, none))
    (h : InTurn τ t ws es past) :
    InTurn τ t ws es (t.step (.deliver unmatchedId b false τ) :: past) := by
  rw [(step_deliver hdeliver).1]
  exact ⟨h.openings, h.settled, h.handled⟩

end InTurn

/-- What a server still owes for the commands that wait it sends, and every command is answered in
turn. -/
theorem Served.inTurn (h : Served τ es owed ops) (ht : Owing τ t ws es)
    (howed : ws.flatMap (·.exchange.packets τ) = owed) :
    InTurn τ t ws es (t.steps ops) ∧ (t.after ops).pending = [] := by
  induction h generalizing t ws with
  | done =>
    cases ws with
    | nil => exact ⟨⟨rfl, rfl, rfl⟩, ht.pending⟩
    | cons w ws =>
      -- A command that waits lacks one body at least.
      have hnil := (List.append_eq_nil_iff.mp howed).1
      exact absurd hnil (Exchange.packets_ne_nil (ht.waiting w List.mem_cons_self))
  | register h ih =>
    obtain ⟨hturn, hpending⟩ := ih ht.register (by simp [← howed])
    exact ⟨hturn.register ht, hpending⟩
  | @answer es b owed ops h ih =>
    cases ws with
    | nil => exact absurd howed (by simp)
    | cons w ws =>
      -- The body is the next one of the command that waits longest.
      have hw := ht.waiting w List.mem_cons_self
      rcases Exchange.packets_eq_cons hw howed with
        ⟨multi, rest, hrest, hlater⟩ | ⟨multi, hrest, rfl, hlater⟩ | ⟨single, hrest, hlater⟩
      · obtain ⟨hdeliver, hnext⟩ := ht.more multi hrest
        obtain ⟨hturn, hpending⟩ := ih hnext hlater.symm
        rw [steps, after, (step_deliver hdeliver).2]
        exact ⟨hturn.more multi hrest hdeliver, hpending⟩
      · obtain ⟨hdeliver, hnext⟩ := ht.last τ.discards_marker
          fun _ => Terminator.endsWith_iff.mpr rfl
        obtain ⟨hturn, hpending⟩ := ih hnext hlater.symm
        have hmulti : w.request.multi = true := multi
        have hnothing : w.rest = [] := hrest
        rw [steps, after, (step_deliver hdeliver).2]
        refine ⟨hturn.last hdeliver ?_ ?_, hpending⟩
        · simp [Waiting.outcome, hmulti, hnothing]
        · rw [Exchange.handled, if_pos multi, hrest]
          rfl
      · have hsingle : w.request.multi = false := single
        have hone : w.rest = [b] := hrest
        have hkept : τ.discards b = false := by
          refine hw.kept b ?_
          rw [hrest]
          exact List.mem_singleton_self b
        obtain ⟨hdeliver, hnext⟩ := ht.last hkept
          fun hmulti => absurd (hmulti.symm.trans hsingle) (by decide)
        obtain ⟨hturn, hpending⟩ := ih hnext hlater.symm
        rw [steps, after, (step_deliver hdeliver).2]
        refine ⟨hturn.last hdeliver ?_ ?_, hpending⟩
        · simp [Waiting.outcome, hsingle, hone]
        · rw [Exchange.handled, if_neg (by simp [single]), hrest]
          rfl
  | trailer discarded h ih =>
    obtain ⟨hturn, hpending⟩ := ih ht howed
    have hdeliver := deliver_discarded t unmatchedId false discarded
    rw [steps, after, (step_deliver hdeliver).2]
    exact ⟨hturn.trailer hdeliver, hpending⟩

/-- A delivery that is reported as unmatched is one of those that were not discarded. -/
theorem handled?_of_unmatched {s : Step} (hs : s ∈ t.steps ops)
    (hreply : s.reply = .delivery .unmatched) : ∃ b, s.handled? = some (b, .unmatched) := by
  induction ops generalizing t with
  | nil => exact absurd hs List.not_mem_nil
  | cons op ops ih =>
    rcases List.mem_cons.mp hs with rfl | hs
    · cases op with
      | deliver id body strict terminator =>
        refine ⟨body, ?_⟩
        unfold Step.handled?
        rw [hreply]
        rfl
      | register | remove | forget | failAll => exact absurd hreply (by simp [step, apply])
    · exact ih hs

/-- Where ids need not match, commands with distinct ids other than 0 are served in order by a
server that answers each with id 0, however registrations and responses interleave: the command that
is registered in place `k` gets slot `k` and is answered with the bodies of response `k`, every body
goes to its own command, and none is without one. -/
theorem answered_in_turn (τ : Terminator) (es : List Exchange) (ops : List Op)
    (served : Served τ es [] ops) (ids : (es.map Exchange.id).Nodup)
    (nonzero : ∀ e ∈ es, e.id ≠ unmatchedId) (proper : ∀ e ∈ es, e.Proper τ) :
    let past := ({} : RequestTable).steps ops
    past.filterMap Step.opening? = es.mapIdx (fun k e => (k, e.id, e.multi)) ∧
      settlements past = es.mapIdx (fun k e => ⟨k, .answered (String.join e.bodies)⟩) ∧
      past.filterMap Step.handled? = es.flatMap (·.handled τ) ∧
      (∀ s ∈ past, s.reply ≠ .delivery .unmatched) ∧
      (({} : RequestTable).after ops).pending = [] := by
  intro past
  have hstart : Owing τ {} [] es := by
    refine ⟨.empty 0, rfl, ids, ?_, by simp, proper⟩
    intro hzero
    obtain ⟨e, he, hid⟩ := List.mem_map.mp hzero
    exact nonzero e he hid
  obtain ⟨⟨hopenings, hsettled, hhandled⟩, hpending⟩ := served.inTurn hstart rfl
  rw [List.flatMap_nil, List.nil_append] at hhandled
  simp only [Nat.zero_add, List.map_nil, List.nil_append] at hopenings hsettled
  refine ⟨hopenings, hsettled, hhandled, fun s hs hreply => ?_, hpending⟩
  obtain ⟨b, hb⟩ := handled?_of_unmatched hs hreply
  have hmem : (b, Delivery.unmatched) ∈ es.flatMap (·.handled τ) := by
    rw [← hhandled]
    exact List.mem_filterMap.mpr ⟨s, hs, hb⟩
  obtain ⟨e, -, he⟩ := List.mem_flatMap.mp hmem
  exact Exchange.ne_unmatched_of_handled he rfl

/-- Three commands whose registrations, responses and trailers interleave. -/
theorem answered_in_turn_interleaved :
    let es : List Exchange := [⟨7, true, ["a", "b"]⟩, ⟨5, false, ["c"]⟩, ⟨6, true, []⟩]
    let ops : List Op := [.register 7 true, .deliver 0 "a" false .emptyEcho, .register 5 false,
      .deliver 0 "b" false .emptyEcho, .deliver 0 "" false .emptyEcho, .register 6 true,
      .deliver 0 Terminator.trailer false .emptyEcho, .deliver 0 "c" false .emptyEcho,
      .deliver 0 Terminator.trailer false .emptyEcho, .deliver 0 "" false .emptyEcho]
    Served .emptyEcho es [] ops ∧ (es.map Exchange.id).Nodup ∧ (∀ e ∈ es, e.id ≠ unmatchedId) ∧
      (∀ e ∈ es, e.Proper .emptyEcho) ∧
      settlements (({} : RequestTable).steps ops) =
        [⟨0, .answered "ab"⟩, ⟨1, .answered "c"⟩, ⟨2, .answered ""⟩] := by
  intro es ops
  have served : Served .emptyEcho es [] ops :=
    .register (.answer (.register (.answer (.answer (.register (.trailer (by decide)
      (.answer (.trailer (by decide) (.answer .done)))))))))
  have ids : (es.map Exchange.id).Nodup := by decide
  have nonzero : ∀ e ∈ es, e.id ≠ unmatchedId := by decide
  have proper : ∀ e ∈ es, e.Proper .emptyEcho := by
    intro e he
    simp only [es, List.mem_cons, List.not_mem_nil, or_false] at he
    rcases he with rfl | rfl | rfl
    · exact ⟨by decide, by decide, fun hsingle => absurd hsingle (by decide)⟩
    · exact ⟨by decide, by decide, fun _ => ⟨"c", rfl⟩⟩
    · exact ⟨by decide, by decide, fun hsingle => absurd hsingle (by decide)⟩
  obtain ⟨-, hsettled, -⟩ := answered_in_turn .emptyEcho es ops served ids nonzero proper
  exact ⟨served, ids, nonzero, proper, hsettled⟩

end RequestTable

end RemoteConsole
