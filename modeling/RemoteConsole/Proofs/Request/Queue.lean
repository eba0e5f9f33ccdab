import RemoteConsole.Proofs.Request.Lookup
import Mathlib.Data.List.Sort

/-!
# A table as a plain queue

A table finds requests by id and beside them keeps a queue of ids. `RequestQueue` is the same thing
without the second structure: the requests that wait, oldest first, and nothing else. As long as no
id is registered while it is pending, an observer cannot tell the two apart
(`run_eq_observe_of_registersFresh`). Under that condition the table's queue never holds a stale id:
it is the list of the ids of the pending requests (`Aligned`).
-/

namespace RemoteConsole

/-- The requests that wait, oldest first. -/
structure RequestQueue where
  /-- The requests in order of registration. -/
  waiting : List Request := []
  /-- The number of requests ever registered. -/
  issued : Nat := 0
deriving Repr, DecidableEq

namespace RequestQueue

open RequestTable (Op Reply)

/-- The request that a body with an id is meant for: the one with the id, or the head of the queue
where ids need not match and the id is 0. -/
def target? (q : RequestQueue) (id : Int32) (strict : Bool) : Option Request :=
  match q.waiting.find? (·.id == id) with
  | some r => some r
  | none => if strict = false ∧ id = 0 then q.waiting.head? else none

/-- The body at which a response of several packets is complete: the echo of an empty packet, or the
body that was agreed on. -/
def lastBody : Terminator → String
  | .emptyEcho => ""
  | .body text => text

/-- Hands a body to the request it is meant for, unless it is the one that some servers send after
the echo of an empty packet. -/
def deliver (q : RequestQueue) (id : Int32) (body : String) (strict : Bool)
    (terminator : Terminator) : Delivery × RequestQueue × List Settlement :=
  if terminator = .emptyEcho ∧ body = "\x00\x01\x00\x00" then (.discarded, q, [])
  else
    match q.target? id strict with
    | none => (.unmatched, q, [])
    | some r =>
      let without := { q with waiting := q.waiting.erase r }
      match r.multi with
      | false => (.completed r.id, without, [⟨r.slot, .answered body⟩])
      | true =>
        if body = lastBody terminator then (.completed r.id, without, [⟨r.slot, .answered r.body⟩])
        else
          let longer := { r with body := r.body ++ body }
          (.buffered r.id, { q with waiting := q.waiting.map fun s => if s = r then longer else s },
            [])

/-- Runs one operation: what it returns, the queue after it, and the slots it ended. -/
def apply (q : RequestQueue) : Op → Reply × RequestQueue × List Settlement
  | .register id multi =>
    let r : Request := { slot := q.issued, id, multi }
    (.slot q.issued, { waiting := q.waiting ++ [r], issued := q.issued + 1 }, [])
  | .remove id =>
    match q.waiting.find? (·.id == id) with
    | some r => (.removed true, { q with waiting := q.waiting.erase r }, [⟨r.slot, .dropped⟩])
    | none => (.removed false, q, [])
  | .forget _ => (.forgotten, q, [])
  | .deliver id body strict terminator =>
    let (delivery, q, ended) := q.deliver id body strict terminator
    (.delivery delivery, q, ended)
  | .failAll error =>
    (.failed q.waiting.length, { q with waiting := [] },
      q.waiting.map fun r => ⟨r.slot, .failed error⟩)

/-- The slots that an observer no longer looks at after an operation. -/
def forgottenAfter (forgotten : List Nat) : Op → List Nat
  | .forget slot => slot :: forgotten
  | _ => forgotten

/-- What an observer sees of a history who no longer looks at some slots. -/
def observe (q : RequestQueue) (forgotten : List Nat) : List Op → List RequestJournal.Entry
  | [] => []
  | op :: ops =>
    let (reply, q, ended) := q.apply op
    let seen := ended.filter fun s => !forgotten.contains s.slot
    { reply, size := q.waiting.length, ended := seen } ::
      q.observe (forgottenAfter forgotten op) ops

end RequestQueue

namespace RequestTable

/-- Whether an operation registers no request whose id is pending. -/
def isFresh (t : RequestTable) : Op → Bool
  | .register id _ => !t.contains id
  | _ => true

/-- Whether a history registers no request while its id is pending. -/
def registersFresh (t : RequestTable) : List Op → Bool
  | [] => true
  | op :: ops => t.isFresh op && (t.apply op).2.1.registersFresh ops

/-- An id that may be registered is the id of no pending request. -/
theorem ne_id_of_isFresh {t : RequestTable} {id : Int32} {multi : Bool}
    (h : t.isFresh (.register id multi) = true) : ∀ r ∈ t.pending, r.id ≠ id := by
  rw [isFresh, Bool.not_eq_true', ← Bool.not_eq_true, contains_iff] at h
  simpa using h

/-- A table whose queue of ids is in step with its requests: it is the list of their ids, which are
distinct, and their slots ascend. Nothing has arrived for a request of one packet. -/
structure Aligned (t : RequestTable) : Prop where
  /-- The queue holds the ids of the pending requests and no others. -/
  order_eq : t.order = t.pending.map Request.id
  /-- No two pending requests share an id. -/
  nodup : (t.pending.map Request.id).Nodup
  /-- Requests stand in order of registration. -/
  ascending : (t.pending.map Request.slot).Pairwise (· < ·)
  /-- Every slot was given out. -/
  slot_lt : ∀ r ∈ t.pending, r.slot < t.issued
  /-- A response of one packet is empty until it is complete. -/
  single : ∀ r ∈ t.pending, r.multi = false → r.body = ""

/-- The plain queue of the requests of a table. -/
def toQueue (t : RequestTable) : RequestQueue :=
  { waiting := t.pending, issued := t.issued }

/-- Every queue of distinct ids is cut down by one id in the same way, whether that id is in front
or not. -/
theorem orderWithout_of_nodup {order : List Int32} (h : order.Nodup) (id : Int32) :
    orderWithout order id = order.filter (· != id) := by
  cases order with
  | nil => rfl
  | cons first rest =>
    obtain ⟨hfirst, -⟩ := List.nodup_cons.mp h
    simp only [orderWithout]
    split_ifs with heq
    · obtain rfl := beq_iff_eq.mp heq
      rw [List.filter_cons_of_neg (by simp), List.filter_eq_self.mpr]
      intro i hi
      simpa using ne_of_mem_of_not_mem hi hfirst
    · rfl

/-- What a table discards is what the queue leaves out. -/
theorem discards_iff {terminator : Terminator} {body : String} :
    terminator.discards body = true ↔ terminator = .emptyEcho ∧ body = "\x00\x01\x00\x00" := by
  cases terminator <;> simp [Terminator.discards, Terminator.trailer]

namespace Aligned

variable {t : RequestTable} {id : Int32} {r s : Request}

/-- An empty table is aligned. -/
theorem empty (n : Nat) : ({ issued := n } : RequestTable).Aligned where
  order_eq := rfl
  nodup := by simp
  ascending := by simp
  slot_lt := by simp
  single := by simp

/-- Two pending requests with one id are the same. -/
theorem eq_of_id_eq (h : t.Aligned) (hr : r ∈ t.pending) (hs : s ∈ t.pending) (hid : r.id = s.id) :
    r = s :=
  List.inj_on_of_nodup_map h.nodup hr hs hid

/-- Taking a request out by its id takes out that request. -/
theorem without_eq_erase (h : t.Aligned) (hr : r ∈ t.pending) :
    t.without r.id = t.pending.erase r := by
  rw [h.nodup.of_map.erase_eq_filter, without]
  refine List.filter_congr fun s hs => ?_
  rw [Bool.eq_iff_iff, bne_iff_ne, bne_iff_ne, not_iff_not]
  exact ⟨h.eq_of_id_eq hs hr, congrArg _⟩

/-- Nothing is taken out under an id that is not pending. -/
theorem without_eq_self (hid : ∀ s ∈ t.pending, s.id ≠ id) : t.without id = t.pending :=
  List.filter_eq_self.mpr fun s hs => by simpa using hid s hs

/-- The table without one of its requests, and without its id in the queue, is aligned. -/
theorem without (h : t.Aligned) (id : Int32) :
    ({ t with pending := t.without id, order := t.order.filter (· != id) } :
      RequestTable).Aligned where
  order_eq := by rw [map_id_without, ← h.order_eq]
  nodup := by rw [map_id_without]; exact h.nodup.filter _
  ascending := h.ascending.sublist (List.filter_sublist.map _)
  slot_lt r hr := h.slot_lt r (List.mem_of_mem_filter hr)
  single r hr := h.single r (List.mem_of_mem_filter hr)

/-- A new request under a fresh id goes behind the others. -/
theorem push (h : t.Aligned) (fresh : ∀ s ∈ t.pending, s.id ≠ id) (multi : Bool) :
    ({ pending := t.pending ++ [{ slot := t.issued, id, multi }]
       order := t.order ++ [id]
       issued := t.issued + 1 } : RequestTable).Aligned where
  order_eq := by simp [h.order_eq]
  nodup := by
    rw [List.map_append, List.nodup_append]
    refine ⟨h.nodup, by simp, ?_⟩
    simpa using fresh
  ascending := by
    rw [List.map_append, List.pairwise_append]
    refine ⟨h.ascending, by simp, ?_⟩
    simpa using h.slot_lt
  slot_lt := by
    intro s hs
    rcases List.mem_append.mp hs with hs | hs
    · exact Nat.lt_succ_of_lt (h.slot_lt s hs)
    · obtain rfl := List.mem_singleton.mp hs
      exact Nat.lt_succ_self _
  single := by
    intro s hs hm
    rcases List.mem_append.mp hs with hs | hs
    · exact h.single s hs hm
    · obtain rfl := List.mem_singleton.mp hs
      rfl

/-- A longer response to a request of several packets leaves the table aligned. -/
theorem append (h : t.Aligned) (hr : r ∈ t.pending) (multi : r.multi = true) (body : String) :
    (t.append r.id body).Aligned := by
  refine ⟨by rw [map_id_append]; exact h.order_eq, by rw [map_id_append]; exact h.nodup,
    by rw [map_slot_append]; exact h.ascending, ?_, ?_⟩
  · intro s hs
    obtain ⟨s', hs', rfl⟩ := List.mem_map.mp hs
    have := h.slot_lt s' hs'
    split_ifs <;> exact this
  · intro s hs hm
    obtain ⟨s', hs', rfl⟩ := List.mem_map.mp hs
    split_ifs at hm ⊢ with heq
    · -- The request that grew is the one of several packets.
      rw [h.eq_of_id_eq hs' hr (beq_iff_eq.mp heq)] at hm
      simp [multi] at hm
    · exact h.single s' hs' hm

/-- Every id in the queue is pending, so there is nothing to tidy. -/
theorem dropStale_eq (h : t.Aligned) : t.dropStale = t := by
  have hhead : t.order.dropWhile (fun id => !t.contains id) = t.order := by
    rw [h.order_eq]
    cases hp : t.pending with
    | nil => rfl
    | cons r rest =>
      have : t.contains r.id = true := contains_iff.mpr ⟨r, by simp [hp], rfl⟩
      simp [this]
  unfold dropStale
  rw [hhead]

/-- Looking for a request leaves the whole table alone. -/
theorem route_snd (h : t.Aligned) (id : Int32) (strict : Bool) : (t.route id strict).2 = t := by
  unfold route
  split_ifs
  · rfl
  · exact h.dropStale_eq
  · rfl

/-- A body is meant for the same request of the table and of the queue. -/
theorem target?_eq (h : t.Aligned) (id : Int32) (strict : Bool) :
    t.target? id strict = t.toQueue.target? id strict := by
  unfold RequestTable.target? RequestQueue.target?
  change _ = match t.find? id with
    | some r => some r
    | none => if strict = false ∧ id = 0 then t.pending.head? else none
  cases hf : t.find? id with
  | some r =>
    rw [route_of_contains (by rw [contains, hf]; rfl)]
    exact hf
  | none =>
    have hc : t.contains id = false := contains_eq_false_iff.mpr hf
    rw [route, if_neg (by simp [hc])]
    by_cases hz : strict = false ∧ id = 0
    · rw [if_pos (by simp [hz.1, hz.2, unmatchedId]), h.dropStale_eq]
      simp only [if_pos hz, h.order_eq]
      cases hp : t.pending with
      | nil => rfl
      | cons r rest => exact find?_of_mem h.nodup (by simp [hp])
    · rw [if_neg (by simpa [unmatchedId] using hz), if_neg hz]
      rfl

/-- A request that is complete is taken out of the requests and out of the queue of ids. -/
theorem complete_eq (h : t.Aligned) (id : Int32) :
    t.complete id = { t with pending := t.without id, order := t.order.filter (· != id) } := by
  have : t.order.Nodup := by rw [h.order_eq]; exact h.nodup
  rw [complete, orderWithout_of_nodup this]

/-- A request that is complete is taken out of the requests. -/
theorem complete_pending (h : t.Aligned) (hr : r ∈ t.pending) :
    (t.complete r.id).pending = t.pending.erase r := by
  rw [← h.without_eq_erase hr]
  rfl

/-- Only the request that a body is meant for grows. -/
theorem append_pending (h : t.Aligned) (hr : r ∈ t.pending) (body : String) :
    (t.append r.id body).pending =
      t.pending.map fun s => if s = r then { r with body := r.body ++ body } else s := by
  refine List.map_congr_left fun s hs => ?_
  by_cases heq : s = r
  · simp [heq]
  · have hid : s.id ≠ r.id := fun hid => heq (h.eq_of_id_eq hs hr hid)
    simp [heq, hid]

/-- A body leaves an aligned table aligned, whatever becomes of it. -/
theorem deliver_aligned (h : t.Aligned) (id : Int32) (body : String) (strict : Bool)
    (terminator : Terminator) : (t.deliver id body strict terminator).2.1.Aligned := by
  rw [deliver_eq, h.route_snd]
  split_ifs
  · exact h
  · cases ht : t.target? id strict with
    | none => exact h
    | some r =>
      have hr := mem_of_find? (find?_of_target? ht)
      dsimp only
      cases hm : r.multi && !terminator.endsWith body with
      | true => exact h.append hr (Bool.and_eq_true_iff.mp hm).1 body
      | false =>
        have := h.without r.id
        rw [← h.complete_eq] at this
        exact this

/-- The same becomes of a body in the table and in the queue. -/
theorem deliver_toQueue (h : t.Aligned) (id : Int32) (body : String) (strict : Bool)
    (terminator : Terminator) :
    t.toQueue.deliver id body strict terminator =
      ((t.deliver id body strict terminator).1, (t.deliver id body strict terminator).2.1.toQueue,
        (t.deliver id body strict terminator).2.2.toList) := by
  have hlast : RequestQueue.lastBody terminator = terminator.marker := by cases terminator <;> rfl
  rw [deliver_eq, h.route_snd, RequestQueue.deliver, ← h.target?_eq]
  simp only [← discards_iff, hlast, ← Terminator.endsWith_iff]
  cases hd : terminator.discards body with
  | true => rfl
  | false =>
    cases ht : t.target? id strict with
    | none => rfl
    | some r =>
      have hr := mem_of_find? (find?_of_target? ht)
      cases hm : r.multi with
      | false =>
        -- Nothing has arrived for the request, so its response is the body alone.
        simp [toQueue, h.complete_pending hr, h.single r hr hm, hm]
      | true =>
        cases he : terminator.endsWith body with
        | true => simp [toQueue, h.complete_pending hr, hm]
        | false => simp [toQueue, h.append_pending hr, hm]

/-- An operation that registers no pending id leaves an aligned table aligned. -/
theorem apply_aligned (h : t.Aligned) (op : Op)
    (fresh : t.isFresh op = true) : (t.apply op).2.1.Aligned := by
  cases op with
  | register id multi =>
    have hid := ne_id_of_isFresh fresh
    have := h.push hid multi
    rw [← without_eq_self hid] at this
    exact this
  | remove id => exact h.without id
  | forget slot => exact h
  | deliver id body strict terminator => exact h.deliver_aligned id body strict terminator
  | failAll error => exact empty t.issued

/-- An operation that registers no pending id does the same to the table and to the queue. -/
theorem apply_toQueue (h : t.Aligned) (op : Op)
    (fresh : t.isFresh op = true) :
    t.toQueue.apply op = ((t.apply op).1, (t.apply op).2.1.toQueue, (t.apply op).2.2) := by
  cases op with
  | register id multi =>
    have hid := ne_id_of_isFresh fresh
    simp [RequestQueue.apply, apply, register, toQueue, without_eq_self hid,
      find?_eq_none_iff.mpr hid]
  | remove id =>
    change (match t.find? id with
      | some r => _
      | none => _) = _
    cases hf : t.find? id with
    | some r =>
      have herase := h.without_eq_erase (mem_of_find? hf)
      rw [id_of_find? hf] at herase
      simp [apply, remove, toQueue, hf, herase]
    | none =>
      have hself := without_eq_self (find?_eq_none_iff.mp hf)
      simp [apply, remove, toQueue, hf, hself]
  | forget slot => rfl
  | deliver id body strict terminator =>
    rw [RequestQueue.apply, h.deliver_toQueue]
    rfl
  | failAll error => simp [RequestQueue.apply, apply, failAll, toQueue]

/-- The slots that an operation ends ascend. -/
theorem ended_ascending (h : t.Aligned) (op : Op) :
    (t.apply op).2.2.Pairwise fun a b => a.slot ≤ b.slot := by
  have hoption : ∀ o : Option Settlement, o.toList.Pairwise fun a b => a.slot ≤ b.slot := by
    rintro (_ | s) <;> simp
  cases op with
  | register id multi => exact hoption _
  | remove id => exact hoption _
  | forget slot => exact .nil
  | deliver id body strict terminator => exact hoption _
  | failAll error =>
    have := List.pairwise_map.mp h.ascending
    exact List.pairwise_map.mpr (this.imp fun hlt => Nat.le_of_lt hlt)

end Aligned

end RequestTable

namespace RequestJournal

open RequestTable (Op)

/-- From an aligned table on, an observer sees the same of the table as of the queue. -/
theorem run_eq_observe_of_aligned {j : RequestJournal} (h : j.table.Aligned) (ops : List Op)
    (fresh : j.table.registersFresh ops = true) :
    (j.run ops).1 = j.table.toQueue.observe j.forgotten ops := by
  induction ops generalizing j with
  | nil => rfl
  | cons op ops ih =>
    rw [RequestTable.registersFresh, Bool.and_eq_true] at fresh
    obtain ⟨hop, hops⟩ := fresh
    have hvisible : j.visible (j.table.apply op).2.2 =
        (j.table.apply op).2.2.filter fun s => !j.forgotten.contains s.slot := by
      -- The settlements stand in order already, so sorting them changes nothing.
      refine List.mergeSort_of_pairwise ?_
      simpa using (h.ended_ascending op).filter _
    have hnext := ih (j := (j.step op).2) (h.apply_aligned op hop) hops
    rw [RequestQueue.observe, h.apply_toQueue op hop]
    dsimp only
    rw [← hvisible]
    change (j.step op).1 :: ((j.step op).2.run ops).1 = _
    rw [hnext]
    cases op <;> rfl

/-- A history that registers no id while it is pending looks the same on a table as on a plain
queue: every reply, every number of pending requests, and every slot that ends. -/
theorem run_eq_observe_of_registersFresh (ops : List Op)
    (fresh : ({} : RequestTable).registersFresh ops = true) :
    (({} : RequestJournal).run ops).1 = ({} : RequestQueue).observe [] ops :=
  run_eq_observe_of_aligned (.empty 0) ops fresh

/-- Two requests, the first of several packets, on a server that repeats ids now and then: an id is
registered again once its request is complete, and what is left fails. -/
theorem run_eq_observe_reused_id :
    let ops : List Op := [.register 1 true, .register 2 false, .deliver 0 "a" false .emptyEcho,
      .deliver 2 "b" false .emptyEcho, .deliver 0 "" false .emptyEcho, .register 2 false,
      .register 1 true, .remove 2, .failAll .connectionClosed]
    ({} : RequestTable).registersFresh ops = true ∧
      (({} : RequestJournal).run ops).1 = ({} : RequestQueue).observe [] ops :=
  ⟨by decide, run_eq_observe_of_registersFresh _ (by decide)⟩

end RequestJournal

end RemoteConsole
