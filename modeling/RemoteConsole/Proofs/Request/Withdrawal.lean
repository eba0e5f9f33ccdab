import RemoteConsole.Proofs.Request.Ledger
import RemoteConsole.Proofs.Request.Queue

/-!
# Requests that are taken back at once

A request that is registered and taken back at once leaves nothing behind but its slot
(`remove_register`): as long as no id is registered while it is pending, the requests and the queue
of ids are what they were. From then on the table does what it would have done, to the same requests
and in the same order, and only the slots that it gives out later have other numbers
(`steps_withdrawn`).
-/

namespace RemoteConsole

/-- The number of a slot if the number `k` is left out. -/
def skipSlot (k n : Nat) : Nat :=
  if n < k then n else n + 1

/-- A settlement, with one number of a slot left out. -/
def Settlement.skip (k : Nat) (s : Settlement) : Settlement :=
  { s with slot := skipSlot k s.slot }

/-- A request, with one number of a slot left out. -/
def Request.skip (k : Nat) (r : Request) : Request :=
  { r with slot := skipSlot k r.slot }

@[simp] theorem Request.skip_id (k : Nat) (r : Request) : (r.skip k).id = r.id :=
  rfl

@[simp] theorem Request.skip_multi (k : Nat) (r : Request) : (r.skip k).multi = r.multi :=
  rfl

@[simp] theorem Request.skip_body (k : Nat) (r : Request) : (r.skip k).body = r.body :=
  rfl

namespace RequestTable

variable {t : RequestTable} {id : Int32} {k : Nat}

/-- What an operation returns, with one number of a slot left out. -/
def Reply.skip (k : Nat) : Reply → Reply
  | .slot n => .slot (skipSlot k n)
  | reply => reply

/-- A step of a history, with one number of a slot left out. -/
def Step.skip (k : Nat) (s : Step) : Step :=
  { s with reply := s.reply.skip k, ended := s.ended.map (Settlement.skip k) }

/-- The same requests in a table that has left out one number of a slot. -/
def skip (k : Nat) (t : RequestTable) : RequestTable where
  pending := t.pending.map (Request.skip k)
  order := t.order
  issued := t.issued + 1

/-- A table after a request was registered and taken back, if its id was neither pending nor in the
queue: a slot is used up. -/
def withdrawn (t : RequestTable) : RequestTable :=
  { t with issued := t.issued + 1 }

/-! ## Registering a request and taking it back -/

/-- A request that is taken back at once takes along what was pending under its id, and every
mention of it. -/
theorem remove_register (t : RequestTable) (id : Int32) (multi : Bool) :
    (t.register id multi).1.remove id =
      ({ pending := t.without id, order := t.order.filter (· != id), issued := t.issued + 1 },
        some ⟨t.issued, .dropped⟩) := by
  have hpending : (t.register id multi).1.without id = t.without id := by
    simp [register, without, List.filter_filter]
  have horder : (t.register id multi).1.order.filter (· != id) = t.order.filter (· != id) := by
    simp [register]
  rw [remove, hpending, horder, find?_register]
  rfl

/-- In a table whose queue is in step with its requests, nothing but the slot is left of it. -/
theorem Aligned.remove_register (h : t.Aligned) (absent : t.contains id = false) (multi : Bool) :
    (t.register id multi).1.remove id = (t.withdrawn, some ⟨t.issued, .dropped⟩) := by
  have hid : ∀ r ∈ t.pending, r.id ≠ id := find?_eq_none_iff.mp (contains_eq_false_iff.mp absent)
  have horder : t.order.filter (· != id) = t.order := by
    rw [h.order_eq, List.filter_map]
    exact congrArg (List.map Request.id) (without_eq_self hid)
  rw [RequestTable.remove_register, without_eq_self hid, horder]
  rfl

/-- A request that is taken back at once leaves the queue in step with the requests. -/
theorem Aligned.withdraw (h : t.Aligned) (id : Int32) (multi : Bool) :
    ((t.register id multi).1.remove id).1.Aligned := by
  rw [RequestTable.remove_register]
  have hwithout := h.without id
  exact ⟨hwithout.order_eq, hwithout.nodup, hwithout.ascending,
    fun r hr => Nat.lt_succ_of_lt (hwithout.slot_lt r hr), hwithout.single⟩

/-- No pending request has a slot that is still to be given out. -/
theorem Aligned.withdrawn_eq_skip (h : t.Aligned) : t.withdrawn = t.skip t.issued := by
  have hpending : t.pending.map (Request.skip t.issued) = t.pending := by
    calc t.pending.map (Request.skip t.issued) = t.pending.map id := by
          refine List.map_congr_left fun r hr => ?_
          rw [Request.skip, skipSlot, if_pos (h.slot_lt r hr)]
          rfl
      _ = t.pending := List.map_id _
  rw [skip, hpending]
  rfl

/-! ## A table that has left out a slot -/

theorem find?_skip (t : RequestTable) (k : Nat) (id : Int32) :
    (t.skip k).find? id = (t.find? id).map (Request.skip k) := by
  rw [find?, skip, List.find?_map]
  rfl

theorem contains_skip (t : RequestTable) (k : Nat) : (t.skip k).contains = t.contains := by
  funext id
  rw [contains, contains, find?_skip, Option.isSome_map]

theorem without_skip (t : RequestTable) (k : Nat) (id : Int32) :
    (t.skip k).without id = (t.without id).map (Request.skip k) := by
  rw [without, skip, List.filter_map]
  rfl

theorem route_skip (t : RequestTable) (k : Nat) (id : Int32) (strict : Bool) :
    (t.skip k).route id strict = ((t.route id strict).1, (t.route id strict).2.skip k) := by
  have hstale : (t.skip k).dropStale = t.dropStale.skip k := by
    rw [dropStale, contains_skip]
    rfl
  unfold route
  rw [contains_skip, hstale]
  split_ifs <;> rfl

theorem target?_skip (t : RequestTable) (k : Nat) (id : Int32) (strict : Bool) :
    (t.skip k).target? id strict = (t.target? id strict).map (Request.skip k) := by
  rw [target?, target?, route_skip]
  cases (t.route id strict).1 with
  | none => rfl
  | some i => exact find?_skip t k i

theorem complete_skip (t : RequestTable) (k : Nat) (id : Int32) :
    (t.skip k).complete id = (t.complete id).skip k := by
  rw [complete, without_skip]
  rfl

theorem append_skip (t : RequestTable) (k : Nat) (id : Int32) (body : String) :
    (t.skip k).append id body = (t.append id body).skip k := by
  have hpending : ((t.skip k).append id body).pending =
      (t.append id body).pending.map (Request.skip k) := by
    rw [append, append, skip, List.map_map, List.map_map]
    refine List.map_congr_left fun r _ => ?_
    rw [Function.comp_apply, Function.comp_apply, Request.skip_id]
    cases r.id == id <;> rfl
  calc (t.skip k).append id body
      = { t.skip k with pending := ((t.skip k).append id body).pending } := rfl
    _ = (t.append id body).skip k := by rw [hpending]; rfl

/-- A body goes to the same request. -/
theorem deliver_skip (t : RequestTable) (k : Nat) (id : Int32) (body : String) (strict : Bool)
    (terminator : Terminator) :
    (t.skip k).deliver id body strict terminator =
      ((t.deliver id body strict terminator).1, (t.deliver id body strict terminator).2.1.skip k,
        (t.deliver id body strict terminator).2.2.map (Settlement.skip k)) := by
  rw [deliver_eq, deliver_eq, target?_skip, route_skip]
  cases terminator.discards body with
  | true => rfl
  | false =>
    cases t.target? id strict with
    | none => rfl
    | some r =>
      dsimp only [Option.map_some]
      rw [append_skip, complete_skip, Request.skip_id, Request.skip_multi, Request.skip_body]
      cases r.multi <;> cases terminator.endsWith body <;> rfl

/-- Every operation does the same to it. -/
theorem apply_skip (hk : k ≤ t.issued) (op : Op) :
    (t.skip k).apply op =
      ((t.apply op).1.skip k, (t.apply op).2.1.skip k,
        (t.apply op).2.2.map (Settlement.skip k)) := by
  cases op with
  | register id multi =>
    have hslot : skipSlot k t.issued = t.issued + 1 := if_neg (Nat.not_lt.mpr hk)
    simp only [apply, register, find?_skip, without_skip, Option.map_map, Reply.skip, hslot]
    refine Prod.ext rfl (Prod.ext ?_ ?_)
    · simp [skip, Request.skip, hslot]
    · cases t.find? id <;> rfl
  | remove id =>
    simp only [apply, remove, find?_skip, without_skip]
    cases t.find? id <;> rfl
  | forget slot => rfl
  | deliver id body strict terminator =>
    simp only [apply, deliver_skip]
    cases (t.deliver id body strict terminator).2.2 <;> rfl
  | failAll error =>
    simp only [apply, failAll, skip, List.map_map, List.map_nil, List.length_map, Reply.skip]
    rfl

/-- No operation takes a slot back. -/
theorem issued_le_apply (t : RequestTable) (op : Op) : t.issued ≤ (t.apply op).2.1.issued := by
  cases op with
  | register id multi => exact Nat.le_succ _
  | deliver id body strict terminator => exact (deliver_issued t id body strict terminator).ge
  | remove _ | forget _ | failAll _ => exact Nat.le_refl _

/-- So does every history. -/
theorem steps_skip (hk : k ≤ t.issued) (ops : List Op) :
    (t.skip k).steps ops = (t.steps ops).map (Step.skip k) := by
  induction ops generalizing t with
  | nil => rfl
  | cons op ops ih =>
    have hstep : (t.skip k).step op = (t.step op).skip k := by
      rw [step, apply_skip hk]
      rfl
    have hafter : ((t.skip k).apply op).2.1 = (t.apply op).2.1.skip k := by rw [apply_skip hk]
    rw [steps, hstep, hafter, ih (Nat.le_trans hk (issued_le_apply t op))]
    rfl

/-- After a request was taken back, a history goes as it would have gone without it: the same bodies
go to the same requests, the same requests end in the same ways, and later requests have slots that
are one higher. -/
theorem Aligned.steps_withdrawn (h : t.Aligned) (ops : List Op) :
    t.withdrawn.steps ops = (t.steps ops).map (Step.skip t.issued) := by
  rw [h.withdrawn_eq_skip]
  exact steps_skip (Nat.le_refl _) ops

end RequestTable

end RemoteConsole
