import RemoteConsole.Request.Journal
import Mathlib.Data.List.Nodup

/-!
# Looking requests up

What the operations of a table do to its requests, leaving its queue of ids aside. Looking for a
request (`route`) never changes one, so what becomes of a body depends on the request that it is
meant for and on the terminator alone (`deliver_eq`).
-/

namespace RemoteConsole

/-- Of a list whose keys are distinct, what has the key of a member is that member. -/
theorem filter_key_eq_of_nodup {α β : Type} [BEq β] [LawfulBEq β] {f : α → β} {l : List α} {a : α}
    (nodup : (l.map f).Nodup) (h : a ∈ l) : l.filter (fun b => f b == f a) = [a] := by
  induction l with
  | nil => simp at h
  | cons b l ih =>
    obtain ⟨hb, nodup⟩ := List.nodup_cons.mp nodup
    rcases List.mem_cons.mp h with rfl | h
    · have hrest : l.filter (fun b => f b == f a) = [] := by
        refine List.filter_eq_nil_iff.mpr fun c hc => ?_
        simpa using fun heq : f c = f a => hb (heq ▸ List.mem_map_of_mem hc)
      rw [List.filter_cons_of_pos (by simp), hrest]
    · have hne : f b ≠ f a := fun heq => hb (heq ▸ List.mem_map_of_mem h)
      rw [List.filter_cons_of_neg (by simpa using hne), ih nodup h]

namespace RequestTable

variable {t : RequestTable} {id : Int32} {r : Request}

/-- What is found under an id is pending. -/
theorem mem_of_find? (h : t.find? id = some r) : r ∈ t.pending :=
  List.mem_of_find?_eq_some h

/-- What is found under an id has that id. -/
theorem id_of_find? (h : t.find? id = some r) : r.id = id := by
  simpa using List.find?_some h

/-- An id is looked up with success exactly if a pending request has it. -/
theorem contains_iff : t.contains id = true ↔ ∃ r ∈ t.pending, r.id = id := by
  simp [contains, find?, List.find?_isSome]

/-- Nothing is found under an id that no pending request has. -/
theorem find?_eq_none_iff : t.find? id = none ↔ ∀ r ∈ t.pending, r.id ≠ id := by
  simp [find?, List.find?_eq_none]

/-- An id that is not pending is one under which nothing is found. -/
theorem contains_eq_false_iff : t.contains id = false ↔ t.find? id = none := by
  rw [contains, Option.isSome_eq_false_iff, Option.isNone_iff_eq_none]

/-- Requests with distinct ids are found under theirs. -/
theorem find?_of_mem (nodup : (t.pending.map Request.id).Nodup) (h : r ∈ t.pending) :
    t.find? r.id = some r := by
  obtain ⟨s, hs⟩ := Option.isSome_iff_exists.mp (contains_iff.mpr ⟨r, h, rfl⟩)
  rw [hs, List.inj_on_of_nodup_map nodup (mem_of_find? hs) h (id_of_find? hs)]

/-- Of requests with distinct ids, those with one id are the one that is found under it. -/
theorem filter_id_eq (nodup : (t.pending.map Request.id).Nodup) (id : Int32) :
    t.pending.filter (·.id == id) = (t.find? id).toList := by
  cases h : t.find? id with
  | none => simpa using find?_eq_none_iff.mp h
  | some r =>
    obtain rfl := id_of_find? h
    exact filter_key_eq_of_nodup nodup (mem_of_find? h)

/-- Of requests with distinct ids, looking one up takes them apart. -/
theorem perm_without (nodup : (t.pending.map Request.id).Nodup) (id : Int32) :
    ((t.find? id).toList ++ t.without id).Perm t.pending := by
  rw [← filter_id_eq nodup id]
  exact List.filter_append_perm _ _

/-- Without the request of an id, the ids are the others. -/
theorem map_id_without (t : RequestTable) (id : Int32) :
    (t.without id).map Request.id = (t.pending.map Request.id).filter (· != id) := by
  rw [without, List.filter_map]
  rfl

/-- A longer response leaves the ids as they are. -/
theorem map_id_append (t : RequestTable) (id : Int32) (body : String) :
    (t.append id body).pending.map Request.id = t.pending.map Request.id := by
  rw [append, List.map_map]
  refine List.map_congr_left fun s _ => ?_
  simp only [Function.comp_apply]
  split_ifs <;> rfl

/-- A longer response leaves the slots as they are. -/
theorem map_slot_append (t : RequestTable) (id : Int32) (body : String) :
    (t.append id body).pending.map Request.slot = t.pending.map Request.slot := by
  rw [append, List.map_map]
  refine List.map_congr_left fun s _ => ?_
  simp only [Function.comp_apply]
  split_ifs <;> rfl

/-- Looking for a request leaves the requests alone. -/
@[simp] theorem route_pending (t : RequestTable) (id : Int32) (strict : Bool) :
    (t.route id strict).2.pending = t.pending := by
  unfold route
  split_ifs <;> rfl

@[simp] theorem route_issued (t : RequestTable) (id : Int32) (strict : Bool) :
    (t.route id strict).2.issued = t.issued := by
  unfold route
  split_ifs <;> rfl

/-- What is complete is gone, whoever looked for it. -/
@[simp] theorem route_complete_pending (t : RequestTable) (i : Int32) (strict : Bool) (id : Int32) :
    ((t.route i strict).2.complete id).pending = t.without id := by
  rw [complete, without, route_pending]
  rfl

/-- What has arrived is kept, whoever looked where it belongs. -/
@[simp] theorem route_append_pending (t : RequestTable) (i : Int32) (strict : Bool) (id : Int32)
    (body : String) :
    ((t.route i strict).2.append id body).pending = (t.append id body).pending := by
  rw [append, append, route_pending]

@[simp] theorem complete_issued (t : RequestTable) (id : Int32) :
    (t.complete id).issued = t.issued :=
  rfl

@[simp] theorem append_issued (t : RequestTable) (id : Int32) (body : String) :
    (t.append id body).issued = t.issued :=
  rfl

/-- A request with the id of a body is the one that the body is meant for. -/
theorem route_of_contains (h : t.contains id = true) (strict : Bool) :
    t.route id strict = (some id, t) := by
  simp [route, h]

/-- A request is found under its id once it is registered. -/
theorem find?_register (t : RequestTable) (id : Int32) (multi : Bool) :
    (t.register id multi).1.find? id = some { slot := t.issued, id, multi } := by
  have hwithout : (t.without id).find? (·.id == id) = none := by
    simp [without, List.find?_eq_none]
  rw [find?, register, List.find?_append, hwithout]
  simp

/-- What is found under an id after its response has grown. -/
theorem find?_append (h : t.find? id = some r) (body : String) :
    (t.append id body).find? id = some { r with body := r.body ++ body } := by
  have hid := id_of_find? h
  rw [find?] at h
  rw [find?, append, List.find?_map]
  have hsame : ((fun request : Request => request.id == id) ∘ fun request =>
      if request.id == id then { request with body := request.body ++ body } else request) =
      fun request => request.id == id := by
    funext request
    dsimp only [Function.comp]
    split_ifs <;> rfl
  rw [hsame, h, Option.map_some, if_pos (by simpa using hid)]

/-- Nothing is found under an id whose request is complete. -/
theorem find?_complete (t : RequestTable) (id : Int32) : (t.complete id).find? id = none := by
  simp [find?, complete, without, List.find?_eq_none]

/-- The request that a body with an id is meant for. -/
def target? (t : RequestTable) (id : Int32) (strict : Bool) : Option Request :=
  (t.route id strict).1.bind t.find?

/-- The request that a body is meant for is pending, under the id by which it was found. -/
theorem find?_of_target? {strict : Bool} (h : t.target? id strict = some r) :
    t.find? r.id = some r := by
  obtain ⟨id', -, hr⟩ := Option.bind_eq_some_iff.mp h
  rw [id_of_find? hr, hr]

/-- A body is meant for the request with its id, if there is one. -/
theorem target?_of_find? (h : t.find? id = some r) (strict : Bool) :
    t.target? id strict = some r := by
  rw [target?, route_of_contains (by rw [contains, h]; rfl), Option.bind_some, h]

/-- What is no part of any response changes nothing. -/
theorem deliver_discarded (t : RequestTable) (id : Int32) (strict : Bool) {body : String}
    {terminator : Terminator} (h : terminator.discards body = true) :
    t.deliver id body strict terminator = (.discarded, t, none) := by
  rw [deliver, if_pos h]

/-- What becomes of a body: nothing if it is part of no response or no request is meant, and
otherwise it is added to the request's response or completes it. -/
theorem deliver_eq (t : RequestTable) (id : Int32) (body : String) (strict : Bool)
    (terminator : Terminator) :
    t.deliver id body strict terminator =
      if terminator.discards body then (.discarded, t, none)
      else
        match t.target? id strict with
        | none => (.unmatched, (t.route id strict).2, none)
        | some r =>
          if r.multi && !terminator.endsWith body then
            (.buffered r.id, (t.route id strict).2.append r.id body, none)
          else
            (.completed r.id, (t.route id strict).2.complete r.id,
              some ⟨r.slot, .answered (if r.multi then r.body else r.body ++ body)⟩) := by
  have hfind : (t.route id strict).2.find? = t.find? := by
    funext i
    simp only [find?, route_pending]
  rw [target?, ← hfind]
  rfl

/-- The three things that may become of a body: it changes no request, it is added to the response
to one, or it completes one. -/
theorem deliver_cases (t : RequestTable) (id : Int32) (body : String) (strict : Bool)
    (terminator : Terminator) :
    (∃ delivery t', (delivery = .discarded ∨ delivery = .unmatched) ∧ t'.pending = t.pending ∧
        t'.issued = t.issued ∧ t.deliver id body strict terminator = (delivery, t', none)) ∨
      (∃ r, t.target? id strict = some r ∧ terminator.discards body = false ∧ r.multi = true ∧
        terminator.endsWith body = false ∧ t.deliver id body strict terminator =
          (.buffered r.id, (t.route id strict).2.append r.id body, none)) ∨
      (∃ r, t.target? id strict = some r ∧ terminator.discards body = false ∧
        (r.multi = true → terminator.endsWith body = true) ∧ t.deliver id body strict terminator =
          (.completed r.id, (t.route id strict).2.complete r.id,
            some ⟨r.slot, .answered (if r.multi then r.body else r.body ++ body)⟩)) := by
  rw [deliver_eq]
  cases hdiscards : terminator.discards body with
  | true => exact .inl ⟨_, _, .inl rfl, rfl, rfl, rfl⟩
  | false =>
    cases htarget : t.target? id strict with
    | none => exact .inl ⟨_, _, .inr rfl, route_pending .., route_issued .., rfl⟩
    | some r =>
      cases hgoes : r.multi && !terminator.endsWith body with
      | true =>
        have hmulti := Bool.and_eq_true_iff.mp hgoes
        exact .inr (.inl ⟨r, rfl, rfl, hmulti.1, by simpa using hmulti.2, by simp [hgoes]⟩)
      | false =>
        refine .inr (.inr ⟨r, rfl, rfl, fun hmulti => ?_, by simp [hgoes]⟩)
        simpa [hmulti] using hgoes

/-- Where ids must match, a body is meant for the request with its id and for no other. -/
theorem deliver_strict (t : RequestTable) (id : Int32) (body : String) (terminator : Terminator) :
    t.deliver id body true terminator =
      if terminator.discards body then (.discarded, t, none)
      else
        match t.find? id with
        | none => (.unmatched, t, none)
        | some r =>
          if r.multi && !terminator.endsWith body then (.buffered id, t.append id body, none)
          else
            (.completed id, t.complete id,
              some ⟨r.slot, .answered (if r.multi then r.body else r.body ++ body)⟩) := by
  rw [deliver_eq]
  cases h : t.find? id with
  | none =>
    have hroute : t.route id true = (none, t) := by
      rw [route, if_neg (by simp [contains, h]), if_neg (by simp)]
    have htarget : t.target? id true = none := by rw [target?, hroute, Option.bind_none]
    rw [htarget, hroute]
  | some r =>
    have hcontains : t.contains id = true := by
      rw [contains, h]
      rfl
    rw [target?_of_find? h, route_of_contains hcontains true]
    dsimp only
    rw [id_of_find? h]

/-- Delivering a body opens no slot. -/
@[simp] theorem deliver_issued (t : RequestTable) (id : Int32) (body : String) (strict : Bool)
    (terminator : Terminator) : (t.deliver id body strict terminator).2.1.issued = t.issued := by
  rcases t.deliver_cases id body strict terminator with
    ⟨delivery, t', -, -, hissued, heq⟩ | ⟨r, -, -, -, -, heq⟩ | ⟨r, -, -, -, heq⟩
  · rw [heq, hissued]
  · rw [heq, append_issued, route_issued]
  · rw [heq, complete_issued, route_issued]

/-- What becomes of a body with the id of a request that may take several. -/
theorem deliver_of_find? (h : t.find? id = some r) (multi : r.multi = true) {body : String}
    {terminator : Terminator} (kept : terminator.discards body = false) (strict : Bool) :
    t.deliver id body strict terminator =
      if terminator.endsWith body then
        (.completed id, t.complete id, some ⟨r.slot, .answered r.body⟩)
      else (.buffered id, t.append id body, none) := by
  have hroute : t.route id strict = (some id, t) :=
    route_of_contains (by rw [contains, h]; rfl) strict
  rw [deliver_eq, if_neg (by simp [kept]), target?_of_find? h, hroute]
  dsimp only
  rw [id_of_find? h]
  cases terminator.endsWith body <;> simp [multi]

/-- A body with the id of a request that takes one packet completes the response to it. -/
theorem deliver_of_single (h : t.find? id = some r) (single : r.multi = false) {body : String}
    {terminator : Terminator} (kept : terminator.discards body = false) (strict : Bool) :
    t.deliver id body strict terminator =
      (.completed id, t.complete id, some ⟨r.slot, .answered (r.body ++ body)⟩) := by
  have hroute : t.route id strict = (some id, t) :=
    route_of_contains (by rw [contains, h]; rfl) strict
  rw [deliver_eq, if_neg (by simp [kept]), target?_of_find? h, hroute]
  dsimp only
  rw [id_of_find? h]
  simp [single]

end RequestTable

end RemoteConsole
