import RemoteConsole.Proofs.Request.Ledger

/-!
# Commands do not disturb each other

Where responses must repeat the id of their command, what a history says of the requests with one id
is what is left of the history when every operation on another id is struck out of it
(`portion_eq_of_strict`). The slots are numbered over all ids, so those of the shorter history have
other numbers, and the two are compared under the list of the slots of the id.

The proof runs both histories side by side. The requests of the long one with the id are those of
the short one (`Mirrors`). An operation that names the id does the same to both, one that names
another id does nothing to these requests, and failing all requests ends them in both.
-/

namespace RemoteConsole

/-- A settlement under the slot that has its number on a list. -/
def Settlement.relabel (slots : List Nat) (s : Settlement) : Settlement :=
  { s with slot := slots.getD s.slot s.slot }

/-- A request under the slot that has its number on a list. -/
def Request.relabel (slots : List Nat) (r : Request) : Request :=
  { r with slot := slots.getD r.slot r.slot }

namespace RequestTable

/-- A reply that names the slot which has its number on a list. -/
def Reply.relabel (slots : List Nat) : Reply → Reply
  | .slot n => .slot (slots.getD n n)
  | reply => reply

/-- Whether an operation names an id. -/
def Op.names (id : Int32) : Op → Bool
  | .register i _ | .remove i | .deliver i _ _ _ => i == id
  | .forget _ | .failAll _ => false

/-- Whether an operation delivers no body that need not repeat an id. -/
def Op.isStrict : Op → Bool
  | .deliver _ _ strict _ => strict
  | _ => true

/-- What is left of an operation in a history of one id, whose slots are numbered anew: it is kept
if it names the id or one of its slots, or ends every request. -/
def Op.restrict (id : Int32) (slots : List Nat) (op : Op) : Option Op :=
  match op with
  | .forget slot => if slot ∈ slots then some (.forget (slots.idxOf slot)) else none
  | .failAll error => some (.failAll error)
  | op => if op.names id then some op else none

/-- The slots of the requests with an id, in order of registration. -/
def slotsOf (id : Int32) (past : List Step) : List Nat :=
  (past.filter (·.op.names id)).filterMap Step.slot?

/-- What the operations that name an id returned. -/
def replies (id : Int32) (past : List Step) : List Reply :=
  (past.filter (·.op.names id)).map Step.reply

/-- What a history says of the requests with one id. -/
@[ext] structure Portion where
  /-- What the operations that name the id returned. -/
  replies : List Reply
  /-- The slots of the id that ended, and how. -/
  ended : List Settlement
  /-- The requests with the id that are pending. -/
  pending : List Request
deriving Repr, DecidableEq

/-- The same under the slots that have their numbers on a list. -/
def Portion.relabel (slots : List Nat) (p : Portion) : Portion where
  replies := p.replies.map (·.relabel slots)
  ended := p.ended.map (·.relabel slots)
  pending := p.pending.map (·.relabel slots)

/-- What a history of an empty table says of the requests with one id. -/
def portion (id : Int32) (ops : List Op) : Portion :=
  let past := ({} : RequestTable).steps ops
  let slots := slotsOf id past
  { replies := replies id past
    ended := (settlements past).filter fun s => slots.contains s.slot
    pending := (({} : RequestTable).after ops).pending.filter fun r => slots.contains r.slot }

variable {id i : Int32} {slots : List Nat} {t t' u : RequestTable}
  {past full own full' own' : List Step}

/-! ## Requests with other ids -/

/-- Taking out a request leaves those with other ids. -/
theorem filter_without_of_ne (t : RequestTable) (h : i ≠ id) :
    (t.without i).filter (·.id == id) = t.pending.filter (·.id == id) := by
  rw [without, List.filter_filter]
  refine List.filter_congr fun r _ => ?_
  by_cases hr : r.id = id
  · simp [hr, Ne.symm h]
  · simp [hr]

/-- Taking out a request leaves none with its id. -/
theorem filter_without_self (t : RequestTable) (id : Int32) :
    (t.without id).filter (·.id == id) = [] := by
  simp [without, List.filter_filter]

/-- A longer response to one request leaves the requests with its id where they are. -/
theorem filter_append (t : RequestTable) (i id : Int32) (body : String) :
    (t.append i body).pending.filter (·.id == id) =
      (t.pending.filter (·.id == id)).map fun r =>
        if r.id == i then { r with body := r.body ++ body } else r := by
  rw [append, List.filter_map]
  congr 1
  refine List.filter_congr fun r _ => ?_
  simp only [Function.comp_apply]
  split_ifs <;> rfl

/-- A longer response to one request leaves those with other ids. -/
theorem filter_append_of_ne (t : RequestTable) (h : i ≠ id) (body : String) :
    (t.append i body).pending.filter (·.id == id) = t.pending.filter (·.id == id) := by
  rw [filter_append]
  refine (List.map_congr_left fun r hr => ?_).trans (List.map_id _)
  have hid : r.id = id := by simpa using (List.mem_filter.mp hr).2
  exact if_neg (by simpa [hid] using Ne.symm h)

/-! ## The two histories side by side -/

/-- The requests of one table with some id are those of another table. -/
structure Mirrors (id : Int32) (slots : List Nat) (t u : RequestTable) : Prop where
  /-- Of the pending requests, those with the id have its slots. -/
  mine : ∀ r ∈ t.pending, r.slot ∈ slots ↔ r.id = id
  /-- The requests with the id are those of the other table. -/
  pending : t.pending.filter (·.id == id) = u.pending.map (Request.relabel slots)

/-- Two histories say the same of the requests with an id. -/
structure Agrees (id : Int32) (slots : List Nat) (full own : List Step) : Prop where
  /-- The operations that name the id returned the same. -/
  replies_eq : replies id full = (replies id own).map (·.relabel slots)
  /-- The slots of the id ended in the same ways. -/
  ended_eq : (settlements full).filter (fun s => slots.contains s.slot) =
    (settlements own).map (·.relabel slots)

/-- Two histories that agree may be continued by two that agree. -/
theorem Agrees.append (h : Agrees id slots full own) (h' : Agrees id slots full' own') :
    Agrees id slots (full ++ full') (own ++ own') where
  replies_eq := by
    have hreplies : ∀ past more,
        replies id (past ++ more) = replies id past ++ replies id more := by
      intro past more
      rw [replies, List.filter_append, List.map_append]
      rfl
    rw [hreplies, hreplies, h.replies_eq, h'.replies_eq, List.map_append]
  ended_eq := by
    rw [settlements_append, settlements_append, List.filter_append, List.map_append, h.ended_eq,
      h'.ended_eq]

/-- A step that does not concern the id adds nothing to what is said of it. -/
theorem Agrees.aside {s : Step} (hnames : s.op.names id = false)
    (hended : s.ended.filter (fun s => slots.contains s.slot) = []) : Agrees id slots [s] [] where
  replies_eq := by simp [replies, hnames]
  ended_eq := by simpa [settlements] using hended

/-- A step that concerns the id adds the same to both histories. -/
theorem Agrees.both {s s' : Step} (hnames : s'.op.names id = s.op.names id)
    (hreply : s.op.names id = true → s.reply = s'.reply.relabel slots)
    (hended : s.ended.filter (fun s => slots.contains s.slot) = s'.ended.map (·.relabel slots)) :
    Agrees id slots [s] [s'] where
  replies_eq := by
    cases h : s.op.names id with
    | true => simp [replies, hnames, h, hreply h]
    | false => simp [replies, hnames, h]
  ended_eq := by simpa [settlements] using hended

namespace Mirrors

/-- Every request of the shorter history has the id. -/
theorem id_eq (h : Mirrors id slots t u) : ∀ r ∈ u.pending, r.id = id := by
  intro r hr
  have hmem : r.relabel slots ∈ t.pending.filter (·.id == id) := by
    rw [h.pending]
    exact List.mem_map_of_mem hr
  exact beq_iff_eq.mp (List.mem_filter.mp hmem).2

/-- The request that is found under the id is the same in both. -/
theorem find?_eq (h : Mirrors id slots t u) :
    t.find? id = (u.find? id).map (Request.relabel slots) := by
  have hu : u.pending.filter (·.id == id) = u.pending :=
    List.filter_eq_self.mpr fun r hr => by simpa using h.id_eq r hr
  unfold find?
  rw [← List.head?_filter, ← List.head?_filter, hu, h.pending, List.head?_map]

/-- What ends the request with the id ends it in both. -/
theorem ended_eq (h : Mirrors id slots t u) (outcome : Request → Outcome)
    (hsame : ∀ r : Request, outcome (r.relabel slots) = outcome r) :
    ((t.find? id).map fun r => (⟨r.slot, outcome r⟩ : Settlement)).toList.filter
        (fun s => slots.contains s.slot) =
      ((u.find? id).map fun r => (⟨r.slot, outcome r⟩ : Settlement)).toList.map
        (·.relabel slots) := by
  have heq := h.find?_eq
  cases hu : u.find? id with
  | none =>
    rw [hu] at heq
    rw [heq]
    rfl
  | some r =>
    rw [hu] at heq
    have hmine : (r.relabel slots).slot ∈ slots :=
      (h.mine _ (mem_of_find? heq)).mpr (id_of_find? heq)
    rw [heq]
    change [(⟨(r.relabel slots).slot, outcome (r.relabel slots)⟩ : Settlement)].filter _ = _
    rw [List.filter_cons_of_pos (by simpa using hmine), hsame]
    rfl

/-- What ends the request with another id ends none with the id. -/
theorem ended_eq_nil (h : Mirrors id slots t u) (hne : i ≠ id) (outcome : Request → Outcome) :
    ((t.find? i).map fun r => (⟨r.slot, outcome r⟩ : Settlement)).toList.filter
      (fun s => slots.contains s.slot) = [] := by
  cases hi : t.find? i with
  | none => rfl
  | some r =>
    have hother : r.slot ∉ slots := by
      rw [h.mine r (mem_of_find? hi), id_of_find? hi]
      exact hne
    simp [hother]

/-- An operation on another id leaves the mirror alone. -/
theorem aside (h : Mirrors id slots t u) (hmine : ∀ r ∈ t'.pending, r.slot ∈ slots ↔ r.id = id)
    (hpending : t'.pending.filter (·.id == id) = t.pending.filter (·.id == id)) :
    Mirrors id slots t' u :=
  ⟨hmine, hpending.trans h.pending⟩

theorem mine_without (h : Mirrors id slots t u) (i : Int32) :
    ∀ r ∈ t.without i, r.slot ∈ slots ↔ r.id = id :=
  fun r hr => h.mine r (List.mem_of_mem_filter hr)

theorem mine_append (h : Mirrors id slots t u) (i : Int32) (body : String) :
    ∀ r ∈ (t.append i body).pending, r.slot ∈ slots ↔ r.id = id := by
  intro r hr
  obtain ⟨r₀, hr₀, rfl⟩ := List.mem_map.mp hr
  have hmine := h.mine r₀ hr₀
  split_ifs <;> exact hmine

/-- Taking out the request with the id takes it out of both. -/
theorem without (h : Mirrors id slots t u) {t' u' : RequestTable} (ht : t'.pending = t.without id)
    (hu : u'.pending = u.without id) : Mirrors id slots t' u' where
  mine := by
    rw [ht]
    exact h.mine_without id
  pending := by
    have hnone : u.without id = [] :=
      List.filter_eq_nil_iff.mpr fun r hr => by simpa using h.id_eq r hr
    rw [ht, hu, filter_without_self, hnone]
    rfl

/-- A longer response to the request with the id is longer in both. -/
theorem append (h : Mirrors id slots t u) (body : String) :
    Mirrors id slots (t.append id body) (u.append id body) where
  mine := h.mine_append id body
  pending := by
    rw [filter_append, h.pending, RequestTable.append, List.map_map, List.map_map]
    refine List.map_congr_left fun r _ => ?_
    by_cases hr : r.id = id
    · simp [Request.relabel, hr]
    · simp [Request.relabel, hr]

/-- Registering a request with another id leaves the mirror alone. -/
theorem register_of_ne (h : Mirrors id slots t u) (hne : i ≠ id) (hopen : t.issued ∉ slots)
    (multi : Bool) : Mirrors id slots (t.register i multi).1 u := by
  refine h.aside ?_ ?_
  · intro r hr
    rcases List.mem_append.mp hr with hr | hr
    · exact h.mine_without i r hr
    · obtain rfl := List.mem_singleton.mp hr
      exact iff_of_false hopen hne
  · change (t.without i ++ [_]).filter _ = _
    rw [List.filter_append, filter_without_of_ne t hne,
      List.filter_cons_of_neg (by simpa using hne)]
    exact List.append_nil _

/-- Registering a request with the id registers it in both. -/
theorem register (h : Mirrors id slots t u) (hopen : slots[u.issued]? = some t.issued)
    (multi : Bool) : Mirrors id slots (t.register id multi).1 (u.register id multi).1 where
  mine := by
    intro r hr
    rcases List.mem_append.mp hr with hr | hr
    · exact h.mine_without id r hr
    · obtain rfl := List.mem_singleton.mp hr
      exact iff_of_true (List.mem_of_getElem? hopen) rfl
  pending := by
    have hnone : u.without id = [] :=
      List.filter_eq_nil_iff.mpr fun r hr => by simpa using h.id_eq r hr
    change (t.without id ++ [_]).filter _ = (u.without id ++ [_]).map _
    rw [List.filter_append, filter_without_self, hnone, List.filter_cons_of_pos (by simp)]
    simp [Request.relabel, hopen]

/-- A body under another id changes no request with the id, and ends none. -/
theorem deliver_of_ne (h : Mirrors id slots t u) (hne : i ≠ id) (body : String)
    (terminator : Terminator) :
    Mirrors id slots (t.deliver i body true terminator).2.1 u ∧
      (t.deliver i body true terminator).2.2.toList.filter (fun s => slots.contains s.slot) =
        [] := by
  rw [deliver_strict]
  split_ifs
  · exact ⟨h, rfl⟩
  · cases hi : t.find? i with
    | none => exact ⟨h, rfl⟩
    | some r =>
      have hended := h.ended_eq_nil hne fun r =>
        .answered (if r.multi then r.body else r.body ++ body)
      rw [hi] at hended
      cases hgoes : r.multi && !terminator.endsWith body with
      | true =>
        simp only [hgoes, ↓reduceIte]
        exact ⟨h.aside (h.mine_append i body) (filter_append_of_ne t hne body), rfl⟩
      | false =>
        simp only [hgoes, Bool.false_eq_true, ↓reduceIte]
        exact ⟨h.aside (h.mine_without i) (filter_without_of_ne t hne), hended⟩

/-- A body under the id does the same in both. -/
theorem deliver (h : Mirrors id slots t u) (body : String) (terminator : Terminator) :
    (t.deliver id body true terminator).1 = (u.deliver id body true terminator).1 ∧
      Mirrors id slots (t.deliver id body true terminator).2.1
        (u.deliver id body true terminator).2.1 ∧
      (t.deliver id body true terminator).2.2.toList.filter (fun s => slots.contains s.slot) =
        (u.deliver id body true terminator).2.2.toList.map (·.relabel slots) := by
  have hended := h.ended_eq (fun r => .answered (if r.multi then r.body else r.body ++ body))
    fun _ => rfl
  have hfind := h.find?_eq
  rw [deliver_strict, deliver_strict]
  split_ifs
  · exact ⟨rfl, h, rfl⟩
  · cases hu : u.find? id with
    | none =>
      rw [hu] at hfind
      rw [hfind]
      exact ⟨rfl, h, rfl⟩
    | some r =>
      rw [hu, Option.map_some] at hfind
      rw [hu, hfind] at hended
      rw [hfind]
      have hmulti : (r.relabel slots).multi = r.multi := rfl
      cases hgoes : r.multi && !terminator.endsWith body with
      | true =>
        simp only [hmulti, hgoes, ↓reduceIte]
        exact ⟨trivial, h.append body, rfl⟩
      | false =>
        simp only [hmulti, hgoes, Bool.false_eq_true, ↓reduceIte]
        exact ⟨trivial, h.without rfl rfl, hended⟩

/-- Failing every request fails those with the id in both. -/
theorem failAll (h : Mirrors id slots t u) (error : Error) :
    Mirrors id slots (t.failAll error).1 (u.failAll error).1 ∧
      (t.failAll error).2.filter (fun s => slots.contains s.slot) =
        (u.failAll error).2.map (·.relabel slots) := by
  have hmine : t.pending.filter (fun r => slots.contains r.slot) =
      t.pending.filter (·.id == id) := by
    refine List.filter_congr fun r hr => ?_
    rw [Bool.eq_iff_iff]
    simpa using h.mine r hr
  refine ⟨⟨by simp [RequestTable.failAll], rfl⟩, ?_⟩
  change (t.pending.map _).filter _ = (u.pending.map _).map _
  rw [List.filter_map]
  change (t.pending.filter fun r => slots.contains r.slot).map _ = _
  rw [hmine, h.pending, List.map_map, List.map_map]
  rfl

/-- One operation of the long history, and what is left of it in the short one. -/
theorem step (h : Mirrors id slots t u) {op : Op} (strict : op.isStrict = true)
    (hopen : ∀ i multi, op = .register i multi →
      (i ≠ id → t.issued ∉ slots) ∧ (i = id → slots[u.issued]? = some t.issued)) :
    Mirrors id slots (t.apply op).2.1 (u.after (op.restrict id slots).toList) ∧
      Agrees id slots [t.step op] (u.steps (op.restrict id slots).toList) := by
  cases op with
  | register i multi =>
    obtain ⟨hother, hown⟩ := hopen i multi rfl
    by_cases hi : i = id
    · subst hi
      have hrestrict : (Op.register i multi).restrict i slots = some (.register i multi) := by
        simp [Op.restrict, Op.names]
      have hreply : Reply.slot t.issued = (Reply.slot u.issued).relabel slots := by
        simp [Reply.relabel, hown rfl]
      rw [hrestrict]
      exact ⟨h.register (hown rfl) multi, .both rfl (fun _ => hreply)
        (h.ended_eq (fun _ => .failed .connectionClosed) fun _ => rfl)⟩
    · have hrestrict : (Op.register i multi).restrict id slots = none := by
        simp [Op.restrict, Op.names, hi]
      rw [hrestrict]
      exact ⟨h.register_of_ne hi (hother hi) multi,
        .aside (by simp [RequestTable.step, Op.names, hi])
          (h.ended_eq_nil hi fun _ => .failed .connectionClosed)⟩
  | remove i =>
    by_cases hi : i = id
    · subst hi
      have hrestrict : (Op.remove i).restrict i slots = some (.remove i) := by
        simp [Op.restrict, Op.names]
      have hreply : ((t.remove i).2).isSome = ((u.remove i).2).isSome := by
        simp [remove, h.find?_eq]
      rw [hrestrict]
      exact ⟨h.without rfl rfl, .both rfl (fun _ => congrArg Reply.removed hreply)
        (h.ended_eq (fun _ => .dropped) fun _ => rfl)⟩
    · have hrestrict : (Op.remove i).restrict id slots = none := by
        simp [Op.restrict, Op.names, hi]
      rw [hrestrict]
      exact ⟨h.aside (h.mine_without i) (filter_without_of_ne t hi),
        .aside (by simp [RequestTable.step, Op.names, hi]) (h.ended_eq_nil hi fun _ => .dropped)⟩
  | forget n =>
    by_cases hn : n ∈ slots
    · have hrestrict : (Op.forget n).restrict id slots = some (.forget (slots.idxOf n)) := by
        simp [Op.restrict, hn]
      rw [hrestrict]
      exact ⟨h, .both rfl (fun _ => rfl) rfl⟩
    · have hrestrict : (Op.forget n).restrict id slots = none := by
        simp [Op.restrict, hn]
      rw [hrestrict]
      exact ⟨h, .aside rfl rfl⟩
  | deliver i body isStrict terminator =>
    obtain rfl : isStrict = true := strict
    by_cases hi : i = id
    · subst hi
      have hrestrict : (Op.deliver i body true terminator).restrict i slots =
          some (.deliver i body true terminator) := by
        simp [Op.restrict, Op.names]
      obtain ⟨hdelivery, hmirrors, hended⟩ := h.deliver body terminator
      rw [hrestrict]
      exact ⟨hmirrors, .both rfl (fun _ => congrArg Reply.delivery hdelivery) hended⟩
    · have hrestrict : (Op.deliver i body true terminator).restrict id slots = none := by
        simp [Op.restrict, Op.names, hi]
      obtain ⟨hmirrors, hended⟩ := h.deliver_of_ne hi body terminator
      rw [hrestrict]
      exact ⟨hmirrors, .aside (by simp [RequestTable.step, Op.names, hi]) hended⟩
  | failAll error =>
    obtain ⟨hmirrors, hended⟩ := h.failAll error
    exact ⟨hmirrors, .both rfl (fun hnames => absurd hnames (by simp [RequestTable.step, Op.names]))
      hended⟩

end Mirrors

/-! ## The slots of an id -/

theorem slotsOf_append (id : Int32) (past more : List Step) :
    slotsOf id (past ++ more) = slotsOf id past ++ slotsOf id more := by
  rw [slotsOf, List.filter_append, List.filterMap_append]
  rfl

/-- A step that opens no slot opens none for an id. -/
theorem slotsOf_eq_nil {s : Step} (h : s.slot? = none) (id : Int32) : slotsOf id [s] = [] := by
  cases hnames : s.op.names id <;> simp [slotsOf, hnames, h]

/-- Registering a request opens the next slot for its id. -/
theorem slotsOf_register (t : RequestTable) (id i : Int32) (multi : Bool) :
    slotsOf id [t.step (.register i multi)] = if i = id then [t.issued] else [] := by
  split_ifs with h
  · simp [slotsOf, step, Op.names, h, Step.slot?, apply]
  · simp [slotsOf, step, Op.names, h]

/-- Nothing else opens a slot. -/
theorem slotsOf_of_ne_register {op : Op} (h : ∀ i multi, op ≠ .register i multi)
    (t : RequestTable) (id : Int32) :
    slotsOf id [t.step op] = [] ∧ (t.apply op).2.1.issued = t.issued := by
  cases op with
  | register i multi => exact absurd rfl (h i multi)
  | remove i => exact ⟨slotsOf_eq_nil rfl id, rfl⟩
  | forget n => exact ⟨slotsOf_eq_nil rfl id, rfl⟩
  | deliver i body strict terminator => exact ⟨slotsOf_eq_nil rfl id, deliver_issued ..⟩
  | failAll error => exact ⟨slotsOf_eq_nil rfl id, rfl⟩

/-- An operation opens the next slot or none, and later ones are opened after it. -/
theorem issued_of_slotsOf (t : RequestTable) (id : Int32) (op : Op) :
    t.issued ≤ (t.apply op).2.1.issued ∧
      ∀ n ∈ slotsOf id [t.step op], n = t.issued ∧ n < (t.apply op).2.1.issued := by
  by_cases hop : ∃ i multi, op = .register i multi
  · obtain ⟨i, multi, rfl⟩ := hop
    have hissued : (t.apply (.register i multi)).2.1.issued = t.issued + 1 := rfl
    rw [hissued, slotsOf_register]
    refine ⟨Nat.le_succ _, fun n hn => ?_⟩
    split_ifs at hn
    · obtain rfl := List.mem_singleton.mp hn
      exact ⟨rfl, Nat.lt_succ_self _⟩
    · exact absurd hn List.not_mem_nil
  · obtain ⟨hnil, hissued⟩ :=
      slotsOf_of_ne_register (fun i multi heq => hop ⟨i, multi, heq⟩) t id
    rw [hissued, hnil]
    exact ⟨Nat.le_refl _, fun n hn => absurd hn List.not_mem_nil⟩

/-- A history opens slots from the next one on. -/
theorem le_of_mem_slotsOf {n : Nat} {ops : List Op} (h : n ∈ slotsOf id (t.steps ops)) :
    t.issued ≤ n := by
  induction ops generalizing t with
  | nil => exact absurd h List.not_mem_nil
  | cons op ops ih =>
    obtain ⟨hle, hop⟩ := t.issued_of_slotsOf id op
    change n ∈ slotsOf id ([t.step op] ++ (t.apply op).2.1.steps ops) at h
    rw [slotsOf_append, List.mem_append] at h
    rcases h with h | h
    · exact Nat.le_of_eq (hop n h).1.symm
    · exact Nat.le_trans hle (ih h)

/-- Which slots a history opens depends on the next slot alone. -/
theorem slotsOf_steps_congr (h : t.issued = u.issued) (id : Int32) (ops : List Op) :
    slotsOf id (t.steps ops) = slotsOf id (u.steps ops) := by
  induction ops generalizing t u with
  | nil => rfl
  | cons op ops ih =>
    change slotsOf id ([t.step op] ++ (t.apply op).2.1.steps ops) =
      slotsOf id ([u.step op] ++ (u.apply op).2.1.steps ops)
    rw [slotsOf_append, slotsOf_append]
    by_cases hop : ∃ i multi, op = .register i multi
    · obtain ⟨i, multi, rfl⟩ := hop
      have hissued : (t.apply (.register i multi)).2.1.issued =
          (u.apply (.register i multi)).2.1.issued := congrArg (· + 1) h
      rw [slotsOf_register, slotsOf_register, h, ih hissued]
    · obtain ⟨ht, ht'⟩ := slotsOf_of_ne_register (fun i multi heq => hop ⟨i, multi, heq⟩) t id
      obtain ⟨hu, hu'⟩ := slotsOf_of_ne_register (fun i multi heq => hop ⟨i, multi, heq⟩) u id
      rw [ht, hu, ih (ht'.trans (h.trans hu'.symm))]

/-- If no other id is registered, every slot is one of the id. -/
theorem slotsOf_eq_registered {ops : List Op} (h : ∀ i multi, .register i multi ∈ ops → i = id)
    (t : RequestTable) : slotsOf id (t.steps ops) = registered (t.steps ops) := by
  induction ops generalizing t with
  | nil => rfl
  | cons op ops ih =>
    have hnext := ih (fun i multi hmem => h i multi (List.mem_cons_of_mem _ hmem)) (t.apply op).2.1
    change slotsOf id ([t.step op] ++ (t.apply op).2.1.steps ops) =
      registered ([t.step op] ++ (t.apply op).2.1.steps ops)
    rw [slotsOf_append, registered_append, hnext]
    congr 1
    by_cases hop : ∃ i multi, op = .register i multi
    · obtain ⟨i, multi, rfl⟩ := hop
      rw [slotsOf_register, if_pos (h i multi List.mem_cons_self)]
      rfl
    · have hslot : (t.step op).slot? = none := by
        cases op with
        | register i multi => exact absurd ⟨i, multi, rfl⟩ hop
        | remove | forget | deliver | failAll => rfl
      rw [slotsOf_eq_nil hslot]
      simp [registered, hslot]

/-! ## Runs -/

/-- A registration that is left over was one of the id. -/
theorem eq_register_of_restrict {op : Op} {multi : Bool}
    (h : op.restrict id slots = some (.register i multi)) : op = .register i multi ∧ i = id := by
  cases op with
  | register j multi' =>
    change (if (j == id) = true then some (Op.register j multi') else none) = _ at h
    rw [Option.ite_none_right_eq_some] at h
    obtain ⟨hj, heq⟩ := h
    obtain ⟨rfl, rfl⟩ := Op.register.inj (Option.some.inj heq)
    exact ⟨rfl, beq_iff_eq.mp hj⟩
  | remove j | forget n | deliver j body strict terminator =>
    simp only [Op.restrict] at h
    split_ifs at h
    exact absurd (Option.some.inj h) (by simp)
  | failAll error => exact absurd (Option.some.inj h) (by simp)

/-- What is left of an operation opens a slot in the short history exactly if the operation opens
one for the id in the long one. -/
theorem issued_after_restrict (t u : RequestTable) (id : Int32) (slots : List Nat) (op : Op) :
    (u.after (op.restrict id slots).toList).issued =
      u.issued + (slotsOf id [t.step op]).length := by
  by_cases hop : ∃ i multi, op = .register i multi
  · obtain ⟨i, multi, rfl⟩ := hop
    rw [slotsOf_register]
    by_cases hi : i = id
    · simp [Op.restrict, Op.names, hi, after, apply, register]
    · simp [Op.restrict, Op.names, hi, after]
  · have hne : ∀ i multi, op ≠ .register i multi := fun i multi heq => hop ⟨i, multi, heq⟩
    rw [(slotsOf_of_ne_register hne t id).1, List.length_nil, Nat.add_zero]
    cases hrestrict : op.restrict id slots with
    | none => rfl
    | some op' =>
      have hne' : ∀ i multi, op' ≠ .register i multi := by
        rintro i multi rfl
        exact hne i multi (eq_register_of_restrict hrestrict).1
      exact (slotsOf_of_ne_register hne' u id).2

/-- The two histories go on side by side. Of the slots of the id, `done` are open already. -/
theorem Mirrors.run (h : Mirrors id slots t u) {ops : List Op} {done : List Nat}
    (strict : ∀ op ∈ ops, op.isStrict = true) (hslots : slots = done ++ slotsOf id (t.steps ops))
    (hcount : done.length = u.issued) (hdone : ∀ n ∈ done, n < t.issued) :
    Mirrors id slots (t.after ops) (u.after (ops.filterMap (Op.restrict id slots))) ∧
      Agrees id slots (t.steps ops) (u.steps (ops.filterMap (Op.restrict id slots))) ∧
        (u.after (ops.filterMap (Op.restrict id slots))).issued = slots.length := by
  induction ops generalizing t u done with
  | nil =>
    rw [steps, slotsOf, List.filter_nil, List.filterMap_nil, List.append_nil] at hslots
    refine ⟨h, ⟨rfl, rfl⟩, ?_⟩
    rw [hslots, hcount]
    rfl
  | cons op ops ih =>
    obtain ⟨hop, hops⟩ := List.forall_mem_cons.mp strict
    obtain ⟨hle, hopened⟩ := t.issued_of_slotsOf id op
    have hcons : t.steps (op :: ops) = [t.step op] ++ (t.apply op).2.1.steps ops := rfl
    rw [hcons, slotsOf_append] at hslots
    -- `slots` has the slot that a registration opens exactly if it is one of the id.
    have hopen : ∀ i multi, op = .register i multi →
        (i ≠ id → t.issued ∉ slots) ∧ (i = id → slots[u.issued]? = some t.issued) := by
      rintro i multi rfl
      rw [slotsOf_register] at hslots
      constructor
      · intro hi hmem
        rw [hslots, if_neg hi, List.nil_append, List.mem_append] at hmem
        rcases hmem with hmem | hmem
        · exact Nat.lt_irrefl _ (hdone _ hmem)
        · exact Nat.lt_irrefl _ (le_of_mem_slotsOf hmem)
      · intro hi
        rw [hslots, if_pos hi, ← hcount]
        simp
    obtain ⟨hmirrors, hagrees⟩ := h.step hop hopen
    have hslots' : slots =
        done ++ slotsOf id [t.step op] ++ slotsOf id ((t.apply op).2.1.steps ops) := by
      rw [List.append_assoc]
      exact hslots
    have hcount' : (done ++ slotsOf id [t.step op]).length =
        (u.after (op.restrict id slots).toList).issued := by
      rw [List.length_append, hcount, issued_after_restrict t]
    have hdone' : ∀ n ∈ done ++ slotsOf id [t.step op], n < (t.apply op).2.1.issued := by
      intro n hn
      rcases List.mem_append.mp hn with hn | hn
      · exact Nat.lt_of_lt_of_le (hdone n hn) hle
      · exact (hopened n hn).2
    have hnext := ih hmirrors hops hslots' hcount' hdone'
    have hown : (op :: ops).filterMap (Op.restrict id slots) =
        (op.restrict id slots).toList ++ ops.filterMap (Op.restrict id slots) := by
      rw [List.filterMap_cons]
      cases op.restrict id slots <;> rfl
    rw [hown, after_append, steps_append, hcons]
    exact ⟨hnext.1, hagrees.append hnext.2.1, hnext.2.2⟩

/-- Every slot of a history that registers no other id is one of the id. -/
theorem portion_of_own {ops : List Op} (h : ∀ i multi, .register i multi ∈ ops → i = id) :
    portion id ops =
      { replies := replies id (({} : RequestTable).steps ops)
        ended := settlements (({} : RequestTable).steps ops)
        pending := (({} : RequestTable).after ops).pending } := by
  have hledger := Ledger.of_steps ops
  have hslots : ∀ n, n ∈ slotsOf id (({} : RequestTable).steps ops) ↔
      n ∈ (({} : RequestTable).after ops).pending.map Request.slot ++
        (settlements (({} : RequestTable).steps ops)).map Settlement.slot := by
    intro n
    rw [slotsOf_eq_registered h, hledger.registered_eq, hledger.perm.mem_iff]
  ext1
  · rfl
  · refine List.filter_eq_self.mpr fun s hs => List.contains_iff_mem.mpr ((hslots _).mpr ?_)
    exact List.mem_append_right _ (List.mem_map_of_mem hs)
  · refine List.filter_eq_self.mpr fun r hr => List.contains_iff_mem.mpr ((hslots _).mpr ?_)
    exact List.mem_append_left _ (List.mem_map_of_mem hr)

/-- What a history says of an id is what is left of it says, under the slots of the id. -/
theorem portion_eq_relabel (id : Int32) {ops : List Op} (strict : ∀ op ∈ ops, op.isStrict = true) :
    let slots := slotsOf id (({} : RequestTable).steps ops)
    let own := ops.filterMap (Op.restrict id slots)
    portion id ops = (portion id own).relabel slots ∧
      slotsOf id (({} : RequestTable).steps own) = List.range slots.length := by
  intro slots own
  have hstart : Mirrors id slots {} {} := ⟨by simp, rfl⟩
  obtain ⟨hmirrors, hagrees, hissued⟩ :=
    hstart.run strict (List.nil_append _).symm rfl (fun n hn => absurd hn List.not_mem_nil)
  have hregister : ∀ i multi, .register i multi ∈ own → i = id := by
    intro i multi hmem
    obtain ⟨op, -, hop⟩ := List.mem_filterMap.mp hmem
    exact (eq_register_of_restrict hop).2
  have hpending : (({} : RequestTable).after ops).pending.filter (fun r => slots.contains r.slot) =
      (({} : RequestTable).after ops).pending.filter (·.id == id) := by
    refine List.filter_congr fun r hr => ?_
    rw [Bool.eq_iff_iff]
    simpa using hmirrors.mine r hr
  constructor
  · rw [portion_of_own hregister]
    ext1
    · exact hagrees.replies_eq
    · exact hagrees.ended_eq
    · exact hpending.trans hmirrors.pending
  · rw [slotsOf_eq_registered hregister, (Ledger.of_steps own).registered_eq, hissued]

/-- No command hears of another: where responses must repeat the id of their command, what the
operations on an id return, how its requests end and which are pending is the same as if no
operation had named another id. In particular a late body under another id changes nothing. -/
theorem portion_eq_of_strict (id : Int32) (ops : List Op)
    (strict : ∀ op ∈ ops, op.isStrict = true) :
    let slots := slotsOf id (({} : RequestTable).steps ops)
    let own := ops.filterMap (Op.restrict id slots)
    portion id ops = (portion id own).relabel slots ∧
      slots.Nodup ∧ slotsOf id (({} : RequestTable).steps own) = List.range slots.length ∧
        ∀ i body terminator before after, i ≠ id → before ++ after = ops →
          portion id (before ++ .deliver i body true terminator :: after) = portion id ops := by
  intro slots own
  obtain ⟨hportion, hown⟩ := portion_eq_relabel id strict
  have hnodup : slots.Nodup := by
    have hsublist : slots.Sublist (registered (({} : RequestTable).steps ops)) :=
      List.filter_sublist.filterMap _
    rw [(Ledger.of_steps ops).registered_eq] at hsublist
    exact List.nodup_range.sublist hsublist
  refine ⟨hportion, hnodup, hown, ?_⟩
  rintro i body terminator before after hne rfl
  have hstrict : ∀ op ∈ before ++ .deliver i body true terminator :: after, op.isStrict = true := by
    intro op hop
    rcases List.mem_append.mp hop with hop | hop
    · exact strict op (List.mem_append_left _ hop)
    · rcases List.mem_cons.mp hop with rfl | hop
      · rfl
      · exact strict op (List.mem_append_right _ hop)
  -- A body opens no slot, so with it the history has the same slots for the id.
  have hslots : slotsOf id (({} : RequestTable).steps
      (before ++ .deliver i body true terminator :: after)) = slots := by
    have hdelivers : ∀ j multi, Op.deliver i body true terminator ≠ .register j multi :=
      fun _ _ heq => nomatch heq
    have hdeliver := slotsOf_of_ne_register hdelivers (({} : RequestTable).after before) id
    rw [steps_append, slotsOf_append]
    change _ ++ slotsOf id ([_] ++ _) = slotsOf id (({} : RequestTable).steps (before ++ after))
    rw [steps_append, slotsOf_append, slotsOf_append, hdeliver.1, List.nil_append,
      slotsOf_steps_congr hdeliver.2]
  have hrestrict : (Op.deliver i body true terminator).restrict id slots = none := by
    simp [Op.restrict, Op.names, hne]
  have hlate := (portion_eq_relabel id hstrict).1
  rw [hslots, List.filterMap_append, List.filterMap_cons, hrestrict] at hlate
  change _ = (portion id (before.filterMap _ ++ after.filterMap _)).relabel slots at hlate
  rw [← List.filterMap_append] at hlate
  exact hlate.trans hportion.symm

/-- A command is sent twice under one id while another comes and goes, whose response is late. -/
theorem portion_eq_of_strict_late :
    let before : List Op := [.register 2 false, .register 1 true, .deliver 1 "a" true .emptyEcho,
      .remove 2]
    let after : List Op := [.register 1 true, .forget 1, .deliver 1 "b" true .emptyEcho,
      .register 3 false, .deliver 1 "" true .emptyEcho, .register 1 false]
    let own : List Op := [.register 1 true, .deliver 1 "a" true .emptyEcho, .register 1 true,
      .forget 0, .deliver 1 "b" true .emptyEcho, .deliver 1 "" true .emptyEcho, .register 1 false]
    (∀ op ∈ before ++ after, op.isStrict = true) ∧ (2 : Int32) ≠ 1 ∧
      portion 1 (before ++ after) = (portion 1 own).relabel [1, 2, 4] ∧
        portion 1 (before ++ .deliver 2 "late" true .emptyEcho :: after) =
          portion 1 (before ++ after) := by
  intro before after own
  have strict : ∀ op ∈ before ++ after, op.isStrict = true := by decide
  obtain ⟨hportion, -, -, hlate⟩ := portion_eq_of_strict 1 (before ++ after) strict
  exact ⟨strict, by decide, hportion, hlate 2 "late" .emptyEcho before after (by decide) rfl⟩

end RequestTable

end RemoteConsole
