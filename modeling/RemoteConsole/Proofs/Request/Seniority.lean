import RemoteConsole.Proofs.Request.Ledger
import RemoteConsole.Proofs.Request.Queue

/-!
# Which request is the oldest

Where ids need not match, a body with the id 0 goes to the oldest request, which the table looks up
in its queue of ids. A mention of an id in this queue does not say which registration it stems from.
If an id is registered while it is pending, the earlier mention stays, and is taken for one of the
new request: that counts from a registration before its own, and may be served before a request that
is older.

The proofs keep for every mention the slot of the registration that it stems from (`lineAfter`). The
slots ascend along the queue, and the registration of every pending request is still mentioned there
(`Lined`). So a request counts from the first mention of its id (`since`), and a body without an id
goes to the one that counts from the earliest (`served_earliest_iff`).
-/

namespace RemoteConsole

/-- The id of the request that a body went to. -/
def Delivery.recipient? : Delivery → Option Int32
  | completed id | buffered id => some id
  | unmatched | discarded => none

/-- A mention of an id in the queue, with the slot of the registration that it stems from. -/
structure Mention where
  /-- The slot. -/
  slot : Nat
  /-- The id. -/
  id : Int32
deriving Repr, DecidableEq

namespace RequestTable

variable {past : List Step} {t t' : RequestTable} {line line' : List Mention} {m : Mention}
  {r s : Request} {step : Step} {id : Int32}

/-- The mentions without those in front whose requests have ended. -/
def lineFresh (t : RequestTable) (line : List Mention) : List Mention :=
  line.dropWhile fun m => !t.contains m.id

/-- The mentions once somebody has looked for the request that a body with an id is meant for. -/
def lineRoute (t : RequestTable) (line : List Mention) (id : Int32) (strict : Bool) :
    List Mention :=
  if t.contains id then line
  else if !strict && id == unmatchedId then t.lineFresh line
  else line

/-- The mentions without an id whose request is complete. -/
def lineWithout (line : List Mention) (id : Int32) : List Mention :=
  match line with
  | [] => []
  | first :: rest => if first.id == id then rest else line.filter (·.id != id)

/-- The mentions once something has become of a body with an id. -/
def lineDelivered (t : RequestTable) (line : List Mention) (id : Int32) (strict : Bool) :
    Delivery → List Mention
  | .completed i => lineWithout (t.lineRoute line id strict) i
  | .buffered _ | .unmatched => t.lineRoute line id strict
  | .discarded => line

/-- The mentions after an operation. -/
def lineApply (t : RequestTable) (line : List Mention) : Op → List Mention
  | .register id _ => line ++ [⟨t.issued, id⟩]
  | .remove id => line.filter (·.id != id)
  | .forget _ => line
  | .deliver id body strict terminator =>
    t.lineDelivered line id strict (t.deliver id body strict terminator).1
  | .failAll _ => []

/-- The mentions after a history. -/
def lineAfter (t : RequestTable) (line : List Mention) : List Op → List Mention
  | [] => line
  | op :: ops => (t.apply op).2.1.lineAfter (t.lineApply line op) ops

/-- The slot of the registration from which a pending request counts: the first one that is still
mentioned under its id. -/
def since (line : List Mention) (r : Request) : Nat :=
  ((line.find? (·.id == r.id)).map Mention.slot).getD r.slot

/-- The queue of a table with some history, as mentions. -/
structure Lined (past : List Step) (t : RequestTable) (line : List Mention) : Prop where
  /-- The queue holds the ids that are mentioned. -/
  ids : line.map Mention.id = t.order
  /-- Mentions stand in order of registration. -/
  ascending : line.Pairwise fun a b => a.slot < b.slot
  /-- Every mention stems from a registration of its id. -/
  opened : ∀ m ∈ line, ∃ multi, Opened past m.slot m.id multi
  /-- The registration of a pending request is mentioned. -/
  own : ∀ r ∈ t.pending, ⟨r.slot, r.id⟩ ∈ line
  /-- No later one is mentioned under its id. -/
  latest : ∀ r ∈ t.pending, ∀ m ∈ line, m.id = r.id → m.slot ≤ r.slot

/-! ## The queue as mentions -/

/-- The queue of a table, with the mentions in front left out whose requests have ended. -/
theorem map_id_lineFresh (ids : line.map Mention.id = t.order) :
    (t.lineFresh line).map Mention.id = t.dropStale.order := by
  rw [dropStale, ← ids, List.dropWhile_map]
  rfl

theorem map_id_lineRoute (ids : line.map Mention.id = t.order) (id : Int32) (strict : Bool) :
    (t.lineRoute line id strict).map Mention.id = (t.route id strict).2.order := by
  unfold lineRoute route
  split_ifs
  · exact ids
  · exact map_id_lineFresh ids
  · exact ids

theorem map_id_lineWithout (line : List Mention) (id : Int32) :
    (lineWithout line id).map Mention.id = orderWithout (line.map Mention.id) id := by
  cases line with
  | nil => rfl
  | cons first rest =>
    rw [lineWithout, List.map_cons, orderWithout]
    split_ifs
    · rfl
    · rw [← List.map_cons, List.filter_map]
      rfl

/-- Looking for a request leaves out mentions at most, and none of a pending request. -/
theorem lineRoute_sublist (t : RequestTable) (line : List Mention) (id : Int32) (strict : Bool) :
    (t.lineRoute line id strict).Sublist line := by
  unfold lineRoute lineFresh
  split_ifs
  · exact List.Sublist.refl _
  · exact List.dropWhile_sublist _
  · exact List.Sublist.refl _

/-- A mention of a pending request is not left out in front. -/
theorem mem_lineFresh (hm : m ∈ line) (pending : t.contains m.id = true) :
    m ∈ t.lineFresh line := by
  rw [← List.takeWhile_append_dropWhile (p := fun m => !t.contains m.id) (l := line)] at hm
  refine (List.mem_append.mp hm).resolve_left fun hfront => ?_
  have hstale := List.mem_takeWhile_imp hfront
  simp [pending] at hstale

theorem mem_lineRoute (hm : m ∈ line) (pending : t.contains m.id = true) (id : Int32)
    (strict : Bool) : m ∈ t.lineRoute line id strict := by
  unfold lineRoute
  split_ifs
  · exact hm
  · exact mem_lineFresh hm pending
  · exact hm

/-- A request that is complete takes mentions of its own id along at most. -/
theorem lineWithout_sublist (line : List Mention) (id : Int32) :
    (lineWithout line id).Sublist line := by
  cases line with
  | nil => exact List.Sublist.refl _
  | cons first rest =>
    rw [lineWithout]
    split_ifs
    · exact List.sublist_cons_self _ _
    · exact List.filter_sublist

theorem mem_lineWithout (hm : m ∈ line) (other : m.id ≠ id) : m ∈ lineWithout line id := by
  cases line with
  | nil => cases hm
  | cons first rest =>
    rw [lineWithout]
    split_ifs with hfirst
    · obtain rfl | hrest := List.mem_cons.mp hm
      · exact absurd (by simpa using hfirst) other
      · exact hrest
    · exact List.mem_filter.mpr ⟨hm, by simpa using other⟩

namespace Lined

/-- A table without a history has an empty queue. -/
theorem empty : Lined [] {} [] where
  ids := rfl
  ascending := .nil
  opened := by simp
  own := by simp
  latest := by simp

/-- An operation that opens no slot, leaves out mentions at most, and none of a request that is
still pending, keeps the mentions in order. -/
theorem shrink (h : Lined past t line) (ids : line'.map Mention.id = t'.order)
    (sublist : line'.Sublist line)
    (kept : ∀ r' ∈ t'.pending, ⟨r'.slot, r'.id⟩ ∈ line' ∧
      ∃ r ∈ t.pending, r.slot = r'.slot ∧ r.id = r'.id) :
    Lined (past ++ [step]) t' line' where
  ids := ids
  ascending := h.ascending.sublist sublist
  opened m hm := (h.opened m (sublist.subset hm)).imp fun _ hopened => hopened.append step
  own r' hr' := (kept r' hr').1
  latest r' hr' m hm hid := by
    obtain ⟨-, r, hr, hslot, hrid⟩ := kept r' hr'
    rw [← hslot]
    exact h.latest r hr m (sublist.subset hm) (hid.trans hrid.symm)

/-- The pending requests that are left when one is taken out, and their mentions. -/
theorem kept_without (h : Lined past t line) (hline : ∀ m ∈ line, t.contains m.id = true →
      m.id ≠ id → m ∈ line') :
    ∀ r ∈ t.without id, ⟨r.slot, r.id⟩ ∈ line' ∧
      ∃ r' ∈ t.pending, r'.slot = r.slot ∧ r'.id = r.id := by
  intro r hr
  obtain ⟨hpending, hid⟩ := List.mem_filter.mp hr
  have hcontains : t.contains r.id = true := contains_iff.mpr ⟨r, hpending, rfl⟩
  exact ⟨hline _ (h.own r hpending) hcontains (by simpa using hid), r, hpending, rfl, rfl⟩

/-- A new request is mentioned behind all others. -/
theorem register (h : Lined past t line) (ledger : Ledger past t) (id : Int32) (multi : Bool) :
    Lined (past ++ [t.step (.register id multi)]) (t.register id multi).1
      (line ++ [⟨t.issued, id⟩]) := by
  have hlt : ∀ m ∈ line, m.slot < t.issued := by
    intro m hm
    obtain ⟨_, s, hs, -, hreply⟩ := h.opened m hm
    have hregistered : m.slot ∈ registered past :=
      List.mem_filterMap.mpr ⟨s, hs, by rw [Step.slot?, hreply]⟩
    rw [ledger.registered_eq] at hregistered
    exact List.mem_range.mp hregistered
  refine ⟨?_, ?_, ?_, ?_, ?_⟩
  · rw [List.map_append, h.ids]
    rfl
  · rw [List.pairwise_append]
    refine ⟨h.ascending, List.pairwise_singleton _ _, fun m hm m' hm' => ?_⟩
    rw [List.mem_singleton.mp hm']
    exact hlt m hm
  · intro m hm
    obtain hm | hm := List.mem_append.mp hm
    · exact (h.opened m hm).imp fun _ hopened => hopened.append _
    · rw [List.mem_singleton.mp hm]
      exact ⟨multi, _, List.mem_append_right _ (List.mem_singleton_self _), rfl, rfl⟩
  · intro r hr
    obtain hr | hr := List.mem_append.mp hr
    · exact List.mem_append_left _ (h.own r (List.mem_of_mem_filter hr))
    · rw [List.mem_singleton.mp hr]
      exact List.mem_append_right _ (List.mem_singleton_self _)
  · intro r hr m hm hid
    obtain hr | hr := List.mem_append.mp hr
    · obtain ⟨hpending, hne⟩ := List.mem_filter.mp hr
      obtain hm | hm := List.mem_append.mp hm
      · exact h.latest r hpending m hm hid
      · -- The new mention is under another id.
        rw [List.mem_singleton.mp hm] at hid
        exact absurd hid.symm (by simpa using hne)
    · rw [List.mem_singleton.mp hr]
      obtain hm | hm := List.mem_append.mp hm
      · exact (hlt m hm).le
      · rw [List.mem_singleton.mp hm]

/-- A body that is delivered takes the mentions of the request that it completes, if it completes
one, and stale ones where it is looked for in the queue. -/
theorem deliver (h : Lined past t line) (id : Int32) (body : String) (strict : Bool)
    (terminator : Terminator) :
    let op := Op.deliver id body strict terminator
    Lined (past ++ [t.step op]) (t.apply op).2.1 (t.lineApply line op) := by
  intro op
  change Lined _ (t.deliver id body strict terminator).2.1
    (t.lineDelivered line id strict (t.deliver id body strict terminator).1)
  have hroute := map_id_lineRoute h.ids id strict
  have hsublist := lineRoute_sublist t line id strict
  have hkept : ∀ r ∈ t.pending, ⟨r.slot, r.id⟩ ∈ t.lineRoute line id strict :=
    fun r hr => mem_lineRoute (h.own r hr) (contains_iff.mpr ⟨r, hr, rfl⟩) id strict
  rw [deliver_eq]
  cases hdiscards : terminator.discards body with
  | true =>
    rw [if_pos rfl]
    exact h.shrink h.ids (.refl _) fun r hr => ⟨h.own r hr, r, hr, rfl, rfl⟩
  | false =>
    rw [if_neg (by simp)]
    cases htarget : t.target? id strict with
    | none =>
      refine h.shrink hroute hsublist fun r hr => ?_
      have hpending : r ∈ t.pending := by simpa using hr
      exact ⟨hkept r hpending, r, hpending, rfl, rfl⟩
    | some target =>
      dsimp only
      cases hgoes : target.multi && !terminator.endsWith body with
      | true =>
        rw [if_pos rfl]
        refine h.shrink hroute hsublist fun r hr => ?_
        -- The response grows, and the request stays under its slot and its id.
        have hgrown : r ∈ (t.append target.id body).pending := by simpa using hr
        obtain ⟨r₀, hr₀, rfl⟩ := List.mem_map.mp hgrown
        split_ifs
        · exact ⟨hkept r₀ hr₀, r₀, hr₀, rfl, rfl⟩
        · exact ⟨hkept r₀ hr₀, r₀, hr₀, rfl, rfl⟩
      | false =>
        rw [if_neg (by simp)]
        refine h.shrink ?_ ((lineWithout_sublist _ _).trans hsublist) fun r hr => ?_
        · exact (map_id_lineWithout _ _).trans (congrArg (orderWithout · target.id) hroute)
        · have hleft : r ∈ t.without target.id := by simpa using hr
          refine h.kept_without (fun m hm hpending hother => ?_) r hleft
          exact mem_lineWithout (mem_lineRoute hm hpending id strict) hother

/-- Every operation keeps the mentions in order. -/
theorem apply (h : Lined past t line) (ledger : Ledger past t) (op : Op) :
    Lined (past ++ [t.step op]) (t.apply op).2.1 (t.lineApply line op) := by
  cases op with
  | register id multi => exact h.register ledger id multi
  | remove id =>
    refine h.shrink ?_ List.filter_sublist ?_
    · change (line.filter (·.id != id)).map Mention.id = t.order.filter (· != id)
      rw [← h.ids, List.filter_map]
      rfl
    · exact h.kept_without fun m hm _ hother => List.mem_filter.mpr ⟨hm, by simpa using hother⟩
  | forget n => exact h.shrink h.ids (.refl _) fun r hr => ⟨h.own r hr, r, hr, rfl, rfl⟩
  | deliver id body strict terminator => exact h.deliver id body strict terminator
  | failAll error => exact h.shrink rfl (List.nil_sublist _) fun r hr => absurd hr List.not_mem_nil

/-- So does every history. -/
theorem after (h : Lined past t line) (ledger : Ledger past t) (ops : List Op) :
    Lined (past ++ t.steps ops) (t.after ops) (t.lineAfter line ops) := by
  induction ops generalizing past t line with
  | nil => simpa [steps, RequestTable.after, lineAfter] using h
  | cons op ops ih =>
    have hnext := ih (h.apply ledger op) (ledger.apply op)
    rw [List.append_assoc] at hnext
    exact hnext

/-- The mentions of a table that was empty at first are in order. -/
theorem of_steps (ops : List Op) :
    Lined (({} : RequestTable).steps ops) (({} : RequestTable).after ops)
      (({} : RequestTable).lineAfter [] ops) :=
  empty.after .empty ops

/-! ## From which registration a request counts -/

/-- A pending request counts from a mention of its id, and that stands behind no other. -/
theorem find?_eq_some (h : Lined past t line) (hr : r ∈ t.pending) :
    ∃ m, line.find? (·.id == r.id) = some m ∧ m ∈ line ∧ m.id = r.id ∧ since line r = m.slot := by
  have hfound : (line.find? (·.id == r.id)).isSome = true :=
    List.find?_isSome.mpr ⟨_, h.own r hr, by simp⟩
  obtain ⟨m, hm⟩ := Option.isSome_iff_exists.mp hfound
  refine ⟨m, hm, List.mem_of_find?_eq_some hm, by simpa using List.find?_some hm, ?_⟩
  rw [since, hm]
  rfl

/-- It counts from its own registration, or from an earlier one of the same id. -/
theorem since_eq_or (h : Lined past t line) (hr : r ∈ t.pending) :
    since line r = r.slot ∨
      since line r < r.slot ∧ ∃ multi, Opened past (since line r) r.id multi := by
  obtain ⟨m, -, hm, hid, hsince⟩ := h.find?_eq_some hr
  obtain hlt | heq := Nat.lt_or_eq_of_le (h.latest r hr m hm hid)
  · have hopened := h.opened m hm
    rw [hid, ← hsince] at hopened
    rw [← hsince] at hlt
    exact .inr ⟨hlt, hopened⟩
  · exact .inl (hsince.trans heq)

/-- Mentions in front whose requests have ended are of no account for a pending request. -/
theorem find?_lineFresh (pending : t.contains id = true) :
    (t.lineFresh line).find? (·.id == id) = line.find? (·.id == id) := by
  have hfront : (line.takeWhile fun m => !t.contains m.id).find? (·.id == id) = none := by
    refine List.find?_eq_none.mpr fun m hm hid => ?_
    have hstale := List.mem_takeWhile_imp hm
    rw [beq_iff_eq.mp hid, pending] at hstale
    cases hstale
  conv_rhs =>
    rw [← List.takeWhile_append_dropWhile (p := fun m => !t.contains m.id) (l := line),
      List.find?_append, hfront, Option.none_or]
  rfl

/-- Where ids need not match, a body with the id 0 is meant for the request that counts from the
earliest registration. -/
theorem target?_unmatched (h : Lined past t line) (nodup : (t.pending.map Request.id).Nodup)
    (absent : t.contains unmatchedId = false) (waiting : t.pending ≠ []) :
    ∃ r ∈ t.pending, t.target? unmatchedId false = some r ∧
      ∀ s ∈ t.pending, s ≠ r → since line r < since line s := by
  -- Whoever waits is mentioned, so there is a mention in front.
  obtain ⟨r₀, hr₀⟩ := List.exists_mem_of_ne_nil _ waiting
  have hmem := mem_lineFresh (h.own r₀ hr₀) (contains_iff.mpr ⟨r₀, hr₀, rfl⟩)
  cases hfresh : t.lineFresh line with
  | nil => simp [hfresh] at hmem
  | cons first rest =>
    have hfirst : t.contains first.id = true := by
      have hhead := List.head?_dropWhile_not (fun m : Mention => !t.contains m.id) line
      rw [show line.dropWhile (fun m => !t.contains m.id) = first :: rest from hfresh] at hhead
      simpa using hhead
    obtain ⟨r, hr, hid⟩ := contains_iff.mp hfirst
    have horder : t.dropStale.order = first.id :: rest.map Mention.id := by
      rw [← map_id_lineFresh h.ids, hfresh, List.map_cons]
    have hroute : t.route unmatchedId false = (some r.id, t.dropStale) := by
      rw [route, if_neg (by simp [absent]), if_pos (by simp)]
      simp only [horder, List.head?_cons, hid]
    have htarget : t.target? unmatchedId false = some r := by
      rw [target?, hroute, Option.bind_some, find?_of_mem nodup hr]
    have hsince : ∀ s ∈ t.pending,
        since line s = (((first :: rest).find? (·.id == s.id)).map Mention.slot).getD s.slot := by
      intro s hs
      rw [since, ← find?_lineFresh (contains_iff.mpr ⟨s, hs, rfl⟩), hfresh]
    refine ⟨r, hr, htarget, fun s hs hother => ?_⟩
    have hids : first.id ≠ s.id := fun heq =>
      hother (List.inj_on_of_nodup_map nodup hs hr (heq.symm.trans hid.symm))
    obtain ⟨m, hm, -, -, hms⟩ := h.find?_eq_some hs
    have hrest : rest.find? (·.id == s.id) = some m := by
      rw [← find?_lineFresh (contains_iff.mpr ⟨s, hs, rfl⟩), hfresh,
        List.find?_cons_of_neg (by simpa using hids)] at hm
      exact hm
    have hascending : (first :: rest).Pairwise fun a b => a.slot < b.slot := by
      rw [← hfresh]
      exact h.ascending.sublist (List.dropWhile_sublist _)
    calc since line r = first.slot := by
          rw [hsince r hr, List.find?_cons_of_pos (by simp [hid])]
          rfl
      _ < m.slot := List.rel_of_pairwise_cons hascending (List.mem_of_find?_eq_some hrest)
      _ = since line s := hms.symm

/-- As long as no id is registered while it is pending, a request counts from its own
registration. -/
theorem since_eq_slot (h : Lined past t line) (aligned : t.Aligned) (hr : r ∈ t.pending) :
    since line r = r.slot := by
  obtain ⟨m, -, hm, hid, hsince⟩ := h.find?_eq_some hr
  have hnodup : (line.map Mention.id).Nodup := by
    rw [h.ids, aligned.order_eq]
    exact aligned.nodup
  obtain rfl := List.inj_on_of_nodup_map hnodup hm (h.own r hr) hid
  exact hsince

end Lined

/-- A history that registers no id while it is pending keeps the queue in step with the requests. -/
theorem Aligned.after (h : t.Aligned) (ops : List Op) (fresh : t.registersFresh ops = true) :
    (t.after ops).Aligned := by
  induction ops generalizing t with
  | nil => exact h
  | cons op ops ih =>
    obtain ⟨hop, hops⟩ := Bool.and_eq_true_iff.mp fresh
    exact ih (h.apply_aligned op hop) hops

/-- A body goes to the request that it is meant for. -/
theorem recipient?_deliver {strict : Bool} {body : String} {terminator : Terminator}
    (hr : t.target? id strict = some r) (kept : terminator.discards body = false) :
    (t.deliver id body strict terminator).1.recipient? = some r.id := by
  rw [deliver_eq, kept, hr]
  simp only [Bool.false_eq_true, ite_false]
  split_ifs <;> rfl

/-- Where ids need not match, a body with the id 0 goes to the pending request that counts from the
earliest registration. A request counts from its own or, if its id was registered before, it may be
from an earlier one of the id. So the body goes to the request that was registered first unless the
one that it goes to was registered behind a pending one, and counts from before it; and always to
the one that was registered first if no id was registered while it was pending. -/
theorem served_earliest_iff (ops : List Op) (body : String) (terminator : Terminator)
    (kept : terminator.discards body = false)
    (absent : (({} : RequestTable).after ops).contains unmatchedId = false)
    (waiting : (({} : RequestTable).after ops).pending ≠ []) :
    let past := ({} : RequestTable).steps ops
    let t := ({} : RequestTable).after ops
    let line := ({} : RequestTable).lineAfter [] ops
    (∀ s ∈ t.pending, since line s = s.slot ∨
        since line s < s.slot ∧ ∃ multi, Opened past (since line s) s.id multi) ∧
      (({} : RequestTable).registersFresh ops = true →
        ∀ s ∈ t.pending, since line s = s.slot) ∧
      ∃ r ∈ t.pending,
        (t.deliver unmatchedId body false terminator).1.recipient? = some r.id ∧
          (∀ s ∈ t.pending, s ≠ r → since line r < since line s) ∧
          ((∀ s ∈ t.pending, r.slot ≤ s.slot) ↔
            ¬∃ s ∈ t.pending, since line r < s.slot ∧ s.slot < r.slot) := by
  intro past t line
  have hlined : Lined past t line := .of_steps ops
  have hledger : Ledger past t := .of_steps ops
  refine ⟨fun s hs => hlined.since_eq_or hs, fun fresh s hs => ?_, ?_⟩
  · exact hlined.since_eq_slot ((Aligned.empty 0).after ops fresh) hs
  obtain ⟨r, hr, htarget, hfirst⟩ := hlined.target?_unmatched hledger.nodup absent waiting
  refine ⟨r, hr, recipient?_deliver htarget kept, hfirst, ?_, ?_⟩
  · rintro hearliest ⟨s, hs, -, hlt⟩
    exact absurd (hearliest s hs) (Nat.not_le.mpr hlt)
  · intro hnone s hs
    by_contra hlt
    have hbefore : s.slot < r.slot := Nat.not_le.mp hlt
    -- What was registered before the recipient counts from behind it.
    have hother : s ≠ r := fun heq => hlt (heq ▸ le_rfl)
    have hown : since line s ≤ s.slot := by
      obtain heq | ⟨hless, -⟩ := hlined.since_eq_or hs
      · exact heq.le
      · exact hless.le
    exact hnone ⟨s, hs, (hfirst s hs hother).trans_le hown, hbefore⟩

/-- An id is registered again while it is pending, behind another one. -/
theorem served_earliest_iff_replaced :
    let ops : List Op := [.register 1 false, .register 2 false, .register 1 false]
    let t := ({} : RequestTable).after ops
    let line := ({} : RequestTable).lineAfter [] ops
    ∃ r ∈ t.pending, (t.deliver unmatchedId "x" false .emptyEcho).1.recipient? = some r.id ∧
      (∀ s ∈ t.pending, s ≠ r → since line r < since line s) ∧
      ((∀ s ∈ t.pending, r.slot ≤ s.slot) ↔
        ¬∃ s ∈ t.pending, since line r < s.slot ∧ s.slot < r.slot) :=
  (served_earliest_iff [.register 1 false, .register 2 false, .register 1 false] "x" .emptyEcho
    (by decide) (by decide) (by decide)).2.2

/-- Not every body without an id goes to the pending request that was registered first: the mention
of a replaced request stays, and is taken for one of its successor. -/
theorem not_served_earliest_replaced :
    ¬∀ (ops : List Op) (body : String) (terminator : Terminator),
      terminator.discards body = false →
      (({} : RequestTable).after ops).contains unmatchedId = false →
      (({} : RequestTable).after ops).pending ≠ [] →
        ∃ r ∈ (({} : RequestTable).after ops).pending,
          ((({} : RequestTable).after ops).deliver unmatchedId body false terminator).1.recipient? =
              some r.id ∧
            ∀ s ∈ (({} : RequestTable).after ops).pending, r.slot ≤ s.slot := by
  intro hall
  have hearliest := hall [.register 1 false, .register 2 false, .register 1 false] "x" .emptyEcho
    (by decide) (by decide) (by decide)
  revert hearliest
  decide

end RequestTable

end RemoteConsole
