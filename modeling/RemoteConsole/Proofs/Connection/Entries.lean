import RemoteConsole.Proofs.Connection.Balance

/-!
# The entries of a connection

Every pending request has an entry, its id and its slot, under which whoever registered it takes it
back. Registering a request makes one entry. Nothing else that happens to a connection makes any,
closing it leaves none, and an entry whose slot has ended is gone.
-/

namespace RemoteConsole

namespace RequestTable

variable {t : RequestTable} {id : Int32} {entry : Int32 × Nat}

/-- The id and the slot of each pending request. -/
def entries (t : RequestTable) : List (Int32 × Nat) :=
  t.pending.map fun r => (r.id, r.slot)

/-- A request that is taken out takes its entry along, and no other. -/
theorem mem_entries_without :
    entry ∈ (t.without id).map (fun r => (r.id, r.slot)) ↔ entry ∈ t.entries ∧ entry.1 ≠ id := by
  simp only [without, entries, List.mem_map, List.mem_filter, bne_iff_ne]
  constructor
  · rintro ⟨r, ⟨hr, hid⟩, rfl⟩
    exact ⟨⟨r, hr, rfl⟩, hid⟩
  · rintro ⟨⟨r, hr, rfl⟩, hid⟩
    exact ⟨r, ⟨hr, hid⟩, rfl⟩

theorem mem_entries_remove : entry ∈ (t.remove id).1.entries ↔ entry ∈ t.entries ∧ entry.1 ≠ id :=
  mem_entries_without

/-- A new request has an entry of its own, in place of that of another request with its id. -/
theorem mem_entries_register {multi : Bool} :
    entry ∈ (t.register id multi).1.entries ↔
      entry ∈ t.entries ∧ entry.1 ≠ id ∨ entry = (id, t.issued) := by
  rw [← mem_entries_without]
  simp [entries, register]

/-- Whatever is pending in a table is what is left of another one: each request was there, perhaps
with less of its response. -/
def Remains (t t' : RequestTable) : Prop :=
  ∀ r ∈ t'.pending, ∃ r₀ ∈ t.pending, r = { r₀ with body := r.body }

namespace Remains

variable {t' t'' : RequestTable}

theorem refl (t : RequestTable) : Remains t t :=
  fun r hr => ⟨r, hr, rfl⟩

theorem trans (h : Remains t t') (h' : Remains t' t'') : Remains t t'' := by
  intro r hr
  obtain ⟨r', hr', heq'⟩ := h' r hr
  obtain ⟨r₀, hr₀, heq⟩ := h r' hr'
  refine ⟨r₀, hr₀, ?_⟩
  rw [heq'] at *
  rw [heq]

/-- Requests are taken out, and none is added. -/
theorem of_subset (h : t'.pending ⊆ t.pending) : Remains t t' :=
  fun r hr => ⟨r, h hr, rfl⟩

theorem of_eq (h : t'.pending = t.pending) : Remains t t' :=
  of_subset fun _ hr => h ▸ hr

/-- What is left of a table has no entries of its own. -/
theorem entries_subset (h : Remains t t') : t'.entries ⊆ t.entries := by
  intro entry hentry
  obtain ⟨r, hr, rfl⟩ := List.mem_map.mp hentry
  obtain ⟨r₀, hr₀, heq⟩ := h r hr
  rw [heq]
  exact List.mem_map.mpr ⟨r₀, hr₀, rfl⟩

/-- Part of a response arrives. -/
theorem append (t : RequestTable) (id : Int32) (body : String) : Remains t (t.append id body) := by
  intro r hr
  obtain ⟨r₀, hr₀, rfl⟩ := List.mem_map.mp hr
  refine ⟨r₀, hr₀, ?_⟩
  split_ifs <;> rfl

/-- A body that is delivered adds no request. -/
theorem deliver (t : RequestTable) (id : Int32) (body : String) (strict : Bool)
    (terminator : Terminator) : Remains t (t.deliver id body strict terminator).2.1 := by
  obtain ⟨delivery, t', -, hpending, -, heq⟩ | ⟨r, -, -, -, -, heq⟩ | ⟨r, -, -, -, heq⟩ :=
    t.deliver_cases id body strict terminator
  · rw [heq]
    exact .of_eq hpending
  · rw [heq]
    exact (of_eq (route_pending t id strict)).trans (.append _ _ _)
  · rw [heq]
    refine .of_subset ?_
    rw [route_complete_pending]
    exact List.filter_subset_self ..

end Remains

end RequestTable

/-- A request whose slot has ended is not pending. -/
theorem Balanced.not_mem_entries {conn : Connection} {ended : List Settlement}
    {verdicts : List Verdict} (balanced : Balanced conn ended verdicts) {entry : Int32 × Nat}
    (h : entry.2 ∈ ended.map Settlement.slot) : entry ∉ conn.requests.entries := by
  intro hentry
  obtain ⟨past, ledger, hended⟩ := balanced.ledger
  have hpending : entry.2 ∈ conn.requests.pending.map Request.slot := by
    obtain ⟨r, hr, rfl⟩ := List.mem_map.mp hentry
    exact List.mem_map_of_mem hr
  have hnodup := ledger.perm.nodup_iff.mpr List.nodup_range
  rw [hended] at hnodup
  exact List.disjoint_of_nodup_append hnodup hpending h

namespace Link

open RequestTable (Remains)

variable {l : Link} {ops : List Op}

/-- Only registering a request adds one. -/
theorem remains_apply (l : Link) {op : Op} (h : ∀ id multi, op ≠ .register id multi) :
    Remains l.conn.requests (l.apply op).2.2.conn.requests := by
  have hdispatch (p : Packet) : Remains l.conn.requests (l.conn.dispatch p).2.requests := by
    unfold Connection.dispatch
    split_ifs
    · exact .refl _
    · exact .refl _
    · exact .deliver _ _ _ _ _
  cases op with
  | register id multi => exact absurd rfl (h id multi)
  | remove id => exact .of_subset (List.filter_subset_self ..)
  | frame bytes =>
    change Remains _ (l.frameReceived bytes).2.conn.requests
    unfold frameReceived
    split
    · exact hdispatch _
    · exact .refl _
  | packet p => exact hdispatch p
  | close =>
    change Remains _ l.close.2.conn.requests
    cases hclosed : l.conn.closed with
    | true =>
      rw [close_of_closed hclosed]
      exact .refl _
    | false =>
      rw [close_of_open hclosed]
      exact .of_subset (List.nil_subset _)
  | beginAuth | cancelAuth | claimWatch | track | state op => exact .refl _

/-- Operations that leave nobody waiting who did not wait before add no request. -/
theorem remains_after (quiet : Quiet ops) :
    Remains l.conn.requests (l.after ops).conn.requests := by
  cases quiet with
  | unasked h =>
    induction ops generalizing l with
    | nil => exact .refl _
    | cons op ops ih =>
      obtain ⟨hop, hops⟩ := List.forall_mem_cons.mp h
      refine (remains_apply l ?_).trans (ih hops)
      rintro id multi rfl
      cases hop
  | request id multi =>
    intro r hr
    obtain ⟨hregistered, hid⟩ := List.mem_filter.mp hr
    -- The request that was added is the one that was taken back.
    obtain hold | hnew := List.mem_append.mp hregistered
    · exact ⟨r, (List.mem_filter.mp hold).1, rfl⟩
    · rw [List.mem_singleton.mp hnew] at hid
      exact absurd hid (by simp)
  | authentication => exact .refl _

/-- Only registering a request makes an entry. -/
theorem entries_apply_subset (l : Link) {op : Op} (h : ∀ id multi, op ≠ .register id multi) :
    (l.apply op).2.2.conn.requests.entries ⊆ l.conn.requests.entries :=
  (remains_apply l h).entries_subset

/-- Operations that leave nobody waiting who did not wait before make no entry. -/
theorem entries_after_subset (quiet : Quiet ops) :
    (l.after ops).conn.requests.entries ⊆ l.conn.requests.entries :=
  (remains_after quiet).entries_subset

end Link

end RemoteConsole
