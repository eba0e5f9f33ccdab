import RemoteConsole.Proofs.Request.Lookup
import RemoteConsole.Request.Journal
import Mathlib.Data.List.TakeWhile

/-!
# The account of the slots

Every registration opens a slot. Whatever is done to a table afterwards, in any order, an open slot
is in exactly one of three places: its request is pending, or it has been answered or has failed, or
it was dropped; it comes to the last two once and stays there (`slots_settle_once`).

The proof carries a `Ledger` along the history of a table. In it the slots of the pending requests
and of the settlements, taken together, are the slots given out, each once, and every pending
request has taken in what its history says. An operation takes some requests out of the table
(`shrink`), adds to the response to one (`grow`), or puts a new one in the place of another
(`register`), and each of these keeps the ledger.
-/

namespace RemoteConsole

/-- Whether a slot ended because its request was taken back. -/
def Settlement.isDropped (s : Settlement) : Bool :=
  s.outcome == .dropped

namespace RequestTable

/-- A step of a history: an operation, what it returned, and the slots it ended. -/
structure Step where
  /-- The operation. -/
  op : Op
  /-- What it returned. -/
  reply : Reply
  /-- The slots it ended. -/
  ended : List Settlement
deriving Repr, DecidableEq

/-- Runs one operation as a step of a history. -/
def step (t : RequestTable) (op : Op) : Step where
  op
  reply := (t.apply op).1
  ended := (t.apply op).2.2

/-- The steps of a history. -/
def steps (t : RequestTable) : List Op → List Step
  | [] => []
  | op :: ops => t.step op :: (t.apply op).2.1.steps ops

/-- The table after a history. -/
def after (t : RequestTable) : List Op → RequestTable
  | [] => t
  | op :: ops => (t.apply op).2.1.after ops

/-- A body that is delivered, as a step of a history. -/
theorem step_deliver {t t' : RequestTable} {id : Int32} {body : String} {strict : Bool}
    {terminator : Terminator} {delivery : Delivery} {ended : Option Settlement}
    (h : t.deliver id body strict terminator = (delivery, t', ended)) :
    t.step (.deliver id body strict terminator) =
        ⟨.deliver id body strict terminator, .delivery delivery, ended.toList⟩ ∧
      (t.apply (.deliver id body strict terminator)).2.1 = t' := by
  rw [step, apply, h]
  exact ⟨rfl, rfl⟩

theorem after_append (t : RequestTable) (ops more : List Op) :
    t.after (ops ++ more) = (t.after ops).after more := by
  induction ops generalizing t with
  | nil => rfl
  | cons op ops ih => exact ih _

theorem steps_append (t : RequestTable) (ops more : List Op) :
    t.steps (ops ++ more) = t.steps ops ++ (t.after ops).steps more := by
  induction ops generalizing t with
  | nil => rfl
  | cons op ops ih => exact congrArg _ (ih _)

/-! ## What a history says -/

/-- The slot that a step opened. -/
def Step.slot? (s : Step) : Option Nat :=
  match s.reply with
  | .slot n => some n
  | _ => none

/-- The body that a step added to the response to the request with an id. -/
def Step.addition? (id : Int32) (s : Step) : Option String :=
  match s.op, s.reply with
  | .deliver _ body _ _, .delivery (.buffered i) => if i = id then some body else none
  | _, _ => none

/-- The slots that were opened. -/
def registered (past : List Step) : List Nat :=
  past.filterMap Step.slot?

/-- The slots that ended, and how. -/
def settlements (past : List Step) : List Settlement :=
  past.flatMap Step.ended

/-- The slots that were answered or failed. -/
def resolved (past : List Step) : List Nat :=
  ((settlements past).filter fun s => !s.isDropped).map Settlement.slot

/-- The slots that were dropped. -/
def dropped (past : List Step) : List Nat :=
  ((settlements past).filter Settlement.isDropped).map Settlement.slot

/-- A slot was opened for a request with some id, of one packet or of several. -/
def Opened (past : List Step) (slot : Nat) (id : Int32) (multi : Bool) : Prop :=
  ∃ s ∈ past, s.op = .register id multi ∧ s.reply = .slot slot

/-- What has been added to the response to the request with an id since its slot was opened. -/
def gathered (past : List Step) (slot : Nat) (id : Int32) : String :=
  String.join ((past.dropWhile fun s => s.reply != .slot slot).filterMap (Step.addition? id))

/-- A body under an id may be meant for the request with another one. -/
def MayAnswer (received id : Int32) (strict : Bool) : Prop :=
  received = id ∨ (strict = false ∧ received = unmatchedId)

/-- The ways an operation may end a slot. -/
inductive Ends (past : List Step) : Op → Settlement → Prop where
  /-- A request with the same id takes its place. -/
  | replaced {slot : Nat} {id : Int32} {multi multi' : Bool} (opened : Opened past slot id multi) :
      Ends past (.register id multi') ⟨slot, .failed .connectionClosed⟩
  /-- Its request is taken back. -/
  | removed {slot : Nat} {id : Int32} {multi : Bool} (opened : Opened past slot id multi) :
      Ends past (.remove id) ⟨slot, .dropped⟩
  /-- A response of one packet arrives. -/
  | answered {slot : Nat} {id received : Int32} {body : String} {strict : Bool}
      {terminator : Terminator} (opened : Opened past slot id false)
      (kept : terminator.discards body = false) (meant : MayAnswer received id strict) :
      Ends past (.deliver received body strict terminator) ⟨slot, .answered body⟩
  /-- The end of a response of several packets arrives. -/
  | completed {slot : Nat} {id received : Int32} {body : String} {strict : Bool}
      {terminator : Terminator} (opened : Opened past slot id true)
      (kept : terminator.discards body = false) (last : terminator.endsWith body = true)
      (meant : MayAnswer received id strict) :
      Ends past (.deliver received body strict terminator) ⟨slot, .answered (gathered past slot id)⟩
  /-- Every request fails. -/
  | failed {slot : Nat} {error : Error} : Ends past (.failAll error) ⟨slot, .failed error⟩

variable {past : List Step} {t t' : RequestTable} {s : Step} {r : Request} {slot : Nat} {id : Int32}
  {multi : Bool}

theorem registered_append (past more : List Step) :
    registered (past ++ more) = registered past ++ registered more :=
  List.filterMap_append

theorem settlements_append (past more : List Step) :
    settlements (past ++ more) = settlements past ++ settlements more :=
  List.flatMap_append

/-- A slot stays open to the requests of its id. -/
theorem Opened.append (h : Opened past slot id multi) (s : Step) :
    Opened (past ++ [s]) slot id multi := by
  obtain ⟨s', hs', hop⟩ := h
  exact ⟨s', List.mem_append_left _ hs', hop⟩

/-- One more step adds to a response what it says it adds. -/
theorem gathered_append (h : Opened past slot id multi) (s : Step) (i : Int32) :
    gathered (past ++ [s]) slot i = gathered past slot i ++ (s.addition? i).getD "" := by
  have hopen : (past.dropWhile fun s => s.reply != .slot slot).isEmpty = false := by
    obtain ⟨s', hs', -, hreply⟩ := h
    rw [Bool.eq_false_iff]
    intro hempty
    have hnever := List.dropWhile_eq_nil_iff.mp (List.isEmpty_iff.mp hempty) s' hs'
    simp [hreply] at hnever
  unfold gathered
  rw [List.dropWhile_append, if_neg (by simp [hopen]), List.filterMap_append, String.join_append]
  cases h : s.addition? i with
  | none => simp [h]
  | some body => simp [h]

/-- Nothing has been added to a response when its slot is opened. -/
theorem gathered_register (fresh : slot ∉ registered past) (hreply : s.reply = .slot slot)
    (hadd : s.addition? id = none) : gathered (past ++ [s]) slot id = "" := by
  have hbefore : (past.dropWhile fun s => s.reply != .slot slot) = [] := by
    refine List.dropWhile_eq_nil_iff.mpr fun s' hs' => ?_
    rw [bne_iff_ne]
    intro heq
    exact fresh (List.mem_filterMap.mpr ⟨s', hs', by rw [Step.slot?, heq]⟩)
  unfold gathered
  rw [List.dropWhile_append, if_pos (by simp [hbefore]),
    List.dropWhile_cons_of_neg (by simp [hreply])]
  simp [hadd]

/-! ## The ledger -/

/-- A pending request is what its history says: it was registered as it is, and it has taken in what
was added to its response. -/
structure Known (past : List Step) (r : Request) : Prop where
  /-- Its slot was opened for it. -/
  opened : Opened past r.slot r.id r.multi
  /-- It has taken in what was added to its response. -/
  body_eq : r.body = gathered past r.slot r.id
  /-- A response of one packet is empty until it is complete. -/
  single : r.multi = false → r.body = ""

/-- The account of a table with some history. -/
structure Ledger (past : List Step) (t : RequestTable) : Prop where
  /-- Slots are numbered as they are opened. -/
  registered_eq : registered past = List.range t.issued
  /-- Every slot is either that of a pending request or has ended, and has ended once. -/
  perm : (t.pending.map Request.slot ++ (settlements past).map Settlement.slot).Perm
    (List.range t.issued)
  /-- No two pending requests share an id. -/
  nodup : (t.pending.map Request.id).Nodup
  /-- Every pending request is what its history says. -/
  known : ∀ r ∈ t.pending, Known past r

namespace Known

/-- A request to whose response a step adds nothing stays as it is. -/
theorem keep (h : Known past r) (hadd : s.addition? r.id = none) : Known (past ++ [s]) r where
  opened := h.opened.append s
  body_eq := by
    rw [gathered_append h.opened, hadd, ← h.body_eq]
    exact String.append_empty.symm
  single := h.single

/-- A request of several packets takes in what a step adds to its response. -/
theorem grow (h : Known past r) (hmulti : r.multi = true) {body : String}
    (hadd : s.addition? r.id = some body) :
    Known (past ++ [s]) { r with body := r.body ++ body } where
  opened := h.opened.append s
  body_eq := by
    change r.body ++ body = gathered (past ++ [s]) r.slot r.id
    rw [gathered_append h.opened, hadd, ← h.body_eq]
    rfl
  single hsingle := absurd (hmulti.symm.trans hsingle) (by decide)

/-- A new request has taken in nothing. -/
theorem register (fresh : slot ∉ registered past) (hop : s.op = .register id multi)
    (hreply : s.reply = .slot slot) : Known (past ++ [s]) { slot, id, multi } where
  opened := ⟨s, by simp, hop, hreply⟩
  body_eq := (gathered_register fresh hreply (by simp [Step.addition?, hop])).symm
  single _ := rfl

end Known

/-- A request that a body is meant for has its id, or ids need not match. -/
theorem mayAnswer_of_target? {strict : Bool} (h : t.target? id strict = some r) :
    MayAnswer id r.id strict := by
  obtain ⟨target, htarget, hr⟩ := Option.bind_eq_some_iff.mp h
  rw [id_of_find? hr]
  unfold route at htarget
  split_ifs at htarget with hcontains hloose
  · exact .inl (Option.some.inj htarget)
  · have hfallback := Bool.and_eq_true_iff.mp hloose
    exact .inr ⟨by simpa using hfallback.1, by simpa using hfallback.2⟩

namespace Ledger

/-- A table without a history has an empty ledger. -/
theorem empty : Ledger [] {} where
  registered_eq := rfl
  perm := .refl _
  nodup := List.nodup_nil
  known := by simp

/-- An operation that takes some requests out of the table, and ends their slots, keeps the ledger.
-/
theorem shrink (h : Ledger past t) (hissued : t'.issued = t.issued)
    (hpending : t'.pending.Sublist t.pending) (hslot : s.slot? = none)
    (hadd : ∀ id, s.addition? id = none)
    (hended : (t'.pending.map Request.slot ++ s.ended.map Settlement.slot).Perm
      (t.pending.map Request.slot)) : Ledger (past ++ [s]) t' where
  registered_eq := by
    rw [registered_append, h.registered_eq, hissued]
    simp [registered, hslot]
  perm := by
    have hsettled : settlements (past ++ [s]) = settlements past ++ s.ended := by
      rw [settlements_append]
      simp [settlements]
    rw [hsettled, hissued, List.map_append]
    refine List.Perm.trans ?_ h.perm
    refine List.Perm.trans ?_ (hended.append_right _)
    rw [List.append_assoc]
    exact List.perm_append_comm.append_left _
  nodup := h.nodup.sublist (hpending.map _)
  known r hr := (h.known r (hpending.subset hr)).keep (hadd r.id)

/-- An operation that adds to one response keeps the ledger. -/
theorem grow (h : Ledger past t) (hr : t.find? r.id = some r) (hmulti : r.multi = true)
    {body : String} (hissued : t'.issued = t.issued)
    (hpending : t'.pending = (t.append r.id body).pending) (hslot : s.slot? = none)
    (hended : s.ended = []) (hadd : ∀ id, s.addition? id = if r.id = id then some body else none) :
    Ledger (past ++ [s]) t' where
  registered_eq := by
    rw [registered_append, h.registered_eq, hissued]
    simp [registered, hslot]
  perm := by
    have hsettled : settlements (past ++ [s]) = settlements past := by
      rw [settlements_append]
      simp [settlements, hended]
    rw [hsettled, hpending, map_slot_append, hissued]
    exact h.perm
  nodup := by
    rw [hpending, map_id_append]
    exact h.nodup
  known := by
    rw [hpending]
    intro r' hr'
    obtain ⟨r₀, hr₀, rfl⟩ := List.mem_map.mp hr'
    by_cases heq : r₀.id = r.id
    · -- Ids are distinct, so this is the request whose response has grown.
      obtain rfl := List.inj_on_of_nodup_map h.nodup hr₀ (mem_of_find? hr) heq
      rw [if_pos (by simp)]
      exact (h.known r₀ hr₀).grow hmulti (by simp [hadd])
    · rw [if_neg (by simpa using heq)]
      exact (h.known r₀ hr₀).keep (by rw [hadd, if_neg (Ne.symm heq)])

/-- A slot that is about to be opened is not open. -/
theorem not_mem_registered (h : Ledger past t) : t.issued ∉ registered past := by
  rw [h.registered_eq, List.mem_range]
  exact Nat.lt_irrefl _

/-- Registering a request, which may end the one that it replaces, keeps the ledger. -/
theorem register (h : Ledger past t) (id : Int32) (multi : Bool) :
    Ledger (past ++ [t.step (.register id multi)]) (t.register id multi).1 where
  registered_eq := by
    change _ = List.range (t.issued + 1)
    rw [registered_append, h.registered_eq, List.range_succ]
    rfl
  perm := by
    have hended : (t.step (.register id multi)).ended.map Settlement.slot =
        (t.find? id).toList.map Request.slot := by
      change ((t.register id multi).2.toList).map Settlement.slot = _
      rw [RequestTable.register]
      cases t.find? id <;> rfl
    have hsettled : (settlements (past ++ [t.step (.register id multi)])).map Settlement.slot =
        (settlements past).map Settlement.slot ++ (t.find? id).toList.map Request.slot := by
      rw [settlements_append, List.map_append, ← hended]
      simp [settlements]
    have hslots : ((t.without id).map Request.slot ++ (t.find? id).toList.map Request.slot).Perm
        (t.pending.map Request.slot) := by
      rw [← List.map_append]
      exact (List.perm_append_comm.trans (perm_without h.nodup id)).map _
    change (((t.without id) ++ [_]).map Request.slot ++ _).Perm (List.range (t.issued + 1))
    rw [hsettled, List.range_succ, List.map_append]
    -- The new slot goes to the end, and the slot that was replaced from its request to its end.
    calc (t.without id).map Request.slot ++ [t.issued] ++
            ((settlements past).map Settlement.slot ++ (t.find? id).toList.map Request.slot)
        |>.Perm ((t.without id).map Request.slot ++
            ((settlements past).map Settlement.slot ++ (t.find? id).toList.map Request.slot) ++
              [t.issued]) := by
          rw [List.append_assoc, List.append_assoc]
          exact List.perm_append_comm.append_left _
      _ |>.Perm ((t.without id).map Request.slot ++ (t.find? id).toList.map Request.slot ++
            (settlements past).map Settlement.slot ++ [t.issued]) := by
          refine List.Perm.append_right _ ?_
          rw [List.append_assoc]
          exact List.perm_append_comm.append_left _
      _ |>.Perm (t.pending.map Request.slot ++ (settlements past).map Settlement.slot ++
            [t.issued]) := (hslots.append_right _).append_right _
      _ |>.Perm (List.range t.issued ++ [t.issued]) := h.perm.append_right _
  nodup := by
    change ((t.without id ++ [_]).map Request.id).Nodup
    rw [List.map_append, map_id_without, List.nodup_append]
    refine ⟨h.nodup.filter _, by simp, ?_⟩
    intro i hi j hj
    obtain rfl : j = id := by simpa using hj
    simpa using (List.mem_filter.mp hi).2
  known := by
    intro r hr
    rcases List.mem_append.mp hr with hr | hr
    · exact (h.known r (List.mem_of_mem_filter hr)).keep rfl
    · obtain rfl := List.mem_singleton.mp hr
      exact Known.register h.not_mem_registered rfl rfl

/-- Every operation keeps the ledger. -/
theorem apply (h : Ledger past t) (op : Op) : Ledger (past ++ [t.step op]) (t.apply op).2.1 := by
  cases op with
  | register id multi => exact h.register id multi
  | remove id =>
    refine h.shrink rfl List.filter_sublist rfl (fun _ => rfl) ?_
    have hended : (t.step (.remove id)).ended.map Settlement.slot =
        (t.find? id).toList.map Request.slot := by
      change ((t.remove id).2.toList).map Settlement.slot = _
      rw [remove]
      cases t.find? id <;> rfl
    rw [hended, ← List.map_append]
    exact (List.perm_append_comm.trans (perm_without h.nodup id)).map _
  | forget n =>
    refine h.shrink rfl (List.Sublist.refl _) rfl (fun _ => rfl) ?_
    simp [step, RequestTable.apply]
  | deliver id body strict terminator =>
    rcases t.deliver_cases id body strict terminator with
      ⟨delivery, t', hdelivery, hpending, hissued, heq⟩ | ⟨r, hr, -, hmulti, -, heq⟩ |
        ⟨r, hr, -, -, heq⟩
    · obtain ⟨hstep, hafter⟩ := step_deliver heq
      rw [hstep, hafter]
      refine h.shrink hissued (by rw [hpending]) rfl ?_ (by simp [hpending])
      intro i
      rcases hdelivery with rfl | rfl <;> rfl
    · obtain ⟨hstep, hafter⟩ := step_deliver heq
      rw [hstep, hafter]
      exact h.grow (find?_of_target? hr) hmulti (by simp) (by simp) rfl rfl fun _ => rfl
    · obtain ⟨hstep, hafter⟩ := step_deliver heq
      have hpending : ((t.route id strict).2.complete r.id).pending = t.without r.id := by simp
      have hperm := (List.perm_append_comm.trans (perm_without h.nodup r.id)).map Request.slot
      rw [find?_of_target? hr] at hperm
      rw [hstep, hafter]
      refine h.shrink (by simp) ?_ rfl (fun _ => rfl) ?_
      · rw [hpending]
        exact List.filter_sublist
      · rw [hpending]
        simpa using hperm
  | failAll error =>
    have hended : (t.step (.failAll error)).ended.map Settlement.slot =
        t.pending.map Request.slot := by
      simp [step, RequestTable.apply, failAll]
    refine h.shrink rfl (List.nil_sublist _) rfl (fun _ => rfl) ?_
    rw [hended]
    exact .refl _

/-- A table has its ledger after every history. -/
theorem after (h : Ledger past t) (ops : List Op) : Ledger (past ++ t.steps ops) (t.after ops) := by
  induction ops generalizing past t with
  | nil => simpa [steps, RequestTable.after] using h
  | cons op ops ih =>
    have hnext := ih (h.apply op)
    rw [List.append_assoc] at hnext
    exact hnext

/-- A table that was empty at first has its ledger. -/
theorem of_steps (ops : List Op) :
    Ledger (({} : RequestTable).steps ops) (({} : RequestTable).after ops) := by
  have hledger := empty.after ops
  rw [List.nil_append] at hledger
  exact hledger

/-- What a body meant for a request may do to it is among the ways a slot may end. -/
theorem ends_of_completed (h : Known past r) {received : Int32} {body : String} {strict : Bool}
    {terminator : Terminator} (hr : t.target? received strict = some r)
    (kept : terminator.discards body = false)
    (last : r.multi = true → terminator.endsWith body = true) :
    Ends past (.deliver received body strict terminator)
      ⟨r.slot, .answered (if r.multi then r.body else r.body ++ body)⟩ := by
  have meant : MayAnswer received r.id strict := mayAnswer_of_target? hr
  have opened := h.opened
  cases hmulti : r.multi with
  | true =>
    rw [hmulti] at opened
    rw [if_pos rfl, h.body_eq]
    exact .completed opened kept (last hmulti) meant
  | false =>
    rw [hmulti] at opened
    rw [if_neg (by simp), h.single hmulti, String.empty_append]
    exact .answered opened kept meant

/-- An operation ends slots of pending requests only, and each in a way it may end. -/
theorem ends (h : Ledger past t) {op : Op} {s : Settlement} (hs : s ∈ (t.step op).ended) :
    s.slot ∈ t.pending.map Request.slot ∧ Ends past op s := by
  cases op with
  | register id multi =>
    obtain ⟨r, hr, rfl⟩ := Option.map_eq_some_iff.mp (Option.mem_toList.mp hs)
    have hknown := (h.known r (mem_of_find? hr)).opened
    rw [id_of_find? hr] at hknown
    exact ⟨List.mem_map_of_mem (mem_of_find? hr), .replaced hknown⟩
  | remove id =>
    obtain ⟨r, hr, rfl⟩ := Option.map_eq_some_iff.mp (Option.mem_toList.mp hs)
    have hknown := (h.known r (mem_of_find? hr)).opened
    rw [id_of_find? hr] at hknown
    exact ⟨List.mem_map_of_mem (mem_of_find? hr), .removed hknown⟩
  | forget n => exact absurd hs (List.not_mem_nil)
  | deliver received body strict terminator =>
    rcases t.deliver_cases received body strict terminator with
      ⟨delivery, t', -, -, -, heq⟩ | ⟨r, -, -, -, -, heq⟩ | ⟨r, hr, kept, last, heq⟩
    · rw [(step_deliver heq).1] at hs
      exact absurd hs (List.not_mem_nil)
    · rw [(step_deliver heq).1] at hs
      exact absurd hs (List.not_mem_nil)
    · rw [(step_deliver heq).1] at hs
      obtain rfl := List.mem_singleton.mp hs
      have hmem := mem_of_find? (find?_of_target? hr)
      exact ⟨List.mem_map_of_mem hmem, ends_of_completed (h.known r hmem) hr kept last⟩
  | failAll error =>
    obtain ⟨r, hr, rfl⟩ := List.mem_map.mp hs
    exact ⟨List.mem_map_of_mem hr, .failed⟩

end Ledger

/-- The account of the slots of a table with some history. -/
structure Accounted (past : List Step) (t : RequestTable) : Prop where
  /-- Every registration opens another slot. -/
  distinct : (registered past).Nodup
  /-- The slots that are pending, those that were answered or failed, and those that were dropped
  are the slots that were opened: each is among one of the three, and there once. -/
  places : (t.pending.map Request.slot ++ resolved past ++ dropped past).Perm (registered past)
  /-- So many slots are pending as were opened and have not ended. -/
  size_eq : t.size + (resolved past).length + (dropped past).length = (registered past).length

/-- What an operation ends on a table with some history. -/
structure Settles (past : List Step) (t : RequestTable) (op : Op) : Prop where
  /-- Only pending slots end, and each as the operation may end it. -/
  ends : ∀ s ∈ (t.step op).ended, s.slot ∈ t.pending.map Request.slot ∧ Ends past op s
  /-- An operation on one request ends one slot at most. -/
  atMostOne : (∀ error, op ≠ .failAll error) → (t.step op).ended.length ≤ 1
  /-- Failing every request ends every pending slot, and returns how many. -/
  all : ∀ error, op = .failAll error →
    (t.step op).ended.map Settlement.slot = t.pending.map Request.slot ∧
      (t.step op).reply = .failed t.size ∧ (t.apply op).2.1.size = 0

namespace Ledger

/-- What has a ledger has its slots accounted for. -/
theorem accounted (h : Ledger past t) : Accounted past t := by
  have hsplit : (resolved past ++ dropped past).Perm
      ((settlements past).map Settlement.slot) := by
    rw [resolved, dropped, ← List.map_append]
    refine (List.perm_append_comm.trans ?_).map _
    exact List.filter_append_perm _ _
  have hplaces : (t.pending.map Request.slot ++ resolved past ++ dropped past).Perm
      (registered past) := by
    rw [h.registered_eq, List.append_assoc]
    exact (hsplit.append_left _).trans h.perm
  refine ⟨by rw [h.registered_eq]; exact List.nodup_range, hplaces, ?_⟩
  have hlength := hplaces.length_eq
  rw [List.length_append, List.length_append, List.length_map] at hlength
  exact hlength

/-- What an operation ends follows from the ledger. -/
theorem settles (h : Ledger past t) (op : Op) : Settles past t op where
  ends _ hs := h.ends hs
  atMostOne hop := by
    have hoption : ∀ o : Option Settlement, o.toList.length ≤ 1 := by
      rintro (_ | s) <;> simp
    cases op with
    | register id multi => exact hoption _
    | remove id => exact hoption _
    | forget n => exact Nat.zero_le _
    | deliver id body strict terminator => exact hoption _
    | failAll error => exact absurd rfl (hop error)
  all := by
    rintro error rfl
    refine ⟨by simp [step, RequestTable.apply, failAll], ?_, rfl⟩
    simp [step, RequestTable.apply, failAll, size]

/-- A slot that has ended stays ended, and does not end again. -/
theorem ended (h : Ledger past t) {s : Settlement} (hs : s ∈ settlements past) :
    s.slot ∉ t.pending.map Request.slot ∧
      (settlements past).filter (fun s' => s'.slot == s.slot) = [s] := by
  obtain ⟨-, hsettled, hapart⟩ := List.nodup_append.mp (h.perm.nodup_iff.mpr List.nodup_range)
  refine ⟨fun hpending => ?_, filter_key_eq_of_nodup hsettled hs⟩
  exact hapart _ hpending _ (List.mem_map_of_mem hs) rfl

end Ledger

/-- Whatever is done to a table, also if an id is registered while it is pending: every slot is
pending, or was answered or failed once, or was dropped once; an operation ends pending slots only,
as it may end them, and only failing all requests ends more than one; and what has ended stays as it
ended. -/
theorem slots_settle_once (ops : List Op) :
    let past := ({} : RequestTable).steps ops
    let t := ({} : RequestTable).after ops
    Accounted past t ∧ (∀ op, Settles past t op) ∧
      ∀ s ∈ settlements past, ∀ more,
        s.slot ∉ (({} : RequestTable).after (ops ++ more)).pending.map Request.slot ∧
          (settlements (({} : RequestTable).steps (ops ++ more))).filter
            (fun s' => s'.slot == s.slot) = [s] := by
  have hledger := Ledger.of_steps ops
  refine ⟨hledger.accounted, hledger.settles, fun s hs more => ?_⟩
  refine (Ledger.of_steps (ops ++ more)).ended ?_
  rw [steps_append, settlements_append]
  exact List.mem_append_left _ hs

/-- A request whose id is registered again fails, and is not touched when its id is answered, and
then registered and failed again. -/
theorem slots_settle_once_replaced :
    let ops : List Op := [.register 1 true, .deliver 1 "a" true .emptyEcho, .register 1 false,
      .register 2 true, .remove 2, .deliver 0 "b" false .emptyEcho]
    let more : List Op := [.register 1 true, .deliver 1 "c" true .emptyEcho, .failAll .timeout]
    let replaced : Settlement := ⟨0, .failed .connectionClosed⟩
    replaced ∈ settlements (({} : RequestTable).steps ops) ∧
      0 ∉ (({} : RequestTable).after (ops ++ more)).pending.map Request.slot ∧
        (settlements (({} : RequestTable).steps (ops ++ more))).filter (fun s => s.slot == 0) =
          [replaced] :=
  ⟨by decide, (slots_settle_once _).2.2 ⟨0, .failed .connectionClosed⟩ (by decide) _⟩

end RequestTable

end RemoteConsole
