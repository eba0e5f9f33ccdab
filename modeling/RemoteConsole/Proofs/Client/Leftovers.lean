import RemoteConsole.Proofs.Client.Checks
import RemoteConsole.Proofs.Connection.Entries

/-!
# Requests that are left behind

Commands and connection checks register requests, and whoever has registered one is to take it back
however it ends. A command does: when its packets are too large, when it cannot write them, and when
its time runs out. A connection check does so only when its time runs out. A check whose packet is
too large for the limit of the client gives up and leaves its request on an open connection, and so
does one whose connection is closed before it registers: nothing ends what is pending there any more.

Every pending request has somebody who waits for it and takes it back (`Claimed`), until a check
registers its request in one of these two situations (`leavesBehind`), and from then on one has
nobody. So a client is `Tidy` along a run exactly if no check does (`tidy_iff`). A call that is
dropped before it is over takes nothing back, and the result is about runs without one.
-/

namespace RemoteConsole

/-- The request that a call has registered and waits for: the generation of its connection, its id
and its slot. -/
def Stage.request? : Stage → Option (Nat × Int32 × Nat)
  | writingCommand g id slot _ _ | awaitResponse g id slot => some (g, id, slot)
  | _ => none

namespace Client

open Connection (Rests)

variable {c c' d : Client} {action : Action} {actions : List Action} {g n : Nat}
  {entry : Int32 × Nat} {errand : Errand} {stage : Stage}

/-- A request is pending on the connection of a generation. -/
def IsPending (c : Client) (g : Nat) (entry : Int32 × Nat) : Prop :=
  ∃ s, c.session? g = some s ∧ entry ∈ s.conn.requests.entries

/-! ## Who registers requests -/

/-- A step registers a request on a connection: a call does, and goes on to write it, or a
connection check does. -/
inductive Registers (c : Client) (action : Action) (c' : Client) (g : Nat)
    (entry : Int32 × Nat) : Prop where
  /-- A call does. -/
  | call {n : Nat} {text : String} {multi : Bool} {timeout : Nat} {stage : Stage}
    (taker : action = .advance n)
    (moved : c'.calls[n]? = some ⟨.command text multi timeout, stage⟩)
    (request : stage.request? = some (g, entry))
  /-- A check does. -/
  | check {s : Session} (taker : action = .watch g) (session : c.session? g = some s)
    (registering : s.watch = .registering)
    (fresh : entry = (c.nextId, s.conn.requests.issued))

/-- Where nothing but quiet operations have been done, nothing new is pending. -/
theorem IsPending.of_deals {k : Nat} {ops : List Link.Op} (pending : c'.IsPending g entry)
    (deals : Deals k ops c c')
    (subset : ∀ l : Link, (l.after ops).conn.requests.entries ⊆ l.conn.requests.entries) :
    c.IsPending g entry := by
  obtain ⟨s', hs', hentry⟩ := pending
  obtain hs | ⟨-, s, hs, haccount⟩ := deals.session_cases hs'
  · exact ⟨s', hs, hentry⟩
  · have hconn : s'.conn = ((c.account s).link.after ops).conn := congrArg (·.link.conn) haccount
    rw [hconn] at hentry
    exact ⟨s, hs, subset _ hentry⟩

/-- What is pending once an id was used to register a request. -/
theorem IsPending.of_registerNext {multi : Bool} {s : Session} (hs : c.session? g = some s)
    (pending : (onConn { c with nextId := succId c.nextId } g
      (·.register c.nextId multi)).IsPending g entry) :
    c.IsPending g entry ∨ entry = (c.nextId, s.conn.requests.issued) := by
  obtain ⟨s', hs', hentry⟩ := pending
  obtain ⟨s'', hs'', haccount⟩ := (deals_registerNext c g multi).exists_session hs
  obtain rfl := Option.some.inj (hs'.symm.trans hs'')
  have hconn : s'.conn.requests = (s.conn.requests.register c.nextId multi).1 := by
    rw [Account.after_singleton] at haccount
    exact congrArg (·.link.conn.requests) haccount
  rw [hconn] at hentry
  obtain ⟨hold, -⟩ | hnew := RequestTable.mem_entries_register.mp hentry
  · exact .inl ⟨s, hs, hold⟩
  · exact .inr hnew

/-- Clients with the same connections have the same pending requests. -/
theorem IsPending.of_sessions (pending : c'.IsPending g entry)
    (sessions : c'.sessions = c.sessions) : c.IsPending g entry := by
  obtain ⟨s, hs, hentry⟩ := pending
  rw [session?, sessions] at hs
  exact ⟨s, hs, hentry⟩

/-- A call that moves on has the same errand. -/
theorem getElem?_setStage (hcalls : d.calls = c.calls) (hcall : c.calls[n]? = some ⟨errand, stage⟩)
    (stage' : Stage) : (d.setStage n stage').calls[n]? = some ⟨errand, stage'⟩ := by
  change (d.calls.modify n fun call => { call with stage := stage' })[n]? = _
  rw [hcalls, List.getElem?_modify, hcall]
  exact congrArg some (if_pos rfl)

/-- A call that registers a request goes on to write it, or has taken it back. -/
theorem writes_of_registering (hcall : c.calls[n]? = some ⟨errand, .registering g⟩)
    (h : c.advance n = some c') :
    (∃ text multi timeout s packets bytes, errand = .command text multi timeout ∧
      c.session? g = some s ∧
        c' = (onConn { c with nextId := succId c.nextId } g (·.register c.nextId multi)).setStage n
          (.writingCommand g c.nextId s.conn.requests.issued packets bytes)) ∨
      ∀ entry, c'.IsPending g entry → c.IsPending g entry := by
  unfold advance at h
  obtain ⟨call, hcall', h⟩ := Option.bind_eq_some_iff.mp h
  obtain rfl := Option.some.inj (hcall.symm.trans hcall')
  obtain ⟨s, hs, h⟩ := Option.bind_eq_some_iff.mp h
  match errand with
  | .command text multi timeout =>
    dsimp only at h
    split at h
    · obtain rfl := Option.some.inj h
      exact .inl ⟨text, multi, timeout, s, _, _, rfl, hs, rfl⟩
    · rename_i e _
      obtain rfl := Option.some.inj h
      have htaken := (deals_registerNext c g multi).trans (deals_remove _ g c.nextId)
      have hover := (htaken.trans_nil (deals_unlock _ n g)).trans_nil
        (deals_setStage _ n (.finished (.failed e)) g)
      exact .inr fun entry pending =>
        pending.of_deals hover fun _ => Link.entries_after_subset (.request _ _)
  | .connect | .authenticate _ | .disconnect => cases h

/-- What is pending once a call has registered a request. -/
theorem registers_of_advance (hcall : c.calls[n]? = some ⟨errand, .registering g⟩)
    (h : c.advance n = some c') (pending : c'.IsPending g entry) :
    c.IsPending g entry ∨ Registers c (.advance n) c' g entry := by
  obtain ⟨text, multi, timeout, s, packets, bytes, rfl, hs, rfl⟩ | taken :=
    writes_of_registering hcall h
  · obtain hold | rfl := IsPending.of_registerNext hs pending
    · exact .inl hold
    · have hcalls := calls_onConn { c with nextId := succId c.nextId } g (·.register c.nextId multi)
      exact .inr (.call rfl (getElem?_setStage hcalls hcall _) rfl)
  · exact .inl (taken entry pending)

/-- The size of the packet that a connection check sends, in every encoding. -/
def checkSize : Nat := 16

theorem size_watchCommand (e : Encoding) :
    Packet.minSize + (e.encode watchCommand).length = checkSize := by
  cases e <;> decide

/-- The check of a connection is where it was put. -/
theorem watch_of_setWatch {watch : Watch} {s : Session}
    (hs : (d.setWatch g watch).session? g = some s) : s.watch = watch := by
  have hkeep : ∀ t : Session, t.conn.generation = g →
      ({ t with watch } : Session).conn.generation = g := fun _ ht => ht
  rw [setWatch, session?_modifySession hkeep, if_pos rfl] at hs
  obtain ⟨t, -, rfl⟩ := Option.map_eq_some_iff.mp hs
  rfl

/-- A connection check registers its request, and goes on to write it if it is not too large. -/
theorem session?_of_registering {s : Session} (hs : c.session? g = some s)
    (registering : s.watch = .registering) (h : c.advanceWatch g = some c') :
    ∃ s', c'.session? g = some s' ∧ s'.conn = (s.conn.register c.nextId false).2 ∧
      s'.watch.request? =
        if s.conn.routing.maxSize < checkSize then none
        else some (c.nextId, s.conn.requests.issued) := by
  unfold advanceWatch at h
  obtain ⟨t, ht, h⟩ := Option.bind_eq_some_iff.mp h
  obtain rfl := Option.some.inj (hs.symm.trans ht)
  simp only [registering] at h
  have hregistered {d : Client} {watch : Watch}
      (deals : Deals g [.register c.nextId false] c (d.setWatch g watch)) :
      ∃ s', (d.setWatch g watch).session? g = some s' ∧
        s'.conn = (s.conn.register c.nextId false).2 ∧ s'.watch = watch := by
    obtain ⟨s', hs', haccount⟩ := deals.exists_session hs
    rw [Account.after_singleton] at haccount
    exact ⟨s', hs', congrArg (·.link.conn) haccount, watch_of_setWatch hs'⟩
  have hregister := deals_registerNext c g false
  split at h
  · rename_i bytes hencode
    obtain rfl := Option.some.inj h
    obtain ⟨s', hs', hconn, hwatch⟩ := hregistered (hregister.trans_nil (deals_setWatch ..))
    have hsize := (Packet.eq_layout_of_encode hencode).2
    rw [size_watchCommand] at hsize
    refine ⟨s', hs', hconn, ?_⟩
    rw [hwatch, if_neg (Nat.not_lt.mpr hsize)]
    rfl
  · rename_i e hencode
    obtain rfl := Option.some.inj h
    have hunlock := hregister.trans_nil (deals_unlockSession _ (.watch g) g)
    obtain ⟨s', hs', hconn, hwatch⟩ := hregistered (hunlock.trans_nil (deals_setWatch ..))
    have hsize : s.conn.routing.maxSize < checkSize := by
      rw [Packet.encode_eq, size_watchCommand] at hencode
      by_contra hfits
      rw [if_neg hfits] at hencode
      cases hencode
    refine ⟨s', hs', hconn, ?_⟩
    rw [hwatch, if_pos hsize]
    rfl

/-- A connection check that registers its request. -/
theorem registers_of_advanceWatch {s : Session} (hs : c.session? g = some s)
    (registering : s.watch = .registering) (h : c.advanceWatch g = some c')
    (pending : c'.IsPending g entry) :
    c.IsPending g entry ∨ Registers c (.watch g) c' g entry := by
  obtain ⟨s', hs', hconn, -⟩ := session?_of_registering hs registering h
  obtain ⟨t, ht, hentry⟩ := pending
  obtain rfl := Option.some.inj (hs'.symm.trans ht)
  rw [hconn] at hentry
  obtain ⟨hold, -⟩ | hnew := RequestTable.mem_entries_register.mp hentry
  · exact .inl ⟨s, hs, hold⟩
  · exact .inr (.check rfl hs registering hnew)

/-- A step after which one more request has been registered on a connection is one of a call or of
its check that was about to register it. -/
theorem registering_of_issued (h : c.step action = some c') (asked : c.asks action g = true)
    {s s' : Session} (hs : c.session? g = some s) (hs' : c'.session? g = some s')
    (issued : s'.conn.requests.issued ≠ s.conn.requests.issued) :
    (∃ n errand, action = .advance n ∧ c.calls[n]? = some ⟨errand, .registering g⟩) ∨
      action = .watch g ∧ s.watch = .registering := by
  have hd' := docket?_of_session? hs'
  have hchanged {d : Docket} (hd : c'.docket? g = some d) :
      d.issued ≠ s.conn.requests.issued := by
    obtain rfl := Option.some.inj (hd'.symm.trans hd)
    exact issued
  obtain same | ⟨-, watch, -, -, begun⟩ | ⟨n, errand, rfl, call, -⟩ | ⟨own, d, after, kept, -⟩ :=
    (tended_of_step h).docket_cases (docket?_of_session? hs)
  · exact absurd rfl (hchanged same)
  · exact absurd rfl (hchanged begun)
  · exact .inl ⟨n, errand, rfl, call⟩
  · have hregistering : s.watch = .registering := by
      by_contra hother
      exact hchanged after (kept hother)
    cases action with
    | watch k =>
      obtain rfl := Option.some.inj own
      exact .inr ⟨rfl, hregistering⟩
    | watchWrite _ _ | watchExpire _ => cases asked
    | _ => cases own

/-- It registers that request. -/
theorem registers_of_issued (h : c.step action = some c') (asked : c.asks action g = true)
    {s s' : Session} (hs : c.session? g = some s) (hs' : c'.session? g = some s')
    (issued : s'.conn.requests.issued ≠ s.conn.requests.issued)
    (pending : c'.IsPending g entry) : c.IsPending g entry ∨ Registers c action c' g entry := by
  obtain ⟨n, errand, rfl, call⟩ | ⟨rfl, registering⟩ := registering_of_issued h asked hs hs' issued
  · exact registers_of_advance call h pending
  · exact registers_of_advanceWatch hs registering h pending

/-- What is pending after a step was pending before, unless the step has registered one more request
on the connection. -/
theorem issued_of_isPending (h : c.step action = some c') (pending : c'.IsPending g entry) :
    c.IsPending g entry ∨ c.asks action g = true ∧
      ∃ s s', c.session? g = some s ∧ c'.session? g = some s' ∧
        s'.conn.requests.issued = s.conn.requests.issued + 1 := by
  cases transition_of_step h with
  | dealt _ calm _ deals =>
    exact .inl (pending.of_deals deals fun _ => Link.entries_after_subset calm.quiet)
  | attempted _ _ sessions => exact .inl (pending.of_sessions sessions)
  | @made k _ _ _ sessions =>
    obtain ⟨s', hs', hentry⟩ := pending
    rw [session?_append sessions] at hs'
    obtain hold | ⟨-, hmade⟩ := Option.or_eq_some_iff.mp hs'
    · exact .inl ⟨s', hold, hentry⟩
    · split_ifs at hmade
      obtain rfl := Option.some.inj hmade
      cases hentry
  | @asked k op _ asking asked deals =>
    by_cases hother : ∀ id multi, op ≠ .register id multi
    · exact .inl (pending.of_deals deals fun l => Link.entries_apply_subset l hother)
    push Not at hother
    obtain ⟨id, multi, rfl⟩ := hother
    have hpending := pending
    obtain ⟨s', hs', hentry⟩ := hpending
    obtain hs | ⟨rfl, s, hs, haccount⟩ := deals.session_cases hs'
    · exact .inl ⟨s', hs, hentry⟩
    refine .inr ⟨asked, s, s', hs, hs', ?_⟩
    rw [Account.after_singleton] at haccount
    exact congrArg (·.link.conn.requests.issued) haccount

/-- What is pending after a step was pending before, unless the step has registered it. -/
theorem isPending_of_step (h : c.step action = some c') (pending : c'.IsPending g entry) :
    c.IsPending g entry ∨ Registers c action c' g entry := by
  obtain hold | ⟨asked, s, s', hs, hs', hissued⟩ := issued_of_isPending h pending
  · exact .inl hold
  · exact registers_of_issued h asked hs hs' (by omega) pending

/-! ## Who takes them back -/

/-- What was taken back is not pending. -/
theorem not_isPending_remove {id : Int32} {slot : Nat} :
    ¬(c.onConn g (·.remove id)).IsPending g (id, slot) := by
  rintro ⟨s', hs', hentry⟩
  cases hs : c.session? g with
  | none =>
    rw [onConn, onLink_of_none hs, hs] at hs'
    cases hs'
  | some s =>
    obtain ⟨s'', hs'', haccount⟩ := (deals_remove c g id).exists_session hs
    obtain rfl := Option.some.inj (hs'.symm.trans hs'')
    have hconn : s'.conn.requests = (s.conn.requests.remove id).1 := by
      rw [Account.after_singleton] at haccount
      exact congrArg (·.link.conn.requests) haccount
    rw [hconn] at hentry
    exact (RequestTable.mem_entries_remove.mp hentry).2 rfl

/-- A request that has ended is not pending. -/
theorem not_isPending_of_outcome {id : Int32} {slot : Nat} (attended : Attended c) {s : Session}
    (hs : c.session? g = some s) {outcome : Outcome} (h : s.outcome? slot = some outcome) :
    ¬c.IsPending g (id, slot) := by
  rintro ⟨s', hs', hentry⟩
  obtain rfl := Option.some.inj (hs.symm.trans hs')
  obtain ⟨settlement, hfound, -⟩ := Option.map_eq_some_iff.mp h
  have hslot : settlement.slot = slot := by simpa using List.find?_some hfound
  have hended : slot ∈ s.ended.map Settlement.slot :=
    hslot ▸ List.mem_map_of_mem (List.mem_of_find?_eq_some hfound)
  exact (attended.balanced hs).not_mem_entries hended hentry

/-- What is pending once a call is over was pending before. -/
theorem IsPending.of_finish {answer : Answer} (pending : (d.finish n answer).IsPending g entry) :
    d.IsPending g entry :=
  pending.of_sessions (unlock_spec d n).1

/-- As long as the request of a call is pending, the call waits for it, unless it is dropped: it
takes the request back when it cannot write it and when its time is up, and goes on without it only
when it has ended. -/
theorem request?_of_step (attended : Attended c) (h : c.step action = some c')
    (undropped : ∀ m count, action ≠ .abandon m count)
    (hcall : c.calls[n]? = some ⟨errand, stage⟩) (request : stage.request? = some (g, entry))
    (pending : c'.IsPending g entry) :
    ∃ stage', c'.calls[n]? = some ⟨errand, stage'⟩ ∧ stage'.request? = some (g, entry) := by
  by_cases taker : action.call? = some n
  swap
  · exact ⟨stage, (moves_of_step h).other hcall taker, request⟩
  cases action with
  | advance m =>
    obtain rfl := Option.some.inj taker
    replace h : c.advance m = some c' := h
    unfold advance at h
    obtain ⟨call, hcall', h⟩ := Option.bind_eq_some_iff.mp h
    obtain rfl := Option.some.inj (hcall.symm.trans hcall')
    cases stage with
    | writingCommand k id slot packets bytes => cases h
    | awaitResponse k id slot =>
      obtain ⟨rfl, rfl⟩ := Prod.mk.inj (Option.some.inj request)
      obtain ⟨s, hs, h⟩ := Option.bind_eq_some_iff.mp h
      obtain ⟨outcome, houtcome, h⟩ := Option.bind_eq_some_iff.mp h
      have hended : ¬c.IsPending k (id, slot) := not_isPending_of_outcome attended hs houtcome
      cases outcome with
      | answered body | failed e | dropped =>
        obtain rfl := Option.some.inj h
        exact absurd pending.of_finish hended
    | _ => cases request
  | dial m outcome =>
    obtain rfl := Option.some.inj taker
    replace h : c.dial m outcome = some c' := h
    unfold dial at h
    obtain ⟨call, hcall', h⟩ := Option.bind_eq_some_iff.mp h
    obtain rfl := Option.some.inj (hcall.symm.trans hcall')
    cases stage with
    | writingCommand _ _ _ _ _ | awaitResponse _ _ _ => cases h
    | _ => cases request
  | write m outcome =>
    obtain rfl := Option.some.inj taker
    replace h : c.write m outcome = some c' := h
    unfold write at h
    obtain ⟨call, hcall', h⟩ := Option.bind_eq_some_iff.mp h
    obtain rfl := Option.some.inj (hcall.symm.trans hcall')
    cases stage with
    | writingCommand k id slot packets bytes =>
      obtain ⟨rfl, rfl⟩ := Prod.mk.inj (Option.some.inj request)
      dsimp only at h
      split at h
      · obtain rfl := Option.some.inj h
        exact ⟨_, getElem?_setStage (by simp) hcall _, rfl⟩
      · obtain rfl := Option.some.inj h
        exact absurd pending.of_finish not_isPending_remove
    | awaitResponse _ _ _ => cases h
    | _ => cases request
  | expire m =>
    obtain rfl := Option.some.inj taker
    replace h : c.expire m = some c' := h
    unfold expire at h
    obtain ⟨call, hcall', h⟩ := Option.bind_eq_some_iff.mp h
    obtain rfl := Option.some.inj (hcall.symm.trans hcall')
    cases stage with
    | writingCommand _ _ _ _ _ => cases h
    | awaitResponse k id slot =>
      obtain ⟨rfl, rfl⟩ := Prod.mk.inj (Option.some.inj request)
      obtain ⟨s, -, h⟩ := Option.bind_eq_some_iff.mp h
      split_ifs at h
      obtain rfl := Option.some.inj h
      exact absurd pending.of_finish not_isPending_remove
    | _ => cases request
  | abandon m count => exact absurd rfl (undropped m count)
  | _ => cases taker

/-- A connection that was open stays open as long as a request is pending on it. -/
theorem closed_eq_false_of_isPending (h : c.step action = some c') {s : Session}
    (hs : c.session? g = some s) (opened : s.conn.closed = false)
    (pending : c'.IsPending g entry) :
    ∃ s', c'.session? g = some s' ∧ s'.conn.closed = false := by
  obtain ⟨s', hs', hentry⟩ := pending
  refine ⟨s', hs', ?_⟩
  by_contra hclosed
  have rests : ∀ s, c.session? g = some s → Rests s.conn := by
    intro t ht hclosed
    obtain rfl := Option.some.inj (hs.symm.trans ht)
    cases opened.symm.trans hclosed
  have intime : c.asksLate g action = false := by
    rw [asksLate, hs, Option.any_some, opened, Bool.and_false]
  have hrests := rests_of_step rests h intime s' hs'
  rw [RequestTable.entries, (hrests (Bool.not_eq_false _ ▸ hclosed)).1] at hentry
  cases hentry

/-- A connection that has just been closed is not open. -/
theorem closed_of_outline_close {o : Outline} (houtline : c'.outline = o.close g) {s : Session}
    (hs : c'.session? g = some s) : s.conn.closed = true := by
  have hclosed : c'.outline.closed? g = (o.closed? g).map fun _ => true := by
    rw [houtline, Outline.close]
    exact if_pos rfl
  rw [outline_closed?, hs, Option.map_some] at hclosed
  obtain ⟨-, -, htrue⟩ := Option.map_eq_some_iff.mp hclosed.symm
  exact htrue.symm

/-- A connection check does not go on without the request that it waits for, as long as that is
pending and the connection is open. -/
theorem request?_of_check (attended : Attended c) (h : c.step action = some c') {s s' : Session}
    (hs : c.session? g = some s) (own : action.check? = some g)
    (opened : s.conn.closed = false) (request : s.watch.request? = some entry)
    (pending : c.IsPending g entry) (hs' : c'.session? g = some s')
    (opened' : s'.conn.closed = false) : s'.watch.request? = some entry := by
  cases action with
  | watch k =>
    obtain rfl := Option.some.inj own
    replace h : c.advanceWatch k = some c' := h
    unfold advanceWatch at h
    obtain ⟨t, ht, h⟩ := Option.bind_eq_some_iff.mp h
    obtain rfl := Option.some.inj (hs.symm.trans ht)
    cases hwatch : s.watch with
    | writing id slot packet bytes =>
      simp only [hwatch, opened, Bool.false_eq_true, if_false, reduceCtorEq] at h
    | awaitAnswer id slot =>
      rw [hwatch] at request
      obtain rfl := Option.some.inj request
      simp only [hwatch, opened, Bool.false_eq_true, if_false] at h
      obtain ⟨outcome, houtcome, -⟩ := Option.bind_eq_some_iff.mp h
      exact absurd pending (not_isPending_of_outcome attended hs houtcome)
    | _ =>
      rw [hwatch] at request
      cases request
  | watchWrite k outcome =>
    obtain rfl := Option.some.inj own
    replace h : c.writeWatch k outcome = some c' := h
    unfold writeWatch at h
    obtain ⟨t, ht, h⟩ := Option.bind_eq_some_iff.mp h
    obtain rfl := Option.some.inj (hs.symm.trans ht)
    split at h
    · rename_i id slot packet bytes hwatch
      rw [hwatch] at request
      obtain rfl := Option.some.inj request
      dsimp only at h
      split at h
      · obtain rfl := Option.some.inj h
        rw [watch_of_setWatch hs']
        rfl
      · rename_i hput
        obtain rfl := Option.some.inj h
        have hclosed : ∀ watch, (((c.put k [packet] bytes outcome).1.unlockSession
            (.watch k)).setWatch k watch).outline = c.outline.close k := fun watch => by
          rw [outline_setWatch, outline_unlockSession, outline_put_of_some hput]
        cases opened'.symm.trans (closed_of_outline_close (hclosed _) hs')
    · cases h
  | watchExpire k =>
    obtain rfl := Option.some.inj own
    replace h : c.expireWatch k = some c' := h
    unfold expireWatch at h
    obtain ⟨t, ht, h⟩ := Option.bind_eq_some_iff.mp h
    obtain rfl := Option.some.inj (hs.symm.trans ht)
    split at h
    · split_ifs at h
      obtain rfl := Option.some.inj h
      have hclosed (d : Client) : ((d.close k).setWatch k .over).outline = d.outline.close k :=
        (outline_setWatch ..).trans (outline_close ..)
      cases opened'.symm.trans (closed_of_outline_close (hclosed _) hs')
    · cases h
  | _ => cases own

/-- As long as the request of a connection check is pending and the connection is open, the check
waits for it. -/
theorem watch_request?_of_step (attended : Attended c) (orderly : Orderly c)
    (h : c.step action = some c') {s : Session} (hs : c.session? g = some s)
    (opened : s.conn.closed = false) (request : s.watch.request? = some entry)
    (pending : c'.IsPending g entry) :
    ∃ s', c'.session? g = some s' ∧ s'.conn.closed = false ∧ s'.watch.request? = some entry := by
  obtain ⟨s', hs', opened'⟩ := closed_eq_false_of_isPending h hs opened pending
  refine ⟨s', hs', opened', ?_⟩
  have hd' := docket?_of_session? hs'
  have hwatch {d : Docket} (hd : c'.docket? g = some d) : d.watch = s'.watch := by
    obtain rfl := Option.some.inj (hd'.symm.trans hd)
    rfl
  obtain same | ⟨first, watch, -⟩ | ⟨n, errand, -, -, after⟩ | ⟨own, -⟩ :=
    (tended_of_step h).docket_cases (docket?_of_session? hs)
  · exact hwatch same ▸ request
  · -- A check that waits has claimed the connection.
    have hon : s.watch ≠ .off := fun hoff => by
      rw [hoff] at request
      cases request
    cases first.symm.trans ((orderly (docket?_of_session? hs)).claimed hon)
  · exact hwatch after ▸ request
  · obtain hbefore | registers := isPending_of_step h pending
    · exact request?_of_check attended h hs own opened request hbefore hs' opened'
    · cases registers with
      | call taker moved request =>
        subst taker
        cases own
      | check taker session registering fresh =>
        obtain rfl := Option.some.inj (hs.symm.trans session)
        rw [registering] at request
        cases request

/-! ## Requests that are left behind -/

/-- Somebody waits for a pending request, and takes it back: a command, or the check of a connection
that is open. -/
inductive Claimed (c : Client) (g : Nat) (entry : Int32 × Nat) : Prop where
  /-- A command does. -/
  | command {n : Nat} {text : String} {multi : Bool} {timeout : Nat} {stage : Stage}
    (call : c.calls[n]? = some ⟨.command text multi timeout, stage⟩)
    (request : stage.request? = some (g, entry))
  /-- The connection check does. -/
  | check {s : Session} (session : c.session? g = some s) (opened : s.conn.closed = false)
    (request : s.watch.request? = some entry)

/-- Whether a step is that of a connection check which registers its request and leaves it behind:
the packet is too large to be sent, or the connection has been closed already. -/
def leavesBehind (c : Client) (g : Nat) : Action → Bool
  | .watch h => h == g && (c.session? g).any fun s =>
    s.watch == .registering && (s.conn.closed || decide (s.conn.routing.maxSize < checkSize))
  | _ => false

/-- Whether, when some actions are taken, a connection check leaves its request behind. -/
def leftBehind (c : Client) (g : Nat) (actions : List Action) : Bool :=
  c.happens (·.leavesBehind g) actions

/-- A step that leaves no request behind leaves none without somebody who waits for it. -/
theorem claimed_of_step (attended : Attended c) (orderly : Orderly c)
    (claimed : ∀ entry, c.IsPending g entry → c.Claimed g entry) (h : c.step action = some c')
    (undropped : ∀ m count, action ≠ .abandon m count)
    (taken : c.leavesBehind g action = false) (pending : c'.IsPending g entry) :
    c'.Claimed g entry := by
  obtain hbefore | registers := isPending_of_step h pending
  · cases claimed entry hbefore with
    | command call request =>
      obtain ⟨stage', call', request'⟩ :=
        request?_of_step attended h undropped call request pending
      exact .command call' request'
    | check session opened request =>
      obtain ⟨s', session', opened', request'⟩ :=
        watch_request?_of_step attended orderly h session opened request pending
      exact .check session' opened' request'
  · cases registers with
    | call taker moved request => exact .command moved request
    | @check s taker session registering fresh =>
      subst taker fresh
      rw [leavesBehind, beq_self_eq_true, session, Option.any_some, registering,
        beq_self_eq_true, Bool.true_and, Bool.true_and, Bool.or_eq_false_iff,
        decide_eq_false_iff_not] at taken
      obtain ⟨s', hs', hconn, hrequest⟩ := session?_of_registering session registering h
      rw [if_neg taken.2] at hrequest
      refine .check hs' ?_ hrequest
      rw [hconn]
      exact taken.1

/-- A request that is left behind has been asked for. -/
theorem asks_of_leavesBehind (leaves : c.leavesBehind g action = true) :
    c.asks action g = true := by
  cases action with
  | watch k =>
    obtain ⟨hk, hany⟩ := Bool.and_eq_true_iff.mp leaves
    obtain rfl := beq_iff_eq.mp hk
    obtain ⟨s, hs, hboth⟩ := (Option.any_eq_true _ _).mp hany
    rw [asks, hs, Option.any_some, (Bool.and_eq_true_iff.mp hboth).1, beq_self_eq_true,
      Bool.and_self]
  | _ => cases leaves

/-- Nobody waits for a request that has been left behind. -/
theorem exists_unclaimed (attended : Attended c) (h : c.step action = some c')
    (leaves : c.leavesBehind g action = true) :
    ∃ entry, c'.IsPending g entry ∧ ¬c'.Claimed g entry := by
  cases action with
  | watch k =>
    obtain ⟨hk, hany⟩ := Bool.and_eq_true_iff.mp leaves
    obtain rfl := beq_iff_eq.mp hk
    obtain ⟨s, hs, hboth⟩ := (Option.any_eq_true _ _).mp hany
    obtain ⟨hregistering, hbehind⟩ := Bool.and_eq_true_iff.mp hboth
    obtain ⟨s', hs', hconn, hrequest⟩ :=
      session?_of_registering hs (beq_iff_eq.mp hregistering) h
    refine ⟨(c.nextId, s.conn.requests.issued), ⟨s', hs', ?_⟩, fun claimed => ?_⟩
    · rw [hconn]
      exact RequestTable.mem_entries_register.mpr (.inr rfl)
    · cases claimed with
      | @command n text multi timeout stage call request =>
        -- The slot has just been given out, and no call has it.
        rw [(transition_of_advanceWatch h).2] at call
        have hticket : stage.ticket? = some (k, .request s.conn.requests.issued) := by
          cases stage with
          | writingCommand _ _ _ _ _ | awaitResponse _ _ _ =>
            obtain ⟨rfl, hslot⟩ := Prod.mk.inj (Option.some.inj request)
            obtain ⟨-, rfl⟩ := Prod.mk.inj hslot
            rfl
          | _ => cases request
        obtain ⟨t, ht, hissued⟩ := attended.issued call hticket
        obtain rfl := Option.some.inj (hs.symm.trans ht)
        exact Nat.lt_irrefl _ hissued
      | check session opened request =>
        obtain rfl := Option.some.inj (hs'.symm.trans session)
        obtain hclosed | hsize := Bool.or_eq_true_iff.mp hbehind
        · rw [hconn] at opened
          cases hclosed.symm.trans opened
        · rw [if_pos (of_decide_eq_true hsize)] at hrequest
          cases hrequest.symm.trans request
  | _ => cases leaves

/-- No command is in progress, and the check of a connection neither has the session lock, which it
has while it sends its request, nor waits for the answer. -/
structure AtRest (c : Client) (g : Nat) : Prop where
  /-- Every command is over. -/
  commands : ∀ call ∈ c.calls, ∀ text multi timeout, call.errand = .command text multi timeout →
    call.isOver = true
  /-- The check does not wait for an answer. -/
  unasked : ∀ s, c.session? g = some s → ∀ id slot, s.watch ≠ .awaitAnswer id slot
  /-- The check does not have the lock. -/
  unlocked : c.sessionLock ≠ some (.watch g)

/-- No request is left behind on the connection of a generation. -/
structure Tidy (c : Client) (g : Nat) : Prop where
  /-- Whatever is pending, somebody waits for it and takes it back. -/
  claimed : ∀ entry, c.IsPending g entry → c.Claimed g entry
  /-- If it is in place, and no command is in progress and the check does not wait, nothing is
  pending. -/
  none : c.current = some g → c.AtRest g → c.pendingCommands = 0

/-- Nobody waits for a request where no command is in progress and the check does not wait. -/
theorem AtRest.not_claimed (rest : c.AtRest g) (orderly : Orderly c) : ¬c.Claimed g entry := by
  intro claimed
  cases claimed with
  | @command n text multi timeout stage call request =>
    have hover := rest.commands _ (List.mem_of_getElem? call) text multi timeout rfl
    cases stage with
    | writingCommand _ _ _ _ _ | awaitResponse _ _ _ => cases hover
    | _ => cases request
  | @check s session opened request =>
    cases hwatch : s.watch with
    | writing id slot packet bytes =>
      have hlocked : (c.sessionLock == some (.watch g)) = true :=
        (orderly (docket?_of_session? session)).locked (congrArg Watch.needsLock hwatch)
      exact rest.unlocked (beq_iff_eq.mp hlocked)
    | awaitAnswer id slot => exact rest.unasked s session id slot hwatch
    | _ =>
      rw [hwatch] at request
      cases request

/-- Where every pending request has somebody who waits for it, none is left behind. -/
theorem tidy_of_claimed (orderly : Orderly c)
    (claimed : ∀ entry, c.IsPending g entry → c.Claimed g entry) : c.Tidy g := by
  refine ⟨claimed, fun current rest => ?_⟩
  rw [pendingCommands, current, Option.bind_some]
  cases hs : c.session? g with
  | none => rfl
  | some s =>
    have hnone : s.conn.requests.entries = [] :=
      List.eq_nil_iff_forall_not_mem.mpr fun entry hentry =>
        rest.not_claimed orderly (claimed entry ⟨s, hs, hentry⟩)
    show s.conn.requests.pending.length = 0
    rw [List.map_eq_nil_iff.mp hnone, List.length_nil]

/-- As long as no check leaves its request behind and no call is dropped, no request is left behind
at any point of a run. -/
theorem tidy_of_run (attended : Attended c) (orderly : Orderly c)
    (claimed : ∀ entry, c.IsPending g entry → c.Claimed g entry)
    (undropped : ∀ n count, .abandon n count ∉ actions) (taken : c.leftBehind g actions = false)
    {before : List Action} (hbefore : before <+: actions) (h : c.run before = some c') :
    c'.Tidy g := by
  obtain ⟨-, orderly', claimed'⟩ := keeps_of_not_happens
    (p := fun d => Attended d ∧ Orderly d ∧ ∀ entry, d.IsPending g entry → d.Claimed g entry)
    (fun hmem ⟨attended, orderly, claimed⟩ htaken hstep =>
      ⟨attended.step hstep, orderly.step hstep, fun _ pending =>
        claimed_of_step attended orderly claimed hstep
          (fun n count hdropped => undropped n count (hdropped ▸ hmem)) htaken pending⟩)
    ⟨attended, orderly, claimed⟩ taken hbefore h
  exact tidy_of_claimed orderly' claimed'

/-- Once a check has left its request behind, one is left behind. -/
theorem exists_not_tidy (attended : Attended c) (left : c.leftBehind g actions = true) :
    ∃ before c', before <+: actions ∧ c.run before = some c' ∧ ¬c'.Tidy g := by
  refine exists_of_happens (fun attended hstep => attended.step hstep)
    (fun attended leaves => ?_) attended left
  obtain ⟨d, hstep⟩ := exists_step_of_asks (asks_of_leavesBehind leaves)
  obtain ⟨entry, pending, unclaimed⟩ := exists_unclaimed attended hstep leaves
  exact ⟨d, hstep, fun tidy => unclaimed (tidy.claimed entry pending)⟩

/-- At every point of a run in which no call is dropped, every pending request has somebody who
waits for it, and nothing is pending on the connection in place while no command is in progress and
its check does not wait, exactly as long as no check has registered its request on a connection that
had been closed, or under a limit that is too small for its packet. -/
theorem tidy_iff (config : Config) (listeners : Registry) (actions : List Action) (g : Nat)
    (undropped : ∀ n count, .abandon n count ∉ actions) :
    (∀ before c, before <+: actions → (fresh config listeners).run before = some c → c.Tidy g) ↔
      (fresh config listeners).leftBehind g actions = false := by
  constructor
  · intro tidy
    rw [← Bool.not_eq_true]
    intro left
    obtain ⟨before, c, hprefix, hrun, htidy⟩ :=
      exists_not_tidy (attended_fresh config listeners) left
    exact htidy (tidy before c hprefix hrun)
  · intro taken before c hprefix hrun
    refine tidy_of_run (attended_fresh config listeners) (orderly_fresh config listeners) ?_
      undropped taken hprefix hrun
    rintro entry ⟨s, hs, -⟩
    cases hs

/-- Where every call is over, nobody has the session lock and the check waits for nothing, all is at
rest. -/
theorem atRest_of_over (ended : c.calls.all Call.isOver = true) (unlocked : c.sessionLock = none)
    (unasked : (c.session? g).any (·.watch.request?.isSome) = false) : c.AtRest g where
  commands := fun call hcall _ _ _ _ => List.all_eq_true.mp ended call hcall
  unasked := fun s hs id slot hwatch => by
    rw [hs, Option.any_some, hwatch] at unasked
    cases unasked
  unlocked := by
    rw [unlocked]
    exact fun hlock => by cases hlock

/-- A client that checks its connection sends a command, whose time runs out, and then a check, which
is answered. -/
def checked : List Action :=
  accepted ++ [.advance 0, .call (.command "status" false 100), .advance 1, .advance 1, .advance 1,
    .write 1 .written, .expire 1, .watch 1, .watch 1, .watch 1, .watch 1, .watchWrite 1 .written,
    .frame 1 (Packet.layout 2 .response []), .watch 1]

/-- Neither leaves anything behind. -/
theorem tidy_checked : ∃ c, (fresh { checkInterval := some 50 } {}).run checked = some c ∧
    c.calls.map Call.answer? = [some .done, some (.failed .timeout)] ∧
      (c.session? 1).map Session.watch = some .sleeping ∧ c.pendingCommands = 0 := by
  have hrun : ((fresh { checkInterval := some 50 } {}).run checked).isSome = true := by decide
  obtain ⟨c, hc⟩ := Option.isSome_iff_exists.mp hrun
  have hfacts : c.calls.map Call.answer? = [some .done, some (.failed .timeout)] ∧
      (c.session? 1).map Session.watch = some .sleeping ∧ c.calls.all Call.isOver = true ∧
        c.sessionLock = none ∧ (c.session? 1).any (·.watch.request?.isSome) = false ∧
          c.current = some 1 := by
    obtain rfl := Option.get_of_eq_some hrun hc
    clear hc
    refine ⟨?_, ?_, ?_, ?_, ?_, ?_⟩ <;> decide +revert
  obtain ⟨hanswers, hwatch, hover, hunlocked, hunasked, hcurrent⟩ := hfacts
  have undropped : ∀ n count, .abandon n count ∉ checked := by simp [checked, accepted]
  have tidy := (tidy_iff { checkInterval := some 50 } {} checked 1 undropped).mpr (by decide) _ c
    List.prefix_rfl hc
  exact ⟨c, hc, hanswers, hwatch, tidy.none hcurrent (atRest_of_over hover hunlocked hunasked)⟩

/-- A client connects that checks its connection and whose packets may not be larger than twelve
bytes, and the first check finds its packet too large. -/
def oversized : List Action :=
  accepted ++ [.advance 0, .watch 1, .watch 1, .watch 1, .watch 1]

/-- The check ends on an open connection, and its request is pending from then on. -/
theorem not_tidy_oversized : ¬ ∀ (config : Config) (actions : List Action) (c : Client) (g : Nat),
    (∀ n count, .abandon n count ∉ actions) → (fresh config {}).run actions = some c →
      c.current = some g → c.AtRest g → c.pendingCommands = 0 := by
  intro h
  have undropped : ∀ n count, .abandon n count ∉ oversized := by simp [oversized, accepted]
  have hleft := h { maxPacketSize := 12, checkInterval := some 50 } oversized _ 1 undropped
    (Option.some_get (by decide)).symm (by decide)
    (atRest_of_over (by decide) (by decide) (by decide))
  revert hleft
  decide

end Client

end RemoteConsole
