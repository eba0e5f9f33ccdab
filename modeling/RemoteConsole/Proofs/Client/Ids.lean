import Mathlib.Logic.Function.Iterate
import RemoteConsole.Proofs.Client.Leftovers
import RemoteConsole.Proofs.Client.Turns

/-!
# Packet ids over a run

Calls and connection checks take their ids from one counter, which goes through the positive signed
32-bit numbers in a circle. As numbers, the ids that are used up after a start are the start and what
follows it modulo the length of the circle (`toInt_iterate_succId`), whoever uses them up. So an id
comes back only after the whole circle, and a request that is registered under the id of another one
that is still pending finds one that has been pending for so long (`ids_in_circle`).
-/

namespace RemoteConsole.Client

variable {c c' : Client} {action : Action} {actions : List Action} {g n : Nat} {start : Int32}
  {entry : Int32 × Nat} {errand : Errand}

/-! ## The circle of ids -/

/-- The number of ids that the counter goes through. -/
def idCircle : Nat := 2 ^ 31 - 1

/-- A signed 32-bit number is at most the number of ids. -/
theorem toInt_le_idCircle (id : Int32) : id.toInt ≤ idCircle := by
  have hlt := Int32.toInt_lt id
  change id.toInt ≤ 2 ^ 31 - 1
  omega

/-- The counter goes one up, and from the last id back to the first. -/
theorem toInt_succId (positive : 1 ≤ start.toInt) :
    (succId start).toInt = start.toInt % idCircle + 1 := by
  have hle := toInt_le_idCircle start
  unfold succId
  split_ifs with hmax
  · rw [hmax]
    rfl
  · -- Below the last id nothing wraps.
    have hne : start.toInt ≠ idCircle := fun h => hmax (Int32.toInt_inj.mp h)
    have hbmod : (start + 1).toInt = (start.toInt + 1).bmod (2 ^ 32) := Int32.toInt_add start 1
    unfold idCircle at *
    rw [hbmod, Int.bmod_eq_of_le (by omega) (by omega), Int.emod_eq_of_lt (by omega) (by omega)]

/-- Where the counter stands after some ids. -/
theorem toInt_iterate_succId (positive : 1 ≤ start.toInt) (count : Nat) :
    (succId^[count] start).toInt = (start.toInt - 1 + count) % idCircle + 1 := by
  have hle := toInt_le_idCircle start
  induction count with
  | zero =>
    unfold idCircle at *
    rw [Function.iterate_zero_apply]
    omega
  | succ count ih =>
    rw [Function.iterate_succ_apply', toInt_succId (by unfold idCircle at *; omega), ih]
    unfold idCircle at *
    omega

/-- The ids that are given out are where the counter stands. -/
theorem takeIds_eq (start : Int32) (count : Nat) :
    takeIds start count = ((List.range count).map (succId^[·] start), succId^[count] start) := by
  induction count with
  | zero => rfl
  | succ count ih =>
    rw [takeIds_succ, ih, List.range_succ, List.map_append, Function.iterate_succ_apply']
    rfl

/-- The counter stands at the same id again only after the whole circle. -/
theorem idCircle_le_of_iterate_eq (positive : 1 ≤ start.toInt) {count : Nat} (hcount : count ≠ 0)
    (h : succId^[count] start = start) : idCircle ≤ count := by
  have hle := toInt_le_idCircle start
  have hsame := toInt_iterate_succId positive count
  rw [h] at hsame
  unfold idCircle at *
  omega

/-- Ids that are given out one after the other from a start, and the counter after them. -/
structure InCircle (start : Int32) (ids : List Int32) (next : Int32) : Prop where
  /-- Each id, as a number, is as many places after the start as ids were given out before it. -/
  given : ∀ (k : Nat) id, ids[k]? = some id → id.toInt = (start.toInt - 1 + k) % idCircle + 1
  /-- So is the counter. -/
  counter : next.toInt = (start.toInt - 1 + ids.length) % idCircle + 1
  /-- All of them are positive and no greater than the number of ids. -/
  bounded : ∀ id ∈ next :: ids, 1 ≤ id.toInt ∧ id.toInt ≤ idCircle
  /-- No id is one of the two that have meanings of their own. -/
  unreserved : ∀ id ∈ ids, id ≠ 0 ∧ id ≠ -1
  /-- As many ids in a row as there are all differ. -/
  distinct : ∀ skip, ((ids.drop skip).take idCircle).Nodup

/-- The ids that the counter gives out go through the circle. -/
theorem inCircle_takeIds (positive : 1 ≤ start.toInt) (count : Nat) :
    InCircle start (takeIds start count).1 (takeIds start count).2 := by
  have hgiven : ∀ (k : Nat) id, (takeIds start count).1[k]? = some id →
      id.toInt = (start.toInt - 1 + k) % idCircle + 1 := by
    intro k id hid
    rw [takeIds_eq, List.getElem?_map, Option.map_eq_some_iff] at hid
    obtain ⟨i, hi, rfl⟩ := hid
    obtain ⟨-, rfl⟩ := List.getElem?_eq_some_iff.mp hi
    rw [List.getElem_range]
    exact toInt_iterate_succId positive k
  have hcounter : (takeIds start count).2.toInt =
      (start.toInt - 1 + (takeIds start count).1.length) % idCircle + 1 := by
    rw [takeIds_eq, List.length_map, List.length_range]
    exact toInt_iterate_succId positive count
  have hbounded : ∀ id ∈ (takeIds start count).2 :: (takeIds start count).1,
      1 ≤ id.toInt ∧ id.toInt ≤ idCircle := by
    refine List.forall_mem_cons.mpr ⟨⟨?_, toInt_le_idCircle _⟩, fun id hid =>
      ⟨?_, toInt_le_idCircle id⟩⟩
    · unfold idCircle at hcounter
      omega
    · obtain ⟨k, hk⟩ := List.getElem?_of_mem hid
      have hnumber := hgiven k id hk
      unfold idCircle at hnumber
      omega
  refine ⟨hgiven, hcounter, hbounded, fun id hid => ?_, fun skip => ?_⟩
  · obtain ⟨hpositive, -⟩ := hbounded id (List.mem_cons_of_mem _ hid)
    constructor <;> rintro rfl <;> exact absurd hpositive (by decide)
  · -- Two ids that are the same are whole circles apart.
    have hplace {i : Nat} (hi : i < (((takeIds start count).1.drop skip).take idCircle).length) :
        i < idCircle ∧ (takeIds start count).1[skip + i]? =
          some (((takeIds start count).1.drop skip).take idCircle)[i] := by
      have hlt : i < idCircle := hi.trans_le (List.length_take_le _ _)
      rw [← List.getElem?_eq_getElem hi, List.getElem?_take_of_lt hlt, List.getElem?_drop]
      exact ⟨hlt, rfl⟩
    refine List.pairwise_iff_getElem.mpr fun i j hi hj hij heq => ?_
    have hi' := hgiven _ _ (hplace hi).2
    have hj' := hgiven _ _ (hplace hj).2
    have hlt := (hplace hj).1
    rw [heq] at hi'
    unfold idCircle at *
    omega

/-! ## The ids of a run -/

/-- Whether a step is one of a call or of a connection check that is about to register a request, and
takes an id for it. -/
def takesId (c : Client) : Action → Bool
  | .advance n => (c.calls[n]?).any (·.stage matches .registering _)
  | .watch g => (c.session? g).any (·.watch == .registering)
  | _ => false

/-- The ids that are used up when some actions are taken, by calls and by connection checks. -/
def idsUsed (c : Client) (actions : List Action) : List Int32 :=
  c.tally (fun c action _ ids => if c.takesId action then ids ++ [c.nextId] else ids) [] actions

/-- A call that registers a request takes an id from the counter, also if the request turns out to be
too large. -/
theorem nextId_of_call (hcall : c.calls[n]? = some ⟨errand, .registering g⟩)
    (h : c.advance n = some c') : c'.nextId = succId c.nextId := by
  unfold advance at h
  obtain ⟨call, hcall', h⟩ := Option.bind_eq_some_iff.mp h
  obtain rfl := Option.some.inj (hcall.symm.trans hcall')
  obtain ⟨s, hs, h⟩ := Option.bind_eq_some_iff.mp h
  match errand with
  | .command text multi timeout =>
    have hnext : (onConn { c with nextId := succId c.nextId } g
        (·.register c.nextId multi)).nextId = succId c.nextId :=
      congrArg Desk.nextId (desk_registerNext hs multi)
    dsimp only at h
    split at h
    · obtain rfl := Option.some.inj h
      exact hnext
    · obtain rfl := Option.some.inj h
      exact (congrArg Desk.nextId ((desk_unlock ..).trans
        (congrArg (Desk.release · _) (desk_remove ..)))).trans hnext
  | .connect | .authenticate _ | .disconnect => cases h

/-- So does a connection check. -/
theorem nextId_of_check {s : Session} (hs : c.session? g = some s)
    (registering : s.watch = .registering) (h : c.advanceWatch g = some c') :
    c'.nextId = succId c.nextId := by
  have hnext : (onConn { c with nextId := succId c.nextId } g
      (·.register c.nextId false)).nextId = succId c.nextId :=
    congrArg Desk.nextId (desk_registerNext hs false)
  unfold advanceWatch at h
  obtain ⟨t, ht, h⟩ := Option.bind_eq_some_iff.mp h
  obtain rfl := Option.some.inj (hs.symm.trans ht)
  simp only [registering] at h
  split at h
  · obtain rfl := Option.some.inj h
    exact hnext
  · obtain rfl := Option.some.inj h
    exact (congrArg Desk.nextId (desk_unlockSession ..)).trans hnext

/-- Nothing but its next step is open to a call that is about to register a request. -/
theorem eq_advance_of_registering (hcall : c.calls[n]? = some ⟨errand, .registering g⟩)
    (taker : action.call? = some n) (h : c.step action = some c') : action = .advance n := by
  cases action with
  | advance m =>
    cases taker
    rfl
  | dial m _ | write m _ | expire m | abandon m _ =>
    cases taker
    simp [step, dial, write, expire, abandon, hcall] at h
  | _ => cases taker

/-- Nor to such a check. -/
theorem eq_watch_of_registering {s : Session} (hs : c.session? g = some s)
    (registering : s.watch = .registering) (own : action.check? = some g)
    (h : c.step action = some c') : action = .watch g := by
  cases action with
  | watch m =>
    cases own
    rfl
  | watchWrite m _ | watchExpire m =>
    cases own
    simp [step, writeWatch, expireWatch, hs, registering] at h
  | _ => cases own

/-- A call that asks for the response to a command is about to register its request. -/
theorem call_of_asking (post : c.desk.post (.call n) = .asking g none) :
    ∃ errand, c.calls[n]? = some ⟨errand, .registering g⟩ := by
  change (c.calls[n]?).elim Post.away (·.stage.post) = _ at post
  cases hcall : c.calls[n]? with
  | none =>
    rw [hcall] at post
    cases post
  | some call =>
    obtain ⟨errand, stage⟩ := call
    rw [hcall, Option.elim_some] at post
    cases stage with
    | registering k =>
      cases post
      exact ⟨errand, rfl⟩
    | _ => cases post

/-- So is such a check. -/
theorem session?_of_asking {k : Nat} (post : c.desk.post (.watch k) = .asking g none) :
    ∃ s, c.session? k = some s ∧ s.watch = .registering := by
  change (c.session? k).elim Post.away (·.watch.post k) = _ at post
  cases hs : c.session? k with
  | none =>
    rw [hs] at post
    cases post
  | some s =>
    rw [hs, Option.elim_some] at post
    refine ⟨s, rfl, ?_⟩
    cases hwatch : s.watch with
    | registering => rfl
    | _ =>
      rw [hwatch] at post
      cases post

/-- Whoever registers a request takes an id. -/
theorem takesId_of_asking {holder : Holder} (h : c.step action = some c')
    (actor : action.actor? = some holder) (post : c.desk.post holder = .asking g none) :
    c.takesId action = true := by
  cases holder with
  | call n =>
    obtain ⟨errand, hcall⟩ := call_of_asking post
    obtain rfl := eq_advance_of_registering hcall (Action.call?_of_actor? actor) h
    rw [takesId, hcall]
    rfl
  | watch k =>
    obtain ⟨s, hs, registering⟩ := session?_of_asking post
    obtain rfl := eq_watch_of_registering hs registering (Action.check?_of_actor? actor) h
    rw [takesId, hs, Option.any_some, registering]
    rfl

/-- The counter moves where an id is taken, and nowhere else. -/
theorem nextId_of_step (attended : Attended c) (orderly : Orderly c)
    (h : c.step action = some c') :
    c'.nextId = if c.takesId action then succId c.nextId else c.nextId := by
  split_ifs with htakes
  · cases action with
    | advance n =>
      obtain ⟨⟨errand, stage⟩, hcall, hstage⟩ := (Option.any_eq_true _ _).mp htakes
      cases stage with
      | registering g => exact nextId_of_call hcall h
      | _ => cases hstage
    | watch g =>
      obtain ⟨s, hs, hwatch⟩ := (Option.any_eq_true _ _).mp htakes
      exact nextId_of_check hs (beq_iff_eq.mp hwatch) h
    | _ => cases htakes
  · change c'.desk.nextId = c.desk.nextId
    cases shift_of_step attended orderly h with
    | kept desk | left _ desk | took _ _ desk | found _ _ _ desk | wrote _ _ desk
    | broke _ _ _ _ desk => exact (congrArg Desk.nextId desk).trans rfl
    | began _ _ desk => exact desk.frame.2.1
    | registered actor post => exact absurd (takesId_of_asking h actor post) htakes

/-- The ids of a run are those that the counter gives out, in this order. -/
theorem takeIds_of_run (attended : Attended c) (orderly : Orderly c)
    (h : c.run actions = some c') :
    takeIds c.nextId (c.idsUsed actions).length = (c.idsUsed actions, c'.nextId) := by
  refine (tally_keeps (p := fun d ids => Attended d ∧ Orderly d ∧
    takeIds c.nextId ids.length = (ids, d.nextId)) (fun ⟨attended, orderly, hids⟩ hstep =>
      ⟨attended.step hstep, orderly.step hstep, ?_⟩) ⟨attended, orderly, rfl⟩ h).2.2
  rw [nextId_of_step attended orderly hstep]
  split_ifs
  · rw [List.length_append, List.length_singleton, takeIds_succ, hids]
  · exact hids

/-- The first id that is taken is the one that the counter showed. -/
theorem head?_idsUsed {d : Client} (hstep : c.step action = some d) (hrun : d.run actions = some c')
    (takes : c.takesId action = true) :
    (c.idsUsed (action :: actions)).head? = some c.nextId := by
  rw [idsUsed, tally, hstep]
  dsimp only
  rw [if_pos takes]
  -- It stays the first when others follow.
  refine tally_keeps (p := fun _ (ids : List Int32) => ids.head? = some c.nextId)
    (fun hids _ => ?_) rfl hrun
  split_ifs
  · rw [List.head?_append, hids, Option.some_or]
  · exact hids

/-! ## The id of a request -/

/-- A request that was not pending before a step has the id that the step takes, and the number that
the connection gives out next. -/
theorem fresh_of_step (h : c.step action = some c') (pending : c'.IsPending g entry) :
    c.IsPending g entry ∨
      c.takesId action = true ∧ entry = (c.nextId, (c.page g).issued) := by
  obtain hold | ⟨asked, s, s', hs, hs', hissued⟩ := issued_of_isPending h pending
  · exact .inl hold
  rw [page_of_session? hs]
  obtain ⟨n, errand, rfl, call⟩ | ⟨rfl, registering⟩ :=
    registering_of_issued h asked hs hs' (by omega)
  · have htakes : c.takesId (.advance n) = true := by
      rw [takesId, call]
      rfl
    obtain ⟨text, multi, timeout, t, packets, bytes, -, -, rfl⟩ | taken :=
      writes_of_registering call h
    · exact (IsPending.of_registerNext hs (pending.of_sessions rfl)).imp_right
        fun hentry => ⟨htakes, hentry⟩
    · exact .inl (taken entry pending)
  · have htakes : c.takesId (.watch g) = true := by
      rw [takesId, hs, Option.any_some, registering]
      rfl
    obtain ⟨t, ht, hconn, -⟩ := session?_of_registering hs registering h
    obtain ⟨u, hu, hentry⟩ := pending
    obtain rfl := Option.some.inj (ht.symm.trans hu)
    rw [hconn] at hentry
    exact (RequestTable.mem_entries_register.mp hentry).imp (fun hold => ⟨s, hs, hold.1⟩)
      fun hnew => ⟨htakes, hnew⟩

/-- A request is pending at every point where some actions are taken, but not necessarily at the
first. -/
def StaysPending (c : Client) (g : Nat) (entry : Int32 × Nat) (actions : List Action) : Prop :=
  ∀ before d, before <+: actions → before ≠ [] → c.run before = some d → d.IsPending g entry

/-- The first of some actions registers a request, which is pending from then on. -/
structure PendingSince (c : Client) (g : Nat) (entry : Int32 × Nat) (actions : List Action) :
    Prop where
  /-- Its id is the first one that is used up. -/
  used : (c.idsUsed actions).head? = some entry.1
  /-- Its number is the one that the connection gives out next. -/
  number : entry.2 = (c.page g).issued
  /-- It is pending after the first action and after each that follows. -/
  stays : c.StaysPending g entry actions

/-- What is pending after a step and stays so, stays pending. -/
theorem StaysPending.cons {d : Client} (hstep : c.step action = some d)
    (pending : d.IsPending g entry) (stays : d.StaysPending g entry actions) :
    c.StaysPending g entry (action :: actions) := by
  intro before e hbefore hne hrun
  obtain ⟨action', later, rfl⟩ := List.exists_cons_of_ne_nil hne
  obtain ⟨rfl, hlater⟩ := List.cons_prefix_cons.mp hbefore
  rw [run, hstep, Option.bind_some] at hrun
  by_cases hnil : later = []
  · subst hnil
    obtain rfl := Option.some.inj hrun
    exact pending
  · exact stays later e hlater hnil hrun

/-- A request that is pending after a run has been pending all along, or was registered in it and
has been pending since. -/
theorem pendingSince_of_run (h : c.run actions = some c') (pending : c'.IsPending g entry) :
    (c.IsPending g entry ∧ c.StaysPending g entry actions) ∨
      ∃ before rest d, actions = before ++ rest ∧ c.run before = some d ∧
        d.run rest = some c' ∧ d.PendingSince g entry rest := by
  induction actions generalizing c with
  | nil =>
    obtain rfl := Option.some.inj h
    exact .inl ⟨pending, fun before _ hbefore hne => absurd (List.prefix_nil.mp hbefore) hne⟩
  | cons action actions ih =>
    obtain ⟨d, hstep, hrun⟩ := Option.bind_eq_some_iff.mp h
    obtain ⟨held, stays⟩ | ⟨before, rest, e, rfl, hbefore, hrest, since⟩ := ih hrun
    · have hstays : c.StaysPending g entry (action :: actions) := .cons hstep held stays
      obtain hold | ⟨takes, rfl⟩ := fresh_of_step hstep held
      · exact .inl ⟨hold, hstays⟩
      · exact .inr ⟨[], action :: actions, c, rfl, rfl, h,
          ⟨head?_idsUsed hstep hrun takes, rfl, hstays⟩⟩
    · refine .inr ⟨action :: before, rest, e, rfl, ?_, hrest, since⟩
      rw [run, hstep]
      exact hbefore

/-- A request that is pending under the id that comes next has been pending for the whole circle. -/
theorem PendingSince.idCircle_le {slot : Nat} (positive : 1 ≤ c.nextId.toInt)
    (attended : Attended c) (orderly : Orderly c) (h : c.run actions = some c')
    (since : c.PendingSince g (c'.nextId, slot) actions) :
    idCircle ≤ (c.idsUsed actions).length := by
  have hids := takeIds_of_run attended orderly h
  rw [takeIds_eq] at hids
  obtain ⟨hids, hnext⟩ := Prod.mk.inj hids
  obtain ⟨more, hused⟩ := List.head?_eq_some_iff.mp since.used
  -- The first id is both where the counter was and where it is now.
  have hfirst : c.nextId = c'.nextId := by
    rw [hused, List.length_cons, List.range_succ_eq_map, List.map_cons] at hids
    exact (List.cons.inj hids).1
  refine idCircle_le_of_iterate_eq positive ?_ (hnext.trans hfirst.symm)
  rw [hused]
  exact Nat.succ_ne_zero _

/-! ## Runs from any id -/

/-- A client with some listeners that has not done anything yet and gives out an id first. -/
def freshFrom (config : Config) (listeners : Registry) (start : Int32) : Client :=
  { fresh config listeners with nextId := start }

theorem attended_freshFrom (config : Config) (listeners : Registry) (start : Int32) :
    Attended (freshFrom config listeners start) where
  balanced := fun h => by cases h
  issued := fun h => by cases h

theorem orderly_freshFrom (config : Config) (listeners : Registry) (start : Int32) :
    Orderly (freshFrom config listeners start) :=
  fun hd => by cases hd

/-- The ids of a run go through the circle. -/
theorem inCircle_of_run (positive : 1 ≤ c.nextId.toInt) (attended : Attended c)
    (orderly : Orderly c) (h : c.run actions = some c') :
    InCircle c.nextId (c.idsUsed actions) c'.nextId := by
  have hcircle := inCircle_takeIds positive (c.idsUsed actions).length
  rwa [takeIds_of_run attended orderly h] at hcircle

/-- From any id on, whatever the calls and the connection checks of a client do, the ids that they
take go through the circle. A request that is newly pending has the id that the step takes, and
where one is pending already under the id that is next, it has been so since as many ids ago as
there are. -/
theorem ids_in_circle (config : Config) (listeners : Registry) (start : Int32)
    (positive : 1 ≤ start.toInt) (actions : List Action) (c : Client)
    (hrun : (freshFrom config listeners start).run actions = some c) :
    InCircle start ((freshFrom config listeners start).idsUsed actions) c.nextId ∧
      (∀ action c' g entry, c.step action = some c' → c'.IsPending g entry →
        c.IsPending g entry ∨ c.takesId action = true ∧ entry.1 = c.nextId) ∧
      ∀ g slot, c.IsPending g (c.nextId, slot) → ∃ before rest d, actions = before ++ rest ∧
        (freshFrom config listeners start).run before = some d ∧
          d.PendingSince g (c.nextId, slot) rest ∧ idCircle ≤ (d.idsUsed rest).length := by
  have attended := attended_freshFrom config listeners start
  have orderly : Orderly (freshFrom config listeners start) :=
    orderly_freshFrom config listeners start
  refine ⟨inCircle_of_run positive attended orderly hrun, fun action c' g entry hstep pending => ?_,
    fun g slot pending => ?_⟩
  · exact (fresh_of_step hstep pending).imp_right fun ⟨takes, hentry⟩ =>
      ⟨takes, congrArg Prod.fst hentry⟩
  · obtain ⟨⟨s, hs, -⟩, -⟩ | ⟨before, rest, d, rfl, hbefore, hrest, since⟩ :=
      pendingSince_of_run hrun pending
    · cases hs
    obtain ⟨attended', orderly'⟩ := run_keeps (p := fun d => Attended d ∧ Orderly d)
      (fun ⟨attended, orderly⟩ hstep => ⟨attended.step hstep, orderly.step hstep⟩)
      ⟨attended, orderly⟩ hbefore
    have positive' := ((inCircle_of_run positive attended orderly hbefore).bounded _
      List.mem_cons_self).1
    exact ⟨before, rest, d, rfl, hbefore, since,
      since.idCircle_le positive' attended' orderly' hrest⟩

/-- A client connects and sends two commands, which both wait for their responses. -/
def twoCommands : List Action :=
  accepted ++ [.advance 0, .call (.command "status" false 100), .advance 1, .advance 1, .advance 1,
    .write 1 .written, .call (.command "users" true 100), .advance 2, .advance 2, .advance 2,
    .write 2 .written]

/-- If the counter starts at the last id, the first command gets that and the second gets 1. -/
theorem ids_in_circle_crossing : ∃ c, (freshFrom {} {} maxId).run twoCommands = some c ∧
    c.pendingCommands = 2 ∧ InCircle maxId [maxId, 1] c.nextId ∧ c.nextId = 2 := by
  have hrun : ((freshFrom {} {} maxId).run twoCommands).isSome = true := by decide
  obtain ⟨c, hc⟩ := Option.isSome_iff_exists.mp hrun
  have hfacts : c.pendingCommands = 2 ∧ c.nextId = 2 := by
    obtain rfl := Option.get_of_eq_some hrun hc
    clear hc
    constructor <;> decide +revert
  obtain ⟨hpending, hnext⟩ := hfacts
  have hused : (freshFrom {} {} maxId).idsUsed twoCommands = [maxId, 1] := by decide
  have hcircle := (ids_in_circle {} {} maxId (by decide) twoCommands c hc).1
  rw [hused] at hcircle
  exact ⟨c, hc, hpending, hcircle, hnext⟩

end RemoteConsole.Client
