import RemoteConsole.Proofs.Client.Shift

/-!
# Turns with the session lock

What a client does with the session lock falls into turns: one begins whenever somebody gets the
lock. Each id that is used up, each request that is registered and each packet that is sent belongs
to the last turn of whoever did it. Turns do not mix: what was sent, registered and used up in all
of them is what was in the first, then in the second, and so on, and what one has sent is an
authentication, one command, or nothing (`Logged`).
-/

namespace RemoteConsole

/-- The id that somebody has used up for what they write. -/
def Post.ids : Post → List Int32
  | writing _ (some (id, _)) _ _ => [id]
  | _ => []

/-- The slot of the request that somebody has registered on the connection of a generation for what
they write. -/
def Post.slotsOn (g : Nat) : Post → List Nat
  | writing h (some (_, slot)) _ _ => if h = g then [slot] else []
  | _ => []

namespace Client

variable {c c' : Client} {action : Action} {actions : List Action} {g : Nat} {config : Config}

/-! ## Turns -/

/-- What somebody has done with the session lock. -/
structure Turn where
  /-- Who had the lock. -/
  holder : Holder
  /-- The ids that were used up. -/
  ids : List Int32 := []
  /-- The slots of the requests that were registered. -/
  slots : List Nat := []
  /-- The packets of the writes that succeeded. -/
  sent : List Packet := []

namespace Turn

/-- What somebody does belongs to their last turn, of turns that stand in the order from the newest
to the oldest. -/
def credit (h : Holder) (ids : List Int32) (slots : List Nat) (sent : List Packet) :
    List Turn → List Turn
  | [] => []
  | t :: ts =>
    if t.holder = h then
      { t with ids := t.ids ++ ids, slots := t.slots ++ slots, sent := t.sent ++ sent } :: ts
    else t :: credit h ids slots sent ts

theorem credit_nil (h : Holder) (turns : List Turn) : credit h [] [] [] turns = turns := by
  induction turns with
  | nil => rfl
  | cons t ts ih =>
    rw [credit, ih, List.append_nil, List.append_nil, List.append_nil]
    exact ite_self _

theorem credit_head {t : Turn} {h : Holder} (hholder : t.holder = h) (ids : List Int32)
    (slots : List Nat) (sent : List Packet) (ts : List Turn) :
    credit h ids slots sent (t :: ts) =
      { t with ids := t.ids ++ ids, slots := t.slots ++ slots, sent := t.sent ++ sent } :: ts :=
  if_pos hholder

end Turn

/-- What a step adds to the turns of a client, from the newest to the oldest, with what concerns the
connection of a generation: what it does, for whoever takes it, and then a new turn if somebody has
got the session lock. -/
def noteTurns (g : Nat) (c : Client) (action : Action) (c' : Client) (turns : List Turn) :
    List Turn :=
  let turns := match action.actor? with
    | some h =>
      Turn.credit h (if c'.nextId = c.nextId then [] else [c.nextId])
        (List.range' (c.page g).issued ((c'.page g).issued - (c.page g).issued))
        ((c'.page g).sent.drop (c.page g).sent.length) turns
    | none => turns
  match c'.sessionLock with
  | some h => if c.sessionLock = some h then turns else { holder := h } :: turns
  | none => turns

/-- The turns of a client when some actions are taken, from the oldest to the newest, with what
concerns the connection of a generation. -/
def turnsOn (c : Client) (g : Nat) (actions : List Action) : List Turn :=
  (c.tally (noteTurns g) [] actions).reverse

/-- Nobody gets the session lock in a step that ends with who had it, or with nobody. -/
theorem noteTurns_of_lock {turns : List Turn}
    (lock : c'.desk.lock = c.desk.lock ∨ c'.desk.lock = none) :
    noteTurns g c action c' turns = match action.actor? with
      | some h =>
        Turn.credit h (if c'.desk.nextId = c.desk.nextId then [] else [c.desk.nextId])
          (List.range' (c.desk.page g).issued
            ((c'.desk.page g).issued - (c.desk.page g).issued))
          ((c'.desk.page g).sent.drop (c.desk.page g).sent.length) turns
      | none => turns := by
  have hlock : c'.sessionLock = c.sessionLock ∨ c'.sessionLock = none := lock
  unfold noteTurns
  obtain hsame | hnone := hlock
  · rw [hsame]
    cases hheld : c.sessionLock with
    | none => rfl
    | some h => exact if_pos rfl
  · rw [hnone]
    rfl

/-- Nothing is noted of a step that uses up no id, registers nothing and sends nothing, if nobody
gets the session lock. -/
theorem noteTurns_of_same {turns : List Turn}
    (lock : c'.desk.lock = c.desk.lock ∨ c'.desk.lock = none)
    (nextId : c'.desk.nextId = c.desk.nextId)
    (issued : (c'.desk.page g).issued = (c.desk.page g).issued)
    (sent : (c'.desk.page g).sent = (c.desk.page g).sent) :
    noteTurns g c action c' turns = turns := by
  rw [noteTurns_of_lock lock, nextId, issued, sent, if_pos rfl, Nat.sub_self, List.range'_zero,
    List.drop_length]
  split
  · exact Turn.credit_nil ..
  · rfl

/-- What was sent in a turn is one thing. -/
inductive IsUnit (c : Client) : Turn → Prop where
  /-- Nothing was sent. -/
  | silent {h : Holder} {ids : List Int32} {slots : List Nat} : IsUnit c ⟨h, ids, slots, []⟩
  /-- A call has sent an authentication. -/
  | authentication {n : Nat} {password : String} :
    IsUnit c ⟨.call n, [], [], authPackets password⟩
  /-- A call or a connection check has sent a command, with the id that was used up for it. -/
  | command {h : Holder} {id : Int32} {slot : Nat} {text : String} {multi : Bool}
      (wanted : c.wants h = some (text, multi)) :
    IsUnit c ⟨h, [id], [slot], commandPackets id text multi⟩

theorem IsUnit.step {t : Turn} (unit : IsUnit c t) (h : c.step action = some c') : IsUnit c' t := by
  cases unit with
  | silent => exact .silent
  | authentication => exact .authentication
  | command wanted => exact .command (wants_of_step h wanted)

/-- The turns of a client are what it did with the session lock. -/
structure Logged (g : Nat) (c : Client) (turns : List Turn) : Prop where
  /-- Each has sent one thing. -/
  units : ∀ t ∈ turns, IsUnit c t
  /-- Whoever is on the way has the last turn, in which nothing was sent so far. -/
  current : ∀ h, c.desk.post h ≠ .away →
    turns.head? = some ⟨h, (c.desk.post h).ids, (c.desk.post h).slotsOn g, []⟩
  /-- Every packet was sent in one. -/
  sent : turns.reverse.flatMap Turn.sent = (c.desk.page g).sent
  /-- Every request was registered in one. -/
  slots : turns.reverse.flatMap Turn.slots = List.range (c.desk.page g).issued
  /-- Every id was used up in one. -/
  ids : takeIds 1 (turns.reverse.flatMap Turn.ids).length =
    (turns.reverse.flatMap Turn.ids, c.desk.nextId)

theorem logged_fresh (config : Config) (listeners : Registry) (g : Nat) :
    Logged g (fresh config listeners) [] where
  units := fun t ht => by cases ht
  current := fun h hon => by
    cases h with
    | call n | watch k => exact absurd rfl hon
  sent := rfl
  slots := rfl
  ids := rfl

theorem flatMap_reverse_cons {α β : Type} (f : α → List β) (a : α) (as : List α) :
    (a :: as).reverse.flatMap f = as.reverse.flatMap f ++ f a := by
  rw [List.reverse_cons, List.flatMap_append, List.flatMap_singleton]

/-- The next id after some is the one that the counter shows after them. -/
theorem takeIds_succ (next : Int32) (count : Nat) :
    takeIds next (count + 1) =
      ((takeIds next count).1 ++ [(takeIds next count).2], succId (takeIds next count).2) := by
  induction count generalizing next with
  | zero => rfl
  | succ count ih =>
    rw [takeIds, ih]
    rfl

/-- The counter always moves. -/
theorem succId_ne (id : Int32) : succId id ≠ id := by
  intro h
  unfold succId at h
  split_ifs at h with hmax
  · rw [hmax] at h
    cases h
  · simp at h

namespace Logged

variable {turns : List Turn}

/-- A step in which nothing is used up, registered or sent, and after which nobody else is on the
way than before. -/
theorem idle (logged : Logged g c turns) (h : c.step action = some c')
    (lock : c'.desk.lock = c.desk.lock ∨ c'.desk.lock = none)
    (nextId : c'.desk.nextId = c.desk.nextId)
    (issued : (c'.desk.page g).issued = (c.desk.page g).issued)
    (sent : (c'.desk.page g).sent = (c.desk.page g).sent)
    (current : ∀ k, c'.desk.post k ≠ .away → c.desk.post k ≠ .away ∧
      (c'.desk.post k).ids = (c.desk.post k).ids ∧
        (c'.desk.post k).slotsOn g = (c.desk.post k).slotsOn g) :
    Logged g c' (noteTurns g c action c' turns) := by
  rw [noteTurns_of_same lock nextId issued sent]
  refine ⟨fun t ht => (logged.units t ht).step h, fun k hk => ?_, ?_, ?_, ?_⟩
  · obtain ⟨hon, hids, hslots⟩ := current k hk
    rw [logged.current k hon, hids, hslots]
  · rw [logged.sent, sent]
  · rw [logged.slots, issued]
  · rw [logged.ids, nextId]

/-- The last turn is of whoever is on the way. -/
theorem cons (logged : Logged g c turns) {h : Holder} {post : Post}
    (hpost : c.desk.post h = post) (on : post ≠ .away) :
    ∃ ts, turns = ⟨h, post.ids, post.slotsOn g, []⟩ :: ts := by
  subst hpost
  exact List.head?_eq_some_iff.mp (logged.current h on)

/-- Somebody gets the session lock. -/
theorem take (logged : Logged g c turns) (h : c.step action = some c') {k : Holder}
    (free : c.desk.lock = none) (lock : c'.desk.lock = some k)
    (nextId : c'.desk.nextId = c.desk.nextId)
    (issued : (c'.desk.page g).issued = (c.desk.page g).issued)
    (sent : (c'.desk.page g).sent = (c.desk.page g).sent)
    (current : ∀ i, c'.desk.post i ≠ .away → i = k ∧ c'.desk.post i = .looking) :
    Logged g c' (noteTurns g c action c' turns) := by
  -- Nothing was done that could belong to an older turn.
  have hnote : noteTurns g c action c' turns = ⟨k, [], [], []⟩ :: turns := by
    have hfree : c.sessionLock = none := free
    have hlock : c'.sessionLock = some k := lock
    have hnextId : c'.nextId = c.nextId := nextId
    have hissued : (c'.page g).issued = (c.page g).issued := issued
    have hsent : (c'.page g).sent = (c.page g).sent := sent
    unfold noteTurns
    rw [hfree, hlock, hnextId, hissued, hsent, if_pos rfl, Nat.sub_self, List.range'_zero,
      List.drop_length]
    dsimp only
    rw [if_neg nofun]
    split
    · rw [Turn.credit_nil]
    · rfl
  rw [hnote]
  refine ⟨List.forall_mem_cons.mpr ⟨.silent, fun t ht => (logged.units t ht).step h⟩,
    fun i hi => ?_, ?_, ?_, ?_⟩
  · obtain ⟨rfl, hlooking⟩ := current i hi
    rw [hlooking]
    rfl
  · rw [flatMap_reverse_cons, logged.sent, sent]
    exact List.append_nil _
  · rw [flatMap_reverse_cons, logged.slots, issued]
    exact List.append_nil _
  · rw [flatMap_reverse_cons, List.append_nil, logged.ids, nextId]

/-- Whoever has asked registers a request, with the id that the counter shows. -/
theorem register (logged : Logged g c turns) (h : c.step action = some c') {k : Holder} {j : Nat}
    (actor : action.actor? = some k) (post : c.desk.post k = .asking j none)
    (lock : c'.desk.lock = c.desk.lock ∨ c'.desk.lock = none)
    (nextId : c'.desk.nextId = succId c.desk.nextId)
    (issued : (c'.desk.page g).issued = (c.desk.page g).issued + if j = g then 1 else 0)
    (sent : (c'.desk.page g).sent = (c.desk.page g).sent)
    (current : ∀ i, c'.desk.post i ≠ .away → i = k ∧ (c'.desk.post i).ids = [c.desk.nextId] ∧
      (c'.desk.post i).slotsOn g = if j = g then [(c.desk.page g).issued] else []) :
    Logged g c' (noteTurns g c action c' turns) := by
  have hturn : ∃ ts, turns = ⟨k, [], [], []⟩ :: ts := logged.cons post nofun
  obtain ⟨ts, rfl⟩ := hturn
  have hslots : List.range' (c.desk.page g).issued
      ((c'.desk.page g).issued - (c.desk.page g).issued) =
        if j = g then [(c.desk.page g).issued] else [] := by
    rw [issued, Nat.add_sub_cancel_left]
    split_ifs <;> rfl
  have hnote : noteTurns g c action c' (⟨k, [], [], []⟩ :: ts) =
      ⟨k, [c.desk.nextId], if j = g then [(c.desk.page g).issued] else [], []⟩ :: ts := by
    rw [noteTurns_of_lock lock, actor, hslots, nextId, if_neg (succId_ne _), sent, List.drop_length]
    exact Turn.credit_head rfl ..
  rw [hnote]
  have hunits := List.forall_mem_cons.mp logged.units
  have hids := logged.ids
  have hsent := logged.sent
  have hissued := logged.slots
  simp only [flatMap_reverse_cons, List.append_nil] at hids hsent hissued
  refine ⟨List.forall_mem_cons.mpr ⟨.silent, fun t ht => (hunits.2 t ht).step h⟩, fun i hi => ?_,
    ?_, ?_, ?_⟩
  · obtain ⟨rfl, hids, hslots⟩ := current i hi
    rw [hids, hslots]
    rfl
  · rw [flatMap_reverse_cons, sent, hsent]
    exact List.append_nil _
  · rw [flatMap_reverse_cons, hissued, issued]
    split_ifs
    · exact List.range_succ.symm
    · exact List.append_nil _
  · rw [flatMap_reverse_cons, List.length_append, List.length_singleton, takeIds_succ, hids, nextId]

/-- Whoever writes has written. -/
theorem send (logged : Logged g c turns) (h : c.step action = some c') {k : Holder}
    {request : Option (Int32 × Nat)} {packets : List Packet} {bytes : Bytes}
    (actor : action.actor? = some k) (post : c.desk.post k = .writing g request packets bytes)
    (lock : c'.desk.lock = c.desk.lock ∨ c'.desk.lock = none)
    (nextId : c'.desk.nextId = c.desk.nextId)
    (issued : (c'.desk.page g).issued = (c.desk.page g).issued)
    (sent : (c'.desk.page g).sent = (c.desk.page g).sent ++ packets)
    (unit : IsUnit c' ⟨k, (c.desk.post k).ids, (c.desk.post k).slotsOn g, packets⟩)
    (away : ∀ i, c'.desk.post i = .away) :
    Logged g c' (noteTurns g c action c' turns) := by
  obtain ⟨ts, rfl⟩ := logged.cons (h := k) rfl (by simp [post])
  have hnote : noteTurns g c action c'
      (⟨k, (c.desk.post k).ids, (c.desk.post k).slotsOn g, []⟩ :: ts) =
        ⟨k, (c.desk.post k).ids, (c.desk.post k).slotsOn g, packets⟩ :: ts := by
    rw [noteTurns_of_lock lock, actor, nextId, if_pos rfl, issued, Nat.sub_self, List.range'_zero,
      sent, List.drop_left]
    dsimp only
    exact (Turn.credit_head rfl ..).trans (by simp)
  rw [hnote]
  have hunits := List.forall_mem_cons.mp logged.units
  refine ⟨List.forall_mem_cons.mpr ⟨unit, fun t ht => (hunits.2 t ht).step h⟩,
    fun i hi => absurd (away i) hi, ?_, ?_, ?_⟩
  · rw [sent, ← logged.sent, flatMap_reverse_cons, flatMap_reverse_cons, List.append_assoc]
    rfl
  · rw [issued, ← logged.slots, flatMap_reverse_cons, flatMap_reverse_cons]
  · rw [nextId, flatMap_reverse_cons]
    have hids := logged.ids
    rw [flatMap_reverse_cons] at hids
    exact hids

end Logged

/-- A connection check writes a command only. -/
theorem request_of_watch {k : Nat} {request : Option (Int32 × Nat)} {packets : List Packet}
    {bytes : Bytes} (hpost : c.desk.post (.watch k) = .writing g request packets bytes) :
    request ≠ none := by
  rintro rfl
  change (c.session? k).elim Post.away (·.watch.post k) = _ at hpost
  cases hs : c.session? k with
  | none =>
    rw [hs] at hpost
    cases hpost
  | some s =>
    rw [hs, Option.elim_some] at hpost
    cases hwatch : s.watch with
    | _ =>
      rw [hwatch] at hpost
      cases hpost

/-- What is written in one turn is one thing. -/
theorem isUnit_of_prepared {routing : Routing} {k : Holder} {request : Option (Int32 × Nat)}
    {packets : List Packet} {bytes : Bytes}
    (hpost : c.desk.post k = .writing g request packets bytes)
    (prepared : Prepared routing (c.wants k) (c.desk.post k)) :
    IsUnit c ⟨k, (c.desk.post k).ids, (c.desk.post k).slotsOn g, packets⟩ := by
  rw [hpost] at prepared ⊢
  cases prepared with
  | authentication encoded =>
    cases k with
    | call n => exact .authentication
    | watch k => exact absurd rfl (request_of_watch hpost)
  | @command _ id slot text multi _ wanted encoded =>
    have hslots : Post.slotsOn g
        (.writing g (some (id, slot)) (commandPackets id text multi) bytes) = [slot] :=
      if_pos rfl
    rw [hslots]
    exact .command wanted

namespace Logged

variable {turns : List Turn}

/-- Somebody goes away, and what they did on a connection is neither a request nor a packet. -/
theorem leave (logged : Logged g c turns) (h : c.step action = some c') {d : Desk} {k : Holder}
    (desk : c'.desk = d.leave k) (lock : d.lock = c.desk.lock) (nextId : d.nextId = c.desk.nextId)
    (post : d.post = c.desk.post) (issued : (d.page g).issued = (c.desk.page g).issued)
    (sent : (d.page g).sent = (c.desk.page g).sent) :
    Logged g c' (noteTurns g c action c' turns) := by
  refine logged.idle h ?_ ?_ ?_ ?_ fun i hi => ?_
  · rw [desk, ← lock]
    exact Desk.lock_leave d k
  all_goals rw [desk] at *
  · exact nextId
  · exact issued
  · exact sent
  · rw [Desk.post_leave] at hi ⊢
    split_ifs at hi ⊢ with hik
    · exact absurd rfl hi
    · rw [post] at hi ⊢
      exact ⟨hi, rfl, rfl⟩

/-- A call begins an authentication, which takes neither an id nor a slot. -/
theorem begin (logged : Logged g c turns) (h : c.step action = some c') {k : Holder} {j : Nat}
    {password : String} (post : c.desk.post k = .asking j (some password))
    (desk : Writes c k j none (authPackets password)
      (c.desk.turn j { c.page j with attempts := (c.page j).attempts + 1 }) c'.desk) :
    Logged g c' (noteTurns g c action c' turns) := by
  obtain ⟨hlock, hnextId, hpage⟩ := desk.frame
  refine logged.idle h hlock hnextId ?_ ?_ fun i hi => ?_
  · rw [hpage]
    exact Desk.page_turn_of_same Page.issued (by rfl) g
  · rw [hpage]
    exact Desk.page_turn_of_same Page.sent (by rfl) g
  · obtain ⟨-, hsame⟩ | ⟨rfl, haway | ⟨s, bytes, -, -, hwriting⟩⟩ := desk.post_cases i
    · rw [hsame] at hi ⊢
      exact ⟨hi, rfl, rfl⟩
    · exact absurd haway hi
    · rw [hwriting, post]
      exact ⟨nofun, rfl, rfl⟩

/-- Somebody registers a request for a command, and nobody else is on the way. -/
theorem ask (logged : Logged g c turns) (inTurn : InTurn config c) (h : c.step action = some c')
    {k : Holder} {j : Nat} {text : String} {multi : Bool} (actor : action.actor? = some k)
    (post : c.desk.post k = .asking j none)
    (desk : Writes c k j (some (c.nextId, (c.page j).issued)) (commandPackets c.nextId text multi)
      { c.desk.turn j { c.page j with issued := (c.page j).issued + 1 } with
        nextId := succId c.nextId } c'.desk) :
    Logged g c' (noteTurns g c action c' turns) := by
  obtain ⟨hlock, hnextId, hpage⟩ := desk.frame
  refine logged.register h actor post hlock hnextId ?_ ?_ fun i hi => ?_
  · rw [hpage]
    refine (congrArg Page.issued (Desk.page_turn c.desk j g _)).trans ?_
    by_cases hg : j = g
    · rw [if_pos hg.symm, if_pos hg, hg]
      rfl
    · rw [if_neg (Ne.symm hg), if_neg hg]
      rfl
  · rw [hpage]
    exact Desk.page_turn_of_same Page.sent (by rfl) g
  · obtain ⟨hik, hsame⟩ | ⟨rfl, haway | ⟨s, bytes, -, -, hwriting⟩⟩ := desk.post_cases i
    · rw [hsame] at hi
      exact absurd (inTurn.held.eq (by simp [post]) hi) hik
    · exact absurd haway hi
    · rw [hwriting]
      refine ⟨rfl, rfl, ?_⟩
      change (if j = g then [(c.desk.page j).issued] else []) = _
      split_ifs with hj
      · rw [hj]
      · rfl

/-- Somebody has written on some connection, and nobody is on the way afterwards. -/
theorem write (logged : Logged g c turns) (inTurn : InTurn config c) (h : c.step action = some c')
    {k : Holder} {j : Nat} {request : Option (Int32 × Nat)} {packets : List Packet} {bytes : Bytes}
    (actor : action.actor? = some k) (post : c.desk.post k = .writing j request packets bytes)
    (desk : c'.desk = (c.desk.turn j { c.page j with
      written := (c.page j).written ++ bytes
      sent := (c.page j).sent ++ packets }).leave k) :
    Logged g c' (noteTurns g c action c' turns) := by
  by_cases hj : g = j
  · subst hj
    have hpage := congrArg (Desk.page · g) desk
    replace hpage := hpage.trans (Desk.page_turn c.desk g g _)
    rw [if_pos rfl] at hpage
    refine logged.send h actor post ?_ ((congrArg Desk.nextId desk).trans rfl)
      ((congrArg Page.issued hpage).trans rfl) ((congrArg Page.sent hpage).trans rfl)
      ((isUnit_of_prepared post (inTurn.prepared k)).step h) fun i => ?_
    · rw [desk]
      exact Desk.lock_leave ..
    · rw [desk, Desk.post_leave]
      split_ifs with hik
      · rfl
      · -- Anybody else who is on the way would have the lock.
        by_contra hon
        exact hik (inTurn.held.eq (by simp [post]) hon)
  · have hpage (page : Page) : (c.desk.turn j page).page g = c.desk.page g :=
      (Desk.page_turn ..).trans (if_neg hj)
    exact logged.leave h desk rfl rfl rfl (congrArg _ (hpage _)) (congrArg _ (hpage _))

/-- What a step does to the turns. -/
theorem step (logged : Logged g c turns) (inTurn : InTurn config c) (attended : Attended c)
    (orderly : Orderly c) (h : c.step action = some c') :
    Logged g c' (noteTurns g c action c' turns) := by
  cases shift_of_step attended orderly h with
  | kept desk =>
    refine logged.idle h (.inl (congrArg Desk.lock desk)) (congrArg Desk.nextId desk) ?_ ?_ ?_
    all_goals rw [desk]
    exact fun k hk => ⟨hk, rfl, rfl⟩
  | left actor desk => exact logged.leave h desk rfl rfl rfl rfl rfl
  | @took k actor free desk =>
    refine logged.take h free (congrArg Desk.lock desk) ?_ ?_ ?_ fun i hi => ?_
    all_goals rw [desk] at *
    · rfl
    · rfl
    · rfl
    · change (c.desk.move k .looking).post i ≠ .away at hi
      change i = k ∧ (c.desk.move k .looking).post i = .looking
      rw [Desk.post_move] at hi ⊢
      split_ifs at hi ⊢ with hik
      · exact ⟨hik, rfl⟩
      · exact absurd (inTurn.held.away_of_free free i) hi
  | @found k j password actor post isOpen desk =>
    refine logged.idle h ?_ ?_ ?_ ?_ fun i hi => ?_
    all_goals rw [desk] at *
    · exact .inl rfl
    · rfl
    · rfl
    · rfl
    · rw [Desk.post_move] at hi ⊢
      split_ifs at hi ⊢ with hik
      · rw [hik, post]
        exact ⟨nofun, rfl, rfl⟩
      · exact ⟨hi, rfl, rfl⟩
  | began _ post desk => exact logged.begin h post desk
  | registered actor post _ desk => exact logged.ask inTurn h actor post desk
  | wrote actor post desk => exact logged.write inTurn h actor post desk
  | broke count _ _ _ desk =>
    refine logged.leave h desk rfl rfl rfl ?_ ?_
    · exact Desk.page_turn_of_same Page.issued (by rfl) g
    · exact Desk.page_turn_of_same Page.sent (by rfl) g

end Logged

end Client

end RemoteConsole
