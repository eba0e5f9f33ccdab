import RemoteConsole.Proofs.Client.Outline

/-!
# Dealings with a connection

An operation of a client deals with one of its connections: it is some operations on that connection
(`Link.Op`), one after the other. `Deals` says so. The connection, the client's state and listeners,
and what was reported of all of them become what these operations make of them (`Account.after`),
and every other connection stays as it is. Calls, locks and ids are left out. Dealings with one
connection follow on one another (`Deals.trans`), so that what a step does is put together from its
operations.
-/

namespace RemoteConsole

/-- A connection with what it reports to, and what has been reported. -/
structure Account where
  /-- The connection, and what it reports to. -/
  link : Link
  /-- The requests that ended. -/
  ended : List Settlement
  /-- The authentications that ended. -/
  verdicts : List Verdict
  /-- What listeners took note of. -/
  heard : List Heard

namespace Account

/-- The account after some operations on the connection. -/
def after (a : Account) (ops : List Link.Op) : Account where
  link := a.link.after ops
  ended := a.ended ++ (a.link.effects ops).ended
  verdicts := a.verdicts ++ (a.link.effects ops).verdicts
  heard := a.heard ++ (a.link.effects ops).heard

/-- Operations that bring about nothing concern the connection and what it reports to alone. -/
theorem after_of_effects {a : Account} {ops : List Link.Op} (nothing : a.link.effects ops = {}) :
    a.after ops = { a with link := a.link.after ops } := by
  unfold after
  rw [nothing, List.append_nil, List.append_nil, List.append_nil]

theorem after_nil (a : Account) : a.after [] = a :=
  after_of_effects rfl

/-- One operation. -/
theorem after_singleton (a : Account) (op : Link.Op) :
    a.after [op] =
      { link := (a.link.apply op).2.2
        ended := a.ended ++ (a.link.apply op).2.1.ended
        verdicts := a.verdicts ++ (a.link.apply op).2.1.verdicts
        heard := a.heard ++ (a.link.apply op).2.1.heard } := by
  have heffects : a.link.effects [op] = (a.link.apply op).2.1 := by
    rw [Link.effects_cons]
    change Effects.append _ {} = _
    simp only [Effects.append, List.append_nil]
  rw [after, heffects]
  rfl

theorem after_append (a : Account) (ops more : List Link.Op) :
    a.after (ops ++ more) = (a.after ops).after more := by
  have hended (e e' : Effects) : (e ++ e').ended = e.ended ++ e'.ended := rfl
  have hverdicts (e e' : Effects) : (e ++ e').verdicts = e.verdicts ++ e'.verdicts := rfl
  have hheard (e e' : Effects) : (e ++ e').heard = e.heard ++ e'.heard := rfl
  simp only [after, Link.after_append, Link.effects_append, hended, hverdicts, hheard,
    List.append_assoc]

end Account

namespace Link

/-- An operation reports a state only on behalf of one generation. -/
def Op.ReportsFor (g : Nat) : Op → Prop
  | .state op => ∃ state, op = .set g state
  | _ => True

/-- No operation makes a connection one of another generation. -/
theorem generation_apply (l : Link) (op : Op) :
    (l.apply op).2.2.conn.generation = l.conn.generation := by
  by_cases hclose : op = .close
  · rw [hclose]
    exact (close_spec l).1
  · exact (stays_apply l op fun h => absurd h hclose).generation

/-- A connection of an older generation leaves the client's state alone. -/
theorem cell_apply {l : Link} {op : Op} (reports : op.ReportsFor l.conn.generation)
    (older : l.cell.generation ≠ l.conn.generation) : (l.apply op).2.2.cell = l.cell := by
  have hset (state : ConnectionState) : l.cell.set l.conn.generation state = l.cell :=
    if_neg older
  cases op with
  | close =>
    have hclose : (l.apply .close).2.2.cell =
        if l.conn.closed then l.cell else l.cell.set l.conn.generation .disconnected :=
      (close_spec l).2.2
    rw [hclose, hset, ite_self]
  | state op =>
    obtain ⟨state, rfl⟩ := reports
    exact hset state
  | frame bytes => exact (frameReceived_keeps l bytes).2.2
  | _ => rfl

/-- So does a history of it. -/
theorem cell_after {l : Link} {ops : List Op}
    (reports : ∀ op ∈ ops, op.ReportsFor l.conn.generation)
    (older : l.cell.generation ≠ l.conn.generation) : (l.after ops).cell = l.cell := by
  induction ops generalizing l with
  | nil => rfl
  | cons op ops ih =>
    obtain ⟨hop, hops⟩ := List.forall_mem_cons.mp reports
    have hcell := cell_apply hop older
    -- The first operation changes neither generation, so the others find them as they were.
    have hrest := ih (l := (l.apply op).2.2) (by rwa [generation_apply])
      (by rwa [generation_apply, hcell])
    exact hrest.trans hcell

end Link

namespace Client

variable {c c' c'' : Client} {g n : Nat} {ops more : List Link.Op}

/-- The generations of the connections, oldest first. -/
def generations (c : Client) : List Nat :=
  c.sessions.map (·.conn.generation)

/-- The account of a connection. -/
def account (c : Client) (s : Session) : Account :=
  ⟨⟨s.conn, c.cell, c.listeners⟩, s.ended, s.verdicts, c.heard⟩

/-- A client becomes another by some operations on its connection of a generation. -/
structure Deals (g : Nat) (ops : List Link.Op) (c c' : Client) : Prop where
  /-- No connection is made or taken away. -/
  generations : c'.generations = c.generations
  /-- Every other connection stays as it is. -/
  others : ∀ h, h ≠ g → c'.session? h = c.session? h
  /-- The connection becomes what the operations make of it. -/
  own : (c'.session? g).map c'.account = (c.session? g).map fun s => (c.account s).after ops
  /-- If there is no such connection, nothing is reported. -/
  absent : c.session? g = none →
    c'.cell = c.cell ∧ c'.listeners = c.listeners ∧ c'.heard = c.heard
  /-- A state is reported on behalf of the generation only. -/
  reports : ∀ op ∈ ops, op.ReportsFor g

namespace Deals

/-- What concerns no connection and nothing that is reported is no dealing. -/
theorem of_eq (sessions : c'.sessions = c.sessions) (cell : c'.cell = c.cell)
    (listeners : c'.listeners = c.listeners) (heard : c'.heard = c.heard) : Deals g [] c c' := by
  have hsession (h : Nat) : c'.session? h = c.session? h := by
    rw [session?, session?, sessions]
  refine ⟨by rw [Client.generations, Client.generations, sessions], fun h _ => hsession h, ?_,
    fun _ => ⟨cell, listeners, heard⟩, fun op hop => absurd hop List.not_mem_nil⟩
  rw [hsession]
  refine Option.map_congr fun s _ => ?_
  rw [Account.after_nil, account, account, cell, listeners, heard]

/-- One dealing after another. -/
theorem trans (h : Deals g ops c c') (h' : Deals g more c' c'') :
    Deals g (ops ++ more) c c'' where
  generations := h'.generations.trans h.generations
  others := fun k hk => (h'.others k hk).trans (h.others k hk)
  own := by
    have hown := congrArg (Option.map (·.after more)) h.own
    simp only [Option.map_map, Function.comp_def] at hown
    simp only [h'.own, hown, Account.after_append]
  absent := fun hnone => by
    obtain ⟨hcell, hlisteners, hheard⟩ := h.absent hnone
    -- A connection that is not there is not there afterwards either.
    have hnone' : c'.session? g = none := by
      have hown := h.own
      rw [hnone] at hown
      exact Option.map_eq_none_iff.mp hown
    obtain ⟨hcell', hlisteners', hheard'⟩ := h'.absent hnone'
    exact ⟨hcell'.trans hcell, hlisteners'.trans hlisteners, hheard'.trans hheard⟩
  reports := fun op hop => (List.mem_append.mp hop).elim (h.reports op) (h'.reports op)

/-- The connection that is dealt with, afterwards. -/
theorem exists_session (h : Deals g ops c c') {s : Session} (hs : c.session? g = some s) :
    ∃ s', c'.session? g = some s' ∧ c'.account s' = (c.account s).after ops := by
  have hown := h.own
  rw [hs, Option.map_some] at hown
  exact Option.map_eq_some_iff.mp hown

/-- A connection that is there afterwards is the one that was dealt with, or is as it was. -/
theorem session_cases (h : Deals g ops c c') {k : Nat} {s' : Session}
    (hs' : c'.session? k = some s') :
    c.session? k = some s' ∨
      k = g ∧ ∃ s, c.session? k = some s ∧ c'.account s' = (c.account s).after ops := by
  by_cases hk : k = g
  · subst hk
    have hown := h.own
    rw [hs', Option.map_some] at hown
    obtain ⟨s, hs, haccount⟩ := Option.map_eq_some_iff.mp hown.symm
    exact .inr ⟨rfl, s, hs, haccount.symm⟩
  · exact .inl (h.others k hk ▸ hs')

/-- A dealing, and then something that is none. -/
theorem trans_nil (h : Deals g ops c c') (h' : Deals g [] c' c'') : Deals g ops c c'' := by
  have htrans := h.trans h'
  rwa [List.append_nil] at htrans

end Deals

/-- Changing a connection keeps its generation and those of the others. -/
theorem generations_modifySession {f : Session → Session}
    (hf : ∀ s, s.conn.generation = g → (f s).conn.generation = g) :
    (c.modifySession g f).generations = c.generations := by
  rw [generations, modifySession, List.map_map]
  refine List.map_congr_left fun s _ => ?_
  dsimp only [Function.comp_apply]
  split_ifs with hs
  · have hgeneration : s.conn.generation = g := by simpa using hs
    rw [hf s hgeneration, hgeneration]
  · rfl

/-- A change of what a connection has written or of its check is no dealing with it. -/
theorem deals_modifySession {f : Session → Session}
    (hf : ∀ s, (f s).conn = s.conn ∧ (f s).ended = s.ended ∧ (f s).verdicts = s.verdicts) :
    Deals g [] c (c.modifySession g f) := by
  have hgeneration (s : Session) (hs : s.conn.generation = g) : (f s).conn.generation = g := by
    rw [(hf s).1, hs]
  refine ⟨generations_modifySession hgeneration, fun h hne => ?_, ?_, fun _ => ⟨rfl, rfl, rfl⟩,
    fun op hop => absurd hop List.not_mem_nil⟩
  · rw [session?_modifySession hgeneration, if_neg hne]
  · rw [session?_modifySession hgeneration, if_pos rfl, Option.map_map]
    refine Option.map_congr fun s _ => ?_
    obtain ⟨hconn, hended, hverdicts⟩ := hf s
    rw [Function.comp_apply, Account.after_nil, account, hconn, hended, hverdicts]
    rfl

theorem deals_setWatch (c : Client) (g : Nat) (watch : Watch) :
    Deals g [] c (c.setWatch g watch) :=
  deals_modifySession fun _ => ⟨rfl, rfl, rfl⟩

/-- Running an operation on a connection is dealing with it. -/
theorem deals_onLink {f : Link → Effects × Link} {op : Link.Op} (hf : ∀ l, f l = (l.apply op).2)
    (reports : op.ReportsFor g) : Deals g [op] c (c.onLink g f) := by
  have hreports : ∀ op' ∈ [op], op'.ReportsFor g := by
    rintro op' hop'
    rwa [List.mem_singleton.mp hop']
  cases hs : c.session? g with
  | none =>
    rw [onLink_of_none hs]
    refine ⟨rfl, fun _ _ => rfl, ?_, fun _ => ⟨rfl, rfl, rfl⟩, hreports⟩
    rw [hs]
    rfl
  | some s =>
    have hlink : (f ⟨s.conn, c.cell, c.listeners⟩).2.conn.generation = g := by
      rw [hf, Link.generation_apply]
      exact generation_of_session? hs
    rw [onLink, hs]
    dsimp only
    refine ⟨generations_modifySession fun _ _ => hlink, fun h hne => ?_, ?_,
      fun hnone => (by cases hs.symm.trans hnone), hreports⟩
    · rw [session?_modifySession fun _ _ => hlink, if_neg hne]
      rfl
    · rw [hs, session?_modifySession fun _ _ => hlink, if_pos rfl]
      simp only [session?] at hs ⊢
      rw [hs, hf, Option.map_some, Option.map_some, Option.map_some, Account.after_singleton]
      rfl

/-- Running an operation that concerns the connection alone. -/
theorem deals_onConn {f : Connection → Effects × Connection} {op : Link.Op}
    (hf : ∀ l : Link, l.within f = (l.apply op).2) (reports : op.ReportsFor g) :
    Deals g [op] c (c.onConn g f) :=
  deals_onLink hf reports

theorem deals_close (c : Client) (g : Nat) : Deals g [.close] c (c.close g) :=
  deals_onLink (fun _ => rfl) trivial

theorem deals_register (c : Client) (g : Nat) (id : Int32) (multi : Bool) :
    Deals g [.register id multi] c (c.onConn g (·.register id multi)) :=
  deals_onConn (fun _ => rfl) trivial

theorem deals_remove (c : Client) (g : Nat) (id : Int32) :
    Deals g [.remove id] c (c.onConn g (·.remove id)) :=
  deals_onConn (fun _ => rfl) trivial

theorem deals_beginAuth (c : Client) (g : Nat) :
    Deals g [.beginAuth] c (c.onConn g (·.beginAuth)) :=
  deals_onConn (fun _ => rfl) trivial

theorem deals_track (c : Client) (g : Nat) : Deals g [.track] c (c.onConn g (·.track)) :=
  deals_onConn (fun _ => rfl) trivial

theorem deals_cancelAuth (c : Client) (g : Nat) :
    Deals g [.cancelAuth] c (c.onConn g (·.cancelAuth)) :=
  deals_onConn (fun _ => rfl) trivial

/-- Taking over a state from a connection that is there is an operation on it. -/
theorem deals_setState {s : Session} (hs : c.session? g = some s) (state : ConnectionState) :
    Deals g [.state (.set g state)] c (c.setState g state) := by
  refine ⟨rfl, fun _ _ => rfl, ?_, fun hnone => (by cases hs.symm.trans hnone), ?_⟩
  · have hs' : (c.setState g state).session? g = some s := hs
    rw [hs, hs', Option.map_some, Option.map_some, Account.after_of_effects rfl]
    rfl
  · rintro op hop
    rw [List.mem_singleton.mp hop]
    exact ⟨state, rfl⟩

/-- Who has which lock does not matter to a connection, and no listener is told. -/
theorem unlockSession_spec (c : Client) (holder : Holder) :
    (c.unlockSession holder).sessions = c.sessions ∧ (c.unlockSession holder).cell = c.cell ∧
      (c.unlockSession holder).listeners = c.listeners ∧
        (c.unlockSession holder).heard = c.heard := by
  unfold unlockSession
  split_ifs <;> exact ⟨rfl, rfl, rfl, rfl⟩

theorem unlock_spec (c : Client) (n : Nat) :
    (c.unlock n).sessions = c.sessions ∧ (c.unlock n).cell = c.cell ∧
      (c.unlock n).listeners = c.listeners ∧ (c.unlock n).heard = c.heard := by
  have hconnect (d : Client) : (d.unlockConnect n).sessions = d.sessions ∧
      (d.unlockConnect n).cell = d.cell ∧ (d.unlockConnect n).listeners = d.listeners ∧
        (d.unlockConnect n).heard = d.heard := by
    unfold unlockConnect
    split_ifs <;> exact ⟨rfl, rfl, rfl, rfl⟩
  obtain ⟨hsessions, hcell, hlisteners, hheard⟩ := hconnect (c.unlockSession (.call n))
  obtain ⟨hsessions', hcell', hlisteners', hheard'⟩ := unlockSession_spec c (.call n)
  exact ⟨hsessions.trans hsessions', hcell.trans hcell', hlisteners.trans hlisteners',
    hheard.trans hheard'⟩

theorem deals_unlockSession (c : Client) (holder : Holder) (g : Nat) :
    Deals g [] c (c.unlockSession holder) := by
  obtain ⟨hsessions, hcell, hlisteners, hheard⟩ := unlockSession_spec c holder
  exact .of_eq hsessions hcell hlisteners hheard

theorem deals_lockSession {holder : Holder} (h : c.lockSession holder = some c') (g : Nat) :
    Deals g [] c c' := by
  unfold lockSession at h
  split_ifs at h
  obtain rfl := Option.some.inj h
  exact .of_eq rfl rfl rfl rfl

theorem deals_unlock (c : Client) (n g : Nat) : Deals g [] c (c.unlock n) := by
  obtain ⟨hsessions, hcell, hlisteners, hheard⟩ := unlock_spec c n
  exact .of_eq hsessions hcell hlisteners hheard

/-- Nor does how far a call has come. -/
theorem deals_setStage (c : Client) (n : Nat) (stage : Stage) (g : Nat) :
    Deals g [] c (c.setStage n stage) :=
  .of_eq rfl rfl rfl rfl

theorem deals_finish (c : Client) (n g : Nat) (answer : Answer) : Deals g [] c (c.finish n answer) :=
  (deals_unlock c n g).trans (deals_setStage ..)

theorem deals_refuse (c : Client) (n g : Nat) (errand : Errand) (error : AuthError) :
    Deals g [] c (c.refuse n errand error) :=
  deals_finish ..

/-- Starting the connection check of a connection claims it, and ties a task to the connection if
nobody has claimed it before. -/
theorem deals_startWatch (c : Client) (g : Nat) :
    ∃ ops, (∀ op ∈ ops, op = .claimWatch ∨ op = .track) ∧ Deals g ops c (c.startWatch g) := by
  unfold startWatch
  split
  · rename_i s _ hs
    have hgeneration : s.conn.claimWatch.2.generation = g := generation_of_session? hs
    have hkeep (s' : Session) (_ : s'.conn.generation = g) :
        ({ s' with conn := s.conn.claimWatch.2 } : Session).conn.generation = g := hgeneration
    -- Claiming the check puts back the connection that was found.
    have hclaim : Deals g [.claimWatch] c
        (c.modifySession g fun s' => { s' with conn := s.conn.claimWatch.2 }) := by
      refine ⟨generations_modifySession hkeep, fun h hne => ?_, ?_,
        fun hnone => (by cases hs.symm.trans hnone), ?_⟩
      · rw [session?_modifySession hkeep, if_neg hne]
      · have hclaimed : (c.modifySession g fun s' =>
            { s' with conn := s.conn.claimWatch.2 }).session? g =
            some { s with conn := s.conn.claimWatch.2 } := by
          rw [session?_modifySession hkeep, if_pos rfl, hs, Option.map_some]
        rw [hclaimed, hs, Option.map_some, Option.map_some, Account.after_of_effects rfl]
        rfl
      · rintro op hop
        rw [List.mem_singleton.mp hop]
        trivial
    dsimp only
    split_ifs
    · refine ⟨[.claimWatch, .track], by simp, ?_⟩
      exact (hclaim.trans (deals_track ..)).trans_nil (deals_setWatch ..)
    · refine ⟨[.claimWatch, .track], by simp, ?_⟩
      exact (hclaim.trans (deals_track ..)).trans_nil (deals_setWatch ..)
    · exact ⟨[.claimWatch], by simp, hclaim⟩
  · exact ⟨[], by simp, .of_eq rfl rfl rfl rfl⟩

variable {packets : List Packet} {bytes : Bytes} {outcome : WriteOutcome}

/-- A write that does not fail has written everything. -/
theorem written_of_put (h : (c.put g packets bytes outcome).2 = none) : outcome = .written := by
  cases outcome with
  | written => rfl
  | broken count | timedOut count => cases h

/-- A write that succeeds is no dealing. -/
theorem deals_put_of_none (h : (c.put g packets bytes outcome).2 = none) :
    Deals g [] c (c.put g packets bytes outcome).1 := by
  rw [written_of_put h]
  exact deals_modifySession fun _ => ⟨rfl, rfl, rfl⟩

/-- A write that fails closes the connection. -/
theorem deals_put_of_some {e : Error} (h : (c.put g packets bytes outcome).2 = some e) :
    Deals g [.close] c (c.put g packets bytes outcome).1 := by
  have hpart (count : Nat) : Deals g [.close] c ((c.modifySession g fun s =>
      { s with written := s.written ++ bytes.take count }).close g) := by
    have hwritten : Deals g [] c (c.modifySession g fun s =>
        { s with written := s.written ++ bytes.take count }) :=
      deals_modifySession fun _ => ⟨rfl, rfl, rfl⟩
    exact hwritten.trans (deals_close ..)
  cases outcome with
  | written => cases h
  | broken count => exact hpart count
  | timedOut count => exact hpart count

end Client

end RemoteConsole
