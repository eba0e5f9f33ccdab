import RemoteConsole.Proofs.Client.Turns
import RemoteConsole.Proofs.Frame.Limit
import RemoteConsole.Proofs.Packet.Format

/-!
# What is written on a connection

As long as no write ends before it is done, the bytes on a connection are whole packets
(`Page.IsWhole`), in the order of the turns with the session lock in which they were sent. Once a
write has failed, nothing is written there any more (`Silent`).
-/

namespace RemoteConsole

/-! ## Packets as a server reads them -/

/-- A packet as it is read by whoever receives it. -/
def Packet.received (e : Encoding) (p : Packet) : Packet :=
  ⟨p.id, .ofWire p.type.toWire, e.legible p.body⟩

/-- The bytes written on a connection are the packets that were sent there, one after the other, and
nothing else. -/
def Page.IsWhole (routing : Routing) (page : Page) : Prop :=
  ∃ frames, Frame.CutsInto routing.maxSize page.written frames [] ∧
    frames.map (Packet.decode · routing.encoding) =
      page.sent.map fun p => .ok (p.received routing.encoding)

theorem Page.IsWhole.congr {routing : Routing} {page page' : Page} (whole : page.IsWhole routing)
    (written : page'.written = page.written) (sent : page'.sent = page.sent) :
    page'.IsWhole routing := by
  rw [IsWhole, written, sent]
  exact whole

/-- Packets that are encoded one after the other are cut off and read one after the other. -/
theorem cutsInto_of_encodeAll {e : Encoding} {maxSize : Nat} (small : maxSize < 2 ^ 31)
    {packets : List Packet} {bytes : Bytes} (h : Packet.encodeAll e maxSize packets = .ok bytes) :
    ∃ frames, Frame.CutsInto maxSize bytes frames [] ∧
      frames.map (Packet.decode · e) = packets.map fun p => .ok (p.received e) := by
  induction packets generalizing bytes with
  | nil =>
    obtain rfl := Except.ok.inj h
    exact ⟨[], .nil _, rfl⟩
  | cons p packets ih =>
    rw [Packet.encodeAll] at h
    cases hfirst : p.encode e maxSize with
    | error _ =>
      rw [hfirst] at h
      cases h
    | ok first =>
      cases hrest : Packet.encodeAll e maxSize packets with
      | error _ =>
        rw [hfirst, hrest] at h
        cases h
      | ok rest =>
        rw [hfirst, hrest] at h
        obtain rfl := Except.ok.inj h
        obtain ⟨frames, hcuts, hread⟩ := ih hrest
        obtain ⟨hlayout, hsize⟩ := Packet.eq_layout_of_encode hfirst
        have fits : Packet.Fits (e.encode p.body) := Nat.lt_of_le_of_lt hsize small
        refine ⟨first :: frames, .cons (Frame.split_encode_of_fits hfirst fits rest) hcuts, ?_⟩
        rw [List.map_cons, List.map_cons, hread, hlayout, Packet.decode_layout fits,
          Encoding.received_of_decode (Encoding.decode_encode_legible e p.body)]
        rfl

/-- Whole packets are written behind whole packets. -/
theorem Page.IsWhole.write {routing : Routing} {page : Page} (whole : page.IsWhole routing)
    (small : routing.maxSize < 2 ^ 31) {packets : List Packet} {bytes : Bytes}
    (encoded : Packet.encodeAll routing.encoding routing.maxSize packets = .ok bytes) :
    Page.IsWhole routing { page with
      written := page.written ++ bytes
      sent := page.sent ++ packets } := by
  obtain ⟨frames, hcuts, hread⟩ := whole
  obtain ⟨more, hcuts', hread'⟩ := cutsInto_of_encodeAll small encoded
  refine ⟨frames ++ more, (hcuts.append bytes).trans hcuts', ?_⟩
  rw [List.map_append, hread, hread', ← List.map_append]

namespace Client

variable {c c' : Client} {action : Action} {actions : List Action} {g : Nat} {config : Config}

/-- Whether a write fails in a step. -/
def Action.isFailure : Action → Bool
  | .write _ outcome | .watchWrite _ outcome => outcome != .written
  | _ => false

/-! ## Whole packets -/

/-- Whether somebody takes a step who writes on the connection of a generation. -/
def writesOn (g : Nat) (c : Client) (action : Action) : Bool :=
  action.actor?.any fun h => (c.post h).writesOn g

/-- Whether a write on the connection of a generation ends before it is done. -/
def cutsOn (g : Nat) (c : Client) (action : Action) : Bool :=
  action.isCut && c.writesOn g action

/-- What is written on a connection stays whole as long as no write ends before it is done. -/
theorem isWhole_of_step (inTurn : InTurn config c) (attended : Attended c) (orderly : Orderly c)
    (small : config.routing.maxSize < 2 ^ 31) (whole : (c.desk.page g).IsWhole config.routing)
    (h : c.step action = some c') (uncut : c.cutsOn g action = false) :
    (c'.desk.page g).IsWhole config.routing := by
  have hentry := (shift_of_step attended orderly h).entry g
  change (c'.page g).IsWhole config.routing
  generalize c'.page g = page at hentry ⊢
  cases hentry with
  | kept => exact whole
  | began | registered => exact whole.congr rfl rfl
  | @wrote k request packets bytes actor post =>
    -- Whatever is written was encoded as a whole before.
    have encoded : Packet.encodeAll config.routing.encoding config.routing.maxSize packets =
        .ok bytes := by
      have hprepared := inTurn.prepared k
      rw [post] at hprepared
      cases hprepared with
      | authentication encoded => exact encoded
      | command _ encoded => exact encoded
    exact (whole.write small encoded).congr rfl rfl
  | @broke k request packets bytes count actor cut post =>
    have hwrites : c.writesOn g action = true := by
      have hpost : c.post k = .writing g request packets bytes := post
      rw [writesOn, actor, Option.any_some, hpost]
      exact beq_self_eq_true g
    rw [cutsOn, cut, hwrites] at uncut
    cases uncut

/-! ## Silence -/

/-- Whether a write on the connection of a generation fails. -/
def failsOn (g : Nat) (c : Client) (action : Action) : Bool :=
  action.isFailure && c.writesOn g action

/-- Nothing is written on the connection of a generation any more: it is closed, and nobody has
found it. -/
structure Silent (g : Nat) (c : Client) : Prop where
  /-- It is closed. -/
  closed : ∃ s, c.session? g = some s ∧ s.conn.closed = true
  /-- Nobody has found it. -/
  left : ∀ h, (c.desk.post h).generation? ≠ some g

/-- A closed connection is not found. -/
theorem open?_ne_of_closed (closed : ∃ s, c.session? g = some s ∧ s.conn.closed = true) :
    c.open? ≠ some g := by
  obtain ⟨s, hs, hclosed⟩ := closed
  intro hopen
  have hfalse := (open?_eq_some_iff.mp hopen).2
  rw [outline_closed?, hs, Option.map_some, hclosed] at hfalse
  cases hfalse

/-- A step writes nothing on it. -/
theorem Silent.written_of_step (silent : Silent g c) (attended : Attended c) (orderly : Orderly c)
    (h : c.step action = some c') : (c'.page g).written = (c.page g).written := by
  have hentry := (shift_of_step attended orderly h).entry g
  generalize c'.page g = page at hentry ⊢
  cases hentry with
  | kept | began | registered => rfl
  | wrote _ post | broke _ _ _ post =>
    -- Whoever writes does so elsewhere.
    exact absurd (congrArg Post.generation? post) (silent.left _)

/-- It stays so. -/
theorem Silent.step (silent : Silent g c) (attended : Attended c) (orderly : Orderly c)
    (h : c.step action = some c') : Silent g c' := by
  refine ⟨(transition_of_step h).closed silent.closed, ?_⟩
  have hother {k : Holder} {post : Post} (hpost : c.desk.post k = post) :
      post.generation? ≠ some g :=
    hpost ▸ silent.left k
  have hmove {d : Desk} {post : Post} {k : Holder} (desk : c'.desk = d.move k post)
      (posts : d.post = c.desk.post) (elsewhere : post.generation? ≠ some g) (i : Holder) :
      (c'.desk.post i).generation? ≠ some g := by
    rw [desk, Desk.post_move]
    split_ifs
    · exact elsewhere
    · exact posts ▸ silent.left i
  have hwrites {d : Desk} {k : Holder} {j : Nat} {request : Option (Int32 × Nat)}
      {packets : List Packet} (writes : Writes c k j request packets d c'.desk)
      (posts : d.post = c.desk.post) (elsewhere : some j ≠ some g) (i : Holder) :
      (c'.desk.post i).generation? ≠ some g := by
    obtain ⟨-, hsame⟩ | ⟨-, haway | ⟨s, bytes, -, -, hwriting⟩⟩ := writes.post_cases i
    · rw [hsame, posts]
      exact silent.left i
    · exact haway ▸ nofun
    · exact hwriting ▸ elsewhere
  cases shift_of_step attended orderly h with
  | kept desk => exact desk ▸ silent.left
  | left _ desk => exact hmove (d := c.desk.release _) desk rfl nofun
  | took _ _ desk => exact hmove (d := { c.desk with lock := _ }) desk rfl nofun
  | found _ _ isOpen desk =>
    have helsewhere : _ ≠ some g := fun hg => open?_ne_of_closed silent.closed (isOpen.trans hg)
    exact hmove desk rfl helsewhere
  | began _ post desk | registered _ post _ desk => exact hwrites desk rfl (hother post)
  | wrote _ post desk | broke _ _ _ post desk =>
    exact hmove (d := (c.desk.turn _ _).release _) desk rfl nofun

/-- A connection on which a write has failed is silent. -/
theorem silent_of_failsOn (inTurn : InTurn config c) (attended : Attended c)
    (h : c.step action = some c') (fails : c.failsOn g action = true) : Silent g c' := by
  obtain ⟨hfailure, hwrites⟩ := Bool.and_eq_true_iff.mp fails
  obtain ⟨k, hactor, hwrites⟩ := (Option.any_eq_true _ _).mp hwrites
  obtain ⟨outcome, hfailed, ends⟩ : ∃ outcome, outcome ≠ .written ∧ WriteEnds c k outcome c' := by
    cases action with
    | write n outcome =>
      obtain rfl := Option.some.inj hactor
      exact ⟨outcome, bne_iff_ne.mp hfailure, writeEnds_of_write attended h⟩
    | watchWrite j outcome =>
      obtain rfl := Option.some.inj hactor
      exact ⟨outcome, bne_iff_ne.mp hfailure, writeEnds_of_writeWatch h⟩
    | _ => cases hfailure
  obtain ⟨hs, post, desk, deals⟩ := ends
  rename_i j s request packets bytes ops
  obtain rfl : j = g := by
    have hpost : c.post k = .writing j request packets bytes := post
    rw [hpost] at hwrites
    exact eq_of_beq hwrites
  obtain ⟨e, hput⟩ : ∃ e, (c.put j packets bytes outcome).2 = some e := by
    cases outcome with
    | written => exact absurd rfl hfailed
    | broken count | timedOut count => exact ⟨_, rfl⟩
  obtain ⟨s', hs', haccount⟩ := ((deals_put_of_some hput).trans deals).exists_session hs
  have hconn : s'.conn = _ := congrArg (·.link.conn) haccount
  refine ⟨⟨s', hs', ?_⟩, fun i => ?_⟩
  · rw [hconn]
    exact Link.closed_of_close (c.account s).link ops
  · obtain ⟨count, hdesk⟩ := desk_put_of_some hs hput
    rw [desk, Desk.post_leave, hdesk]
    split_ifs with hik
    · exact nofun
    · -- Anybody else who has found a connection would have the lock.
      have haway : c.desk.post i = .away := by
        by_contra hon
        exact hik (inTurn.held.eq (by simp [post]) hon)
      change (c.desk.post i).generation? ≠ some j
      rw [haway]
      exact nofun

/-- Nothing is written on a silent connection, whatever follows. -/
theorem Silent.written_eq (silent : Silent g c) (attended : Attended c) (orderly : Orderly c)
    (h : c.run actions = some c') : (c'.page g).written = (c.page g).written := by
  refine (run_keeps (p := fun d => Attended d ∧ Orderly d ∧ Silent g d ∧
    (d.page g).written = (c.page g).written) (fun ⟨attended, orderly, silent, hsame⟩ hstep => ?_)
    ⟨attended, orderly, silent, rfl⟩ h).2.2.2
  exact ⟨attended.step hstep, orderly.step hstep, silent.step attended orderly hstep,
    (silent.written_of_step attended orderly hstep).trans hsame⟩

/-! ## The stream of a connection -/

/-- The commands that were sent in a turn have the ids that were used up in it. -/
theorem IsUnit.sublist_ids {t : Turn} (unit : IsUnit c t) :
    ((t.sent.filter (·.type = .execCommand)).map Packet.id).Sublist t.ids := by
  cases unit with
  | silent => exact List.nil_sublist _
  | authentication => exact List.nil_sublist _
  | @command h id slot text multi wanted =>
    cases multi with
    | false | true => exact List.Sublist.refl [id]

/-- The commands that were sent in some turns have the ids that were used up in them, in this
order. -/
theorem sublist_ids {turns : List Turn} (units : ∀ t ∈ turns, IsUnit c t) :
    (((turns.flatMap Turn.sent).filter (·.type = .execCommand)).map Packet.id).Sublist
      (turns.flatMap Turn.ids) := by
  induction turns with
  | nil => exact List.nil_sublist _
  | cons t ts ih =>
    obtain ⟨unit, units⟩ := List.forall_mem_cons.mp units
    rw [List.flatMap_cons, List.flatMap_cons, List.filter_append, List.map_append]
    exact unit.sublist_ids.append (ih units)

/-- What is true of every client while it runs. -/
theorem inTurn_of_run {listeners : Registry} (h : (fresh config listeners).run actions = some c) :
    Attended c ∧ Orderly c ∧ InTurn config c :=
  run_keeps (p := fun d => Attended d ∧ Orderly d ∧ InTurn config d)
    (fun ⟨attended, orderly, inTurn⟩ hstep =>
      ⟨attended.step hstep, orderly.step hstep, inTurn.step attended orderly hstep⟩)
    ⟨attended_fresh config listeners, orderly_fresh config listeners, inTurn_fresh config listeners⟩
    h

/-- The turns of a run are what was done in it with the session lock. -/
theorem logged_of_run {listeners : Registry} (h : (fresh config listeners).run actions = some c) :
    Logged g c ((fresh config listeners).tally (noteTurns g) [] actions) :=
  (tally_keeps (p := fun d turns => Attended d ∧ Orderly d ∧ InTurn config d ∧ Logged g d turns)
    (fun ⟨attended, orderly, inTurn, logged⟩ hstep =>
      ⟨attended.step hstep, orderly.step hstep, inTurn.step attended orderly hstep,
        logged.step inTurn attended orderly hstep⟩)
    ⟨attended_fresh config listeners, orderly_fresh config listeners,
      inTurn_fresh config listeners, logged_fresh config listeners g⟩ h).2.2.2

/-- As long as no write ends before it is done, what is written on a connection is whole. -/
theorem isWhole_of_run {listeners : Registry} (small : config.maxPacketSize < 2 ^ 31)
    (uncut : (fresh config listeners).happens (cutsOn g) actions = false)
    (h : (fresh config listeners).run actions = some c) : (c.page g).IsWhole config.routing :=
  (keeps_of_not_happens
    (p := fun d => Attended d ∧ Orderly d ∧ InTurn config d ∧ (d.page g).IsWhole config.routing)
    (fun _ ⟨attended, orderly, inTurn, whole⟩ huncut hstep =>
      ⟨attended.step hstep, orderly.step hstep, inTurn.step attended orderly hstep,
        isWhole_of_step inTurn attended orderly small whole hstep huncut⟩)
    ⟨attended_fresh config listeners, orderly_fresh config listeners,
      inTurn_fresh config listeners, [], .nil _, rfl⟩ uncut List.prefix_rfl h).2.2.2

/-- What is written on a connection is a stream of packets, whoever writes and in whatever order:
in each turn with the session lock an authentication is sent, or a command and at once the empty
packet that ends its response, or nothing, and the turns come one after the other. The requests were
registered, and their ids were used up, in the same order. As long as no write ends before it is
done, the bytes are the packets and nothing else. After a write that fails, there are never any
more. -/
theorem stream_in_turns (config : Config) (listeners : Registry) (actions : List Action)
    (c : Client) (g : Nat) (small : config.maxPacketSize < 2 ^ 31)
    (hrun : (fresh config listeners).run actions = some c) :
    let turns := (fresh config listeners).turnsOn g actions
    (∀ t ∈ turns, IsUnit c t) ∧
      (c.page g).sent = turns.flatMap Turn.sent ∧
      List.range (c.page g).issued = turns.flatMap Turn.slots ∧
      takeIds 1 (turns.flatMap Turn.ids).length = (turns.flatMap Turn.ids, c.nextId) ∧
      (((c.page g).sent.filter (·.type = .execCommand)).map Packet.id).Sublist
        (turns.flatMap Turn.ids) ∧
      ((fresh config listeners).happens (cutsOn g) actions = false →
        ∃ frames, Frame.splitAll config.maxPacketSize (c.page g).written = (frames, []) ∧
          frames.map (Packet.decode · config.encoding) =
            (c.page g).sent.map fun p => .ok (p.received config.encoding)) ∧
      ∀ (action : Action) (d : Client) (more : List Action) (e : Client),
        c.failsOn g action = true → c.step action = some d → d.run more = some e →
          (e.page g).written = (d.page g).written := by
  intro turns
  obtain ⟨attended, orderly, inTurn⟩ := inTurn_of_run hrun
  have logged : Logged g c ((fresh config listeners).tally (noteTurns g) [] actions) :=
    logged_of_run hrun
  have hunits : ∀ t ∈ turns, IsUnit c t := fun t ht => logged.units t (List.mem_reverse.mp ht)
  have hsent : (c.page g).sent = turns.flatMap Turn.sent := logged.sent.symm
  refine ⟨hunits, hsent, logged.slots.symm, logged.ids, hsent ▸ sublist_ids hunits,
    fun uncut => ?_, fun action d more e fails hstep hmore => ?_⟩
  · obtain ⟨frames, hcuts, hread⟩ := isWhole_of_run small uncut hrun
    refine ⟨frames, ?_, hread⟩
    have hnone : Frame.splitAll config.maxPacketSize [] = ([], []) := Frame.splitAll_eq_nil nofun
    have hsplit := hcuts.splitAll_eq
    rw [show config.routing.maxSize = config.maxPacketSize from rfl, hnone, List.append_nil] at hsplit
    exact hsplit
  · exact (silent_of_failsOn inTurn attended hstep fails).written_eq (attended.step hstep)
      (orderly.step hstep) hmore

/-- A client that checks its connection connects, and sends a command whose response may span
several packets. The first check has waited for the session lock, and is about to write. -/
def interleaved : List Action :=
  accepted ++ [.advance 0, .call (.command "status" true 5000), .advance 1, .watch 1, .advance 1,
    .advance 1, .write 1 .written, .watch 1, .watch 1, .watch 1]

/-- The packets of the two calls are on the connection, one after the other. If the check breaks off
in its size field, nothing comes after that. -/
theorem stream_in_turns_interleaved : ∃ c d,
    (fresh { checkInterval := some 50 } {}).run interleaved = some c ∧
      c.step (.watchWrite 1 (.broken 3)) = some d ∧
      (∃ frames, Frame.splitAll 4200 (c.page 1).written = (frames, []) ∧
        frames.map (Packet.decode · .utf8) = [.ok ⟨0, .auth, ""⟩,
          .ok ⟨1, .authResponse, "status"⟩, .ok ⟨1, .response, ""⟩]) ∧
      (d.page 1).written = (c.page 1).written ++ [16, 0, 0] ∧
        ∀ more e, d.run more = some e → (e.page 1).written = (d.page 1).written := by
  have hrun : ((fresh { checkInterval := some 50 } {}).run interleaved).isSome = true := by decide
  obtain ⟨c, hc⟩ := Option.isSome_iff_exists.mp hrun
  have hfacts : (c.step (.watchWrite 1 (.broken 3))).isSome = true ∧
      c.failsOn 1 (.watchWrite 1 (.broken 3)) = true ∧
        (c.page 1).sent = [⟨0, .auth, ""⟩, ⟨1, .execCommand, "status"⟩, ⟨1, .response, ""⟩] ∧
          (c.step (.watchWrite 1 (.broken 3))).map (fun d => (d.page 1).written) =
            some ((c.page 1).written ++ [16, 0, 0]) := by
    obtain rfl := Option.get_of_eq_some hrun hc
    clear hc
    refine ⟨?_, ?_, ?_, ?_⟩ <;> decide +revert
  obtain ⟨hthere, hfails, hsent, hwritten⟩ := hfacts
  obtain ⟨d, hd⟩ := Option.isSome_iff_exists.mp hthere
  rw [hd, Option.map_some] at hwritten
  obtain ⟨-, -, -, -, -, hwhole, hsilent⟩ :=
    stream_in_turns { checkInterval := some 50 } {} interleaved c 1 (by decide) hc
  obtain ⟨frames, hsplit, hread⟩ := hwhole (by decide)
  rw [hsent] at hread
  exact ⟨c, d, hc, hd, ⟨frames, hsplit, hread.trans (by decide)⟩, Option.some.inj hwritten,
    fun more e => hsilent _ d more e hfails hd⟩

end Client

end RemoteConsole
