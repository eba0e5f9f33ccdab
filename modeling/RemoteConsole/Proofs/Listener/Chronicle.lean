import RemoteConsole.Listener.Journal
import RemoteConsole.Proofs.Listener.Behaviour
import RemoteConsole.Proofs.Listener.Notes

/-!
# Who is registered when an event comes

A history of a registry as a chronicle: registrations and events one after the other, a packet with
a body being two events, one for the listeners to packets and then one for those to bodies. An event
calls the listeners of its sort that stand in the chronicle before it, each once and in order of
registration (`Occasion.called`). So it calls the listeners that earlier events have led to, and
none of those that its own calls lead to.

The chronicle knows one order of registration and nothing of a registry, which has a list for each
sort and changes it while the listeners on it are called. `run_follows_chronicle` says that a
registry does what the chronicle says.
-/

namespace RemoteConsole.Registry

/-- Something that happens to the listeners. -/
inductive Occasion where
  /-- One is registered from outside. -/
  | registration (sort : ListenerSort) (l : Listener)
  /-- Those of a sort are told of something. -/
  | event (event : Event)

/-- An occasion, and the listeners that are called on it. -/
structure Entry where
  /-- The occasion. -/
  occasion : Occasion
  /-- The listeners that are called, in order. -/
  called : List Listener

/-- The calls, with what the listeners that are called take note of. -/
def Entry.heard (e : Entry) : List Heard :=
  match e.occasion with
  | .registration .. => []
  | .event event => e.called.map (·.hear event)

/-- The listeners that are registered, from outside or by those that are called. -/
def Entry.registrations (e : Entry) : List (ListenerSort × Listener) :=
  match e.occasion with
  | .registration sort l => [(sort, l)]
  | .event event => e.called.flatMap fun l => (l.react event).registrations

/-- Those of a sort among some listeners. -/
def pick (sort : ListenerSort) (added : List (ListenerSort × Listener)) : List Listener :=
  (added.filter (·.1 = sort)).map Prod.snd

/-- The listeners of a sort that are registered in a chronicle, in order of registration. -/
def registered (sort : ListenerSort) (chronicle : List Entry) : List Listener :=
  pick sort (chronicle.flatMap Entry.registrations)

/-- The listeners that an occasion calls: those of its sort that are registered before it. -/
def Occasion.called (past : List Entry) : Occasion → List Listener
  | .registration .. => []
  | .event e => registered e.sort past

/-- The chronicle of some occasions that come after others. -/
def chronicleFrom (past : List Entry) : List Occasion → List Entry
  | [] => past
  | o :: occasions => chronicleFrom (past ++ [⟨o, o.called past⟩]) occasions

/-- What happens to the listeners in an operation. Those to bodies are told of no empty body. -/
def Op.occasions : Op → List Occasion
  | .register sort l => [.registration sort l]
  | .packet p => .event (.packet p) :: if p.body == "" then [] else [.event (.body p.body)]
  | .disconnected => [.event .disconnected]

/-- The chronicle of a history. -/
def chronicle (ops : List Op) : List Entry :=
  chronicleFrom [] (ops.flatMap Op.occasions)

/-- What a registry makes of an occasion. -/
def perform (r : Registry) : Occasion → List Heard × Registry
  | .registration sort l => ([], r.register sort l)
  | .event event => r.notify event

/-- What a registry makes of some occasions. -/
def performAll (r : Registry) : List Occasion → List Heard × Registry
  | [] => ([], r)
  | o :: occasions =>
    ((r.perform o).1 ++ ((r.perform o).2.performAll occasions).1,
      ((r.perform o).2.performAll occasions).2)

variable {r : Registry} {past : List Entry}

/-! ## Operations as occasions -/

theorem performAll_append (r : Registry) (os os' : List Occasion) :
    r.performAll (os ++ os') =
      ((r.performAll os).1 ++ ((r.performAll os).2.performAll os').1,
        ((r.performAll os).2.performAll os').2) := by
  induction os generalizing r with
  | nil => rfl
  | cons o os ih => rw [List.cons_append, performAll, ih, performAll, List.append_assoc]

theorem apply_eq_performAll (r : Registry) (op : Op) : r.apply op = r.performAll op.occasions := by
  cases op with
  | register sort l => rfl
  | packet p =>
    have hpacket : r.apply (.packet p) =
        if p.body == "" then r.notify (.packet p)
        else ((r.notify (.packet p)).1 ++ ((r.notify (.packet p)).2.notify (.body p.body)).1,
          ((r.notify (.packet p)).2.notify (.body p.body)).2) := rfl
    rw [hpacket, Op.occasions]
    split <;> simp [performAll, perform]
  | disconnected => simp [apply, connectionClosed, Op.occasions, performAll, perform]

theorem run_eq_performAll (r : Registry) (ops : List Op) :
    r.run ops = r.performAll (ops.flatMap Op.occasions) := by
  induction ops generalizing r with
  | nil => rfl
  | cons op ops ih =>
    have hcons : r.run (op :: ops) =
        ((r.apply op).1 ++ ((r.apply op).2.run ops).1, ((r.apply op).2.run ops).2) := rfl
    rw [hcons, List.flatMap_cons, performAll_append, ← apply_eq_performAll, ih]

/-! ## What is registered while listeners are called -/

theorem registerAll_append (r : Registry) (added more : List (ListenerSort × Listener)) :
    r.registerAll (added ++ more) = (r.registerAll added).registerAll more := by
  induction added generalizing r with
  | nil => rfl
  | cons a added ih => exact ih _

/-- Listeners that are called register what each of them does, one after the other. -/
theorem callAll_snd (r : Registry) (event : Event) (ls : List Listener) :
    (r.callAll event ls).2 = r.registerAll (ls.flatMap fun l => (l.react event).registrations) := by
  induction ls generalizing r with
  | nil => rfl
  | cons l ls ih =>
    have hcons : (r.callAll event (l :: ls)).2 = ((r.call event l).2.callAll event ls).2 := rfl
    rw [hcons, ih, call_eq, List.flatMap_cons, registerAll_append]

theorem pick_append (sort : ListenerSort) (added more : List (ListenerSort × Listener)) :
    pick sort (added ++ more) = pick sort added ++ pick sort more := by
  rw [pick, List.filter_append, List.map_append, pick, pick]

theorem ofSort_register (r : Registry) (sort sort' : ListenerSort) (l : Listener) :
    (r.register sort' l).ofSort sort = r.ofSort sort ++ pick sort [(sort', l)] := by
  cases sort <;> cases sort' <;> simp [register, ofSort, pick]

theorem ofSort_registerAll (r : Registry) (sort : ListenerSort)
    (added : List (ListenerSort × Listener)) :
    (r.registerAll added).ofSort sort = r.ofSort sort ++ pick sort added := by
  induction added generalizing r with
  | nil => exact (List.append_nil _).symm
  | cons a added ih =>
    have hcons : r.registerAll (a :: added) = (r.register a.1 a.2).registerAll added := rfl
    rw [hcons, ih, ofSort_register, List.append_assoc, ← pick_append, List.singleton_append]

/-! ## A registry follows the chronicle -/

theorem registered_append (sort : ListenerSort) (past : List Entry) (e : Entry) :
    registered sort (past ++ [e]) = registered sort past ++ pick sort e.registrations := by
  rw [registered, List.flatMap_append, pick_append, List.flatMap_singleton, registered]

/-- The listeners of a registry are those that a chronicle registers. -/
def Follows (r : Registry) (past : List Entry) : Prop :=
  ∀ sort, r.ofSort sort = registered sort past

/-- On an occasion those are called and registered that the chronicle says. -/
theorem Follows.perform (follows : Follows r past) (o : Occasion) :
    (r.perform o).1 = (Entry.mk o (o.called past)).heard ∧
      Follows (r.perform o).2 (past ++ [⟨o, o.called past⟩]) := by
  cases o with
  | registration sort l =>
    refine ⟨rfl, fun sort' => ?_⟩
    rw [Registry.perform, ofSort_register, registered_append, follows]
    rfl
  | event event =>
    refine ⟨?_, fun sort => ?_⟩
    -- The listeners that are called are taken from the registry before any of them is called.
    · rw [Registry.perform, notify_fst, follows]
      rfl
    · rw [Registry.perform, notify, callAll_snd, ofSort_registerAll, registered_append, follows,
        follows]
      rfl

theorem Follows.performAll (follows : Follows r past) (occasions : List Occasion) :
    past.flatMap Entry.heard ++ (r.performAll occasions).1 =
        (chronicleFrom past occasions).flatMap Entry.heard ∧
      Follows (r.performAll occasions).2 (chronicleFrom past occasions) := by
  induction occasions generalizing r past with
  | nil => exact ⟨List.append_nil _, follows⟩
  | cons o occasions ih =>
    obtain ⟨hheard, hnext⟩ := follows.perform o
    obtain ⟨hmore, hlast⟩ := ih hnext
    refine ⟨?_, hlast⟩
    rw [chronicleFrom, ← hmore, List.flatMap_append, List.flatMap_singleton, Registry.performAll,
      hheard, List.append_assoc]

/-- A chronicle goes on with the occasions to come, and each calls those registered before it. -/
theorem chronicleFrom_spec (past : List Entry) (occasions : List Occasion) :
    ∃ new, chronicleFrom past occasions = past ++ new ∧ new.map Entry.occasion = occasions ∧
      ∀ before entry after, new = before ++ entry :: after →
        entry.called = entry.occasion.called (past ++ before) := by
  induction occasions generalizing past with
  | nil =>
    refine ⟨[], (List.append_nil past).symm, rfl, fun before entry after h => ?_⟩
    exact absurd h.symm (List.append_ne_nil_of_right_ne_nil _ (List.cons_ne_nil _ _))
  | cons o occasions ih =>
    obtain ⟨new, hnew, hmap, hcalled⟩ := ih (past ++ [⟨o, o.called past⟩])
    refine ⟨⟨o, o.called past⟩ :: new, ?_, ?_, fun before entry after h => ?_⟩
    · rw [chronicleFrom, hnew, List.append_assoc, List.singleton_append]
    · rw [List.map_cons, hmap]
    -- What is past for the first occasion is `past`, and for a later one the first is past, too.
    · cases before with
      | nil =>
        obtain rfl := (List.cons.inj h).1
        rw [List.append_nil]
      | cons first before =>
        obtain ⟨rfl, hrest⟩ := List.cons.inj h
        rw [hcalled before entry after hrest, List.append_assoc, List.singleton_append]

theorem follows_empty : Follows {} [] := by
  intro sort
  cases sort <;> rfl

/-- Registrations and events in any order, with listeners that may do anything with what they are
called with and register any others, which may do so in turn without end: an event calls the
listeners of its sort that are registered before it, each once and in order of registration. A
packet is told to the listeners to packets, and then, unless it is empty, its body to the listeners
to bodies. Whatever the parser and whatever the callback, a parser's listener calls back with a
value if the parser finds one in the body, and does nothing else. The registry holds, and counts,
what has been registered and nothing else. -/
theorem run_follows_chronicle (ops : List Op) :
    let r := (run {} ops).2
    let count (sort : ListenerSort) : Nat := (registered sort (chronicle ops)).length
    (run {} ops).1 = (chronicle ops).flatMap Entry.heard ∧
      (∀ sort, r.ofSort sort = registered sort (chronicle ops)) ∧
      r.describe =
        s!"Listeners \x7b disconnected: {count .disconnected}, packets: {count .packet}, "
          ++ s!"bodies: {count .body} \x7d" ∧
      (chronicle ops).map Entry.occasion = ops.flatMap Op.occasions ∧
      (∀ past entry future, chronicle ops = past ++ entry :: future →
        entry.called = entry.occasion.called past) ∧
      ∀ (α : Type) (parser : Parser α) (callback : α → Response Listener) (text : String),
        (Listener.listen parser callback).react (.body text) =
          (parser.tryParse text).elim {} callback := by
  intro r count
  obtain ⟨hheard, hfollows⟩ := follows_empty.performAll (ops.flatMap Op.occasions)
  rw [← run_eq_performAll] at hheard hfollows
  obtain ⟨new, hnew, hoccasions, hcalled⟩ := chronicleFrom_spec [] (ops.flatMap Op.occasions)
  obtain rfl : chronicle ops = new := hnew
  have hcount (sort : ListenerSort) : count sort = (r.ofSort sort).length :=
    (congrArg List.length (hfollows sort)).symm
  refine ⟨hheard, hfollows, ?_, hoccasions, hcalled, fun _ => Listener.react_listen⟩
  rw [hcount, hcount, hcount]
  rfl

/-- What is done by a listener that registers, at every packet, one that has the body to note, and
one more like itself. -/
def copying : Option String → Event → Response (Option String)
  | none, .packet p =>
    { notes := [p.body], registrations := [(.body, some p.body), (.packet, none)] }
  | none, _ => {}
  | some text, _ => { notes := ["after " ++ text] }

/-- The first packet finds one copying listener and the second two. A parser finds a value in the
first body, and its callback registers a listener. So two listeners hear of the first body, and five
of the second, in which the parser finds nothing. -/
theorem run_follows_chronicle_copying :
    let parser : Parser String :=
      ⟨(Text.contains · " killed "), fun line => some (Text.before line " killed ")⟩
    let killer := Listener.listen parser fun name =>
      { notes := [name], registrations := [(.body, .noting "killed before")] }
    let ops : List Op := [.register .packet (.corec copying none), .register .body killer,
      .packet ⟨7, .response, "alice killed bob"⟩, .disconnected, .packet ⟨7, .response, "map"⟩]
    ∃ past entry future, chronicle ops = past ++ entry :: future ∧
      entry.occasion = .event (.body "map") ∧
      entry.called.map (fun l => (l.react (.body "map")).notes) =
        [[], ["after alice killed bob"], ["killed before"], ["after map"], ["after map"]] ∧
      (run {} ops).1.map Heard.notes = [["alice killed bob"], ["alice"], ["after alice killed bob"],
        ["map"], ["map"], [], ["after alice killed bob"], ["killed before"], ["after map"],
        ["after map"]] := by
  intro parser killer ops
  obtain ⟨hheard, -, -, -, hcalled, -⟩ := run_follows_chronicle ops
  refine ⟨(chronicle ops).take 6, (chronicle ops)[6], [], rfl, rfl, ?_, ?_⟩
  · rw [hcalled ((chronicle ops).take 6) (chronicle ops)[6] [] rfl]
    decide
  · rw [hheard]
    decide

end RemoteConsole.Registry
