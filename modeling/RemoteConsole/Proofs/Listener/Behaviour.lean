import RemoteConsole.Listener.Behaviour

/-!
# Listeners do what is said of them

Whatever is said that should be done with an event, there is a listener that does it
(`react_ofReact`). Such a listener registers others that were there before it. One that registers
listeners like itself comes from the states that it may be in, and what is done in each
(`react_corec`).
-/

namespace RemoteConsole.Listener

/-- The state to which a way leads from another. -/
def follow {S : Type} (step : S → Event → Response S) (s : S) : List (Event × Nat) → Option S
  | [] => some s
  | (event, i) :: way =>
    match (step s event).registrations[i]? with
    | some (_, s) => follow step s way
    | none => none

/-- The listener that does what is done in a state, and so do the listeners it registers, each in a
state of its own. -/
def corec {S : Type} (step : S → Event → Response S) (s : S) : Listener where
  respond way event :=
    match follow step s way with
    | some s => (step s event).map fun _ => ()
    | none => {}

/-- A listener that responds in a certain way, and registers certain listeners, reacts so. -/
theorem react_eq {L : Type} {l : Listener} {event : Event} {response : Response L}
    {f : L → Listener} (responds : l.respond [] event = response.map fun _ => ())
    (registers : ∀ i sort l', response.registrations[i]? = some (sort, l') →
      l.child event i = f l') :
    l.react event = response.map f := by
  rw [react, responds]
  -- The tree has the notes and the sorts. The listeners come back one by one, by their numbers.
  refine congrArg (Response.mk response.notes) (List.ext_getElem ?_ fun i _ h => ?_)
  · simp [Response.map]
  · have hi : i < response.registrations.length := by simpa using h
    have hchild := registers i response.registrations[i].1 response.registrations[i].2
      (List.getElem?_eq_getElem hi)
    simp [Response.map, Prod.map, hchild]

/-- Whatever is said, there is a listener that does it. -/
theorem react_ofReact (react : Event → Response Listener) : (ofReact react).react = react := by
  funext event
  have hreact : (ofReact react).react event = (react event).map id := by
    refine react_eq rfl fun i sort l h => ?_
    refine congrArg Listener.mk (funext fun way => ?_)
    funext later
    simp only [ofReact, h]
  rw [hreact, Response.map, Prod.map_id, List.map_id]

/-- The listener of a state does what is done in that state, and registers the listeners of the
states that come of it. -/
theorem react_corec {S : Type} (step : S → Event → Response S) (s : S) (event : Event) :
    (corec step s).react event = (step s event).map (corec step) := by
  refine react_eq rfl fun i sort s' h => ?_
  -- A way that begins with a registration goes on from the state of the listener registered.
  have hfollow (way : List (Event × Nat)) :
      follow step s ((event, i) :: way) = follow step s' way := by
    rw [follow, h]
  refine congrArg Listener.mk (funext fun way => ?_)
  funext later
  rw [← hfollow]
  rfl

/-- A parser's listener calls back with the value of a body if the parser finds one, and does
nothing else. -/
theorem react_listen {α : Type} (parser : Parser α) (callback : α → Response Listener)
    (text : String) :
    (listen parser callback).react (.body text) = (parser.tryParse text).elim {} callback :=
  congrFun (react_ofReact _) (.body text)

end RemoteConsole.Listener
