import RemoteConsole.Rehearsal.World

/-!
# Plays

A play is a list of scenes: in each, something is asked of a client while the server does its part,
and the scene ends when both are done. What can be seen of a scene is its result, what the server
saw, what the listeners heard, and how the client stands after it.
-/

namespace RemoteConsole.Rehearsal

/-- What is asked of the client in a scene. -/
inductive Deed where
  /-- One call. -/
  | call (errand : Errand)
  /-- One call that is dropped if it is not over when the server is done. -/
  | cancelled (errand : Errand)
  /-- A command whose response is read by a parser. -/
  | parsed (errand : Errand) (parser : LineParser)
  /-- Several calls at once. -/
  | calls (errands : List Errand)
  /-- Another password for later. -/
  | setPassword (password : String)
  /-- To wait until there is no connection. -/
  | waitClosed
  /-- Nothing. -/
  | watch
deriving Repr, DecidableEq

/-- A scene. -/
structure Scene where
  /-- What is asked of the client. -/
  deed : Deed
  /-- What the server does meanwhile. -/
  script : List ServerAction := []
deriving Repr, DecidableEq

/-- The result of a scene. -/
inductive SceneResult where
  /-- There is none. -/
  | nothing
  /-- How a call ended. -/
  | answer (answer : Answer)
  /-- What a parser made of a response. -/
  | parsed (value : Except Error String)
  /-- How several calls ended. -/
  | answers (answers : List Answer)
  /-- The call was dropped. -/
  | cancelled
deriving Repr

/-- What can be seen of a scene. -/
structure SceneReport where
  /-- The result. -/
  result : SceneResult
  /-- What the server got to see. -/
  sightings : List Sighting
  /-- The calls of listeners. -/
  heard : List Heard
  /-- The client's state afterwards. -/
  state : ConnectionState
  /-- The number of requests pending afterwards. -/
  pending : Nat
deriving Repr

namespace World

/-- How a call ended. -/
def answer? (w : World) (n : Nat) : Option Answer :=
  (w.client.calls[n]?).bind Call.answer?

/-- The result that is the answer to a call. -/
def resultOf (w : World) (n : Nat) : SceneResult :=
  ((w.answer? n).map SceneResult.answer).getD .nothing

/-- Runs a deed to its end: its result, and the world after it. -/
def perform (w : World) : Deed → SceneResult × World
  | .call errand =>
    let (ns, w) := w.callAll [errand]
    let w := w.run (.calls ns) .allDone
    ((ns.head?.map w.resultOf).getD .nothing, w)
  | .cancelled errand =>
    let (ns, w) := w.callAll [errand]
    let w := w.run (.calls ns) .eitherDone
    if w.reached (.calls ns) then ((ns.head?.map w.resultOf).getD .nothing, w)
    else (.cancelled, ns.foldl (fun w n => (w.act (.abandon n 0)).getD w) w)
  | .parsed errand parser =>
    let (ns, w) := w.callAll [errand]
    let w := w.run (.calls ns) .allDone
    let value := (ns.head?.bind w.answer?).map (·.parsed parser.toParser)
    ((value.map SceneResult.parsed).getD .nothing, w)
  | .calls errands =>
    let (ns, w) := w.callAll errands
    let w := w.run (.calls ns) .allDone
    (.answers (ns.filterMap w.answer?), w)
  | .setPassword password =>
    (.nothing, ((w.act (.setPassword password)).getD w).run (.calls []) .allDone)
  | .waitClosed => (.nothing, w.run .disconnected .allDone)
  | .watch => (.nothing, w.run (.calls []) .allDone)

/-- Plays a scene. -/
def play (w : World) (scene : Scene) : SceneReport × World :=
  let before := w.client.heard.length
  let w := { w with script := scene.script, sightings := [], deadlines := [] }
  let (result, w) := w.perform scene.deed
  ({ result
     sightings := w.sightings
     heard := w.client.heard.drop before
     state := w.client.cell.state
     pending := w.client.pendingCommands }, w)

/-- Plays some scenes, one after the other. -/
def playAll (w : World) : List Scene → List SceneReport × World
  | [] => ([], w)
  | scene :: scenes =>
    let (report, w) := w.play scene
    let (reports, w) := w.playAll scenes
    (report :: reports, w)

/-- Drops the client: the calls of listeners. -/
def dropClient (w : World) : List Heard :=
  w.client.drop.heard.drop w.client.heard.length

end World

end RemoteConsole.Rehearsal
