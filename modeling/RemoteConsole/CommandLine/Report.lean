import RemoteConsole.CommandLine.Style
import RemoteConsole.Query.Family
import RemoteConsole.Text.Column
import RemoteConsole.Text.Rounded

/-!
# Query reports

What the program shows of a server. A Source server is asked for its players after its information
is shown.
-/

namespace RemoteConsole.CommandLine.Report

/-- Some lines, each with its end. -/
def lines (ls : List String) : String :=
  String.join (ls.map (· ++ "\n"))

/-- The report of a Source server's information. -/
def source (info : Query.Source.Info) : String :=
  lines [
    Colour.green.paint info.name,
    s!"    map        {info.map}",
    s!"    game       {info.game} ({info.folder})",
    s!"    players    {info.players.toNat}/{info.maxPlayers.toNat} ({info.bots.toNat} bots)",
    s!"    vac        {info.vacSecured}"]

/-- The line of a player. -/
def player (p : Query.Source.Player) : String :=
  "    " ++ Text.padRight 32 p.name ++ " " ++ Text.padLeft 6 (toString p.score.toInt) ++ " "
    ++ Text.padLeft 8 (Text.rounded p.duration) ++ "s"

/-- The report of a Source server's players, empty if there are none. -/
def players (ps : List Query.Source.Player) : String :=
  if ps.isEmpty then "" else lines (["", Colour.yellow.paint "PLAYERS"] ++ ps.map player)

/-- The report of a Minecraft server. -/
def minecraft (info : Query.Minecraft.Info) : String :=
  lines ([
    Colour.green.paint info.motd,
    s!"    version    {info.version}",
    s!"    map        {info.map}",
    s!"    players    {info.numPlayers}/{info.maxPlayers}"]
    ++ info.players.map fun name => s!"    - {name}")

/-- How the program ends after a query: what it shows, and the error it reports, if any. -/
structure Result where
  /-- What it shows. -/
  output : String
  /-- Why the query failed. -/
  error : Option Error
deriving Repr, DecidableEq

/-- The line that reports an error. -/
def failure (e : Error) : String :=
  s!"Query failed: {e.message}"

/-- The result of a query, where `askPlayers` asks a Source server for its players. -/
def ofInfo (askPlayers : Unit → Except Error (List Query.Source.Player)) :
    Except Error Query.Info → Result
  | .error e => ⟨"", some e⟩
  | .ok (.minecraft info) => ⟨minecraft info, none⟩
  | .ok (.source info) =>
    match askPlayers () with
    | .ok ps => ⟨source info ++ players ps, none⟩
    | .error e => ⟨source info, some e⟩

end RemoteConsole.CommandLine.Report
