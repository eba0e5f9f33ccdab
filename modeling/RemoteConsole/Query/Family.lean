import RemoteConsole.Query.Source
import RemoteConsole.Query.Minecraft

/-!
# Query families

The two query protocols under one roof.
-/

namespace RemoteConsole.Query

/-- A query protocol. -/
inductive Family where
  /-- The protocol of Source servers. -/
  | source
  /-- The protocol of Minecraft servers. -/
  | minecraft
deriving Repr, DecidableEq, Inhabited

/-- The name of a family. -/
def Family.name : Family → String
  | source => "source"
  | minecraft => "minecraft"

/-- The family with a name or a short name, in any mixture of lower and upper case ASCII letters. -/
def Family.ofName (name : String) : Except Error Family :=
  let lower := String.ofList (name.toList.map Char.toLower)
  if lower = "source" ∨ lower = "a2s" then .ok source
  else if lower = "minecraft" ∨ lower = "mc" then .ok minecraft
  else .error (.unknownQueryFamily name)

/-- What a server of either family says about itself. -/
inductive Info where
  /-- A Source server. -/
  | source (info : Source.Info)
  /-- A Minecraft server. -/
  | minecraft (info : Minecraft.Info)
deriving Repr, DecidableEq

/-- The query for a server's information. Only Minecraft servers look at the session. -/
def info (family : Family) (session : Int32) : Exchange Info :=
  match family with
  | .source => Source.info.map .source
  | .minecraft => (Minecraft.info session).map .minecraft

end RemoteConsole.Query
