/-!
# Colours

Texts in the colours of a terminal.
-/

namespace RemoteConsole.CommandLine

/-- A colour that the program uses. -/
inductive Colour where
  /-- Green. -/
  | green
  /-- Yellow. -/
  | yellow
  /-- The bright green of the 256-colour palette. -/
  | brightGreen
deriving Repr, DecidableEq

/-- The code that switches a colour on. -/
def Colour.code : Colour → String
  | green => "32"
  | yellow => "33"
  | brightGreen => "38;5;10"

/-- A text in a colour. -/
def Colour.paint (colour : Colour) (s : String) : String :=
  s!"\x1b[{colour.code}m{s}\x1b[0m"

end RemoteConsole.CommandLine
