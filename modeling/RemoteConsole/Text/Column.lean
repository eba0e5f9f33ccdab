/-!
# Columns

Texts padded with spaces to a width in characters. A text that is wider stays as it is.
-/

namespace RemoteConsole.Text

/-- A text at the left of a column. -/
def padRight (width : Nat) (s : String) : String :=
  s ++ String.ofList (List.replicate (width - s.length) ' ')

/-- A text at the right of a column. -/
def padLeft (width : Nat) (s : String) : String :=
  String.ofList (List.replicate (width - s.length) ' ') ++ s

end RemoteConsole.Text
