/-!
# Log lines

How the program writes the lines of its log: the time of day, how serious it is, and the text.
-/

namespace RemoteConsole.CommandLine.Log

/-- A number in two digits. -/
def twoDigits (n : Nat) : String :=
  (if n < 10 then "0" else "") ++ toString n

/-- The time of day at a number of seconds after a midnight. -/
def timeOfDay (seconds : Nat) : String :=
  let part (unit bound : Nat) := twoDigits (seconds / unit % bound)
  part 3600 24 ++ ":" ++ part 60 60 ++ ":" ++ part 1 60

/-- A line of the log. -/
def line (seconds : Nat) (level text : String) : String :=
  s!"{timeOfDay seconds} [{level}] {text}\n"

end RemoteConsole.CommandLine.Log
