import RemoteConsole.Bytes
import RemoteConsole.CommandLine.Program
import RemoteConsole.Text.Utf8

/-!
# Lines of input

The lines in the bytes of the program's input. A line ends at a line feed, with a carriage return
before it taken away, or at the end of the input.
-/

namespace RemoteConsole.CommandLine.Input

/-- The bytes up to each line feed, and those after the last one if there are any. The flag says
whether the line was ended by a line feed. -/
def split : Bytes → List (Bytes × Bool)
  | [] => []
  | b :: rest =>
    if b = 10 then ([], true) :: split rest
    else
      match split rest with
      | [] => [([b], false)]
      | (line, ended) :: lines => (b :: line, ended) :: lines

/-- A line without the carriage return before its line feed. -/
def dropReturn : Bytes → Bytes
  | [] => []
  | [b] => if b = 13 then [] else [b]
  | b :: rest => b :: dropReturn rest

/-- The text of a line. -/
def text (line : Bytes × Bool) : Except InputError String :=
  let (bytes, ended) := line
  (Text.Utf8.decode (if ended then dropReturn bytes else bytes)).mapError fun _ => .notText

/-- The lines of an input. -/
def lines (input : Bytes) : List (Except InputError String) :=
  (split input).map text

end RemoteConsole.CommandLine.Input
