import RemoteConsole.CommandLine.Arguments
import RemoteConsole.CommandLine.Program

/-!
# Usage

What the program says about its arguments.
-/

namespace RemoteConsole.CommandLine

/-- How the program is called. -/
def usage : String :=
  s!"USAGE:\n    {Program.name} [OPTIONS] <ADDRESS>\n"

/-- What the program can be told. -/
def helpText : String :=
  String.join [
    s!"{Program.name} {Program.version}\n\n", usage, "\n",
    "ARGS:\n",
    "    <ADDRESS>    Address of the server. The port defaults to 27015\n\n",
    "OPTIONS:\n",
    "    -h, --help               Print help information\n",
    "        --multi-packet       Reassemble responses that are split across several packets\n",
    "        --query <FAMILY>     Print server information (source or minecraft) and exit\n",
    "        --timeout <TIMEOUT>  Seconds to wait for the server before giving up [default: 5]\n",
    "    -V, --version            Print version information\n"]

/-- What is wrong with some arguments. -/
def ArgumentsError.reason : ArgumentsError → String
  | missingRequiredArgument => "The address of the server is missing"
  | unknownArgument => "There is an argument that wasn't expected"
  | valueValidation => "There is an option with an invalid value"
  | emptyValue => "There is an option that lacks its value"
  | tooManyValues => "There is an option with a value that wasn't expected"
  | unexpectedMultipleUsage => "There is an option that is used more than once"
  | displayHelp => "The help is asked for"
  | displayVersion => "The version is asked for"

/-- What the program shows in place of running, and its exit code. -/
def ArgumentsError.turn : ArgumentsError → Turn
  | displayHelp => ⟨[.print helpText], .exit 0⟩
  | displayVersion => ⟨[.print s!"{Program.name} {Program.version}\n"], .exit 0⟩
  | e =>
    let text := s!"error: {e.reason}\n\n{usage}\nFor more information try --help\n"
    ⟨[.complain text], .exit 2⟩

end RemoteConsole.CommandLine
