import RemoteConsole.Text.Blank
import RemoteConsole.Text.Search

/-!
# Parsers

A parser turns a line of a server's output into a value, if the line is one it understands. Some
parsers are data, built from a test and an extraction, so that a rehearsal can be written down.
-/

namespace RemoteConsole

/-- A test on lines and a way to read a value from a line. -/
structure Parser (α : Type) where
  /-- Whether the line is one of the lines to read. -/
  isMatch : String → Bool
  /-- The value of the line, matching or not. -/
  parse : String → Option α

/-- The value of a line that matches. -/
def Parser.tryParse {α : Type} (p : Parser α) (line : String) : Option α :=
  if p.isMatch line then p.parse line else none

/-- A test on lines. -/
inductive Pattern where
  /-- Every line. -/
  | always
  /-- No line. -/
  | never
  /-- The lines in which a text occurs. -/
  | contains (needle : String)
  /-- The lines that start with a text. -/
  | startsWith (start : String)
deriving Repr, DecidableEq

/-- Whether a line passes the test. -/
def Pattern.test : Pattern → String → Bool
  | always, _ => true
  | never, _ => false
  | contains needle, line => Text.contains line needle
  | startsWith start, line => Text.startsWith line start

/-- A way to read a text from a line. -/
inductive Extraction where
  /-- Nothing. -/
  | nothing
  /-- The line itself. -/
  | whole
  /-- What follows a text at the start of the line, trimmed. -/
  | after (start : String)
  /-- What comes before the first occurrence of a text, or the whole line. -/
  | before (needle : String)
deriving Repr, DecidableEq

/-- What is read from a line. -/
def Extraction.read : Extraction → String → Option String
  | nothing, _ => none
  | whole, line => some line
  | after start, line => (Text.after? line start).map Text.trim
  | before needle, line => some (Text.before line needle)

/-- A parser of texts that is data. -/
structure LineParser where
  /-- The lines to read. -/
  pattern : Pattern
  /-- What to read from them. -/
  extraction : Extraction
deriving Repr, DecidableEq

/-- The parser that the data stand for. -/
def LineParser.toParser (p : LineParser) : Parser String where
  isMatch := p.pattern.test
  parse := p.extraction.read

end RemoteConsole
