/-!
# The end of a response

How the end of a response that spans several packets is recognised.
-/

namespace RemoteConsole

/-- What ends a response of several packets. -/
inductive Terminator where
  /-- The first empty body: the server's echo of the empty packet sent after each command. -/
  | emptyEcho
  /-- A body of exactly this text. Empty bodies before it are part of the response. -/
  | body (text : String)
deriving Repr, DecidableEq, Inhabited

namespace Terminator

/-- The body that some servers send after their echo of an empty packet. -/
def trailer : String := "\x00\x01\x00\x00"

/-- Whether a body ends a response. -/
def endsWith : Terminator → String → Bool
  | emptyEcho, text => text == ""
  | body marker, text => text == marker

/-- Whether a body is no part of any response. Servers that do not repeat ids send the trailer with
an id that would hand it to the next command. -/
def discards : Terminator → String → Bool
  | emptyEcho, text => text == trailer
  | body _, _ => false

/-- The body that ends a response. -/
def marker : Terminator → String
  | emptyEcho => ""
  | body text => text

/-- A response ends with its marker and nothing else. -/
theorem endsWith_iff {t : Terminator} {s : String} : t.endsWith s = true ↔ s = t.marker := by
  cases t <;> simp [endsWith, marker]

/-- What ends a response is never discarded. -/
theorem discards_marker (t : Terminator) : t.discards t.marker = false := by
  cases t with
  | emptyEcho => decide
  | body => rfl

end Terminator

end RemoteConsole
