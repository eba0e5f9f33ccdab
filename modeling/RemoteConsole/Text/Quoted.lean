import RemoteConsole.Text.CodePoints

/-!
# Quoted texts

How an error message shows a text or bytes that came from a server. A text stands in double quotes;
quotes, backslashes and four control characters have an escape of their own, and every other
character that would not show as itself is written by its number.
-/

namespace RemoteConsole.Text

/-- The digits of a number in base sixteen, in lower case. -/
def hexDigits (n : Nat) : List Char :=
  Nat.toDigits 16 n

/-- One character as it is written between double quotes. -/
def quoteChar (c : Char) : List Char :=
  match c with
  | '\x00' => ['\\', '0']
  | '\t' => ['\\', 't']
  | '\n' => ['\\', 'n']
  | '\r' => ['\\', 'r']
  | '"' => ['\\', '"']
  | '\\' => ['\\', '\\']
  | c =>
    if graphemeExtend.contains c || unprintable.contains c then
      ['\\', 'u', '\x7b'] ++ hexDigits c.toNat ++ ['\x7d']
    else [c]

/-- A text in double quotes. -/
def quote (s : String) : String :=
  String.ofList ('"' :: s.toList.flatMap quoteChar ++ ['"'])

/-- A byte as two hexadecimal digits, in upper case. -/
def hexByte (b : UInt8) : String :=
  String.ofList ((if b.toNat < 16 then ['0'] else []) ++ (hexDigits b.toNat).map Char.toUpper)

/-- Bytes as a bracketed list of upper-case hexadecimal numbers. -/
def hexList (bytes : List UInt8) : String :=
  "[" ++ ", ".intercalate (bytes.map hexByte) ++ "]"

end RemoteConsole.Text
