/-!
# Searching a text

The first occurrence of one text in another, and the questions that hang on it. The empty text
occurs at the start of every text.
-/

namespace RemoteConsole.Text

/-- What stands before and after the first occurrence of `needle`, if it occurs. -/
def splitFirst (needle : List Char) : List Char → Option (List Char × List Char)
  | [] => if needle.isEmpty then some ([], []) else none
  | c :: cs =>
    if needle.isPrefixOf (c :: cs) then some ([], (c :: cs).drop needle.length)
    else (splitFirst needle cs).map fun (before, after) => (c :: before, after)

/-- Whether `needle` occurs in the text. -/
def contains (s needle : String) : Bool :=
  (splitFirst needle.toList s.toList).isSome

theorem splitFirst_isSome {needle cs : List Char} :
    (splitFirst needle cs).isSome = true ↔ needle <:+: cs := by
  induction cs with
  | nil => simp [splitFirst]
  | cons c cs ih =>
    rw [splitFirst, List.infix_cons_iff, ← ih]
    split
    · rename_i hprefix
      simp [List.isPrefixOf_iff_prefix.mp hprefix]
    · rename_i hprefix
      simp [mt List.isPrefixOf_iff_prefix.mpr hprefix]

theorem contains_iff {s needle : String} :
    contains s needle = true ↔ needle.toList <:+: s.toList :=
  splitFirst_isSome

/-- Whether the text starts with `start`. -/
def startsWith (s start : String) : Bool :=
  start.toList.isPrefixOf s.toList

/-- The text after `start`, if it starts with it. -/
def after? (s start : String) : Option String :=
  if startsWith s start then some (String.ofList (s.toList.drop start.toList.length)) else none

/-- The text before the first occurrence of `needle`, or all of it if there is none. -/
def before (s needle : String) : String :=
  match splitFirst needle.toList s.toList with
  | some (front, _) => String.ofList front
  | none => s

end RemoteConsole.Text
