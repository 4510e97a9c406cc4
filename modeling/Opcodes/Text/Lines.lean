/-!
# Lines of a text

A text is cut into lines at each line feed. A carriage return right before the line feed belongs
to the line break and is dropped; a carriage return anywhere else stays in its line. A line feed
at the very end closes the last line and starts no new one, so the empty text has no lines and
`"a\n"` has the one line `"a"`.

## Main definitions

* `Opcodes.Text.splitLines` — the lines of a list of characters.
* `Opcodes.Text.lines` — the lines of a text.
-/

namespace Opcodes.Text

/-- A line without the carriage return that ended it, if it had one. -/
def dropReturn (line : List Char) : List Char :=
  match line.getLast? with
  | some '\r' => line.dropLast
  | _ => line

/-- The lines of `cs`, where `current` holds the characters of the line being read, last first. -/
def splitLinesFrom (current : List Char) : List Char → List (List Char)
  | [] => if current.isEmpty then [] else [current.reverse]
  | '\n' :: cs => dropReturn current.reverse :: splitLinesFrom [] cs
  | c :: cs => splitLinesFrom (c :: current) cs

/-- The lines of `cs`. -/
def splitLines (cs : List Char) : List (List Char) :=
  splitLinesFrom [] cs

/-- The lines of the text `s`. -/
def lines (s : String) : List String :=
  (splitLines s.toList).map String.ofList

example : lines "a\r\nb\n\nc\r" = ["a", "b", "", "c\r"] := by decide
example : lines "" = [] ∧ lines "\n" = [""] := by decide

end Opcodes.Text
