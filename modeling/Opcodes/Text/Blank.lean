import Opcodes.Text.Ranges
/-!
# Blank characters and trimming

Fields of a definition table are trimmed of blanks at both ends, where a blank is a character
with the Unicode property White_Space: the ASCII tab, line feed, vertical tab, form feed,
carriage return and space, and nineteen characters beyond ASCII such as the no-break space and
the ideographic space. The set is the same in every Unicode version since 4.1.

## Main definitions

* `Opcodes.Text.blankRanges` — the White_Space property as ranges.
* `Opcodes.Text.isBlank` — membership in it.
* `Opcodes.Text.trimChars`, `Opcodes.Text.trim` — removal of blanks at both ends.
-/

namespace Opcodes.Text

/-- The code points with the Unicode property White_Space. -/
def blankRanges : Ranges :=
  [(0x09, 0x0D), (0x20, 0x20), (0x85, 0x85), (0xA0, 0xA0), (0x1680, 0x1680), (0x2000, 0x200A),
   (0x2028, 0x2029), (0x202F, 0x202F), (0x205F, 0x205F), (0x3000, 0x3000)]

example : Ranges.Ascending blankRanges ∧ Ranges.count blankRanges = 25 := by decide

/-- Whether `c` is a blank: a character with the Unicode property White_Space. -/
def isBlank (c : Char) : Bool :=
  blankRanges.contains c.toNat

example : isBlank ' ' = true ∧ isBlank '\t' = true ∧ isBlank '\n' = true ∧ isBlank '\r' = true := by
  decide

example : isBlank '　' = true ∧ isBlank 'a' = false ∧ isBlank '​' = false := by decide

/-- The characters with the blanks at both ends removed. -/
def trimChars (cs : List Char) : List Char :=
  ((cs.dropWhile isBlank).reverse.dropWhile isBlank).reverse

/-- The text with the blanks at both ends removed. -/
def trim (s : String) : String :=
  String.ofList (trimChars s.toList)

example : trim "  x y\t\n" = "x y" := by decide

end Opcodes.Text
