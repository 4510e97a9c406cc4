import Opcodes.Text.Hex
import Opcodes.Text.Printable
import Opcodes.Text.Extender
/-!
# Quoted literals

A text is quoted by putting it between double quotes and escaping what could not stand for
itself there: the NUL, tab, carriage return and line feed get a backslash and a letter (`\0`,
`\t`, `\r`, `\n`), the backslash and the double quote get a backslash in front, and every grapheme
extender or character that is not printable becomes a code point escape `\u{…}` in lowercase
hexadecimal without leading zeros. All other characters, the single quote among them, stand for
themselves. Error texts and the generated source write mnemonics in this form.

## Main definitions

* `Opcodes.Text.escapeChar` — the written form of one character.
* `Opcodes.Text.quote` — the quoted literal of a text.
-/

namespace Opcodes.Text

/-- The code point escape of `c`: a backslash, `u`, and the hexadecimal code point in braces. -/
def codePointEscape (c : Char) : List Char :=
  '\\' :: 'u' :: '{' :: hexDigits c.toNat ++ ['}']

/-- How `c` is written inside a quoted literal. -/
def escapeChar (c : Char) : List Char :=
  match c with
  | '\x00' => ['\\', '0']
  | '\t' => ['\\', 't']
  | '\r' => ['\\', 'r']
  | '\n' => ['\\', 'n']
  | '\\' => ['\\', '\\']
  | '"' => ['\\', '"']
  | c => if isExtender c || !isPrintable c then codePointEscape c else [c]

/-- The quoted literal of `s`. -/
def quote (s : String) : String :=
  String.ofList ('"' :: s.toList.flatMap escapeChar ++ ['"'])

example : quote "s\"q" = "\"s\\\"q\"" := by decide +kernel
example : quote "del\x7fx" = "\"del\\u\x7b7f\x7dx\"" := by decide +kernel
example : quote "it's" = "\"it's\"" := by decide +kernel

end Opcodes.Text
