import Opcodes.Definition.ValueType
import Opcodes.Error
import Opcodes.Text.Blank
import Opcodes.Text.Numeral
/-!
# The columns of a record line

A record line is `MARKER(result, operand1, operand2, operand3, memory, prefix, opcode[, Name],
"mnemonic")`, optionally followed by blanks and a `//` comment. This module reads the text after
`MARKER(` into its columns, or names the first fault it meets. Faults are found in the order a
reader meets them: the closing parenthesis and what follows it, the number of columns, then the
columns from left to right.

## Main definitions

* `Opcodes.Columns` — the columns of a record line, read but not yet classified.
* `Opcodes.Columns.splitClose?` — the body of a record and the text after its last `)`.
* `Opcodes.Columns.ofFieldList` — the columns of the fields of a body.
* `Opcodes.Columns.read` — the columns of the text after `MARKER(`.
-/

namespace Opcodes

/-- The columns of a record line. -/
structure Columns where
  result : ColumnType
  operand1 : ColumnType
  operand2 : ColumnType
  operand3 : ColumnType
  memory : UInt8
  leadByte : UInt8
  code : UInt8
  name : Option String
  text : String
deriving DecidableEq, Repr

namespace Columns

/-- The text before the last `)` and the text after it, or none if there is no `)`. -/
def splitClose? (cs : List Char) : Option (List Char × List Char) :=
  match cs.reverse.span (· != ')') with
  | (after, _ :: body) => some (body.reverse, after.reverse)
  | (_, []) => none

/-- Whether text after the closing parenthesis may stand there: only blanks, then nothing or a
`//` comment. -/
def Trailing.allowed (cs : List Char) : Bool :=
  match Text.trimChars cs with
  | [] => true
  | '/' :: '/' :: _ => true
  | _ => false

/-- The body of a record: the text before its last `)`, provided only blanks and a comment
follow it. -/
def body (args : List Char) : Except Malformation (List Char) :=
  match splitClose? args with
  | none => .error .unclosed
  | some (inner, after) =>
    if Trailing.allowed after then .ok inner
    else .error (.trailingText (String.ofList (Text.trimChars after)))

/-- The fields of a body: the text between commas, without blanks around it. -/
def fields (inner : List Char) : List String :=
  (inner.splitOn ',').map fun f => String.ofList (Text.trimChars f)

/-- A type column. -/
def typeColumn (f : String) : Except Malformation ColumnType :=
  match ColumnType.ofString? f with
  | some t => .ok t
  | none => .error (.unknownType f)

/-- A byte column: a decimal or `0x` hexadecimal numeral of a byte. -/
def byteColumn (column : ByteColumn) (f : String) : Except Malformation UInt8 :=
  match Text.byteValue? f with
  | some b => .ok b
  | none => .error (.badByte column f)

/-- Whether a text is an ASCII identifier: a letter or `_`, then letters, digits and `_`. -/
def isIdentifier (cs : List Char) : Bool :=
  match cs with
  | [] => false
  | c :: rest =>
    (c.isAlpha || c == '_') && rest.all fun d => d.isAlphanum || d == '_'

/-- The identifier column of the nine-column layout. -/
def nameColumn (f : String) : Except Malformation String :=
  if isIdentifier f.toList then .ok f else .error (.badIdentifier f)

/-- The text between the quotes of a quoted string of at least two characters. -/
def unquote? (cs : List Char) : Option (List Char) :=
  match cs with
  | '"' :: rest => if rest.getLast? = some '"' then some rest.dropLast else none
  | _ => none

/-- The mnemonic column: a quoted string with something between the quotes. -/
def textColumn (f : String) : Except Malformation String :=
  match unquote? f.toList with
  | some [] => .error .emptyMnemonic
  | some inner => .ok (String.ofList inner)
  | none => .error (.unquotedMnemonic f)

/-- The columns from their fields, read from left to right; the identifier column is present in
the nine-column layout only. -/
def ofFields (r a b c m p o : String) (n : Option String) (t : String) :
    Except Malformation Columns := do
  let result ← typeColumn r
  let operand1 ← typeColumn a
  let operand2 ← typeColumn b
  let operand3 ← typeColumn c
  let memory ← byteColumn .memoryFlag m
  let leadByte ← byteColumn .prefixByte p
  let code ← byteColumn .opcode o
  let name ← match n with
    | some f => (nameColumn f).map some
    | none => pure none
  let text ← textColumn t
  pure { result, operand1, operand2, operand3, memory, leadByte, code, name, text }

/-- The columns of the fields of a body: eight fields, or nine with the identifier column. -/
def ofFieldList : List String → Except Malformation Columns
  | [r, a, b, c, m, p, o, t] => ofFields r a b c m p o none t
  | [r, a, b, c, m, p, o, n, t] => ofFields r a b c m p o (some n) t
  | fs =>
    if fs.length < 8 then .error (.tooFewFields fs.length)
    else .error (.tooManyFields fs.length)

/-- The columns of the text after `MARKER(`. -/
def read (args : List Char) : Except Malformation Columns := do
  let inner ← body args
  ofFieldList (fields inner)

example : splitClose? "a)b)c".toList = some ("a)b".toList, "c".toList) := by decide
example : splitClose? "abc".toList = none := by decide
example : unquote? "\"\"".toList = some [] ∧ unquote? "\"".toList = none := by decide

end Columns

end Opcodes
