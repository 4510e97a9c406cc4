import Opcodes.Definition.Columns
import Opcodes.Definition.Record
import Opcodes.Text.Lines
/-!
# Rows of a definition table

A line of a definition table that starts with the marker and `(` is a row. A row is retained as
a record, or dropped: a row whose result is the vector type, and a row with a prefix, do not
belong to the one-byte table. A row that keeps the vector type as an operand is an error. Lines
without the marker are not rows.

## Main definitions

* `Opcodes.Row.parse` — the row on one line, if it is a record line.
* `Opcodes.Row.readAll` — the rows of a list of lines, numbered from one.
* `Opcodes.Row.records` — the retained records of a list of rows.
-/

namespace Opcodes

/-- Why a well-formed row is left out of the table. -/
inductive DropReason where
  /-- The result has the vector type. -/
  | vectorResult
  /-- The row has this nonzero prefix byte. -/
  | prefixed (lead : UInt8)
deriving DecidableEq, Repr

/-- A row of a definition table. -/
inductive Row where
  | retained (record : Record)
  | dropped (text : String) (code : UInt8) (reason : DropReason)
deriving DecidableEq, Repr

/-- The operand type of a column: none for void, and no operand type at all for the vector
type. -/
def ColumnType.operand? : ColumnType → Option (Option ValueType)
  | .void => some none
  | .value t => some (some t)
  | .vector => none

namespace Row

/-- The text after `marker(` on a record line, or none if the line is no record line. -/
def args? (marker line : String) : Option (List Char) :=
  let head := marker.toList ++ ['(']
  if head.isPrefixOf line.toList then some (line.toList.drop head.length) else none

/-- The row that the columns of the record line `line` stand for. -/
def ofColumns (line : Nat) (c : Columns) : Except Error Row :=
  if c.result = .vector then .ok (.dropped c.text c.code .vectorResult)
  else if c.leadByte ≠ 0 then .ok (.dropped c.text c.code (.prefixed c.leadByte))
  else
    match c.operand1.operand?, c.operand2.operand?, c.operand3.operand? with
    | some operand1, some operand2, some operand3 =>
      .ok (.retained
        { result := c.result.valueType?
          operand1 := operand1
          operand2 := operand2
          operand3 := operand3
          memory := c.memory
          lead := .absent
          code := c.code
          name := c.name
          text := c.text
          line := line })
    | _, _, _ => .error (.unsupportedOperand line c.text)

/-- The row on the line numbered `lineNo`, or none if the line does not start with the marker
and `(`. -/
def parse (marker : String) (lineNo : Nat) (line : String) : Except Error (Option Row) :=
  match args? marker line with
  | none => .ok none
  | some args =>
    match Columns.read args with
    | .error m => .error (.malformed lineNo m)
    | .ok c => (ofColumns lineNo c).map some

/-- The rows of `lines`, the first numbered `lineNo`; the first faulty line stops the reading. -/
def readFrom (marker : String) (lineNo : Nat) : List String → Except Error (List Row)
  | [] => .ok []
  | l :: ls => do
    let row ← parse marker lineNo l
    let rows ← readFrom marker (lineNo + 1) ls
    pure (row.toList ++ rows)

/-- The rows of `lines`, numbered from one. -/
def readAll (marker : String) (lines : List String) : Except Error (List Row) :=
  readFrom marker 1 lines

/-- The record of a retained row. -/
def record? : Row → Option Record
  | retained r => some r
  | dropped .. => none

/-- The retained records of `rows`, in order. -/
def records (rows : List Row) : List Record :=
  rows.filterMap record?

end Row

end Opcodes
