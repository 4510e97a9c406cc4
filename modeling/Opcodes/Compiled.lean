import Opcodes.Definition.Row
import Opcodes.Table.Compile
import Opcodes.Text.Lines
/-!
# Compiled definition texts

A definition text is read line by line into rows; the retained records are compiled into a
table. The summary counts the record lines, the retained records, and the rows dropped for a
vector result and for a prefix.

## Main definitions

* `Opcodes.Summary`, `Opcodes.Summary.ofRows`.
* `Opcodes.Compiled`, `Opcodes.Compiled.ofText` — the table and summary of a definition text.
-/

namespace Opcodes

/-- The counts of a compiled definition text. -/
structure Summary where
  /-- The record lines. -/
  rows : Nat
  /-- The retained records. -/
  retained : Nat
  /-- The rows dropped for a vector result. -/
  droppedVector : Nat
  /-- The rows dropped for a prefix. -/
  droppedPrefixed : Nat
deriving DecidableEq, Repr

namespace Row

/-- Whether a row is dropped for its vector result. -/
def isVectorResult : Row → Bool
  | dropped _ _ .vectorResult => true
  | _ => false

/-- Whether a row is dropped for its prefix. -/
def isPrefixed : Row → Bool
  | dropped _ _ (.prefixed _) => true
  | _ => false

end Row

/-- The counts of a list of rows. -/
def Summary.ofRows (rows : List Row) : Summary where
  rows := rows.length
  retained := (Row.records rows).length
  droppedVector := rows.countP Row.isVectorResult
  droppedPrefixed := rows.countP Row.isPrefixed

/-- A compiled definition text. -/
structure Compiled where
  summary : Summary
  table : Table

/-- The compiled definition text `text`, whose record lines start with `marker`. -/
def Compiled.ofText (text marker : String) : Except Error Compiled := do
  let rows ← Row.readAll marker (Text.lines text)
  let table ← Table.compile (Row.records rows)
  pure { summary := Summary.ofRows rows, table }

end Opcodes
