/-!
# Value types and type columns

The four value types that an interpreter of the instructions knows, and the contents of a type
column of a definition table: one of the value types, the void marker `___`, or the 128-bit
vector type, which the table does not support.

## Main definitions

* `Opcodes.ValueType`, `Opcodes.ValueType.name` — the value types and their spelling.
* `Opcodes.ColumnType`, `Opcodes.ColumnType.ofString?` — a type column and how it is read.
-/

namespace Opcodes

/-- A value type of the instructions: 32- and 64-bit integers and floats. -/
inductive ValueType where
  | i32
  | i64
  | f32
  | f64
deriving DecidableEq, Repr

/-- The spelling of a value type in a definition table and in generated source. -/
def ValueType.name : ValueType → String
  | .i32 => "I32"
  | .i64 => "I64"
  | .f32 => "F32"
  | .f64 => "F64"

/-- The contents of a type column. -/
inductive ColumnType where
  /-- `___`: no value. -/
  | void
  /-- A value type. -/
  | value (t : ValueType)
  /-- `V128`: the 128-bit vector type. -/
  | vector
deriving DecidableEq, Repr

namespace ColumnType

/-- The type column spelt exactly `s`, with no blanks around it. -/
def ofString? : String → Option ColumnType
  | "___" => some void
  | "I32" => some (value .i32)
  | "I64" => some (value .i64)
  | "F32" => some (value .f32)
  | "F64" => some (value .f64)
  | "V128" => some vector
  | _ => none

/-- The value type of a column, if it holds one. -/
def valueType? : ColumnType → Option ValueType
  | value t => some t
  | void | vector => none

example : ofString? "i32" = none ∧ ofString? " I32" = none := by decide

end ColumnType

end Opcodes
