import Opcodes.Definition.ValueType
/-!
# Instruction records

One retained row of a definition table: the result type and up to three operand types (none
where the column is void), the memory flag, the prefix, the opcode byte, the identifier column of
the nine-column layout, the mnemonic, and the line the row stands on.

## Main definitions

* `Opcodes.Prefix` — the prefix column: absent, or a nonzero byte.
* `Opcodes.Record` — an instruction record.
-/

namespace Opcodes

/-- The prefix column: no prefix (written `0`), or a nonzero prefix byte. -/
inductive Prefix where
  | absent
  | byte (b : UInt8) (nonzero : b ≠ 0)
deriving DecidableEq, Repr, Inhabited

namespace Prefix

/-- The prefix a column value stands for: `0` means no prefix. -/
def ofByte (b : UInt8) : Prefix :=
  if h : b = 0 then absent else byte b h

/-- The column value of a prefix. -/
def toByte : Prefix → UInt8
  | absent => 0
  | byte b _ => b

@[simp] theorem toByte_ofByte (b : UInt8) : (ofByte b).toByte = b := by
  unfold ofByte
  split <;> simp_all [toByte]

@[simp] theorem ofByte_toByte (p : Prefix) : ofByte p.toByte = p := by
  cases p with
  | absent => rfl
  | byte b h => simp [toByte, ofByte, h]

end Prefix

/-- A retained row of a definition table. -/
structure Record where
  /-- The result type, or none for void. -/
  result : Option ValueType
  /-- The first operand type. -/
  operand1 : Option ValueType
  /-- The second operand type. -/
  operand2 : Option ValueType
  /-- The third operand type. -/
  operand3 : Option ValueType
  /-- The memory flag. -/
  memory : UInt8
  /-- The prefix; only records without one are retained by the reader. -/
  lead : Prefix
  /-- The opcode byte. -/
  code : UInt8
  /-- The identifier column of the nine-column layout, such as `I32Add`. -/
  name : Option String
  /-- The mnemonic as written, without its quotes. -/
  text : String
  /-- The line of the definition text the record stands on, counted from one. -/
  line : Nat
deriving DecidableEq, Repr, Inhabited

end Opcodes
