import Opcodes.Definition.Record
import Opcodes.Text.Hex
/-!
# Instruction metadata

What an interpreter needs to know of an instruction: its result type, the types of its first two
operands, its memory flag, its opcode and its mnemonic. An instruction is unary when it has a
first operand and no second, binary when it has both.

## Main definitions

* `Opcodes.Instr`, `Opcodes.Instr.ofRecord`.
* `Opcodes.Instr.isUnary`, `Opcodes.Instr.isBinary`, `Opcodes.Instr.display`.
-/

namespace Opcodes

/-- The metadata of an instruction. -/
structure Instr where
  result : Option ValueType
  operand1 : Option ValueType
  operand2 : Option ValueType
  memory : UInt8
  code : UInt8
  text : String
deriving DecidableEq, Repr, Inhabited

namespace Instr

/-- The metadata of the instruction a record defines. -/
def ofRecord (r : Record) : Instr where
  result := r.result
  operand1 := r.operand1
  operand2 := r.operand2
  memory := r.memory
  code := r.code
  text := r.text

/-- Whether the instruction takes one operand. -/
def isUnary (i : Instr) : Bool :=
  i.operand1.isSome && i.operand2.isNone

/-- Whether the instruction takes two operands. -/
def isBinary (i : Instr) : Bool :=
  i.operand1.isSome && i.operand2.isSome

/-- The opcode as a two-digit hexadecimal literal, then the mnemonic. -/
def display (i : Instr) : String :=
  Text.byteLiteral i.code ++ " " ++ i.text

@[simp] theorem code_ofRecord (r : Record) : (ofRecord r).code = r.code := rfl

@[simp] theorem text_ofRecord (r : Record) : (ofRecord r).text = r.text := rfl

end Instr

end Opcodes
