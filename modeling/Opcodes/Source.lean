import Opcodes.Compiled
import Opcodes.Text.Quote
/-!
# The generated source module

A compiled table is written as a Rust module: a banner, a fixed preamble that defines the value
types, the instruction type and the five type constants, then one opcode constant per
instruction, one metadata constant per instruction, and a decoder that maps an opcode to its
metadata constant. Constant names are padded to a column of 24 characters, decoder patterns to
20; a longer name is never cut.

## Main definitions

* `Opcodes.Source.render` — the module of a table.
* `Opcodes.Source.ofText` — the module of a definition text.
-/

namespace Opcodes.Source

/-- `s` followed by spaces up to `width` characters. -/
def padRight (s : String) (width : Nat) : String :=
  s ++ String.ofList (List.replicate (width - s.length) ' ')

/-- The banner that opens the module. -/
def banner : String :=
  "// GENERATED CODE - DO NOT EDIT\n// Generated by opgen from an opcode definition table.\n\n"

/-- The lines of the preamble. -/
def preambleLines : List String :=
  [ "#[derive(Debug, Clone, Copy, PartialEq, Eq)]",
    "pub enum ValueType \x7b",
    "    I32,",
    "    I64,",
    "    F32,",
    "    F64,",
    "\x7d",
    "",
    "#[derive(Debug)]",
    "pub struct Op \x7b",
    "    pub tr: Option<ValueType>,",
    "    pub t1: Option<ValueType>,",
    "    pub t2: Option<ValueType>,",
    "    pub m: u8,",
    "    pub code: u8,",
    "    pub text: &\x27static str,",
    "\x7d",
    "",
    "pub const ___: Option<ValueType> = None;",
    "pub const I32: Option<ValueType> = Some(ValueType::I32);",
    "pub const I64: Option<ValueType> = Some(ValueType::I64);",
    "pub const F32: Option<ValueType> = Some(ValueType::F32);",
    "pub const F64: Option<ValueType> = Some(ValueType::F64);",
    "",
    "impl Op \x7b",
    "    pub fn is_unop(&self) -> bool \x7b",
    "        self.t1.is_some() && self.t2.is_none()",
    "    \x7d",
    "",
    "    pub fn is_binop(&self) -> bool \x7b",
    "        self.t1.is_some() && self.t2.is_some()",
    "    \x7d",
    "\x7d",
    "" ]

/-- The preamble: value types, the instruction type and the type constants. -/
def preamble : String :=
  String.join (preambleLines.map (· ++ "\n"))

/-- The constant that stands for a type column. -/
def typeExpr : Option ValueType → String
  | some t => t.name
  | none => "___"

/-- The literal of an instruction's metadata. -/
def instrLiteral (i : Instr) : String :=
  "Op \x7b tr: " ++ typeExpr i.result ++ ", t1: " ++ typeExpr i.operand1 ++ ", t2: " ++
    typeExpr i.operand2 ++ ", m: " ++ toString i.memory.toNat ++ ", code: " ++
    Text.byteLiteral i.code ++ ", text: " ++ Text.quote i.text ++ " \x7d"

/-- The line of an opcode constant. -/
def opcodeLine (c : String × UInt8) : String :=
  "pub const " ++ padRight c.1 24 ++ ": u8 = " ++ Text.byteLiteral c.2 ++ ";\n"

/-- The line of a metadata constant. -/
def metadataLine (c : String × Instr) : String :=
  "pub const " ++ padRight c.1 24 ++ ": Op = " ++ instrLiteral c.2 ++ ";\n"

/-- The decoder arm of an entry. -/
def decoderArm (e : Table.Entry) : String :=
  "            " ++ padRight e.ident 20 ++ " => Some(&" ++ e.metadataIdent ++ "),\n"

/-- The decoder: one arm per instruction, then the arm for all other bytes. -/
def decoder (t : Table) : String :=
  "impl Op \x7b\n    pub fn from_opcode(opc: u8) -> Option<&\x27static Op> \x7b\n" ++
    "        match opc \x7b\n" ++ String.join (t.entries.toList.map decoderArm) ++
    "            " ++ padRight "_" 20 ++ " => None,\n" ++ "        \x7d\n    \x7d\n\x7d\n"

/-- The module of a table. -/
def render (t : Table) : String :=
  banner ++ preamble ++ String.join (t.opcodeConstants.map opcodeLine) ++ "\n\n" ++
    String.join (t.metadataConstants.map metadataLine) ++ "\n" ++ decoder t

/-- The module of the definition text `text`, whose record lines start with `marker`. -/
def ofText (text marker : String) : Except Error String :=
  (Compiled.ofText text marker).map fun c => render c.table

end Opcodes.Source
