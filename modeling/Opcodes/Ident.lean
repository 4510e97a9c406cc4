/-!
# Identifiers of the generated module

Each mnemonic gives the name of its opcode constant: quotes are dropped, `.` and `/` become `_`,
and ASCII letters are put in upper case, so `i32.trunc_s/f32` becomes `I32_TRUNC_S_F32`. The
metadata constant of an instruction has that name followed by `_OP`. A name can be used only if
it is an upper-case constant name; the fixed preamble of the module already uses five names.

## Main definitions

* `Opcodes.Ident.canonical` — the constant name of a mnemonic.
* `Opcodes.Ident.metadata` — the name of its metadata constant.
* `Opcodes.Ident.isEmittable` — whether a name can be used as a constant name.
* `Opcodes.Ident.reserved` — the names of the preamble.
-/

namespace Opcodes.Ident

/-- The character of the constant name that stands for a character of a mnemonic, if any. -/
def canonicalChar (c : Char) : Option Char :=
  if c = '"' ∨ c = '\'' then none
  else if c = '.' ∨ c = '/' then some '_'
  else some c.toUpper

/-- The constant name of a mnemonic. -/
def canonical (text : String) : String :=
  String.ofList (text.toList.filterMap canonicalChar)

/-- The name of the metadata constant of the constant `ident`. -/
def metadata (ident : String) : String :=
  ident ++ "_OP"

/-- Whether a character may follow the first one of a constant name. -/
def isNameChar (c : Char) : Bool :=
  c.isUpper || c.isDigit || c == '_'

/-- Whether `ident` can be used as a constant name: an ASCII capital or `_`, then capitals,
digits and `_`, and not `_` alone. -/
def isEmittable (ident : String) : Bool :=
  match ident.toList with
  | [] => false
  | ['_'] => false
  | c :: rest => (c.isUpper || c == '_') && rest.all isNameChar

/-- The names that the preamble of the generated module defines. -/
def reserved : List String :=
  ["___", "I32", "I64", "F32", "F64"]

example : canonical "i32.trunc_s/f32" = "I32_TRUNC_S_F32" := by decide
example : canonical "\"nop'" = "NOP" := by decide
example : isEmittable "_PRIVATE" ∧ !isEmittable "_" ∧ !isEmittable "32BIT" := by decide

end Opcodes.Ident
