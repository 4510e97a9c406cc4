import Opcodes.Text.Quote
/-!
# Errors

Every way a run can fail, as a cause: a malformed record line (with the reason), a record that
uses the vector type as an operand, two names of the generated module that coincide, two records
that claim one opcode, and a file that cannot be read or written. The texts of the errors are
made in one place, `Opcodes.Error.message`.

## Main definitions

* `Opcodes.Malformation` — why a record line is malformed, and `Opcodes.Malformation.reason`.
* `Opcodes.IoFailure` — why a file operation failed, and its system text.
* `Opcodes.Owner` — who defines a name of the generated module.
* `Opcodes.Error`, `Opcodes.Error.message`.
-/

namespace Opcodes

/-- The byte columns of a record line. -/
inductive ByteColumn where
  | memoryFlag
  | prefixByte
  | opcode
deriving DecidableEq, Repr

/-- How error texts name a byte column. -/
def ByteColumn.label : ByteColumn → String
  | .memoryFlag => "memory flag"
  | .prefixByte => "prefix"
  | .opcode => "opcode"

/-- Why a record line is malformed. -/
inductive Malformation where
  /-- No `)` closes the record. -/
  | unclosed
  /-- Something other than blanks or a `//` comment follows the closing `)`. -/
  | trailingText (text : String)
  /-- Fewer than eight fields. -/
  | tooFewFields (count : Nat)
  /-- More than nine fields. -/
  | tooManyFields (count : Nat)
  /-- A type column holds no known type. -/
  | unknownType (field : String)
  /-- A byte column holds no numeral of a byte. -/
  | badByte (column : ByteColumn) (field : String)
  /-- The identifier column holds no ASCII identifier. -/
  | badIdentifier (field : String)
  /-- The mnemonic is the empty quoted string. -/
  | emptyMnemonic
  /-- The mnemonic column is not a quoted string. -/
  | unquotedMnemonic (field : String)
  /-- The mnemonic does not give a name that the generated module can use. -/
  | unnamable (text : String)
deriving DecidableEq, Repr

/-- The text of a malformation. -/
def Malformation.reason : Malformation → String
  | .unclosed => "missing closing parenthesis"
  | .trailingText t => "unexpected text after record: `" ++ t ++ "`"
  | .tooFewFields n => "expected at least 8 fields, found " ++ toString n
  | .tooManyFields n => "expected at most 9 fields, found " ++ toString n
  | .unknownType f => "unknown value type `" ++ f ++ "`"
  | .badByte c f => "invalid " ++ c.label ++ " `" ++ f ++ "`, expected 0..=255"
  | .badIdentifier f => "invalid identifier column `" ++ f ++ "`"
  | .emptyMnemonic => "empty mnemonic"
  | .unquotedMnemonic f => "mnemonic `" ++ f ++ "` is not a quoted string"
  | .unnamable t => "mnemonic " ++ Text.quote t ++ " does not form a valid identifier"

/-- Why a file operation failed. -/
inductive IoFailure where
  /-- The path, or a directory on it, does not exist. -/
  | notFound
  /-- The path names a directory where a file is needed. -/
  | isDirectory
  /-- A file stands where the path needs a directory. -/
  | notDirectory
  /-- The path names the directory itself, which cannot be replaced. -/
  | busy
  /-- Something already stands where a directory is to be made. -/
  | alreadyExists
  /-- The path, or a name on it, is longer than the system allows. -/
  | nameTooLong
  /-- The path holds a NUL character, which no system path can hold. -/
  | nulByte
  /-- Any other failure, with the system's error number and description. -/
  | other (code : Nat) (description : String)
deriving DecidableEq, Repr

/-- The system's text for a failure, with its error number. -/
def IoFailure.message : IoFailure → String
  | .notFound => "No such file or directory (os error 2)"
  | .isDirectory => "Is a directory (os error 21)"
  | .notDirectory => "Not a directory (os error 20)"
  | .busy => "Device or resource busy (os error 16)"
  | .alreadyExists => "File exists (os error 17)"
  | .nameTooLong => "File name too long (os error 36)"
  | .nulByte => "file name contained an unexpected NUL byte"
  | .other code description => description ++ " (os error " ++ toString code ++ ")"

/-- Who defines a name of the generated module: its fixed preamble, or the record with this
mnemonic. -/
inductive Owner where
  | preamble
  | record (text : String)
deriving DecidableEq, Repr

/-- How error texts name an owner. -/
def Owner.describe : Owner → String
  | .preamble => "<preamble>"
  | .record t => t

/-- Why a run failed. -/
inductive Error where
  /-- The record line `line` is malformed. -/
  | malformed (line : Nat) (reason : Malformation)
  /-- The record `text` on line `line` has a vector operand. -/
  | unsupportedOperand (line : Nat) (text : String)
  /-- The name `ident`, already defined by `first`, is derived again from the mnemonic `second`. -/
  | nameCollision (ident : String) (first : Owner) (second : String)
  /-- The opcode `code` is claimed by the mnemonics `first` and `second`. -/
  | duplicateOpcode (code : UInt8) (first second : String)
  /-- The file `path` cannot be read or written. -/
  | resource (path : String) (failure : IoFailure)
deriving DecidableEq, Repr

/-- The text of an error. -/
def Error.message : Error → String
  | .malformed line r => "malformed record on line " ++ toString line ++ ": " ++ r.reason
  | .unsupportedOperand line text =>
    "record " ++ Text.quote text ++ " on line " ++ toString line ++
      " uses the unsupported V128 operand type"
  | .nameCollision ident first second =>
    "mnemonics " ++ Text.quote first.describe ++ " and " ++ Text.quote second ++
      " both map to identifier " ++ ident
  | .duplicateOpcode code first second =>
    "opcode " ++ Text.byteLiteral code ++ " is claimed by both " ++ Text.quote first ++ " and " ++
      Text.quote second
  | .resource path failure => path ++ ": " ++ failure.message

end Opcodes
