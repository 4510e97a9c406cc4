import Opcodes.Text.Ranges
import Opcodes.Text.Blank
import Opcodes.Text.Printable
import Opcodes.Text.Extender
import Opcodes.Text.Hex
import Opcodes.Text.Quote
import Opcodes.Text.Lines
import Opcodes.Text.Numeral
import Opcodes.Definition.ValueType
import Opcodes.Definition.Record
import Opcodes.Definition.Columns
import Opcodes.Definition.Row
import Opcodes.Error
import Opcodes.Ident
import Opcodes.Instr
import Opcodes.Table.Basic
import Opcodes.Table.Compile
import Opcodes.Compiled
import Opcodes.Source
import Opcodes.Workspace.Path
import Opcodes.Workspace.Tree
import Opcodes.Workspace.Basic
import Opcodes.Run
import Opcodes.Cli
import Opcodes.Main
import Opcodes.Proofs.Compilation
import Opcodes.Proofs.CompiledTable
import Opcodes.Proofs.Digits
import Opcodes.Proofs.SourceLexer
import Opcodes.Proofs.SourceItems
import Opcodes.Proofs.SourceDecoder
import Opcodes.Proofs.RecordColumns
import Opcodes.Proofs.RecordLine
import Opcodes.Proofs.CompiledText
import Opcodes.Proofs.LineEnds
import Opcodes.Proofs.Replacement
import Opcodes.Proofs.ByteNumerals
import Opcodes.Proofs.ConstantNames
