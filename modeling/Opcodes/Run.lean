import Opcodes.Source
import Opcodes.Workspace.Basic
/-!
# Generation runs

A run reads the definition file, compiles it, renders the module and, unless it only checks,
replaces the output file with the module. The output is replaced through its temporary sibling:
the module is written there and then renamed over the output, so the output either keeps its old
contents or holds the whole module. If the rename fails, the temporary file is removed; whether
that removal succeeds is not reported.

A run is written once against the file operations it uses (`Opcodes.FileOps`): reading, writing,
renaming and removing files of some file system. A workspace of directory trees is one such file
system.

## Main definitions

* `Opcodes.Config` — where a run reads and writes, and what it does.
* `Opcodes.FileOps`, `Opcodes.FileOps.replace` — the file operations of a run, and the
  replacement of a file through its temporary sibling.
* `Opcodes.Config.runWith` — a run with given file operations.
* `Opcodes.Workspace.fileOps`, `Opcodes.Config.run` — the file operations of a workspace, and a
  run on a workspace.
-/

namespace Opcodes

/-- The settings of a run. -/
structure Config where
  /-- The definition file. -/
  input : String := "wabt_opcode.def"
  /-- The file that receives the module. -/
  output : String := "src/parser/opcode.rs"
  /-- The marker of record lines. -/
  marker : String := "WABT_OPCODE"
  /-- Whether to stop after compiling, writing nothing. -/
  checkOnly : Bool := false
deriving DecidableEq, Repr

/-- The file operations of a run on the states `σ` of a file system, each of which may fail with
the system's cause. A write gives the state it leaves also when it fails, since it may fail after
creating or emptying its file. -/
structure FileOps (σ : Type) where
  /-- The contents of the file at a path. -/
  read : σ → String → Except IoFailure String
  /-- Write a file, creating it or replacing its contents. -/
  write : σ → String → String → σ × Except IoFailure Unit
  /-- Move the file at the first path to the second, replacing a file there. -/
  rename : σ → String → String → Except IoFailure σ
  /-- Remove the file at a path. -/
  remove : σ → String → Except IoFailure σ

/-- Replace the file at `p` with `contents`: write the temporary sibling, then rename it over
`p`. If the rename fails, remove the temporary file, and keep the state as it is if that fails
too. -/
def FileOps.replace {σ : Type} (fs : FileOps σ) (s : σ) (p contents : String) :
    σ × Except Error Unit :=
  let tmp := Path.tempSibling p
  match fs.write s tmp contents with
  | (written, .error e) => (written, .error (.resource tmp e))
  | (written, .ok ()) =>
    match fs.rename written tmp p with
    | .ok moved => (moved, .ok ())
    | .error e =>
      match fs.remove written tmp with
      | .ok cleaned => (cleaned, .error (.resource p e))
      | .error _ => (written, .error (.resource p e))

/-- A run with the file operations `fs` from the state `s`: the state afterwards, and the summary
or the error. -/
def Config.runWith {σ : Type} (c : Config) (fs : FileOps σ) (s : σ) : σ × Except Error Summary :=
  match fs.read s c.input with
  | .error e => (s, .error (.resource c.input e))
  | .ok text =>
    match Compiled.ofText text c.marker with
    | .error e => (s, .error e)
    | .ok compiled =>
      if c.checkOnly then (s, .ok compiled.summary)
      else
        let (s', result) := fs.replace s c.output (Source.render compiled.table)
        (s', result.map fun _ => compiled.summary)

/-- The file operations of a workspace, where a write fails without effect and a removal that
fails leaves the workspace as it is. -/
def Workspace.fileOps : FileOps Workspace where
  read := Workspace.read
  write w p contents :=
    match w.write p contents with
    | .ok written => (written, .ok ())
    | .error e => (w, .error e)
  rename := Workspace.rename
  remove w p := .ok (w.remove p)

/-- A run on the workspace `w`: the workspace afterwards, and the summary or the error. -/
def Config.run (c : Config) (w : Workspace) : Workspace × Except Error Summary :=
  c.runWith Workspace.fileOps w

end Opcodes
