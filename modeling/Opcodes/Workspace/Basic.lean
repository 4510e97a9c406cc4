import Opcodes.Workspace.Path
import Opcodes.Workspace.Tree
/-!
# Workspaces

A workspace is a directory tree below a top directory, which always exists. Files are read,
written, renamed and removed, and directories made, as the system does it: a path with a NUL
character, or of 4096 bytes or more, is refused before anything is looked up; then the names
before the last are followed through directories; then the last name is looked at. Each
operation fails without effect, with the system's cause.

## Main definitions

* `Opcodes.Workspace`, `Opcodes.Workspace.resolve`.
* `Opcodes.Workspace.read`, `Opcodes.Workspace.write`, `Opcodes.Workspace.rename`,
  `Opcodes.Workspace.remove` — the file operations.
* `Opcodes.Workspace.createDirAll` — make a directory and the missing directories above it.
* `Opcodes.Workspace.files` — the files, sorted by path.
-/

namespace Opcodes

/-- A directory tree below a top directory. -/
structure Workspace where
  /-- The entries of the top directory. -/
  top : Entries

namespace Workspace

/-- The workspace with nothing but its top directory. -/
def empty : Workspace :=
  ⟨[]⟩

/-- The length from which the system refuses a path, in bytes. -/
def maxPathBytes : Nat := 4096

/-- What the path `p` names, once the checks made before any lookup pass: no NUL character,
and fewer than 4096 bytes. -/
def resolve (p : String) : Except IoFailure Path.Target :=
  if p.toList.contains '\x00' then .error .nulByte
  else if maxPathBytes ≤ p.utf8ByteSize then .error .nameTooLong
  else .ok (Path.target p)

/-- The contents of the file that `t` names. -/
def readAt (w : Workspace) : Path.Target → Except IoFailure String
  | .empty => .error .notFound
  | .here dirs => do
    let _ ← w.top.descend dirs
    .error .isDirectory
  | .entry dirs name slash => do
    let es ← w.top.descend dirs
    if Entries.tooLong name then .error .nameTooLong
    else
      match es.lookup name with
      | none => .error .notFound
      | some (.directory _) => .error .isDirectory
      | some (.file c) => if slash then .error .notDirectory else .ok c

/-- The contents of the file at `p`. -/
def read (w : Workspace) (p : String) : Except IoFailure String := do
  w.readAt (← resolve p)

/-- Write `contents` to the file at `p`, creating it or replacing its contents. -/
def write (w : Workspace) (p : String) (contents : String) : Except IoFailure Workspace := do
  match ← resolve p with
  | .empty => .error .notFound
  | .here dirs => do
    let _ ← w.top.descend dirs
    .error .isDirectory
  | .entry dirs name slash =>
    let put (es : Entries) : Except IoFailure Entries :=
      if Entries.tooLong name then .error .nameTooLong
      else
        match es.lookup name with
        | some (.directory _) => .error .isDirectory
        | some (.file _) =>
          if slash then .error .notDirectory else .ok (es.put name (.file contents))
        | none => if slash then .error .isDirectory else .ok (es.put name (.file contents))
    let top ← w.top.update put dirs
    pure ⟨top⟩

/-- Remove the file at `p`; nothing changes if there is none. -/
def remove (w : Workspace) (p : String) : Workspace :=
  let drop (name : String) (es : Entries) : Except IoFailure Entries :=
    match es.lookup name with
    | some (.file _) => .ok (es.erase name)
    | _ => .error .notFound
  match resolve p with
  | .ok (.entry dirs name false) =>
    match w.top.update (drop name) dirs with
    | .ok top => ⟨top⟩
    | .error _ => w
  | _ => w

/-- Move the file at `src` to `dst`, replacing a file there. -/
def rename (w : Workspace) (src dst : String) : Except IoFailure Workspace := do
  let contents ← w.read src
  match ← resolve dst with
  | .empty => .error .notFound
  | .here dirs => do
    let _ ← w.top.descend dirs
    .error .busy
  | .entry dirs name slash => do
    let es ← w.top.descend dirs
    if Entries.tooLong name then .error .nameTooLong
    else if slash then .error .notDirectory
    else
      match es.lookup name with
      | some (.directory _) => .error .isDirectory
      | _ =>
        let top ← (w.remove src).top.update (fun es => .ok (es.put name (.file contents))) dirs
        pure ⟨top⟩

/-- Make a directory at what `t` names; its parent must exist. -/
def mkdirAt (w : Workspace) : Path.Target → Except IoFailure Workspace
  | .empty => .error .notFound
  | .here dirs => do
    let _ ← w.top.descend dirs
    .error .alreadyExists
  | .entry dirs name _ => do
    let make (es : Entries) : Except IoFailure Entries :=
      if Entries.tooLong name then .error .nameTooLong
      else
        match es.lookup name with
        | some _ => .error .alreadyExists
        | none => .ok (es.put name (.directory []))
    let top ← w.top.update make dirs
    pure ⟨top⟩

/-- Whether `t` names a directory. -/
def isDirAt (w : Workspace) : Path.Target → Bool
  | .empty => false
  | .here dirs =>
    match w.top.descend dirs with
    | .ok _ => true
    | .error _ => false
  | .entry dirs name _ =>
    match w.top.descend dirs with
    | .ok es =>
      match es.lookup name with
      | some (.directory _) => true
      | _ => false
    | .error _ => false

/-- Make the directory at the path with the segments `segs` and the missing directories above
it. The directory is made directly if it can be; if a directory on the way is missing, the
parent is made first and the directory then; and a failure is no failure when a directory
stands at the path afterwards. So a path whose last segment is `.` fails unless its directory
already exists, since making `.` never creates anything. -/
def createDirAllAt (w : Workspace) (segs : List String) : Except IoFailure Workspace :=
  if segs.all (· == "") then .ok w
  else
    let t := Path.Target.ofSegments segs
    match w.mkdirAt t with
    | .ok made => .ok made
    | .error .notFound =>
      match _hup : Path.parentSegments? segs with
      | none => .error .notFound
      | some up =>
        match w.createDirAllAt up with
        | .error e => .error e
        | .ok above =>
          match above.mkdirAt t with
          | .ok made => .ok made
          | .error e => if above.isDirAt t then .ok above else .error e
    | .error e => if w.isDirAt t then .ok w else .error e
termination_by segs.length
decreasing_by exact Path.length_parentSegments?_lt _hup

/-- Make the directory at `p` and the missing directories above it. -/
def createDirAll (w : Workspace) (p : String) : Except IoFailure Workspace :=
  if p.isEmpty then .ok w
  else do
    let _ ← resolve p
    w.createDirAllAt (Path.segments p)

/-- The files, as their paths below the top directory and their contents, sorted by path. -/
def files (w : Workspace) : List (String × String) :=
  (Entries.files "" w.top).mergeSort fun a b => decide (a.1 ≤ b.1)

example : ((empty.createDirAll "a/b").map fun w => w.isDirAt (Path.target "a/b")).toOption =
    some true := by
  decide +kernel
example : ((empty.createDirAll "b/.").map fun _ => ()).toOption = none := by decide +kernel

end Workspace

end Opcodes
