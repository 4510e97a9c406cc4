import Opcodes.Error
/-!
# Directory trees

A node of a directory tree is a file with its contents, or a directory with its entries: each
entry a name and a node. A directory holds each name at most once, since an entry is added by
replacing the entry of the same name. The system refuses a name longer than 255 bytes wherever
it looks one up.

## Main definitions

* `Opcodes.Node`, `Opcodes.Entries`.
* `Opcodes.Entries.put`, `Opcodes.Entries.erase` — add or replace an entry, remove one.
* `Opcodes.Entries.descend`, `Opcodes.Entries.update` — the directory reached through some
  names, and a change of it.
* `Opcodes.Node.files`, `Opcodes.Entries.files` — the files below a node with their paths.
-/

namespace Opcodes

/-- A node of a directory tree. -/
inductive Node where
  | file (contents : String)
  | directory (entries : List (String × Node))

/-- The entries of a directory, each a name and a node. -/
abbrev Entries := List (String × Node)

namespace Entries

/-- The entries with `node` under `name`, replacing what was there. -/
def put (es : Entries) (name : String) (node : Node) : Entries :=
  (name, node) :: es.filter fun e => e.1 != name

/-- The entries without the one under `name`. -/
def erase (es : Entries) (name : String) : Entries :=
  es.filter fun e => e.1 != name

/-- The longest name of an entry, in bytes. -/
def maxNameBytes : Nat := 255

/-- Whether the system refuses `name` as too long. -/
def tooLong (name : String) : Bool :=
  decide (maxNameBytes < name.utf8ByteSize)

/-- The entries of the directory reached from `es` through the names `dirs`. -/
def descend (es : Entries) : List String → Except IoFailure Entries
  | [] => .ok es
  | d :: ds =>
    if tooLong d then .error .nameTooLong
    else
      match es.lookup d with
      | some (.directory sub) => descend sub ds
      | some (.file _) => .error .notDirectory
      | none => .error .notFound

/-- The entries `es` with the directory reached through `dirs` changed by `f`. -/
def update (es : Entries) (f : Entries → Except IoFailure Entries) :
    List String → Except IoFailure Entries
  | [] => f es
  | d :: ds =>
    if tooLong d then .error .nameTooLong
    else
      match es.lookup d with
      | some (.directory sub) => do
        let changed ← update sub f ds
        pure (es.put d (.directory changed))
      | some (.file _) => .error .notDirectory
      | none => .error .notFound

/-- The path of the entry `name` in the directory at `dir`; the top directory has the empty
path. -/
def childPath (dir name : String) : String :=
  if dir.isEmpty then name else dir ++ "/" ++ name

theorem lookup_filter_key (f : String → Bool) (q : String) :
    ∀ l : Entries, (l.filter fun e => f e.1).lookup q = if f q then l.lookup q else none
  | [] => by simp
  | (k, v) :: l => by
    simp only [List.filter_cons]
    by_cases hq : q = k
    · rw [hq]
      cases hf : f k <;> simp [hf, lookup_filter_key f k l]
    · have hb : (q == k) = false := beq_eq_false_iff_ne.mpr hq
      cases hf : f k <;> simp [List.lookup_cons, hb, lookup_filter_key f q l]

theorem lookup_erase (es : Entries) (k q : String) :
    (es.erase k).lookup q = if q = k then none else es.lookup q := by
  refine (lookup_filter_key (fun a => a != k) q es).trans ?_
  by_cases hq : q = k <;> simp [hq]

@[simp] theorem lookup_put (es : Entries) (k q : String) (n : Node) :
    (es.put k n).lookup q = if q = k then some n else es.lookup q := by
  by_cases h : q = k
  · subst h
    simp [put]
  · have hb : (q == k) = false := beq_eq_false_iff_ne.mpr h
    simp only [put, List.lookup_cons, hb, h, if_false]
    exact (lookup_erase es k q).trans (by simp [h])

end Entries

mutual
/-- The files at and below the node at `path`, with their paths. -/
def Node.files (path : String) : Node → List (String × String)
  | .file contents => [(path, contents)]
  | .directory es => Entries.files path es

/-- The files below the entries of the directory at `dir`, with their paths. -/
def Entries.files (dir : String) : Entries → List (String × String)
  | [] => []
  | (name, node) :: rest => Node.files (Entries.childPath dir name) node ++ Entries.files dir rest
end

end Opcodes
