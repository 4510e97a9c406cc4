/-!
# Paths

A path is text whose segments are separated by `/`. Two readings of it matter here.

The system resolves a path segment by segment: empty segments and `.` stay in the same
directory, every segment before the last names a directory, and a path that ends in `.` or in a
slash names a directory. `Opcodes.Path.Target` is that reading.

The second reading takes a path apart into its root, its names and its `..` steps. A path that
starts with a slash has a root, and a relative path that is `.` or starts with `./` has a leading
`.`; empty segments, and `.` segments anywhere else, are passed over. The file name of a path is
its last segment that is neither empty nor `.`, unless that segment is `..`. The parent of a path
is its text before that last segment, less the slashes and `.` segments at its end, but never
less its root or its leading `.`: the parent of `/a` is `/`, that of `./a` is `.`, that of `a` is
empty, and the root and the empty path have none.

The temporary sibling of a path is the path with `.tmp` appended to its file name, that is its
parent joined with that new name; a path without a file name gets a new segment `.tmp`, so the
sibling of `..` is `../.tmp`. A file written there and then renamed over the path replaces it in
one step.

## Main definitions

* `Opcodes.Path.Target`, `Opcodes.Path.target` — what a path names.
* `Opcodes.Path.parentSegments?`, `Opcodes.Path.parent` — the parent of a path, with fewer
  segments.
* `Opcodes.Path.fileName?`, `Opcodes.Path.tempSibling`.
-/

namespace Opcodes.Path

/-- Whether a segment stays in the same directory: an empty segment or `.`. -/
def isSkipped (s : String) : Bool :=
  s == "" || s == "."

/-- The segments of a path, between its slashes. -/
def segments (p : String) : List String :=
  (p.toList.splitOn '/').map String.ofList

/-- What a path names for the system. -/
inductive Target where
  /-- The empty path, which names nothing. -/
  | empty
  /-- The directory reached through `dirs`, named by a last segment `.`. -/
  | here (dirs : List String)
  /-- The entry `name` of the directory reached through `dirs`; `slash` when the path ends in a
  slash, so that the entry must be a directory. -/
  | entry (dirs : List String) (name : String) (slash : Bool)
deriving DecidableEq, Repr

/-- What the path with the segments `segs` names. -/
def Target.ofSegments (segs : List String) : Target :=
  let rev := segs.reverse
  let rest := rev.dropWhile (· == "")
  match rest with
  | [] => .empty
  | last :: before =>
    let dirs := before.reverse.filter fun s => !isSkipped s
    if last == "." then .here dirs else .entry dirs last (rest.length != rev.length)

/-- What the path `p` names. -/
def target (p : String) : Target :=
  Target.ofSegments (segments p)

/-- The lead of a path's segments, and the segments after it: the root, which is the empty
segment before the first slash of a path that starts with one; or the `.` of a relative path that
is `.` or starts with `./`; or nothing. -/
def splitLead (segs : List String) : List String × List String :=
  match segs with
  | "" :: rest@(_ :: _) => ([""], rest)
  | "." :: rest => (["."], rest)
  | _ => ([], segs)

/-- The file name of a path: its last segment that is neither empty nor `.`, unless that segment
is `..`. -/
def fileName? (p : String) : Option String :=
  match ((segments p).filter fun s => !isSkipped s).getLast? with
  | some ".." => none
  | name => name

/-- Segments without the empty and `.` segments at their end. -/
def trimEnd (segs : List String) : List String :=
  (segs.reverse.dropWhile isSkipped).reverse

/-- `name` below the directory path `dir`: joined by a slash unless `dir` is empty or already
ends in one. -/
def join (dir name : String) : String :=
  if dir.isEmpty then name
  else if dir.toList.getLast? = some '/' then dir ++ name
  else dir ++ "/" ++ name

/-- The segments of the parent of a path: its lead, then the segments before its last segment
that is neither empty nor `.`, less the empty and `.` segments just before that one. A path that
is only its leading `.` has the empty path as its parent; the root alone and the empty path have
none. -/
def parentSegments? (segs : List String) : Option (List String) :=
  match trimEnd (splitLead segs).2 with
  | [] => if (splitLead segs).1 = ["."] then some [] else none
  | kept => some ((splitLead segs).1 ++ trimEnd kept.dropLast)

/-- The text of a path from its segments; the root alone is `/`. -/
def ofSegments (segs : List String) : String :=
  if segs = [""] then "/" else "/".intercalate segs

/-- The directory part of a path: the text of its parent's segments. -/
def parent (p : String) : String :=
  ofSegments ((parentSegments? (segments p)).getD [])

theorem length_trimEnd_le (segs : List String) : (trimEnd segs).length ≤ segs.length := by
  simpa [trimEnd] using (List.dropWhile_suffix isSkipped (l := segs.reverse)).length_le

theorem splitLead_append (segs : List String) :
    (splitLead segs).1 ++ (splitLead segs).2 = segs := by
  unfold splitLead
  split <;> simp

/-- A parent has fewer segments than its path. -/
theorem length_parentSegments?_lt {segs q : List String} (h : parentSegments? segs = some q) :
    q.length < segs.length := by
  have hsplit := congrArg List.length (splitLead_append segs)
  rw [List.length_append] at hsplit
  have htrim := length_trimEnd_le (splitLead segs).2
  unfold parentSegments? at h
  cases hk : trimEnd (splitLead segs).2 with
  | nil =>
    rw [hk] at h
    by_cases hlead : (splitLead segs).1 = ["."]
    · simp only [hlead, if_true, Option.some.injEq] at h
      subst h
      rw [hlead] at hsplit
      simp only [List.length_nil, List.length_singleton] at hsplit ⊢
      omega
    · simp [hlead] at h
  | cons x xs =>
    rw [hk] at h
    simp only [Option.some.injEq] at h
    subst h
    have hd := length_trimEnd_le (x :: xs).dropLast
    rw [hk] at htrim
    simp only [List.length_append, List.length_dropLast, List.length_cons] at hd htrim ⊢
    omega

/-- The temporary sibling of a path. -/
def tempSibling (p : String) : String :=
  match fileName? p with
  | some name => join (parent p) (name ++ ".tmp")
  | none => join p ".tmp"

example : tempSibling "src/parser/opcode.rs" = "src/parser/opcode.rs.tmp" := by decide +kernel
example : tempSibling "" = ".tmp" ∧ tempSibling "." = "./.tmp" := by decide +kernel
example : tempSibling "./x" = "./x.tmp" ∧ tempSibling "a/" = "a.tmp" := by decide +kernel
example : tempSibling "sub//a/./" = "sub/a.tmp" ∧ tempSibling "a//b/c" = "a//b/c.tmp" := by
  decide +kernel
example : tempSibling "/tmp" = "/tmp.tmp" ∧ tempSibling "/" = "/.tmp" := by decide +kernel
example : tempSibling "/a/" = "/a.tmp" ∧ tempSibling "//a" = "/a.tmp" := by decide +kernel
example : tempSibling ".." = "../.tmp" ∧ tempSibling "a/.." = "a/../.tmp" := by decide +kernel
example : target "a/b/" = .entry ["a"] "b" true ∧ target "./a/." = .here ["a"] := by decide +kernel
example : target "" = .empty ∧ target "x" = .entry [] "x" false := by decide +kernel
example : parentSegments? (segments "a/b/.") = some ["a"] ∧
    parentSegments? (segments "b/.") = some [] ∧ parentSegments? (segments ".") = some [] ∧
    parentSegments? (segments "") = none := by
  decide +kernel
example : parent "/a" = "/" ∧ parent "./a" = "." ∧ parent "a/../b" = "a/.." ∧
    parentSegments? (segments "/") = none := by
  decide +kernel

end Opcodes.Path
