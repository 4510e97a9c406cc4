import Opcodes.Run
import Opcodes.Proofs.RecordColumns
import Mathlib.Logic.Function.Basic
import Mathlib.Data.List.Basic
/-!
# Replacing the output of a run

A run that writes replaces its output through the temporary sibling of the output path. This
module says what a run does to the files, for any file operations that keep to the contract of a
file system seen as a map from paths to contents (`Opcodes.FileOps.Lawful`): reads, renames and
removals succeed or fail without effect, and a write that fails may have changed its own file.

A run that succeeds in writing leaves the module of the definitions in the output, no temporary
file, and every other file as it was. A run that only checks, or fails before writing, changes
nothing. A run that fails never touches the output, nor any file but the temporary one. The
temporary file is then absent or as it was, with two exceptions. A failed write is not cleaned
up, as a failed rename is: a write that failed after creating or emptying the file leaves what it
left. And a cleanup removal that failed after a failed rename leaves the whole module there. That
the output is never touched rests on the temporary sibling of a path differing from the path,
which holds for every path: their file names differ.

## Main definitions

* `Opcodes.FileOps.Lawful` — file operations that act on files as on a map from paths to
  contents.
* `Opcodes.FileOps.ofMap`, `Opcodes.FileOps.fullDisk`, `Opcodes.FileOps.stuck` — the file
  operations of such a map; those of a disk where every write fails after emptying its file; and
  those of one where no file can be moved or removed.
* `Opcodes.Config.ReplacesOutput` — what a run from a state does to its files.

## Main results

* `Opcodes.Path.tempSibling_ne` — a path is never its own temporary sibling.
* `Opcodes.FileOps.Lawful.files_replace_ok`, `Opcodes.FileOps.Lawful.files_replace_error` — the
  files after a replacement.
* `Opcodes.Config.replacesOutput_of_lawful` — **the files after a run**.
* `Opcodes.Config.runWith_leaves_tempSibling` — the two ways a failed run leaves a temporary file
  with new contents.
-/

set_option autoImplicit false

namespace Opcodes

namespace Path

/-! ### The file name of a temporary sibling -/

/-- A path without a slash is its only segment. -/
theorem segments_of_not_mem {p : String} (h : '/' ∉ p.toList) : segments p = [p] := by
  simp [segments, List.splitOn_eq_singleton h]

/-- The last slash of a path splits off its last segment. -/
theorem segments_append_slash (pre : List Char) {m : String} (hm : '/' ∉ m.toList) :
    segments (String.ofList (pre ++ '/' :: m.toList)) = segments (String.ofList pre) ++ [m] := by
  simp [segments, List.splitOn_append_cons_self, List.splitOn_eq_singleton hm]

/-- The last segment of a path that is neither empty nor `.`, read off its file name. -/
theorem getLast?_of_fileName? {p name : String} (h : fileName? p = some name) :
    ((segments p).filter fun s => !isSkipped s).getLast? = some name := by
  unfold fileName? at h
  split at h
  · cases h
  · exact h

/-- A path whose last segment is a name other than `..` has that name as its file name. -/
theorem fileName?_of_segments {p m : String} {segs : List String} (h : segments p = segs ++ [m])
    (hm : isSkipped m = false) (hdots : m ≠ "..") : fileName? p = some m := by
  have hlast : ((segments p).filter fun s => !isSkipped s).getLast? = some m := by
    simp [h, List.filter_append, hm]
  unfold fileName?
  rw [hlast]
  split
  · rename_i hname
    exact absurd (Option.some.inj hname) hdots
  · rfl

/-- A name without a slash, joined to any directory path, is the file name of the result. -/
theorem fileName?_join (dir : String) {m : String} (hslash : '/' ∉ m.toList)
    (hm : isSkipped m = false) (hdots : m ≠ "..") : fileName? (join dir m) = some m := by
  unfold join
  split
  · exact @fileName?_of_segments m m [] (segments_of_not_mem hslash) hm hdots
  split
  · rename_i hlast
    have hdir : dir ++ m = String.ofList (dir.toList.dropLast ++ '/' :: m.toList) := by
      rw [← String.toList_inj, String.toList_append, String.toList_ofList,
        ← List.dropLast_append_getLast? '/' hlast]
      simp
    rw [hdir]
    exact fileName?_of_segments (segments_append_slash _ hslash) hm hdots
  · have hdir : dir ++ "/" ++ m = String.ofList (dir.toList ++ '/' :: m.toList) := by
      rw [← String.toList_inj, String.toList_ofList]
      simp
    rw [hdir]
    exact fileName?_of_segments (segments_append_slash _ hslash) hm hdots

/-- A file name is one segment of its path, so it holds no slash. -/
theorem not_mem_of_fileName? {p name : String} (h : fileName? p = some name) :
    '/' ∉ name.toList := by
  have hmem : name ∈ segments p :=
    (List.mem_filter.mp (List.mem_of_getLast? (getLast?_of_fileName? h))).1
  obtain ⟨f, hf, rfl⟩ := List.mem_map.mp hmem
  simpa using Columns.not_mem_of_mem_splitOn hf

/-- A name with `.tmp` appended is four characters longer. -/
theorem length_append_tmp (name : String) : (name ++ ".tmp").length = name.length + 4 := by
  rw [String.length_append]
  rfl

/-- A name with `.tmp` appended is none of the texts shorter than `.tmp`. -/
theorem append_tmp_ne_of_length_lt (name s : String) (hs : s.length < 4) : name ++ ".tmp" ≠ s := by
  intro h
  have hlen := length_append_tmp name
  rw [h] at hlen
  omega

/-- A name with `.tmp` appended is neither empty nor `.`. -/
theorem isSkipped_append_tmp (name : String) : isSkipped (name ++ ".tmp") = false := by
  have hempty := append_tmp_ne_of_length_lt name "" (by decide)
  have hdot := append_tmp_ne_of_length_lt name "." (by decide)
  simp [isSkipped, hempty, hdot]

/-- The file name of a temporary sibling is the file name of its path, if any, with `.tmp`
appended. -/
theorem fileName?_tempSibling (p : String) :
    fileName? (tempSibling p) = some ((fileName? p).getD "" ++ ".tmp") := by
  unfold tempSibling
  cases h : fileName? p with
  | none => exact fileName?_join p (by decide) (by decide) (by decide)
  | some name =>
    refine fileName?_join _ ?_ (isSkipped_append_tmp name)
      (append_tmp_ne_of_length_lt name ".." (by decide))
    simpa using not_mem_of_fileName? h

/-- A path is never its own temporary sibling: their file names differ. -/
theorem tempSibling_ne (p : String) : tempSibling p ≠ p := by
  intro h
  have hname := fileName?_tempSibling p
  rw [h] at hname
  cases hp : fileName? p with
  | none => simp [hp] at hname
  | some name =>
    rw [hp, Option.getD_some, Option.some.injEq] at hname
    have hlen := congrArg String.length hname
    simp at hlen

end Path

namespace FileOps

variable {σ : Type}

open Function (update)

/-! ### File operations on a map from paths to contents -/

/-- File operations that act on the files of a state, read by `files` as a map from paths to
contents. A read gives the contents of its file, a rename moves a file, and a removal drops one;
each of them fails without effect. A write that succeeds sets its file, and one that fails may
have created or changed its own file, and no other. -/
structure Lawful (fs : FileOps σ) (files : σ → String → Option String) : Prop where
  read_ok {s : σ} {p t : String} : fs.read s p = .ok t → files s p = some t
  write_ok {s s' : σ} {p c : String} :
    fs.write s p c = (s', .ok ()) → files s' = update (files s) p (some c)
  write_error {s s' : σ} {p c : String} {e : IoFailure} :
    fs.write s p c = (s', .error e) → ∀ q, q ≠ p → files s' q = files s q
  rename_ok {s s' : σ} {src dst : String} : fs.rename s src dst = .ok s' →
    ∃ t, files s src = some t ∧ files s' = update (update (files s) src none) dst (some t)
  remove_ok {s s' : σ} {p : String} : fs.remove s p = .ok s' → files s' = update (files s) p none

/-- The four ways a replacement goes: the write of the temporary file fails; or it succeeds and
the rename succeeds; or the rename fails, and the cleanup removal succeeds or fails without
effect. -/
theorem replace_cases {fs : FileOps σ} {s s' : σ} {p c : String} {r : Except Error Unit}
    (h : fs.replace s p c = (s', r)) :
    (∃ e, fs.write s (Path.tempSibling p) c = (s', .error e) ∧
      r = .error (.resource (Path.tempSibling p) e)) ∨
    ∃ w, fs.write s (Path.tempSibling p) c = (w, .ok ()) ∧
      (fs.rename w (Path.tempSibling p) p = .ok s' ∧ r = .ok () ∨
        ∃ e, fs.rename w (Path.tempSibling p) p = .error e ∧ r = .error (.resource p e) ∧
          (fs.remove w (Path.tempSibling p) = .ok s' ∨
            (∃ e', fs.remove w (Path.tempSibling p) = .error e') ∧ s' = w)) := by
  unfold replace at h
  dsimp only at h
  rcases hw : fs.write s (Path.tempSibling p) c with ⟨w, _ | e | ⟨⟩⟩
  · simp only [hw] at h
    obtain ⟨rfl, rfl⟩ := Prod.mk.inj h
    exact .inl ⟨_, rfl, rfl⟩
  · simp only [hw] at h
    refine .inr ⟨w, rfl, ?_⟩
    cases hr : fs.rename w (Path.tempSibling p) p with
    | ok moved =>
      simp only [hr] at h
      obtain ⟨rfl, rfl⟩ := Prod.mk.inj h
      exact .inl ⟨rfl, rfl⟩
    | error e =>
      simp only [hr] at h
      cases hc : fs.remove w (Path.tempSibling p) with
      | ok cleaned =>
        simp only [hc] at h
        obtain ⟨rfl, rfl⟩ := Prod.mk.inj h
        exact .inr ⟨e, rfl, rfl, .inl rfl⟩
      | error e' =>
        simp only [hc] at h
        obtain ⟨rfl, rfl⟩ := Prod.mk.inj h
        exact .inr ⟨e, rfl, rfl, .inr ⟨⟨e', rfl⟩, rfl⟩⟩

namespace Lawful

variable {fs : FileOps σ} {files : σ → String → Option String}

/-- A replacement that succeeds leaves `c` at `p` and no temporary file, and every other file as
it was. -/
theorem files_replace_ok (hl : fs.Lawful files) {s s' : σ} {p c : String}
    (h : fs.replace s p c = (s', .ok ())) :
    files s' = update (update (files s) (Path.tempSibling p) none) p (some c) := by
  rcases replace_cases h with ⟨e, -, hr⟩ | ⟨w, hw, ⟨hmove, -⟩ | ⟨e, -, hr, -⟩⟩
  · cases hr
  · have hwritten := hl.write_ok hw
    obtain ⟨t, ht, hmoved⟩ := hl.rename_ok hmove
    -- the file moved is the one just written
    rw [hwritten, Function.update_self, Option.some.injEq] at ht
    subst ht
    rw [hmoved, hwritten, Function.update_idem]
  · cases hr

/-- A replacement that fails leaves every file but the temporary one as it was, `p` among them.
The temporary file is absent after a cleanup, holds `c` after a cleanup that failed, or is what
the failed write of it left. -/
theorem files_replace_error (hl : fs.Lawful files) {s s' : σ} {p c : String} {e : Error}
    (h : fs.replace s p c = (s', .error e)) :
    (∀ q, q ≠ Path.tempSibling p → files s' q = files s q) ∧
      (files s' (Path.tempSibling p) = none ∨ files s' (Path.tempSibling p) = some c ∨
        ∃ f, e = .resource (Path.tempSibling p) f) := by
  rcases replace_cases h with ⟨f, hw, hr⟩ | ⟨w, hw, ⟨-, hr⟩ | ⟨f, -, -, hclean | ⟨-, rfl⟩⟩⟩
  · exact ⟨hl.write_error hw, .inr (.inr ⟨f, Except.error.inj hr⟩)⟩
  · cases hr
  · have hfiles : files s' = update (files s) (Path.tempSibling p) none := by
      rw [hl.remove_ok hclean, hl.write_ok hw, Function.update_idem]
    refine ⟨fun q hq => ?_, .inl ?_⟩
    · rw [hfiles, Function.update_of_ne hq]
    · rw [hfiles, Function.update_self]
  · have hfiles := hl.write_ok hw
    refine ⟨fun q hq => ?_, .inr (.inl ?_)⟩
    · rw [hfiles, Function.update_of_ne hq]
    · rw [hfiles, Function.update_self]

end Lawful

/-! ### Three file systems -/

/-- The file operations of a map from paths to contents, where reading, moving or removing a
missing file fails. -/
def ofMap : FileOps (String → Option String) where
  read f p :=
    match f p with
    | some t => .ok t
    | none => .error .notFound
  write f p c := (update f p (some c), .ok ())
  rename f src dst :=
    match f src with
    | some t => .ok (update (update f src none) dst (some t))
    | none => .error .notFound
  remove f p :=
    match f p with
    | some _ => .ok (update f p none)
    | none => .error .notFound

/-- The file operations of a full disk: a write creates or empties its file and then fails. -/
def fullDisk : FileOps (String → Option String) where
  read := ofMap.read
  write f p _ := (update f p (some ""), .error (.other 28 "No space left on device"))
  rename := ofMap.rename
  remove := ofMap.remove

/-- The file operations of a file system where no file can be moved or removed. -/
def stuck : FileOps (String → Option String) where
  read := ofMap.read
  write := ofMap.write
  rename _ _ _ := .error (.other 1 "Operation not permitted")
  remove _ _ := .error (.other 1 "Operation not permitted")

theorem ofMap_lawful : ofMap.Lawful id where
  read_ok h := by
    simp only [ofMap] at h
    split at h
    · rename_i ht
      cases h
      exact ht
    · cases h
  write_ok h := by
    simp only [ofMap, Prod.mk.injEq] at h
    obtain ⟨rfl, -⟩ := h
    rfl
  write_error h := by simp [ofMap] at h
  rename_ok h := by
    simp only [ofMap] at h
    split at h
    · rename_i t ht
      cases h
      exact ⟨t, ht, rfl⟩
    · cases h
  remove_ok h := by
    simp only [ofMap] at h
    split at h
    · cases h
      rfl
    · cases h

theorem fullDisk_lawful : fullDisk.Lawful id where
  read_ok := ofMap_lawful.read_ok
  write_ok h := by simp [fullDisk] at h
  write_error h := by
    simp only [fullDisk, Prod.mk.injEq] at h
    obtain ⟨rfl, -⟩ := h
    intro q hq
    exact Function.update_of_ne hq _ _
  rename_ok := ofMap_lawful.rename_ok
  remove_ok := ofMap_lawful.remove_ok

theorem stuck_lawful : stuck.Lawful id where
  read_ok := ofMap_lawful.read_ok
  write_ok := ofMap_lawful.write_ok
  write_error := ofMap_lawful.write_error
  rename_ok h := by simp [stuck] at h
  remove_ok h := by simp [stuck] at h

end FileOps

/-- The module of a text that compiles. -/
theorem Source.ofText_eq_ok {text marker : String} {compiled : Compiled}
    (h : Compiled.ofText text marker = .ok compiled) :
    Source.ofText text marker = .ok (Source.render compiled.table) := by
  simp only [Source.ofText, h]
  rfl

namespace Config

variable {σ : Type}

open Function (update)

/-! ### The files after a run -/

/-- The two ways a run goes: it leaves the state as it is, since reading or compiling failed or it
only checks; or it replaces the output with the module of the text it read. -/
theorem runWith_cases {c : Config} {fs : FileOps σ} {s s' : σ} {r : Except Error Summary}
    (h : c.runWith fs s = (s', r)) :
    s' = s ∧ ((∃ e, fs.read s c.input = .error e ∧ r = .error (.resource c.input e)) ∨
      ∃ text, fs.read s c.input = .ok text ∧
        ((∃ e, Compiled.ofText text c.marker = .error e ∧ r = .error e) ∨
          ∃ compiled, Compiled.ofText text c.marker = .ok compiled ∧ c.checkOnly = true ∧
            r = .ok compiled.summary)) ∨
    ∃ text compiled u, fs.read s c.input = .ok text ∧
      Compiled.ofText text c.marker = .ok compiled ∧ c.checkOnly = false ∧
      fs.replace s c.output (Source.render compiled.table) = (s', u) ∧
      r = u.map fun _ => compiled.summary := by
  unfold runWith at h
  cases hread : fs.read s c.input with
  | error e =>
    simp only [hread] at h
    obtain ⟨rfl, rfl⟩ := Prod.mk.inj h
    exact .inl ⟨rfl, .inl ⟨e, rfl, rfl⟩⟩
  | ok text =>
    simp only [hread] at h
    cases hcomp : Compiled.ofText text c.marker with
    | error e =>
      simp only [hcomp] at h
      obtain ⟨rfl, rfl⟩ := Prod.mk.inj h
      exact .inl ⟨rfl, .inr ⟨text, rfl, .inl ⟨e, hcomp, rfl⟩⟩⟩
    | ok compiled =>
      simp only [hcomp] at h
      cases hcheck : c.checkOnly with
      | true =>
        simp only [hcheck, if_true] at h
        obtain ⟨rfl, rfl⟩ := Prod.mk.inj h
        exact .inl ⟨rfl, .inr ⟨text, rfl, .inr ⟨compiled, hcomp, rfl, rfl⟩⟩⟩
      | false =>
        simp only [hcheck, Bool.false_eq_true, if_false] at h
        rcases hu : fs.replace s c.output (Source.render compiled.table) with ⟨moved, u⟩
        simp only [hu, Prod.mk.injEq] at h
        obtain ⟨rfl, rfl⟩ := h
        exact .inr ⟨text, compiled, u, rfl, hcomp, rfl, hu, rfl⟩

/-- What a run from the state `s` does to the files of the states, read by `files`. -/
structure ReplacesOutput (c : Config) (fs : FileOps σ) (files : σ → String → Option String)
    (s : σ) : Prop where
  /-- A run that writes and succeeds leaves the module of the definitions in the output, no
  temporary file, and every other file as it was. -/
  written : ∀ s' summary, c.runWith fs s = (s', .ok summary) → c.checkOnly = false →
    ∃ text src, files s c.input = some text ∧ Source.ofText text c.marker = .ok src ∧
      files s' c.output = some src ∧ files s' (Path.tempSibling c.output) = none ∧
      ∀ q, q ≠ c.output → q ≠ Path.tempSibling c.output → files s' q = files s q
  /-- A run that only checks, or that fails to read or to compile, leaves the state as it is. -/
  unchanged : ∀ s' r, c.runWith fs s = (s', r) →
    ((∃ summary, r = .ok summary) ∧ c.checkOnly = true) ∨ (∃ e, fs.read s c.input = .error e) ∨
      (∃ text e, fs.read s c.input = .ok text ∧ Compiled.ofText text c.marker = .error e) →
    s' = s
  /-- A run that fails leaves every file but the temporary one as it was, the output among them.
  The temporary file is absent or as it was, unless its write failed, or the rename failed and
  so did the removal after it, which leaves the module there. -/
  kept : ∀ s' e, c.runWith fs s = (s', .error e) →
    (∀ q, q ≠ Path.tempSibling c.output → files s' q = files s q) ∧
      (files s' (Path.tempSibling c.output) = none ∨
        files s' (Path.tempSibling c.output) = files s (Path.tempSibling c.output) ∨
        (∃ f, e = .resource (Path.tempSibling c.output) f) ∨
        ∃ text src, files s c.input = some text ∧ Source.ofText text c.marker = .ok src ∧
          files s' (Path.tempSibling c.output) = some src)

section Lawful

variable {fs : FileOps σ} {files : σ → String → Option String} {c : Config} {s s' : σ}

/-- A run that writes and succeeds leaves the module in the output and nothing else changed. -/
theorem files_runWith_ok (hl : fs.Lawful files) {summary : Summary}
    (h : c.runWith fs s = (s', .ok summary)) (hcheck : c.checkOnly = false) :
    ∃ text src, files s c.input = some text ∧ Source.ofText text c.marker = .ok src ∧
      files s' c.output = some src ∧ files s' (Path.tempSibling c.output) = none ∧
      ∀ q, q ≠ c.output → q ≠ Path.tempSibling c.output → files s' q = files s q := by
  rcases runWith_cases h with
    ⟨-, ⟨e, -, hr⟩ | ⟨text, -, ⟨e, -, hr⟩ | ⟨compiled, -, hc, -⟩⟩⟩ |
      ⟨text, compiled, u, hread, hcomp, -, hrep, hr⟩
  · cases hr
  · cases hr
  · rw [hcheck] at hc
    cases hc
  · -- the replacement succeeded, since the run did
    cases u with
    | error e => cases hr
    | ok =>
      have hfiles := hl.files_replace_ok hrep
      refine ⟨text, _, hl.read_ok hread, Source.ofText_eq_ok hcomp, ?_, ?_, fun q hq hq' => ?_⟩
      · rw [hfiles, Function.update_self]
      · rw [hfiles, Function.update_of_ne (Path.tempSibling_ne _), Function.update_self]
      · rw [hfiles, Function.update_of_ne hq, Function.update_of_ne hq']

/-- A run that only checks, or that fails to read or to compile, leaves the state as it is. -/
theorem runWith_eq_self {r : Except Error Summary} (h : c.runWith fs s = (s', r))
    (hwhy : ((∃ summary, r = .ok summary) ∧ c.checkOnly = true) ∨
      (∃ e, fs.read s c.input = .error e) ∨
      (∃ text e, fs.read s c.input = .ok text ∧ Compiled.ofText text c.marker = .error e)) :
    s' = s := by
  rcases runWith_cases h with ⟨rfl, -⟩ | ⟨text, compiled, u, hread, hcomp, hcheck, -, -⟩
  · rfl
  · -- a run that gets to writing neither only checks nor fails before it
    exfalso
    rcases hwhy with ⟨-, hc⟩ | ⟨e, he⟩ | ⟨text', e, hread', he⟩
    · rw [hcheck] at hc
      cases hc
    · rw [hread] at he
      cases he
    · rw [hread] at hread'
      cases hread'
      rw [hcomp] at he
      cases he

/-- A run that fails leaves every file but the temporary one as it was. -/
theorem files_runWith_error (hl : fs.Lawful files) {e : Error}
    (h : c.runWith fs s = (s', .error e)) :
    (∀ q, q ≠ Path.tempSibling c.output → files s' q = files s q) ∧
      (files s' (Path.tempSibling c.output) = none ∨
        files s' (Path.tempSibling c.output) = files s (Path.tempSibling c.output) ∨
        (∃ f, e = .resource (Path.tempSibling c.output) f) ∨
        ∃ text src, files s c.input = some text ∧ Source.ofText text c.marker = .ok src ∧
          files s' (Path.tempSibling c.output) = some src) := by
  rcases runWith_cases h with ⟨rfl, -⟩ | ⟨text, compiled, u, hread, hcomp, -, hrep, hr⟩
  · exact ⟨fun _ _ => rfl, .inr (.inl rfl)⟩
  · -- the replacement failed with the run's error
    cases u with
    | ok => cases hr
    | error f =>
      cases hr
      obtain ⟨hframe, htmp⟩ := hl.files_replace_error hrep
      refine ⟨hframe, ?_⟩
      rcases htmp with hnone | hsrc | hname
      · exact .inl hnone
      · exact .inr (.inr (.inr ⟨text, _, hl.read_ok hread, Source.ofText_eq_ok hcomp, hsrc⟩))
      · exact .inr (.inr (.inl hname))

/-- **The files after a run**, for file operations that act on files as on a map from paths to
contents; the temporary sibling they rest on is never the path itself. -/
theorem replacesOutput_of_lawful (hl : fs.Lawful files) (c : Config) (s : σ) :
    c.ReplacesOutput fs files s ∧ ∀ p, Path.tempSibling p ≠ p :=
  ⟨⟨fun _ _ h hcheck => files_runWith_ok hl h hcheck, fun _ _ h hwhy => runWith_eq_self h hwhy,
    fun _ _ h => files_runWith_error hl h⟩, Path.tempSibling_ne⟩

end Lawful

/-- A run with the file operations of a map, from a state with nothing but an empty definition
file, keeps the contract of a run. -/
theorem replacesOutput_ofMap :
    FileOps.ofMap.Lawful id ∧
      ({} : Config).ReplacesOutput FileOps.ofMap id (update (fun _ => none) "wabt_opcode.def" (some "")) ∧
      ∀ p, Path.tempSibling p ≠ p :=
  ⟨FileOps.ofMap_lawful, replacesOutput_of_lawful FileOps.ofMap_lawful _ _⟩

section Residue

variable {c : Config} {s : String → Option String} {text : String} {compiled : Compiled}

/-- On a full disk, a run that gets to writing fails, and leaves the temporary file empty. -/
theorem runWith_fullDisk (hread : s c.input = some text)
    (hcomp : Compiled.ofText text c.marker = .ok compiled) (hcheck : c.checkOnly = false) :
    c.runWith FileOps.fullDisk s = (update s (Path.tempSibling c.output) (some ""),
      .error (.resource (Path.tempSibling c.output) (.other 28 "No space left on device"))) := by
  simp [runWith, FileOps.fullDisk, FileOps.ofMap, FileOps.replace, hread, hcomp, hcheck, Except.map]

/-- Where no file can be moved or removed, a run that gets to writing fails, and leaves the module
in the temporary file. -/
theorem runWith_stuck (hread : s c.input = some text)
    (hcomp : Compiled.ofText text c.marker = .ok compiled) (hcheck : c.checkOnly = false) :
    c.runWith FileOps.stuck s =
      (update s (Path.tempSibling c.output) (some (Source.render compiled.table)),
        .error (.resource c.output (.other 1 "Operation not permitted"))) := by
  simp [runWith, FileOps.stuck, FileOps.ofMap, FileOps.replace, hread, hcomp, hcheck, Except.map]

end Residue

/-- A failed run can leave a temporary file with new contents where there was none, in two ways
that keep to the contract of a map: a write that fails after creating its file, and a rename that
fails followed by a removal that fails. -/
theorem runWith_leaves_tempSibling :
    FileOps.fullDisk.Lawful id ∧ FileOps.stuck.Lawful id ∧
      ∃ (s : String → Option String) (src : String),
        s = update (fun _ => none) "wabt_opcode.def" (some "") ∧
        s (Path.tempSibling "src/parser/opcode.rs") = none ∧
        Source.ofText "" "WABT_OPCODE" = .ok src ∧
        (∃ e, ({} : Config).runWith FileOps.fullDisk s =
          (update s (Path.tempSibling "src/parser/opcode.rs") (some ""), .error e)) ∧
        ∃ e, ({} : Config).runWith FileOps.stuck s =
          (update s (Path.tempSibling "src/parser/opcode.rs") (some src), .error e) := by
  obtain ⟨compiled, hcomp⟩ : ∃ compiled, Compiled.ofText "" "WABT_OPCODE" = .ok compiled :=
    ⟨_, rfl⟩
  have hread : update (fun _ => none) "wabt_opcode.def" (some "") "wabt_opcode.def" = some "" :=
    Function.update_self _ _ _
  have htmp : Path.tempSibling "src/parser/opcode.rs" ≠ "wabt_opcode.def" := by decide +kernel
  exact ⟨FileOps.fullDisk_lawful, FileOps.stuck_lawful, _, _, rfl,
    Function.update_of_ne htmp _ _, Source.ofText_eq_ok hcomp,
    ⟨_, runWith_fullDisk hread hcomp rfl⟩, ⟨_, runWith_stuck hread hcomp rfl⟩⟩

end Config

end Opcodes
