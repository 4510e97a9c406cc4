import Opcodes.Table.Basic
import Opcodes.Error
/-!
# Compiling records into a table

Records are added to the table one by one, in definition order. Each record must give a usable
constant name; that name and the name of its metadata constant must be new, among the names of
the preamble and of the records before it; and its opcode must be free. The first record that
fails one of these checks, taken in this order, stops the compilation with the matching error.

## Main definitions

* `Opcodes.NameOwner`, `Opcodes.Names` — the names defined so far, each with its owner.
* `Opcodes.Table.insert` — add an entry whose opcode is free.
* `Opcodes.Table.compile` — the table of a list of records.
-/

namespace Opcodes

/-- Who defines a name while a table is compiled: the preamble, or the entry at a position of the
table. -/
inductive NameOwner where
  | preamble
  | entry (index : Nat)
deriving DecidableEq, Repr

/-- The names of the generated module defined so far, each with its owner, the latest first. -/
abbrev Names := List (String × NameOwner)

namespace Names

/-- The names of the preamble. -/
def reserved : Names :=
  Ident.reserved.map fun n => (n, .preamble)

/-- How an error names the owner `o`: the preamble, or the mnemonic of the entry of `t` it points
at. -/
def describe (t : Table) : NameOwner → Owner
  | .preamble => .preamble
  | .entry i => .record t.entries[i]!.record.text

/-- Define `name` for the entry that will stand at position `index` of `t`, whose mnemonic is
`text`, unless it is already defined. -/
def claim (names : Names) (t : Table) (name : String) (index : Nat) (text : String) :
    Except Error Names :=
  match names.lookup name with
  | some owner => .error (.nameCollision name (describe t owner) text)
  | none => .ok ((name, .entry index) :: names)

theorem lookup_cons_of_ne {names : Names} {n m : String} (o : NameOwner) (h : n ≠ m) :
    ((m, o) :: names).lookup n = names.lookup n := by
  have : (n == m) = false := by simpa using h
  simp [List.lookup_cons, this]

end Names

namespace Table

/-- Add the entry `e`, unless another entry already has the opcode of its record. -/
def insert (t : Table) (e : Entry) : Except Error Table :=
  match t.entry? e.record.code with
  | some first => .error (.duplicateOpcode e.record.code first.record.text e.record.text)
  | none => .ok (t.push e)

/-- Add one record, after checking its names. -/
def compileStep (state : Names × Table) (r : Record) : Except Error (Names × Table) := do
  let (names, t) := state
  let ident := Ident.canonical r.text
  if !Ident.isEmittable ident then
    throw (.malformed r.line (.unnamable r.text))
  let index := t.size
  let names ← names.claim t ident index r.text
  let names ← names.claim t (Ident.metadata ident) index r.text
  let t ← t.insert { ident, instr := Instr.ofRecord r, record := r }
  pure (names, t)

/-- The table of `records`, in their order. -/
def compile (records : List Record) : Except Error Table :=
  (records.foldlM compileStep (Names.reserved, empty)).map Prod.snd

/-! ### What one step does

One lemma for each way a step can end: the first failed check, in the order of the checks, or the
record added under its two names. -/

section Step

variable {names : Names} {t : Table} {r : Record}

theorem metadata_ne (s : String) : Ident.metadata s ≠ s := by
  intro h
  have := congrArg String.length h
  simp [Ident.metadata] at this

theorem compileStep_of_unnamable (h : Ident.isEmittable (Ident.canonical r.text) = false) :
    compileStep (names, t) r = .error (.malformed r.line (.unnamable r.text)) := by
  simp only [compileStep, h]
  rfl

theorem compileStep_of_ident_taken (he : Ident.isEmittable (Ident.canonical r.text) = true)
    {o : NameOwner} (h : names.lookup (Ident.canonical r.text) = some o) :
    compileStep (names, t) r =
      .error (.nameCollision (Ident.canonical r.text) (Names.describe t o) r.text) := by
  simp [compileStep, bind, Except.bind, he, Names.claim, h]

theorem compileStep_of_metadata_taken (he : Ident.isEmittable (Ident.canonical r.text) = true)
    (hi : names.lookup (Ident.canonical r.text) = none) {o : NameOwner}
    (h : names.lookup (Ident.metadata (Ident.canonical r.text)) = some o) :
    compileStep (names, t) r = .error
      (.nameCollision (Ident.metadata (Ident.canonical r.text)) (Names.describe t o) r.text) := by
  simp [compileStep, bind, Except.bind, he, Names.claim, hi, h,
    Names.lookup_cons_of_ne _ (metadata_ne _)]

theorem compileStep_of_code_taken (he : Ident.isEmittable (Ident.canonical r.text) = true)
    (hi : names.lookup (Ident.canonical r.text) = none)
    (hm : names.lookup (Ident.metadata (Ident.canonical r.text)) = none) {first : Entry}
    (h : t.entry? r.code = some first) :
    compileStep (names, t) r = .error (.duplicateOpcode r.code first.record.text r.text) := by
  simp [compileStep, bind, Except.bind, he, Names.claim, hi, hm,
    Names.lookup_cons_of_ne _ (metadata_ne _), insert, h]

theorem compileStep_of_fresh (he : Ident.isEmittable (Ident.canonical r.text) = true)
    (hi : names.lookup (Ident.canonical r.text) = none)
    (hm : names.lookup (Ident.metadata (Ident.canonical r.text)) = none)
    (h : t.entry? r.code = none) :
    compileStep (names, t) r = .ok ((Ident.metadata (Ident.canonical r.text), .entry t.size) ::
      (Ident.canonical r.text, .entry t.size) :: names,
      t.push { ident := Ident.canonical r.text, instr := Instr.ofRecord r, record := r }) := by
  simp [compileStep, bind, Except.bind, he, Names.claim, hi, hm,
    Names.lookup_cons_of_ne _ (metadata_ne _), insert, h, pure, Except.pure]

end Step

end Table

end Opcodes
