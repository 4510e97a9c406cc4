import Opcodes.Proofs.Compilation
import Mathlib.Data.List.Basic
/-!
# The views of a compiled table

A table compiled from records answers every question about its instructions from one of two
places: the entries, in definition order, and the 256 slots that map an opcode to the position of
its entry. `Opcodes.Table.Indexes rs t` says what every view of `t` returns when it is built from
the records `rs`. Compilation keeps the two places in step (`Opcodes.Reached`), and from that
invariant every view follows.

## Main definitions

* `Opcodes.Table.Indexes` — what each view of a table of records returns.

## Main results

* `Opcodes.Table.indexes_of_reached` — the views of any state of compilation.
* `Opcodes.Table.indexes_of_compile_eq_ok` — **a compiled table indexes its records**: its
  entries are the records in order, each byte finds the record with that opcode or nothing, and the
  unassigned bytes and the constant lists are what the records give.
-/

set_option autoImplicit false

namespace Opcodes

namespace Table

/-- What the views of a table `t` built from the records `rs` return: the entries are the records
in order with their names and metadata; the opcodes are distinct, so there are at most 256; a byte
finds the entry of the record with that opcode, or nothing if no record has it, and decoding gives
that entry's metadata; every slot points into the entries; the unassigned bytes are, in increasing
order, exactly those that decode to nothing; and the constant lists follow the records. -/
structure Indexes (rs : List Record) (t : Table) : Prop where
  entries_eq : t.entries.toList = rs.map Entry.ofRecord
  codes_nodup : (rs.map (·.code)).Nodup
  size_le : t.size ≤ 256
  entry?_code : ∀ i (hi : i < rs.length), t.entry? rs[i].code = some (Entry.ofRecord rs[i])
  entry?_eq_none : ∀ b, (∀ r ∈ rs, r.code ≠ b) → t.entry? b = none
  decode_eq : ∀ b, t.decode b = (t.entry? b).map (·.instr)
  code_of_decode : ∀ b m, t.decode b = some m → m.code = b
  slot_lt : ∀ b i, t.slot b = some i → i < t.size
  unassigned_pairwise : t.unassigned.Pairwise (· < ·)
  mem_unassigned : ∀ b, b ∈ t.unassigned ↔ t.decode b = none
  length_unassigned : t.unassigned.length = 256 - t.size
  opcodeConstants_eq : t.opcodeConstants = rs.map fun r => (r.ident, r.code)
  metadataConstants_eq :
    t.metadataConstants = rs.map fun r => (Ident.metadata r.ident, Instr.ofRecord r)

section Views

variable {rs : List Record} {names : Names} {t : Table}

theorem decode_eq_none_iff {b : UInt8} : t.decode b = none ↔ t.slot b = none := by
  rw [decode_eq_entry?_map, Option.map_eq_none_iff, entry?_eq_none_iff]

/-- The bytes with an instruction are the opcodes of the records, each once. -/
theorem length_filter_slot_isSome (hc : Compilable rs) (hs : Reached rs names t) :
    (allBytes.filter fun b => (t.slot b).isSome).length = rs.length := by
  have hnodup : allBytes.Nodup := allBytes_pairwise_lt.imp fun h he => by simp [he] at h
  have hperm : (allBytes.filter fun b => (t.slot b).isSome).Perm (rs.map (·.code)) := by
    rw [List.perm_ext_iff_of_nodup (hnodup.filter _) hc.codes_nodup]
    intro b
    simp only [List.mem_filter, mem_allBytes, true_and, Option.isSome_iff_exists, List.mem_map]
    constructor
    · rintro ⟨i, hi⟩
      obtain ⟨h, hcode⟩ := (hs.slot_iff b i).mp hi
      exact ⟨rs[i], List.getElem_mem h, hcode⟩
    · rintro ⟨r, hr, rfl⟩
      obtain ⟨i, hi, rfl⟩ := List.getElem_of_mem hr
      exact ⟨i, (hs.slot_iff _ i).mpr ⟨hi, rfl⟩⟩
  simpa using hperm.length_eq

theorem length_unassigned_of_reached (hc : Compilable rs) (hs : Reached rs names t) :
    t.unassigned.length = 256 - t.size := by
  have hsplit := List.length_eq_length_filter_add (l := allBytes) fun b => (t.slot b).isSome
  rw [length_allBytes, length_filter_slot_isSome hc hs] at hsplit
  simp only [Option.not_isSome] at hsplit
  rw [unassigned, hs.size_eq]
  omega

/-- Every state of compilation indexes the records added so far. -/
theorem indexes_of_reached (hc : Compilable rs) (hs : Reached rs names t) : Indexes rs t where
  entries_eq := hs.entries_eq
  codes_nodup := hc.codes_nodup
  size_le := by
    have := hc.codes_nodup.length_le_of_subset fun b _ => mem_allBytes b
    simpa [length_allBytes, hs.size_eq] using this
  entry?_code i hi := by
    rw [entry?_eq_of_slot ((hs.slot_iff _ i).mpr ⟨hi, rfl⟩), hs.getElem?_entries hi]
  entry?_eq_none b h := by
    cases hb : t.slot b with
    | none => exact entry?_eq_none_iff.mpr hb
    | some i =>
      obtain ⟨hi, hcode⟩ := (hs.slot_iff b i).mp hb
      exact absurd hcode (h _ (List.getElem_mem hi))
  decode_eq := decode_eq_entry?_map t
  code_of_decode b m h := by
    rw [decode_eq_entry?_map, Option.map_eq_some_iff] at h
    obtain ⟨e, he, rfl⟩ := h
    obtain ⟨j, hj, hcode, rfl⟩ := hs.entry?_eq_some he
    simpa using hcode
  slot_lt b i h := t.slots_lt b.toFin i h
  unassigned_pairwise := allBytes_pairwise_lt.filter _
  mem_unassigned b := by
    simp [unassigned, mem_allBytes, decode_eq_none_iff]
  length_unassigned := length_unassigned_of_reached hc hs
  opcodeConstants_eq := by
    simp [opcodeConstants, hs.entries_eq, Function.comp_def, Instr.ofRecord]
  metadataConstants_eq := by
    simp [metadataConstants, Entry.metadataIdent, hs.entries_eq, Function.comp_def]

end Views

/-- **A compiled table indexes its records.** -/
theorem indexes_of_compile_eq_ok {rs : List Record} {t : Table} (h : compile rs = .ok t) :
    Indexes rs t := by
  obtain ⟨hc, names, hs⟩ := reached_of_compile_eq_ok h
  exact indexes_of_reached hc hs

theorem indexes_of_compile_add_sub :
    ∃ rs t, rs = [(⟨some .i32, some .i32, some .i32, none, 0, .absent, 0x6a, none, "i32.add", 1⟩ :
        Record), ⟨some .i32, some .i32, some .i32, none, 0, .absent, 0x6b, none, "i32.sub", 2⟩] ∧
      compile rs = .ok t ∧ Indexes rs t :=
  ⟨_, _, rfl, rfl, indexes_of_compile_eq_ok rfl⟩

end Table

end Opcodes
