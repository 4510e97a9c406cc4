import Opcodes.Ident
import Opcodes.Instr
/-!
# Opcode tables

An opcode table holds the entries of its instructions in definition order, and an index of 256
slots from an opcode byte to the position of the entry with that opcode. An entry keeps the
record, its constant name and its metadata. Every position in the index is a position of the
entry array, so looking a byte up never fails.

## Main definitions

* `Opcodes.Table.Entry` — the record of an instruction with its name and metadata.
* `Opcodes.Table` — entries and slots.
* `Opcodes.Table.empty`, `Opcodes.Table.push`.
* `Opcodes.Table.entry?`, `Opcodes.Table.decode` — the entry and the metadata of a byte.
* `Opcodes.Table.unassigned`, `Opcodes.Table.opcodeConstants`,
  `Opcodes.Table.metadataConstants` — the views of the table.
-/

namespace Opcodes

/-- One instruction of a table: its constant name, its metadata and the record it comes from. -/
structure Table.Entry where
  /-- The name of the opcode constant. -/
  ident : String
  /-- The metadata of the instruction. -/
  instr : Instr
  /-- The record the instruction comes from. -/
  record : Record
deriving DecidableEq, Repr, Inhabited

/-- The name of the metadata constant of an entry. -/
def Table.Entry.metadataIdent (e : Table.Entry) : String :=
  Ident.metadata e.ident

/-- An opcode table. -/
structure Table where
  /-- The entries, in definition order. -/
  entries : Array Table.Entry
  /-- The position of the entry of each opcode byte. -/
  slots : Vector (Option Nat) 256
  /-- Every position in the index is a position of an entry. -/
  slots_lt : ∀ (b : Fin 256) (i : Nat), slots[b] = some i → i < entries.size

namespace Table

/-- The table without instructions. -/
def empty : Table where
  entries := #[]
  slots := Vector.replicate 256 none
  slots_lt b i h := by simp at h

/-- The table with the entry `e` added last, in the slot of its record's opcode. -/
def push (t : Table) (e : Entry) : Table where
  entries := t.entries.push e
  slots := t.slots.set e.record.code.toNat (some t.entries.size) e.record.code.toNat_lt
  slots_lt b i h := by
    simp only [Fin.getElem_fin, Vector.getElem_set] at h
    simp only [Array.size_push]
    split at h
    · simp at h
      omega
    · have := t.slots_lt b i h
      omega

/-- The position of the entry with opcode `b`, if any. -/
def slot (t : Table) (b : UInt8) : Option Nat :=
  t.slots[b.toFin]

/-- The entry with opcode `b`, if any. -/
def entry? (t : Table) (b : UInt8) : Option Entry :=
  match h : t.slot b with
  | some i =>
    have : i < t.entries.size := t.slots_lt b.toFin i h
    some t.entries[i]
  | none => none

/-- The metadata of the instruction with opcode `b`, if any. -/
def decode (t : Table) (b : UInt8) : Option Instr :=
  match h : t.slot b with
  | some i =>
    have : i < t.entries.size := t.slots_lt b.toFin i h
    some t.entries[i].instr
  | none => none

/-- The number of instructions. -/
def size (t : Table) : Nat :=
  t.entries.size

/-- Whether the table has no instructions. -/
def isEmpty (t : Table) : Bool :=
  t.entries.isEmpty

/-- All bytes, in increasing order. -/
def allBytes : List UInt8 :=
  (List.range 256).map Nat.toUInt8

/-- The bytes that no instruction uses, in increasing order. -/
def unassigned (t : Table) : List UInt8 :=
  allBytes.filter fun b => (t.slot b).isNone

/-- The name and the opcode of each opcode constant, in definition order. -/
def opcodeConstants (t : Table) : List (String × UInt8) :=
  t.entries.toList.map fun e => (e.ident, e.instr.code)

/-- The name and the metadata of each metadata constant, in definition order. -/
def metadataConstants (t : Table) : List (String × Instr) :=
  t.entries.toList.map fun e => (e.metadataIdent, e.instr)

@[simp] theorem entries_empty : empty.entries = #[] := rfl

@[simp] theorem slot_empty (b : UInt8) : empty.slot b = none := by
  simp [slot, empty]

@[simp] theorem size_push (t : Table) (e : Entry) : (t.push e).size = t.size + 1 := by
  simp [size, push]

@[simp] theorem slot_push (t : Table) (e : Entry) (b : UInt8) :
    (t.push e).slot b = if e.record.code = b then some t.size else t.slot b := by
  simp only [slot, push, size, Fin.getElem_fin, Vector.getElem_set]
  by_cases h : e.record.code = b
  · simp [h]
  · simp only [h, if_false]
    rw [if_neg]
    intro e
    exact h (UInt8.toNat_inj.mp e)

@[simp] theorem entries_push (t : Table) (e : Entry) : (t.push e).entries = t.entries.push e :=
  rfl

theorem mem_allBytes (b : UInt8) : b ∈ allBytes := by
  simp only [allBytes, List.mem_map, List.mem_range]
  exact ⟨b.toNat, b.toNat_lt, by simp⟩

theorem length_allBytes : allBytes.length = 256 := by
  simp [allBytes]

theorem allBytes_pairwise_lt : allBytes.Pairwise (· < ·) := by
  simp only [allBytes, List.pairwise_map]
  refine List.Pairwise.imp_of_mem ?_ List.pairwise_lt_range
  intro n m hn hm h
  simp only [List.mem_range] at hn hm
  simp [UInt8.lt_iff_toNat_lt, Nat.toUInt8, Nat.mod_eq_of_lt hn, Nat.mod_eq_of_lt hm, h]

/-- The entry of a byte is the entry at the position its slot holds. -/
theorem entry?_eq_of_slot {t : Table} {b : UInt8} {i : Nat} (h : t.slot b = some i) :
    t.entry? b = t.entries[i]? := by
  have hi : i < t.entries.size := t.slots_lt b.toFin i h
  unfold entry?
  split
  · rename_i j hj
    obtain rfl : j = i := Option.some.inj (hj.symm.trans h)
    simp [hi]
  · simp_all

theorem entry?_eq_none_iff {t : Table} {b : UInt8} : t.entry? b = none ↔ t.slot b = none := by
  unfold entry?
  split <;> simp_all

/-- Decoding reads the slot of a byte as `entry?` does, and keeps the metadata. -/
theorem decode_eq_entry?_map (t : Table) (b : UInt8) : t.decode b = (t.entry? b).map (·.instr) := by
  cases h : t.slot b with
  | none =>
    rw [entry?_eq_none_iff.mpr h]
    unfold decode
    split <;> simp_all
  | some i =>
    have hi : i < t.entries.size := t.slots_lt b.toFin i h
    rw [entry?_eq_of_slot h, Array.getElem?_eq_getElem hi]
    unfold decode
    split
    · rename_i j hj
      obtain rfl : j = i := Option.some.inj (hj.symm.trans h)
      rfl
    · simp_all

end Table

end Opcodes
