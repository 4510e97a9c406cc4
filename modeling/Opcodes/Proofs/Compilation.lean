import Opcodes.Table.Compile
import Mathlib.Data.List.Nodup
/-!
# Compiling records into a table

Compilation adds records to a table one at a time and stops at the first record that breaks a
rule. This module states the rules without reference to how compilation runs: when a list of
records compiles (`Opcodes.Compilable`), and which error the first record that breaks a rule
meets (`Opcodes.Fault`). It then proves that compilation does exactly this. The proof follows the
run: `Opcodes.Reached` says what the names and the table hold after a prefix of the records, one
step keeps it, and so does the whole fold.

## Main definitions

* `Opcodes.Record.ident`, `Opcodes.Record.constNames` — the constant names a record defines.
* `Opcodes.moduleNames` — all constant names of the module: the preamble's, then two per record.
* `Opcodes.Compilable`, `Opcodes.Fits` — the rules of compilation, for a list and for one more
  record.
* `Opcodes.Owns`, `Opcodes.Fault` — the owner of a name, and the error of the first broken rule.
* `Opcodes.Reached` — the state of compilation after a prefix of the records.

## Main results

* `Opcodes.Table.compileStep_error_iff`, `Opcodes.Table.reached_of_compileStep_eq_ok` — one step.
* `Opcodes.Table.foldlM_compileStep_ok`, `Opcodes.Table.foldlM_compileStep_error_iff` — the run.
* `Opcodes.Table.compile_ok_iff_and_error_iff` — **compilation succeeds exactly on compilable
  records, and otherwise fails with the error of the first record that breaks a rule**.
-/

set_option autoImplicit false

namespace Opcodes

/-! ### The rules of compilation -/

namespace Record

/-- The name of the opcode constant of a record. -/
def ident (r : Record) : String :=
  Ident.canonical r.text

/-- The two constant names a record defines: its opcode constant and its metadata constant. -/
def constNames (r : Record) : List String :=
  [r.ident, Ident.metadata r.ident]

theorem constNames_nodup (r : Record) : r.constNames.Nodup := by
  simp [constNames, Ne.symm (Table.metadata_ne r.ident)]

end Record

/-- The entry a record becomes in a table. -/
def Table.Entry.ofRecord (r : Record) : Table.Entry where
  ident := r.ident
  instr := Instr.ofRecord r
  record := r

@[simp] theorem Table.Entry.ofRecord_record (r : Record) : (Table.Entry.ofRecord r).record = r :=
  rfl

@[simp] theorem Table.Entry.ofRecord_ident (r : Record) :
    (Table.Entry.ofRecord r).ident = r.ident :=
  rfl

@[simp] theorem Table.Entry.ofRecord_instr (r : Record) :
    (Table.Entry.ofRecord r).instr = Instr.ofRecord r :=
  rfl

/-- The constant names of the module generated for the records `rs`: the preamble's, then two
for each record, in order. -/
def moduleNames (rs : List Record) : List String :=
  Ident.reserved ++ rs.flatMap Record.constNames

@[simp] theorem moduleNames_append_singleton (rs : List Record) (r : Record) :
    moduleNames (rs ++ [r]) = moduleNames rs ++ r.constNames := by
  simp [moduleNames]

/-- The records `rs` obey the rules of compilation: every mnemonic gives a usable constant name,
the constant names of the module are pairwise distinct, and so are the opcodes. -/
structure Compilable (rs : List Record) : Prop where
  emittable : ∀ r ∈ rs, Ident.isEmittable r.ident = true
  names_nodup : (moduleNames rs).Nodup
  codes_nodup : (rs.map (·.code)).Nodup

/-- The record `r` may follow the records `pre`: its name is usable, its two names and its opcode
are new. -/
structure Fits (pre : List Record) (r : Record) : Prop where
  emittable : Ident.isEmittable r.ident = true
  ident_fresh : r.ident ∉ moduleNames pre
  metadata_fresh : Ident.metadata r.ident ∉ moduleNames pre
  code_fresh : r.code ∉ pre.map (·.code)

theorem compilable_nil : Compilable [] where
  emittable := by simp
  names_nodup := by decide
  codes_nodup := by simp

theorem compilable_append_singleton_iff {pre : List Record} {r : Record} :
    Compilable (pre ++ [r]) ↔ Compilable pre ∧ Fits pre r := by
  constructor
  · intro h
    have hn := h.names_nodup
    have hc := h.codes_nodup
    simp only [moduleNames_append_singleton, List.nodup_append] at hn
    simp only [List.map_append, List.map_singleton, List.nodup_append] at hc
    refine ⟨⟨fun r' hr' => h.emittable r' (by simp [hr']), hn.1, hc.1⟩,
      ⟨h.emittable r (by simp), ?_, ?_, ?_⟩⟩
    · exact fun hm => hn.2.2 _ hm _ (by simp [Record.constNames]) rfl
    · exact fun hm => hn.2.2 _ hm _ (by simp [Record.constNames]) rfl
    · exact fun hm => hc.2.2 _ hm _ (List.mem_singleton_self _) rfl
  · rintro ⟨hc, hf⟩
    refine ⟨?_, ?_, ?_⟩
    · intro r' hr'
      rcases List.mem_append.mp hr' with hr' | hr'
      · exact hc.emittable r' hr'
      · rw [List.mem_singleton.mp hr']
        exact hf.emittable
    · rw [moduleNames_append_singleton, List.nodup_append]
      refine ⟨hc.names_nodup, r.constNames_nodup, ?_⟩
      intro a ha b hb hab
      subst hab
      simp only [Record.constNames, List.mem_cons, List.not_mem_nil, or_false] at hb
      rcases hb with rfl | rfl
      · exact hf.ident_fresh ha
      · exact hf.metadata_fresh ha
    · rw [List.map_append, List.map_singleton, List.nodup_append]
      exact ⟨hc.codes_nodup, List.nodup_singleton _,
        fun a ha b hb hab => hf.code_fresh (by rw [List.mem_singleton.mp hb] at hab; rwa [← hab])⟩

theorem Compilable.of_append {l₁ l₂ : List Record} (h : Compilable (l₁ ++ l₂)) :
    Compilable l₁ where
  emittable r hr := h.emittable r (List.mem_append_left _ hr)
  names_nodup := h.names_nodup.sublist (by simp [moduleNames])
  codes_nodup := h.codes_nodup.sublist (by simp)

/-! ### Owners of names and the first broken rule -/

/-- `Owns rs n o`: among the preamble and the records `rs`, `o` defines the constant name `n`. -/
inductive Owns (rs : List Record) (n : String) : Owner → Prop
  | preamble : n ∈ Ident.reserved → Owns rs n .preamble
  | record (j : Nat) (hj : j < rs.length) : n ∈ rs[j].constNames → Owns rs n (.record rs[j].text)

theorem mem_moduleNames_iff {rs : List Record} {n : String} :
    n ∈ moduleNames rs ↔ ∃ o, Owns rs n o := by
  constructor
  · intro h
    rcases List.mem_append.mp h with h | h
    · exact ⟨_, .preamble h⟩
    · obtain ⟨r, hr, hn⟩ := List.mem_flatMap.mp h
      obtain ⟨j, hj, rfl⟩ := List.getElem_of_mem hr
      exact ⟨_, .record j hj hn⟩
  · rintro ⟨o, ho⟩
    cases ho with
    | preamble h => exact List.mem_append_left _ h
    | record j hj h =>
      exact List.mem_append_right _ (List.mem_flatMap.mpr ⟨_, List.getElem_mem hj, h⟩)

/-- A name of a module whose names are distinct has one owner. -/
theorem Owns.unique {rs : List Record} {n : String} {o₁ o₂ : Owner}
    (hn : (moduleNames rs).Nodup) (h₁ : Owns rs n o₁) (h₂ : Owns rs n o₂) : o₁ = o₂ := by
  rw [moduleNames, List.nodup_append] at hn
  obtain ⟨-, hflat, hapart⟩ := hn
  have hpair := (List.nodup_flatMap.mp hflat).2
  rw [List.pairwise_iff_getElem] at hpair
  cases h₁ with
  | preamble hp =>
    cases h₂ with
    | preamble => rfl
    | record j hj hr =>
      exact absurd rfl (hapart n hp n (List.mem_flatMap.mpr ⟨_, List.getElem_mem hj, hr⟩))
  | record i hi hr =>
    cases h₂ with
    | preamble hp =>
      exact absurd rfl (hapart n hp n (List.mem_flatMap.mpr ⟨_, List.getElem_mem hi, hr⟩))
    | record j hj hr' =>
      rcases Nat.lt_trichotomy i j with hij | rfl | hij
      · exact absurd hr' (List.disjoint_left.mp (hpair i j hi hj hij) hr)
      · rfl
      · exact absurd hr (List.disjoint_left.mp (hpair j i hj hi hij) hr')

/-- `Fault pre r e`: after the records `pre`, the record `r` breaks a rule of compilation, and `e`
is the error of the first check it fails. The checks are, in order: its name is usable, its name
is new, the name of its metadata constant is new, its opcode is new. -/
inductive Fault (pre : List Record) (r : Record) : Error → Prop
  | unnamable : Ident.isEmittable r.ident = false →
      Fault pre r (.malformed r.line (.unnamable r.text))
  | identTaken {o : Owner} : Ident.isEmittable r.ident = true → Owns pre r.ident o →
      Fault pre r (.nameCollision r.ident o r.text)
  | metadataTaken {o : Owner} : Ident.isEmittable r.ident = true → r.ident ∉ moduleNames pre →
      Owns pre (Ident.metadata r.ident) o →
      Fault pre r (.nameCollision (Ident.metadata r.ident) o r.text)
  | codeTaken (j : Nat) (hj : j < pre.length) : Ident.isEmittable r.ident = true →
      r.ident ∉ moduleNames pre → Ident.metadata r.ident ∉ moduleNames pre → pre[j].code = r.code →
      Fault pre r (.duplicateOpcode r.code pre[j].text r.text)

/-- A record fits exactly when it breaks no rule. -/
theorem fits_iff_no_fault {pre : List Record} {r : Record} :
    Fits pre r ↔ ∀ e, ¬ Fault pre r e := by
  constructor
  · intro hf e h
    cases h with
    | unnamable he => simp [hf.emittable] at he
    | identTaken _ ho => exact hf.ident_fresh (mem_moduleNames_iff.mpr ⟨_, ho⟩)
    | metadataTaken _ _ ho => exact hf.metadata_fresh (mem_moduleNames_iff.mpr ⟨_, ho⟩)
    | codeTaken j hj _ _ _ hc => exact hf.code_fresh (List.mem_map.mpr ⟨_, List.getElem_mem hj, hc⟩)
  · intro h
    have he : Ident.isEmittable r.ident = true := by
      cases he : Ident.isEmittable r.ident with
      | true => rfl
      | false => exact absurd (.unnamable he) (h _)
    have hi : r.ident ∉ moduleNames pre := fun hm =>
      let ⟨_, ho⟩ := mem_moduleNames_iff.mp hm
      h _ (.identTaken he ho)
    have hm : Ident.metadata r.ident ∉ moduleNames pre := fun hm =>
      let ⟨_, ho⟩ := mem_moduleNames_iff.mp hm
      h _ (.metadataTaken he hi ho)
    refine ⟨he, hi, hm, fun hc => ?_⟩
    obtain ⟨r', hr', hc⟩ := List.mem_map.mp hc
    obtain ⟨j, hj, rfl⟩ := List.getElem_of_mem hr'
    exact h _ (.codeTaken j hj he hi hm hc)

/-- After compilable records, a record breaks a rule in one way only. -/
theorem Fault.unique {pre : List Record} {r : Record} {e₁ e₂ : Error} (hc : Compilable pre)
    (h₁ : Fault pre r e₁) (h₂ : Fault pre r e₂) : e₁ = e₂ := by
  have mem {n : String} {o : Owner} (h : Owns pre n o) : n ∈ moduleNames pre :=
    mem_moduleNames_iff.mpr ⟨o, h⟩
  cases h₁ with
  | unnamable he => cases h₂ <;> simp_all
  | identTaken he ho =>
    cases h₂ with
    | unnamable he' => simp_all
    | identTaken _ ho' => rw [Owns.unique hc.names_nodup ho ho']
    | metadataTaken _ hi => exact absurd (mem ho) hi
    | codeTaken _ _ _ hi => exact absurd (mem ho) hi
  | metadataTaken he hi ho =>
    cases h₂ with
    | unnamable he' => simp_all
    | identTaken _ ho' => exact absurd (mem ho') hi
    | metadataTaken _ _ ho' => rw [Owns.unique hc.names_nodup ho ho']
    | codeTaken _ _ _ _ hm => exact absurd (mem ho) hm
  | codeTaken j hj he hi hm hcode =>
    cases h₂ with
    | unnamable he' => simp_all
    | identTaken _ ho' => exact absurd (mem ho') hi
    | metadataTaken _ _ ho' => exact absurd (mem ho') hm
    | codeTaken j' hj' _ _ _ hcode' =>
      have hjj : j = j' := by
        have hnodup := hc.codes_nodup
        rw [List.nodup_iff_injective_get] at hnodup
        have := @hnodup ⟨j, by simpa using hj⟩ ⟨j', by simpa using hj'⟩ (by simp [hcode, hcode'])
        simpa using this
      subst hjj
      rfl

/-! ### The state of compilation after a prefix of the records -/

/-- The state of compilation after the records `pre`: the table holds their entries in order, the
slot of a byte holds the position of the record with that opcode, and the names map holds the
constant names of `pre`, the preamble's as such and each other with the position of its record. -/
structure Reached (pre : List Record) (names : Names) (t : Table) : Prop where
  entries_eq : t.entries.toList = pre.map Table.Entry.ofRecord
  slot_iff : ∀ b i, t.slot b = some i ↔ ∃ h : i < pre.length, pre[i].code = b
  defined_iff : ∀ n, (names.lookup n).isSome ↔ n ∈ moduleNames pre
  preamble_owns : ∀ n, names.lookup n = some .preamble → n ∈ Ident.reserved
  entry_owns : ∀ n j, names.lookup n = some (.entry j) → ∃ h : j < pre.length, n ∈ pre[j].constNames

namespace Reached

variable {pre : List Record} {names : Names} {t : Table}

theorem size_eq (hs : Reached pre names t) : t.size = pre.length := by
  have := congrArg List.length hs.entries_eq
  simpa [Table.size] using this

theorem getElem?_entries (hs : Reached pre names t) {i : Nat} (hi : i < pre.length) :
    t.entries[i]? = some (Table.Entry.ofRecord pre[i]) := by
  rw [← Array.getElem?_toList, hs.entries_eq]
  simp [hi]

/-- The owner that an error names is the owner of the name among the preamble and `pre`. -/
theorem owns_describe (hs : Reached pre names t) {n : String} {o : NameOwner}
    (h : names.lookup n = some o) : Owns pre n (Names.describe t o) := by
  cases o with
  | preamble => exact .preamble (hs.preamble_owns n h)
  | entry j =>
    obtain ⟨hj, hn⟩ := hs.entry_owns n j h
    have hj' : j < t.entries.size := by rw [← Table.size, hs.size_eq]; exact hj
    have he : t.entries[j]! = Table.Entry.ofRecord pre[j] := by
      rw [getElem!_pos t.entries j hj']
      simpa [hj'] using hs.getElem?_entries hj
    simp only [Names.describe, he]
    exact .record j hj hn

theorem entry?_eq_some (hs : Reached pre names t) {b : UInt8} {e : Table.Entry}
    (h : t.entry? b = some e) : ∃ j, ∃ hj : j < pre.length, pre[j].code = b ∧
      e = Table.Entry.ofRecord pre[j] := by
  cases hb : t.slot b with
  | none => simp [Table.entry?_eq_none_iff.mpr hb] at h
  | some j =>
    obtain ⟨hj, hcode⟩ := (hs.slot_iff b j).mp hb
    rw [Table.entry?_eq_of_slot hb, hs.getElem?_entries hj] at h
    exact ⟨j, hj, hcode, (Option.some.inj h).symm⟩

end Reached

theorem mem_of_lookup_eq_some {names : Names} {n : String} {o : NameOwner}
    (h : names.lookup n = some o) : (n, o) ∈ names := by
  obtain ⟨l₁, l₂, rfl, -⟩ := List.lookup_eq_some_iff.mp h
  simp

theorem reached_nil : Reached [] Names.reserved Table.empty where
  entries_eq := rfl
  slot_iff b i := by simp
  defined_iff n := by simp [Names.reserved, moduleNames]
  preamble_owns n h := by
    simpa [Names.reserved] using mem_of_lookup_eq_some h
  entry_owns n j h := by
    simpa [Names.reserved] using mem_of_lookup_eq_some h

/-- A position in a list with one more record is a position of the list or the new last one. -/
theorem exists_getElem_append_singleton {pre : List Record} {r : Record} {i : Nat}
    {p : Record → Prop} :
    (∃ h : i < (pre ++ [r]).length, p (pre ++ [r])[i]) ↔
      (∃ h : i < pre.length, p pre[i]) ∨ (i = pre.length ∧ p r) := by
  constructor
  · rintro ⟨h, hp⟩
    rcases Nat.lt_or_ge i pre.length with hi | hi
    · exact .inl ⟨hi, by rwa [List.getElem_append_left hi] at hp⟩
    · have hi' : i = pre.length := by simp at h; omega
      subst hi'
      exact .inr ⟨rfl, by simpa using hp⟩
  · rintro (⟨hi, hp⟩ | ⟨rfl, hp⟩)
    · exact ⟨by simp; omega, by rwa [List.getElem_append_left hi]⟩
    · exact ⟨by simp, by simpa using hp⟩

/-- The names map after a record's two names are claimed for the entry `o`. -/
theorem lookup_claimed (names : Names) (r : Record) (o : NameOwner) (n : String) :
    ((Ident.metadata r.ident, o) :: (r.ident, o) :: names).lookup n =
      if n ∈ r.constNames then some o else names.lookup n := by
  by_cases hm : n = Ident.metadata r.ident
  · subst hm
    simp [Record.constNames]
  · by_cases hi : n = r.ident
    · subst hi
      simp [Names.lookup_cons_of_ne _ hm, Record.constNames]
    · simp [Names.lookup_cons_of_ne _ hm, Names.lookup_cons_of_ne _ hi, Record.constNames, hm, hi]

/-- Adding a record that fits, under its two names and in the slot of its opcode, reaches the
state of the longer prefix. -/
theorem Reached.push {pre : List Record} {names : Names} {t : Table} {r : Record}
    (hs : Reached pre names t) (hf : Fits pre r) :
    Reached (pre ++ [r]) ((Ident.metadata r.ident, .entry t.size) :: (r.ident, .entry t.size) ::
      names) (t.push (Table.Entry.ofRecord r)) where
  entries_eq := by simp [hs.entries_eq]
  slot_iff b i := by
    rw [Table.slot_push, Table.Entry.ofRecord_record, hs.size_eq,
      exists_getElem_append_singleton (p := fun x => x.code = b), ← hs.slot_iff]
    by_cases hb : r.code = b
    · subst hb
      -- no earlier record has the opcode, so its slot was empty
      have hnone : t.slot r.code = none := by
        cases h : t.slot r.code with
        | none => rfl
        | some j =>
          obtain ⟨hj, hcode⟩ := (hs.slot_iff _ j).mp h
          exact absurd (List.mem_map.mpr ⟨_, List.getElem_mem hj, hcode⟩) hf.code_fresh
      simp [hnone, eq_comm]
    · simp [hb]
  defined_iff n := by
    rw [lookup_claimed, moduleNames_append_singleton, List.mem_append]
    by_cases hn : n ∈ r.constNames <;> simp [hn, hs.defined_iff]
  preamble_owns n h := by
    rw [lookup_claimed] at h
    by_cases hn : n ∈ r.constNames
    · simp [hn] at h
    · simp only [hn, if_false] at h
      exact hs.preamble_owns n h
  entry_owns n j h := by
    rw [lookup_claimed] at h
    rw [exists_getElem_append_singleton (p := fun x => n ∈ x.constNames)]
    by_cases hn : n ∈ r.constNames
    · simp only [hn, if_true, Option.some.injEq, NameOwner.entry.injEq] at h
      exact .inr ⟨by rw [← h, hs.size_eq], hn⟩
    · simp only [hn, if_false] at h
      exact .inl (hs.entry_owns n j h)

/-! ### One step of compilation -/

namespace Table

variable {pre : List Record} {names : Names} {t : Table} {r : Record}

/-- Every error of a step is the error of the first rule that the record breaks. -/
theorem fault_of_compileStep_eq_error (hs : Reached pre names t) {e : Error}
    (h : compileStep (names, t) r = .error e) : Fault pre r e := by
  cases he : Ident.isEmittable r.ident with
  | false =>
    rw [compileStep_of_unnamable he] at h
    cases h
    exact .unnamable he
  | true =>
    cases hi : names.lookup r.ident with
    | some o =>
      rw [compileStep_of_ident_taken he hi] at h
      cases h
      exact .identTaken he (hs.owns_describe hi)
    | none =>
      have hi' : r.ident ∉ moduleNames pre := by simp [← hs.defined_iff, hi]
      cases hm : names.lookup (Ident.metadata r.ident) with
      | some o =>
        rw [compileStep_of_metadata_taken he hi hm] at h
        cases h
        exact .metadataTaken he hi' (hs.owns_describe hm)
      | none =>
        have hm' : Ident.metadata r.ident ∉ moduleNames pre := by simp [← hs.defined_iff, hm]
        cases hb : t.entry? r.code with
        | some first =>
          rw [compileStep_of_code_taken he hi hm hb] at h
          cases h
          obtain ⟨j, hj, hcode, rfl⟩ := hs.entry?_eq_some hb
          exact .codeTaken j hj he hi' hm' hcode
        | none =>
          rw [compileStep_of_fresh he hi hm hb] at h
          cases h

/-- A step that succeeds adds a record that fits, and reaches the state of the longer prefix. -/
theorem reached_of_compileStep_eq_ok (hs : Reached pre names t) {s : Names × Table}
    (h : compileStep (names, t) r = .ok s) : Fits pre r ∧ Reached (pre ++ [r]) s.1 s.2 := by
  cases he : Ident.isEmittable r.ident with
  | false =>
    rw [compileStep_of_unnamable he] at h
    cases h
  | true =>
    cases hi : names.lookup r.ident with
    | some o =>
      rw [compileStep_of_ident_taken he hi] at h
      cases h
    | none =>
      cases hm : names.lookup (Ident.metadata r.ident) with
      | some o =>
        rw [compileStep_of_metadata_taken he hi hm] at h
        cases h
      | none =>
        cases hb : t.entry? r.code with
        | some first =>
          rw [compileStep_of_code_taken he hi hm hb] at h
          cases h
        | none =>
          rw [compileStep_of_fresh he hi hm hb] at h
          cases h
          -- the slot of the opcode is empty, so no earlier record has the opcode
          have hcode : r.code ∉ pre.map (·.code) := by
            intro hmem
            obtain ⟨r', hr', hc⟩ := List.mem_map.mp hmem
            obtain ⟨j, hj, rfl⟩ := List.getElem_of_mem hr'
            have hslot := (hs.slot_iff r.code j).mpr ⟨hj, hc⟩
            simp [Table.entry?_eq_none_iff.mp hb] at hslot
          have hf : Fits pre r :=
            ⟨he, by simp [← hs.defined_iff, hi], by simp [← hs.defined_iff, hm], hcode⟩
          exact ⟨hf, hs.push hf⟩

/-- After compilable records, a step fails exactly with the error of the first rule that the
record breaks. -/
theorem compileStep_error_iff (hc : Compilable pre) (hs : Reached pre names t) (e : Error) :
    compileStep (names, t) r = .error e ↔ Fault pre r e := by
  constructor
  · exact fault_of_compileStep_eq_error hs
  · intro hf
    cases h : compileStep (names, t) r with
    | error e' => rw [Fault.unique hc hf (fault_of_compileStep_eq_error hs h)]
    | ok s => exact absurd hf (fits_iff_no_fault.mp (reached_of_compileStep_eq_ok hs h).1 e)

/-! ### The run -/

/-- A run that succeeds has added compilable records, and reaches the state they give. -/
theorem foldlM_compileStep_ok (rs : List Record) {pre : List Record} {names : Names} {t : Table}
    {s : Names × Table} (hc : Compilable pre) (hs : Reached pre names t)
    (h : rs.foldlM compileStep (names, t) = .ok s) :
    Compilable (pre ++ rs) ∧ Reached (pre ++ rs) s.1 s.2 := by
  induction rs generalizing pre names t with
  | nil =>
    cases h
    simpa using ⟨hc, hs⟩
  | cons r rs ih =>
    rw [List.foldlM_cons] at h
    cases hstep : compileStep (names, t) r with
    | error e =>
      rw [hstep] at h
      cases h
    | ok s₁ =>
      rw [hstep] at h
      obtain ⟨hf, hs₁⟩ := reached_of_compileStep_eq_ok hs hstep
      have hc₁ : Compilable (pre ++ [r]) := compilable_append_singleton_iff.mpr ⟨hc, hf⟩
      simpa using ih hc₁ hs₁ h

/-- A run from compilable records fails exactly with the error of the first record that breaks a
rule. -/
theorem foldlM_compileStep_error_iff (rs : List Record) {pre : List Record} {names : Names}
    {t : Table} (hc : Compilable pre) (hs : Reached pre names t) (e : Error) :
    rs.foldlM compileStep (names, t) = .error e ↔
      ∃ k, ∃ hk : k < rs.length,
        Compilable (pre ++ rs.take k) ∧ Fault (pre ++ rs.take k) rs[k] e := by
  induction rs generalizing pre names t with
  | nil => simp [pure, Except.pure]
  | cons r rs ih =>
    rw [List.foldlM_cons]
    cases hstep : compileStep (names, t) r with
    | error e₀ =>
      have hf₀ := fault_of_compileStep_eq_error hs hstep
      constructor
      · rintro ⟨⟩
        exact ⟨0, by simp, by simpa using hc, by simpa using hf₀⟩
      · rintro ⟨k, hk, hck, hfk⟩
        cases k with
        | zero =>
          simp only [List.take_zero, List.append_nil, List.getElem_cons_zero] at hfk
          rw [Fault.unique hc hf₀ hfk]
          rfl
        | succ k =>
          -- a later failure needs the first record to fit, and it does not
          rw [List.take_succ_cons, ← List.singleton_append, ← List.append_assoc] at hck
          have hf := (compilable_append_singleton_iff.mp hck.of_append).2
          exact absurd hf₀ (fits_iff_no_fault.mp hf e₀)
    | ok s₁ =>
      obtain ⟨hf, hs₁⟩ := reached_of_compileStep_eq_ok hs hstep
      have hc₁ : Compilable (pre ++ [r]) := compilable_append_singleton_iff.mpr ⟨hc, hf⟩
      show rs.foldlM compileStep s₁ = .error e ↔ _
      rw [ih hc₁ hs₁]
      constructor
      · rintro ⟨k, hk, hck, hfk⟩
        exact ⟨k + 1, by simpa using hk, by simpa using hck, by simpa using hfk⟩
      · rintro ⟨k, hk, hck, hfk⟩
        cases k with
        | zero => exact absurd (by simpa using hfk) (fits_iff_no_fault.mp hf e)
        | succ k => exact ⟨k, by simpa using hk, by simpa using hck, by simpa using hfk⟩

/-- Records are compilable exactly when none breaks a rule against the records before it. -/
theorem compilable_take_iff (rs : List Record) {k : Nat} (hk : k ≤ rs.length) :
    Compilable (rs.take k) ↔ ∀ i (hi : i < k), ∀ e, ¬ Fault (rs.take i) rs[i] e := by
  induction k with
  | zero => simpa using compilable_nil
  | succ k ih =>
    rw [List.take_succ_eq_append_getElem (by omega), compilable_append_singleton_iff,
      ih (by omega), fits_iff_no_fault]
    constructor
    · rintro ⟨hbefore, hlast⟩ i hi
      rcases Nat.lt_succ_iff_lt_or_eq.mp hi with hi | rfl
      · exact hbefore i hi
      · exact hlast
    · intro h
      exact ⟨fun i hi => h i (by omega), h k (by omega)⟩

/-- In compilable records, no record breaks a rule. -/
theorem no_fault_of_compilable {rs : List Record} (hc : Compilable rs) {k : Nat}
    (hk : k < rs.length) (e : Error) : ¬ Fault (rs.take k) rs[k] e := by
  rw [← List.take_append_drop (k + 1) rs] at hc
  exact (compilable_take_iff rs hk).mp hc.of_append k (Nat.lt_succ_self k) e

/-- A compilation that succeeds compiled compilable records, and its table is the state they
reach. -/
theorem reached_of_compile_eq_ok {rs : List Record} {t : Table} (h : compile rs = .ok t) :
    Compilable rs ∧ ∃ names, Reached rs names t := by
  unfold compile at h
  cases hrun : rs.foldlM compileStep (Names.reserved, empty) with
  | error e => simp [hrun, Except.map] at h
  | ok s =>
    simp only [hrun, Except.map, Except.ok.injEq] at h
    subst h
    obtain ⟨hc, hs⟩ := foldlM_compileStep_ok rs compilable_nil reached_nil hrun
    simp only [List.nil_append] at hc hs
    exact ⟨hc, s.1, hs⟩

/-- **Compilation succeeds exactly on compilable records; otherwise it fails with the error of
the first rule broken by the first record that breaks one.** -/
theorem compile_ok_iff_and_error_iff (rs : List Record) :
    ((∃ t, compile rs = .ok t) ↔ Compilable rs) ∧
    ∀ e, compile rs = .error e ↔ ∃ k, ∃ hk : k < rs.length,
      (∀ i (hi : i < k), ∀ e', ¬ Fault (rs.take i) rs[i] e') ∧ Fault (rs.take k) rs[k] e := by
  have herr := foldlM_compileStep_error_iff rs compilable_nil reached_nil
  simp only [List.nil_append] at herr
  unfold compile
  cases hrun : rs.foldlM compileStep (Names.reserved, empty) with
  | ok s =>
    have hc := (foldlM_compileStep_ok rs compilable_nil reached_nil hrun).1
    simp only [List.nil_append] at hc
    refine ⟨by simp [Except.map, hc], fun e => ?_⟩
    simp only [Except.map, reduceCtorEq, false_iff]
    rintro ⟨k, hk, -, hf⟩
    exact no_fault_of_compilable hc hk e hf
  | error e₀ =>
    obtain ⟨k, hk, hck, hfk⟩ := (herr e₀).mp hrun
    refine ⟨?_, fun e => ?_⟩
    · simp only [Except.map, reduceCtorEq, exists_false, false_iff]
      exact fun hc => no_fault_of_compilable hc hk e₀ hfk
    · simp only [Except.map, Except.error.injEq]
      constructor
      · rintro rfl
        exact ⟨k, hk, (compilable_take_iff rs (Nat.le_of_lt hk)).mp hck, hfk⟩
      · rintro ⟨k', hk', hck', hfk'⟩
        have h := (herr e).mpr ⟨k', hk', (compilable_take_iff rs (Nat.le_of_lt hk')).mpr hck', hfk'⟩
        rw [hrun] at h
        cases h
        rfl

end Table

end Opcodes
