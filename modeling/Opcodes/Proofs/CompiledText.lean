import Opcodes.Compiled
import Opcodes.Proofs.CompiledTable
import Opcodes.Proofs.RecordLine
import Mathlib.Data.List.ReduceOption
/-!
# Compiling a definition text

`Opcodes.Compiled.ofText` reads the lines of a text one after another, stops at the first line
that is faulty, and compiles the records of the rows it keeps. This module says what it returns in
terms of single lines, each read on its own with its number: the first faulty line decides the
error; otherwise the outcome is the compilation of the retained records in line order, so a
dropped row takes no opcode and no name. The counts follow the lines: every record line is a row,
and every row is retained, dropped for a vector result, or dropped for a prefix. The entries of
the table are the retained lines, in order, each holding its own line number.

## Main definitions

* `Opcodes.Row.Reads` — lines read one by one without fault, one optional row for each.

## Main results

* `Opcodes.Row.readFrom_eq_ok_of_reads`, `Opcodes.Row.readFrom_eq_error_of_first` — reading a list
  of lines.
* `Opcodes.Row.Reads.summary_ofRows` — the counts of the rows of lines.
* `Opcodes.Row.Reads.entries_of_compile_eq_ok` — the entries of the table of those rows.
* `Opcodes.Compiled.ofText_lines` — **a text compiles as its lines read**.
-/

set_option autoImplicit false

namespace Opcodes

namespace Row

/-! ### One line at a time -/

/-- Lines read one by one without fault: the lines `ls`, the first numbered `n`, are read as
`outs`, each line as a row or as nothing. -/
inductive Reads (marker : String) : Nat → List String → List (Option Row) → Prop
  | nil (n : Nat) : Reads marker n [] []
  | cons {n : Nat} {l : String} {ls : List String} {o : Option Row} {outs : List (Option Row)} :
      parse marker n l = .ok o → Reads marker (n + 1) ls outs → Reads marker n (l :: ls) (o :: outs)

section Lines

variable {marker : String}

theorem reads_of_getElem {n : Nat} {ls : List String} {outs : List (Option Row)}
    (hlen : outs.length = ls.length)
    (h : ∀ i (h₁ : i < ls.length) (h₂ : i < outs.length), parse marker (n + i) ls[i] = .ok outs[i]) :
    Reads marker n ls outs := by
  induction ls generalizing n outs with
  | nil =>
    cases outs with
    | nil => exact .nil n
    | cons _ _ => simp at hlen
  | cons l ls ih =>
    cases outs with
    | nil => simp at hlen
    | cons o outs =>
      refine .cons ?_ (ih (by simpa using hlen) fun i h₁ h₂ => ?_)
      · have hfirst := h 0 (by simp) (by simp)
        simpa only [Nat.add_zero, List.getElem_cons_zero] using hfirst
      · have hnext := h (i + 1) (by simpa using h₁) (by simpa using h₂)
        rw [show n + 1 + i = n + (i + 1) by omega]
        simpa only [List.getElem_cons_succ] using hnext

theorem reduceOption_cons (o : Option Row) (outs : List (Option Row)) :
    (o :: outs).reduceOption = o.toList ++ outs.reduceOption := by
  cases o <;> simp [List.reduceOption_cons_of_some, List.reduceOption_cons_of_none]

/-- Lines read without fault are read as their rows. -/
theorem readFrom_eq_ok_of_reads {n : Nat} {ls : List String} {outs : List (Option Row)}
    (h : Reads marker n ls outs) : readFrom marker n ls = .ok outs.reduceOption := by
  induction h with
  | nil => rfl
  | cons hl _ ih => simp [readFrom, hl, ih, bind, Except.bind, pure, Except.pure, reduceOption_cons]

/-- The first faulty line stops the reading with its error. -/
theorem readFrom_eq_error_of_first {n i : Nat} {ls : List String} {e : Error} (hi : i < ls.length)
    (he : parse marker (n + i) ls[i] = .error e)
    (hbefore : ∀ j (hj : j < i), ∃ o, parse marker (n + j) ls[j] = .ok o) :
    readFrom marker n ls = .error e := by
  induction ls generalizing n i with
  | nil => simp at hi
  | cons l ls ih =>
    cases i with
    | zero =>
      simp only [Nat.add_zero, List.getElem_cons_zero] at he
      simp [readFrom, he, bind, Except.bind]
    | succ i =>
      obtain ⟨o, ho⟩ := hbefore 0 (Nat.succ_pos i)
      simp only [Nat.add_zero, List.getElem_cons_zero] at ho
      have htail : readFrom marker (n + 1) ls = .error e := by
        refine ih (by simpa using hi) ?_ fun j hj => ?_
        · rw [show n + 1 + i = n + (i + 1) by omega]
          simpa using he
        · obtain ⟨o', ho'⟩ := hbefore (j + 1) (by omega)
          exact ⟨o', by rw [show n + 1 + j = n + (j + 1) by omega]; simpa using ho'⟩
      simp [readFrom, ho, htail, bind, Except.bind]

/-! ### What one line gives -/

/-- A line read without fault gives a row exactly when it starts with the marker and `(`. -/
theorem isSome_of_parse_eq_ok {line : String} {n : Nat} {o : Option Row}
    (h : parse marker n line = .ok o) :
    o.isSome = (marker.toList ++ ['(']).isPrefixOf line.toList := by
  rcases parse_cases marker n line with ⟨hp, hn⟩ | ⟨c, hc, hs⟩ | ⟨-, -, m, hm⟩
  · rw [hn] at h
    cases h
    have : (marker.toList ++ ['(']).isPrefixOf line.toList = false := by
      simpa [← List.isPrefixOf_iff_prefix] using hp
    rw [this]
    rfl
  · rw [hs, Except.map_some_eq_ok_iff] at h
    obtain ⟨row, -, rfl⟩ := h
    rw [List.isPrefixOf_iff_prefix.mpr (prefix_of_ofLine hc)]
    rfl
  · rw [hm] at h
    cases h

/-- The record of a retained row holds the number its line was read with. -/
theorem line_of_parse_eq_retained {line : String} {n : Nat} {r : Record}
    (h : parse marker n line = .ok (some (.retained r))) : r.line = n := by
  rcases parse_cases marker n line with ⟨-, hn⟩ | ⟨c, -, hs⟩ | ⟨-, -, m, hm⟩
  · rw [hn] at h
    cases h
  · rw [hs, Except.map_some_eq_ok_iff] at h
    obtain ⟨row, hrow, hr⟩ := h
    cases hr
    obtain ⟨-, -, -, -, -, rfl⟩ := ofColumns_eq_retained_iff.mp hrow
    rfl
  · rw [hm] at h
    cases h

end Lines

/-! ### The rows of lines -/

theorem records_cons (row : Row) (rows : List Row) :
    records (row :: rows) = row.record?.toList ++ records rows := by
  cases row <;> rfl

theorem records_append (rows rows' : List Row) :
    records (rows ++ rows') = records rows ++ records rows' :=
  List.filterMap_append

/-- The record of a line read as nothing or as a row is its record if the row is retained. -/
theorem mem_records_toList {o : Option Row} {r : Record} :
    r ∈ records o.toList ↔ o = some (.retained r) := by
  cases o with
  | none => simp [records]
  | some row => cases row <;> simp [records, record?, eq_comm]

/-- Every row is retained, dropped for a vector result, or dropped for a prefix. -/
theorem length_records_add_countP (rows : List Row) :
    (records rows).length + rows.countP isVectorResult + rows.countP isPrefixed = rows.length := by
  induction rows with
  | nil => rfl
  | cons row rows ih =>
    rw [records_cons, List.length_append, List.countP_cons, List.countP_cons, List.length_cons]
    cases row with
    | retained r => simp [record?, isVectorResult, isPrefixed]; omega
    | dropped t c reason =>
      cases reason <;> simp [record?, isVectorResult, isPrefixed] <;> omega

theorem countP_reduceOption (p : Row → Bool) (outs : List (Option Row)) :
    outs.reduceOption.countP p = outs.countP (·.any p) := by
  rw [List.reduceOption, List.countP_filterMap]
  congr
  funext o
  cases o <;> rfl

namespace Reads

variable {marker : String} {n : Nat} {ls : List String} {outs : List (Option Row)}

/-- The lines that give a row are the record lines. -/
theorem countP_isSome (h : Reads marker n ls outs) :
    outs.countP Option.isSome =
      ls.countP fun l => (marker.toList ++ ['(']).isPrefixOf l.toList := by
  induction h with
  | nil => rfl
  | cons hl _ ih => simp [List.countP_cons, ih, isSome_of_parse_eq_ok hl]

/-- Every retained record comes from its own line, whose number it holds. -/
theorem exists_of_mem_records (h : Reads marker n ls outs) {r : Record}
    (hr : r ∈ records outs.reduceOption) :
    ∃ i, ∃ hi : i < outs.length, outs[i] = some (.retained r) ∧ r.line = n + i := by
  induction h with
  | nil => simp [records] at hr
  | @cons n l ls o outs hl _ ih =>
    rw [reduceOption_cons, records_append, List.mem_append] at hr
    rcases hr with hr | hr
    · have ho := mem_records_toList.mp hr
      subst ho
      exact ⟨0, by simp, rfl, by simpa using line_of_parse_eq_retained hl⟩
    · obtain ⟨i, hi, hget, hline⟩ := ih hr
      exact ⟨i + 1, by simpa using hi, by simpa using hget, by omega⟩

/-- The retained records hold increasing line numbers. -/
theorem pairwise_lines (h : Reads marker n ls outs) :
    ((records outs.reduceOption).map (·.line)).Pairwise (· < ·) := by
  induction h with
  | nil => simp [records]
  | @cons n l ls o outs hl hrest ih =>
    rw [reduceOption_cons, records_append, List.map_append, List.pairwise_append]
    -- the first line gives at most one record, numbered `n`; the records of later lines come after
    have hfirst : ∀ r ∈ records o.toList, r.line = n := fun r hr =>
      line_of_parse_eq_retained (mem_records_toList.mp hr ▸ hl)
    refine ⟨?_, ih, fun a ha b hb => ?_⟩
    · cases o with
      | none => exact List.Pairwise.nil
      | some row =>
        cases row with
        | retained r => exact List.pairwise_singleton _ _
        | dropped => exact List.Pairwise.nil
    · obtain ⟨r, hr, rfl⟩ := List.mem_map.mp ha
      obtain ⟨r', hr', rfl⟩ := List.mem_map.mp hb
      obtain ⟨i, -, -, hline⟩ := hrest.exists_of_mem_records hr'
      rw [hfirst r hr, hline]
      omega

/-- The counts of the rows of lines read without fault: the rows are the record lines; the
dropped rows are the lines dropped for a vector result and for a prefix; the others are
retained. -/
theorem summary_ofRows (h : Reads marker n ls outs) :
    (Summary.ofRows outs.reduceOption).rows =
        ls.countP (fun l => (marker.toList ++ ['(']).isPrefixOf l.toList) ∧
      (Summary.ofRows outs.reduceOption).droppedVector = outs.countP (·.any isVectorResult) ∧
      (Summary.ofRows outs.reduceOption).droppedPrefixed = outs.countP (·.any isPrefixed) ∧
      (Summary.ofRows outs.reduceOption).retained =
        (Summary.ofRows outs.reduceOption).rows - (Summary.ofRows outs.reduceOption).droppedVector -
          (Summary.ofRows outs.reduceOption).droppedPrefixed := by
  have hrows : outs.reduceOption.length = outs.countP Option.isSome := by
    rw [List.reduceOption_length_eq, List.countP_eq_length_filter]
  have hsplit := length_records_add_countP outs.reduceOption
  refine ⟨hrows.trans h.countP_isSome, countP_reduceOption _ _, countP_reduceOption _ _, ?_⟩
  simp only [Summary.ofRows]
  omega

/-- The table compiled from the rows of lines holds the retained records in line order, each from
its own line and holding that line's number; every opcode of the table leads to one of them. -/
theorem entries_of_compile_eq_ok (h : Reads marker n ls outs) {t : Table}
    (ht : Table.compile (records outs.reduceOption) = .ok t) :
    t.size = (records outs.reduceOption).length ∧
      t.entries.toList.map (·.record) = records outs.reduceOption ∧
      (t.entries.toList.map (·.record.line)).Pairwise (· < ·) ∧
      (∀ e ∈ t.entries.toList, ∃ i, ∃ hi : i < outs.length,
        outs[i] = some (.retained e.record) ∧ e.record.line = n + i) ∧
      ∀ b e, t.entry? b = some e → ∃ i, ∃ hi : i < outs.length, outs[i] = some (.retained e.record) := by
  obtain ⟨-, names, hs⟩ := Table.reached_of_compile_eq_ok ht
  have hrecords : t.entries.toList.map (·.record) = records outs.reduceOption := by
    simp [hs.entries_eq, Function.comp_def]
  have hfrom : ∀ e ∈ t.entries.toList, ∃ i, ∃ hi : i < outs.length,
      outs[i] = some (.retained e.record) ∧ e.record.line = n + i := fun e he =>
    h.exists_of_mem_records (hrecords ▸ List.mem_map_of_mem he)
  refine ⟨hs.size_eq, hrecords, ?_, hfrom, fun b e he => ?_⟩
  · have hmap : t.entries.toList.map (·.record.line) =
        (t.entries.toList.map (·.record)).map (·.line) := by
      simp [Function.comp_def]
    rw [hmap, hrecords]
    exact h.pairwise_lines
  · obtain ⟨j, hj, -, rfl⟩ := hs.entry?_eq_some he
    have hmem : Table.Entry.ofRecord (records outs.reduceOption)[j] ∈ t.entries.toList := by
      rw [hs.entries_eq]
      exact List.mem_map_of_mem (List.getElem_mem hj)
    obtain ⟨i, hi, hget, -⟩ := hfrom _ hmem
    exact ⟨i, hi, hget⟩

end Reads

end Row

/-! ### The compiled text -/

namespace Compiled

/-- Once the lines are read, the text compiles as the records of its rows do. -/
theorem ofText_eq_of_readAll {text marker : String} {rows : List Row}
    (h : Row.readAll marker (Text.lines text) = .ok rows) :
    ofText text marker =
      (Table.compile (Row.records rows)).map fun table => { summary := Summary.ofRows rows, table } := by
  simp only [ofText, h, bind, Except.bind]
  cases Table.compile (Row.records rows) <;> rfl

/-- **A text compiles as its lines read.** Each line is read on its own, with its number counted
from one. If some line is faulty, the first faulty line gives the error. Otherwise the text
compiles exactly when the records of the retained lines do, in line order, with the same table or
the same error, so a dropped row neither takes an opcode nor clashes with a name. Then the
summary counts the record lines as rows, the lines dropped for a vector result and for a prefix,
and the other rows as retained, which are the entries of the table; the entries are the retained
lines in order, each holding the number of its own line, and every opcode of the table leads to a
retained line. -/
theorem ofText_lines (text marker : String) :
    (∀ i (hi : i < (Text.lines text).length) e,
      Row.parse marker (i + 1) (Text.lines text)[i] = .error e →
      (∀ j (hj : j < i), ∃ o, Row.parse marker (j + 1) (Text.lines text)[j] = .ok o) →
      ofText text marker = .error e) ∧
    ∀ outs : List (Option Row), outs.length = (Text.lines text).length →
      (∀ i (h₁ : i < (Text.lines text).length) (h₂ : i < outs.length),
        Row.parse marker (i + 1) (Text.lines text)[i] = .ok outs[i]) →
      (ofText text marker).map (·.table) = Table.compile (Row.records outs.reduceOption) ∧
      ∀ c, ofText text marker = .ok c →
        c.summary.rows =
          (Text.lines text).countP (fun l => (marker.toList ++ ['(']).isPrefixOf l.toList) ∧
        c.summary.droppedVector = outs.countP (·.any Row.isVectorResult) ∧
        c.summary.droppedPrefixed = outs.countP (·.any Row.isPrefixed) ∧
        c.summary.retained = c.summary.rows - c.summary.droppedVector - c.summary.droppedPrefixed ∧
        c.summary.retained = c.table.size ∧
        c.table.entries.toList.map (·.record) = Row.records outs.reduceOption ∧
        (c.table.entries.toList.map (·.record.line)).Pairwise (· < ·) ∧
        (∀ e ∈ c.table.entries.toList, ∃ i, ∃ hi : i < outs.length,
          outs[i] = some (.retained e.record) ∧ e.record.line = i + 1) ∧
        ∀ b e, c.table.entry? b = some e →
          ∃ i, ∃ hi : i < outs.length, outs[i] = some (.retained e.record) := by
  refine ⟨fun i hi e he hbefore => ?faulty, fun outs hlen hread => ?read⟩
  case faulty =>
    have hrun : Row.readAll marker (Text.lines text) = .error e :=
      Row.readFrom_eq_error_of_first hi (by rwa [Nat.add_comm]) fun j hj => by
        simpa [Nat.add_comm] using hbefore j hj
    simp [ofText, hrun, bind, Except.bind]
  case read =>
    have hreads : Row.Reads marker 1 (Text.lines text) outs :=
      Row.reads_of_getElem hlen fun i h₁ h₂ => by rw [Nat.add_comm]; exact hread i h₁ h₂
    rw [ofText_eq_of_readAll (Row.readFrom_eq_ok_of_reads hreads)]
    refine ⟨by cases Table.compile (Row.records outs.reduceOption) <;> rfl, fun c hc => ?_⟩
    cases ht : Table.compile (Row.records outs.reduceOption) with
    | error e => simp [ht, Except.map] at hc
    | ok t =>
      simp only [ht, Except.map, Except.ok.injEq] at hc
      subst hc
      obtain ⟨hrows, hvector, hprefixed, hretained⟩ := hreads.summary_ofRows
      obtain ⟨hsize, hrecords, hlines, hfrom, hslots⟩ := hreads.entries_of_compile_eq_ok ht
      refine ⟨hrows, hvector, hprefixed, hretained, hsize.symm, hrecords, hlines,
        fun e he => ?_, hslots⟩
      obtain ⟨i, hi, hget, hline⟩ := hfrom e he
      exact ⟨i, hi, hget, by omega⟩

/-- A text whose prefixed row reuses the opcode and the mnemonic of a retained row, with a comment
line between them, is read line by line, and compiles as its one retained record does. -/
theorem ofText_lines_prefixed_reuse :
    ∃ (text : String) (outs : List (Option Row)),
      text = "WABT_OPCODE(___, ___, ___, ___, 0, 0, 0x01, \"nop\")\n" ++ "// prefixed\n" ++
        "WABT_OPCODE(___, ___, ___, ___, 0, 0xfc, 0x01, \"nop\")\n" ∧
      outs = [some (.retained ⟨none, none, none, none, 0, .absent, 0x01, none, "nop", 1⟩), none,
        some (.dropped "nop" 0x01 (.prefixed 0xfc))] ∧
      outs.length = (Text.lines text).length ∧
      (∀ i (h₁ : i < (Text.lines text).length) (h₂ : i < outs.length),
        Row.parse "WABT_OPCODE" (i + 1) (Text.lines text)[i] = .ok outs[i]) ∧
      (ofText text "WABT_OPCODE").map (·.table) = Table.compile (Row.records outs.reduceOption) := by
  obtain ⟨text, htext⟩ : ∃ text : String,
      text = "WABT_OPCODE(___, ___, ___, ___, 0, 0, 0x01, \"nop\")\n" ++ "// prefixed\n" ++
        "WABT_OPCODE(___, ___, ___, ___, 0, 0xfc, 0x01, \"nop\")\n" := ⟨_, rfl⟩
  obtain ⟨outs, houts⟩ : ∃ outs : List (Option Row), outs =
      [some (.retained ⟨none, none, none, none, 0, .absent, 0x01, none, "nop", 1⟩), none,
        some (.dropped "nop" 0x01 (.prefixed 0xfc))] := ⟨_, rfl⟩
  have hlines : Text.lines text = ["WABT_OPCODE(___, ___, ___, ___, 0, 0, 0x01, \"nop\")",
      "// prefixed", "WABT_OPCODE(___, ___, ___, ___, 0, 0xfc, 0x01, \"nop\")"] := by
    subst htext
    decide +kernel
  have hlen : outs.length = (Text.lines text).length := by
    rw [hlines, houts]
    rfl
  have hread : ∀ i (h₁ : i < (Text.lines text).length) (h₂ : i < outs.length),
      Row.parse "WABT_OPCODE" (i + 1) (Text.lines text)[i] = .ok outs[i] := by
    rw [hlines]
    subst houts
    intro i
    match i with
    | 0 => intro _ _; simp only [List.getElem_cons_zero, Nat.reduceAdd]; rfl
    | 1 => intro _ _; simp only [List.getElem_cons_succ, List.getElem_cons_zero, Nat.reduceAdd]; rfl
    | 2 => intro _ _; simp only [List.getElem_cons_succ, List.getElem_cons_zero, Nat.reduceAdd]; rfl
    | _ + 3 => intro h₁; exact absurd h₁ (by simp)
  exact ⟨text, outs, htext, houts, hlen, hread,
    ((ofText_lines text "WABT_OPCODE").2 outs hlen hread).1⟩

end Compiled

end Opcodes
