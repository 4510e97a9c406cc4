import Opcodes.Definition.Row
import Opcodes.Proofs.RecordColumns
/-!
# Record lines

`Opcodes.Row.parse` reads one line of a definition table. This module says what it returns for
every line, in terms of the line's layout rather than the reader's steps: a line is a record line
when it starts with the marker and `(`; such a line stands for columns when it is laid out as
fields separated by commas, its last `)`, and blanks or a comment, with fields that stand for the
columns (`Opcodes.Row.OfLine`). Its row is then decided by the columns: a vector result drops it,
then a prefix drops it, then a vector operand is an error, and otherwise it is retained with the
record the columns say. A record line that stands for no columns is malformed.

## Main definitions

* `Opcodes.Columns.toRecord` — the record of a retained row.
* `Opcodes.Row.Layout`, `Opcodes.Row.OfLine` — the layout of a record line and the columns it
  stands for.

## Main results

* `Opcodes.Row.ofColumns_cases` — the four rows columns can give.
* `Opcodes.Row.parse_cases` — no record line, a line that stands for columns, or a malformed one.
* `Opcodes.Row.parse_eq_iff` — **what every line is read as**.
-/

set_option autoImplicit false

namespace Opcodes

/-- The record that the columns of a retained row on line `n` stand for: void as none, and no
prefix. -/
def Columns.toRecord (c : Columns) (n : Nat) : Record where
  result := c.result.valueType?
  operand1 := c.operand1.valueType?
  operand2 := c.operand2.valueType?
  operand3 := c.operand3.valueType?
  memory := c.memory
  lead := .absent
  code := c.code
  name := c.name
  text := c.text
  line := n

namespace Row

/-! ### The layout of a record line -/

/-- The record line `line` with marker `marker`: the marker, `(`, the fields `fs` joined by commas,
the last `)`, and after it the text `t`, blank or a comment. -/
def Layout (marker line : String) (fs : List (List Char)) (t : List Char) : Prop :=
  line.toList = marker.toList ++ '(' :: ([','].intercalate fs ++ ')' :: t) ∧
    (∀ f ∈ fs, ',' ∉ f) ∧ ')' ∉ t ∧ Columns.BlankOrComment t

/-- The record line `line` with marker `marker` stands for the columns `c`. -/
def OfLine (marker line : String) (c : Columns) : Prop :=
  ∃ fs t, Layout marker line fs t ∧ Columns.Denotes fs c

theorem args?_eq_some_iff {marker line : String} {args : List Char} :
    args? marker line = some args ↔ line.toList = marker.toList ++ '(' :: args := by
  unfold args?
  dsimp only
  split
  · rename_i h
    rw [List.isPrefixOf_iff_prefix, List.prefix_iff_eq_append] at h
    constructor
    · rintro ⟨⟩
      simpa using h.symm
    · intro h'
      simp [h']
  · rename_i h
    simp only [reduceCtorEq, false_iff]
    intro h'
    simp [h'] at h

theorem args?_eq_none_iff {marker line : String} :
    args? marker line = none ↔ ¬ (marker.toList ++ ['(']) <+: line.toList := by
  unfold args?
  dsimp only
  split
  · rename_i h
    simpa using h
  · rename_i h
    simpa using h

theorem ofLine_iff {marker line : String} {c : Columns} :
    OfLine marker line c ↔ ∃ args, args? marker line = some args ∧ Columns.read args = .ok c := by
  simp only [OfLine, Layout, args?_eq_some_iff, Columns.read_eq_ok_iff]
  constructor
  · rintro ⟨fs, t, ⟨hline, hfs, ht, hbc⟩, hd⟩
    exact ⟨_, hline, fs, t, rfl, hfs, ht, hbc, hd⟩
  · rintro ⟨args, hline, fs, t, rfl, hfs, ht, hbc, hd⟩
    exact ⟨fs, t, ⟨hline, hfs, ht, hbc⟩, hd⟩

theorem prefix_of_ofLine {marker line : String} {c : Columns} (h : OfLine marker line c) :
    (marker.toList ++ ['(']) <+: line.toList := by
  obtain ⟨fs, t, ⟨hline, -⟩, -⟩ := h
  rw [hline]
  exact ⟨[','].intercalate fs ++ ')' :: t, by simp⟩

/-- A record line stands for one set of columns at most. -/
theorem OfLine.unique {marker line : String} {c c' : Columns} (h : OfLine marker line c)
    (h' : OfLine marker line c') : c = c' := by
  obtain ⟨args, hargs, hread⟩ := ofLine_iff.mp h
  obtain ⟨args', hargs', hread'⟩ := ofLine_iff.mp h'
  rw [hargs] at hargs'
  cases hargs'
  rw [hread] at hread'
  cases hread'
  rfl

/-! ### The row of the columns -/

theorem operand?_of_ne_vector {x : ColumnType} (h : x ≠ .vector) :
    x.operand? = some x.valueType? := by
  cases x with
  | void => rfl
  | value t => rfl
  | vector => exact absurd rfl h

/-- What the columns of a record line give: a vector result drops the row, then a prefix does,
then a vector operand is an error, and otherwise the row is retained. -/
theorem ofColumns_cases (n : Nat) (c : Columns) :
    (c.result = .vector ∧ ofColumns n c = .ok (.dropped c.text c.code .vectorResult)) ∨
    (c.result ≠ .vector ∧ c.leadByte ≠ 0 ∧
      ofColumns n c = .ok (.dropped c.text c.code (.prefixed c.leadByte))) ∨
    (c.result ≠ .vector ∧ c.leadByte = 0 ∧
      (c.operand1 = .vector ∨ c.operand2 = .vector ∨ c.operand3 = .vector) ∧
      ofColumns n c = .error (.unsupportedOperand n c.text)) ∨
    (c.result ≠ .vector ∧ c.leadByte = 0 ∧ c.operand1 ≠ .vector ∧ c.operand2 ≠ .vector ∧
      c.operand3 ≠ .vector ∧ ofColumns n c = .ok (.retained (c.toRecord n))) := by
  by_cases hr : c.result = .vector
  · exact .inl ⟨hr, by simp [ofColumns, hr]⟩
  by_cases hp : c.leadByte = 0
  · by_cases ho : c.operand1 = .vector ∨ c.operand2 = .vector ∨ c.operand3 = .vector
    · refine .inr (.inr (.inl ⟨hr, hp, ho, ?_⟩))
      rcases ho with ho | ho | ho <;> simp [ofColumns, hr, hp, ho, ColumnType.operand?]
    · simp only [not_or] at ho
      obtain ⟨h₁, h₂, h₃⟩ := ho
      refine .inr (.inr (.inr ⟨hr, hp, h₁, h₂, h₃, ?_⟩))
      simp [ofColumns, hr, hp, operand?_of_ne_vector h₁, operand?_of_ne_vector h₂,
        operand?_of_ne_vector h₃, Columns.toRecord]
  · exact .inr (.inl ⟨hr, hp, by simp [ofColumns, hr, hp]⟩)

theorem ofColumns_eq_retained_iff {n : Nat} {c : Columns} {r : Record} :
    ofColumns n c = .ok (.retained r) ↔ c.result ≠ .vector ∧ c.leadByte = 0 ∧
      c.operand1 ≠ .vector ∧ c.operand2 ≠ .vector ∧ c.operand3 ≠ .vector ∧ r = c.toRecord n := by
  rcases ofColumns_cases n c with ⟨hr, h⟩ | ⟨hr, hp, h⟩ | ⟨hr, hp, ho, h⟩ | ⟨hr, hp, h₁, h₂, h₃, h⟩
  · simp [h, hr]
  · simp [h, hp]
  · rw [h]
    simp only [reduceCtorEq, false_iff]
    rintro ⟨-, -, h₁, h₂, h₃, -⟩
    rcases ho with ho | ho | ho <;> contradiction
  · simp [h, hr, hp, h₁, h₂, h₃, eq_comm]

theorem ofColumns_eq_dropped_iff {n : Nat} {c : Columns} {text : String} {code : UInt8}
    {reason : DropReason} :
    ofColumns n c = .ok (.dropped text code reason) ↔ text = c.text ∧ code = c.code ∧
      (c.result = .vector ∧ reason = .vectorResult ∨
        c.result ≠ .vector ∧ c.leadByte ≠ 0 ∧ reason = .prefixed c.leadByte) := by
  rcases ofColumns_cases n c with ⟨hr, h⟩ | ⟨hr, hp, h⟩ | ⟨hr, hp, ho, h⟩ | ⟨hr, hp, h₁, h₂, h₃, h⟩
  · simp [h, hr, eq_comm]
  · simp [h, hr, hp, eq_comm]
  · simp [h, hr, hp]
  · simp [h, hr, hp]

theorem ofColumns_eq_error_iff {n : Nat} {c : Columns} {e : Error} :
    ofColumns n c = .error e ↔ c.result ≠ .vector ∧ c.leadByte = 0 ∧
      (c.operand1 = .vector ∨ c.operand2 = .vector ∨ c.operand3 = .vector) ∧
      e = .unsupportedOperand n c.text := by
  rcases ofColumns_cases n c with ⟨hr, h⟩ | ⟨hr, hp, h⟩ | ⟨hr, hp, ho, h⟩ | ⟨hr, hp, h₁, h₂, h₃, h⟩
  · simp [h, hr]
  · simp [h, hp]
  · rw [h]
    constructor
    · rintro ⟨⟩
      exact ⟨hr, hp, ho, rfl⟩
    · rintro ⟨-, -, -, rfl⟩
      rfl
  · simp [h, h₁, h₂, h₃]

/-! ### The row of a line -/

/-- Every line is no record line, or a record line that stands for columns, or a malformed one. -/
theorem parse_cases (marker : String) (n : Nat) (line : String) :
    (¬ (marker.toList ++ ['(']) <+: line.toList ∧ parse marker n line = .ok none) ∨
    (∃ c, OfLine marker line c ∧ parse marker n line = (ofColumns n c).map some) ∨
    ((marker.toList ++ ['(']) <+: line.toList ∧ (¬ ∃ c, OfLine marker line c) ∧
      ∃ m, parse marker n line = .error (.malformed n m)) := by
  unfold parse
  cases hargs : args? marker line with
  | none => exact .inl ⟨args?_eq_none_iff.mp hargs, rfl⟩
  | some args =>
    dsimp only
    have hhead : (marker.toList ++ ['(']) <+: line.toList := by
      rw [← not_not (a := _ <+: _), ← args?_eq_none_iff, hargs]
      simp
    cases hread : Columns.read args with
    | ok c => exact .inr (.inl ⟨c, ofLine_iff.mpr ⟨args, hargs, hread⟩, rfl⟩)
    | error m =>
      refine .inr (.inr ⟨hhead, ?_, m, rfl⟩)
      rintro ⟨c, hc⟩
      obtain ⟨args', hargs', hread'⟩ := ofLine_iff.mp hc
      rw [hargs] at hargs'
      cases hargs'
      rw [hread] at hread'
      cases hread'

theorem parse_eq_ok_iff {marker line : String} {n : Nat} {row : Option Row} :
    parse marker n line = .ok row ↔
      (¬ (marker.toList ++ ['(']) <+: line.toList ∧ row = none) ∨
      ∃ c, OfLine marker line c ∧ (ofColumns n c).map some = .ok row := by
  rcases parse_cases marker n line with ⟨hp, h⟩ | ⟨c, hc, h⟩ | ⟨hp, hno, m, h⟩
  · rw [h]
    constructor
    · rintro ⟨⟩
      exact .inl ⟨hp, rfl⟩
    · rintro (⟨-, rfl⟩ | ⟨c, hc, -⟩)
      · rfl
      · exact absurd (prefix_of_ofLine hc) hp
  · rw [h]
    constructor
    · intro h'
      exact .inr ⟨c, hc, h'⟩
    · rintro (⟨hp, -⟩ | ⟨c', hc', h'⟩)
      · exact absurd (prefix_of_ofLine hc) hp
      · rwa [hc.unique hc']
  · rw [h]
    simp only [reduceCtorEq, false_iff, not_or, not_and, not_exists]
    exact ⟨fun hp' => absurd hp hp', fun c hc => absurd ⟨c, hc⟩ hno⟩

/-- A line fails with anything but a malformation only as its columns do. -/
theorem parse_eq_error_iff {marker line : String} {n : Nat} {e : Error}
    (he : ∀ m, e ≠ .malformed n m) :
    parse marker n line = .error e ↔ ∃ c, OfLine marker line c ∧ ofColumns n c = .error e := by
  rcases parse_cases marker n line with ⟨hp, h⟩ | ⟨c, hc, h⟩ | ⟨hp, hno, m, h⟩
  · rw [h]
    simp only [reduceCtorEq, false_iff, not_exists, not_and]
    exact fun c hc => absurd (prefix_of_ofLine hc) hp
  · rw [h, Except.map_some_eq_error_iff]
    constructor
    · exact fun h' => ⟨c, hc, h'⟩
    · rintro ⟨c', hc', h'⟩
      rwa [hc.unique hc']
  · rw [h]
    simp only [Except.error.injEq]
    constructor
    · rintro rfl
      exact absurd rfl (he m)
    · rintro ⟨c, hc, -⟩
      exact absurd ⟨c, hc⟩ hno

/-- A line is malformed exactly when it starts with the marker and `(` but stands for no
columns. -/
theorem exists_parse_eq_malformed_iff {marker line : String} {n : Nat} :
    (∃ m, parse marker n line = .error (.malformed n m)) ↔
      (marker.toList ++ ['(']) <+: line.toList ∧ ¬ ∃ c, OfLine marker line c := by
  rcases parse_cases marker n line with ⟨hp, h⟩ | ⟨c, hc, h⟩ | ⟨hp, hno, m, h⟩
  · simp [h, hp]
  · simp only [h, Except.map_some_eq_error_iff, ofColumns_eq_error_iff]
    simp only [reduceCtorEq, and_false, exists_false, false_iff, not_and, not_not]
    exact fun _ => ⟨c, hc⟩
  · exact ⟨fun _ => ⟨hp, hno⟩, fun _ => ⟨m, h⟩⟩

/-- **A line is read as the record line it is**: it is no row exactly when it does not start with
the marker and `(`; it is a retained record exactly when it is laid out as fields that stand for
columns with a value result, no prefix and no vector operand, and the record holds what the
columns say; it is dropped for a vector result whatever else it holds, or else for a nonzero
prefix; a vector operand is then an error naming the line and the mnemonic; and every other line
that starts with the marker and `(` is malformed. -/
theorem parse_eq_iff (marker : String) (n : Nat) (line : String) :
    (parse marker n line = .ok none ↔ ¬ (marker.toList ++ ['(']) <+: line.toList) ∧
    (∀ r, parse marker n line = .ok (some (.retained r)) ↔
      ∃ c, OfLine marker line c ∧ c.result ≠ .vector ∧ c.leadByte = 0 ∧
        c.operand1 ≠ .vector ∧ c.operand2 ≠ .vector ∧ c.operand3 ≠ .vector ∧ r = c.toRecord n) ∧
    (∀ text code reason, parse marker n line = .ok (some (.dropped text code reason)) ↔
      ∃ c, OfLine marker line c ∧ text = c.text ∧ code = c.code ∧
        (c.result = .vector ∧ reason = .vectorResult ∨
          c.result ≠ .vector ∧ c.leadByte ≠ 0 ∧ reason = .prefixed c.leadByte)) ∧
    (∀ l text, parse marker n line = .error (.unsupportedOperand l text) ↔
      ∃ c, OfLine marker line c ∧ c.result ≠ .vector ∧ c.leadByte = 0 ∧
        (c.operand1 = .vector ∨ c.operand2 = .vector ∨ c.operand3 = .vector) ∧
        l = n ∧ text = c.text) ∧
    ((∃ m, parse marker n line = .error (.malformed n m)) ↔
      (marker.toList ++ ['(']) <+: line.toList ∧ ¬ ∃ c, OfLine marker line c) := by
  refine ⟨?none, fun r => ?retained, fun text code reason => ?dropped, fun l text => ?unsupported,
    exists_parse_eq_malformed_iff⟩
  case none =>
    rw [parse_eq_ok_iff]
    simp [Except.map_some_eq_ok_iff]
  case retained =>
    rw [parse_eq_ok_iff]
    simp [Except.map_some_eq_ok_iff, ofColumns_eq_retained_iff]
  case dropped =>
    rw [parse_eq_ok_iff]
    simp [Except.map_some_eq_ok_iff, ofColumns_eq_dropped_iff]
  case unsupported =>
    rw [parse_eq_error_iff (by simp), exists_congr fun c => and_congr_right fun _ =>
      ofColumns_eq_error_iff]
    simp [eq_comm]

end Row

end Opcodes
