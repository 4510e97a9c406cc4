import Opcodes.Definition.Columns
import Mathlib.Data.List.TakeDrop
import Mathlib.Data.List.TakeWhile
/-!
# The columns of a record line, declaratively

`Opcodes.Columns.read` finds the body of a record by the last `)`, splits it at every comma
whatever the quotes, trims each field, and reads the fields from left to right. This module says
which texts it reads, and as what, without the steps: the text after `MARKER(` is read as the
columns `c` exactly when it is fields without commas joined by commas, a `)`, and text without
`)` that is blank or a `//` comment, where the fields, trimmed, stand for the columns of `c`
(`Opcodes.Columns.Denotes`).

## Main definitions

* `Opcodes.Columns.BlankOrComment` — what may follow the closing parenthesis.
* `Opcodes.Columns.fieldText` — a field without the blanks around it.
* `Opcodes.Columns.Denotes` — fields that stand for columns: four type columns, three byte
  columns, the identifier column in the nine-field layout only, and a quoted mnemonic.

## Main results

* `Opcodes.Columns.body_eq_ok_iff` — the body is the text before the last `)`.
* `Opcodes.Columns.ofFieldList_map_eq_ok_iff` — the fields read as columns exactly when they
  stand for them.
* `Opcodes.Columns.read_eq_ok_iff` — **the text after the marker read as columns**.
-/

set_option autoImplicit false

namespace Opcodes

theorem Except.bind_eq_ok_iff {ε α β : Type} {x : Except ε α} {f : α → Except ε β} {b : β} :
    x >>= f = .ok b ↔ ∃ a, x = .ok a ∧ f a = .ok b := by
  cases x <;> simp [bind, Except.bind]

theorem Except.map_some_eq_ok_iff {ε α : Type} {x : Except ε α} {y : Option α} :
    Except.map some x = .ok y ↔ ∃ a, x = .ok a ∧ y = some a := by
  cases x <;> simp [Except.map, eq_comm]

theorem Except.map_some_eq_error_iff {ε α : Type} {x : Except ε α} {e : ε} :
    Except.map some x = .error e ↔ x = .error e := by
  cases x <;> simp [Except.map]

namespace Columns

/-! ### The closing parenthesis -/

theorem splitClose?_append {inner after : List Char} (h : ')' ∉ after) :
    splitClose? (inner ++ ')' :: after) = some (inner, after) := by
  have hp : ∀ c ∈ after.reverse, (c != ')') = true := by
    intro c hc
    have : c ≠ ')' := fun hce => h (hce ▸ List.mem_reverse.mp hc)
    simpa using this
  simp [splitClose?, List.span_eq_takeWhile_dropWhile, List.takeWhile_append_of_pos hp,
    List.dropWhile_append_of_pos hp]

theorem splitClose?_of_not_mem {cs : List Char} (h : ')' ∉ cs) : splitClose? cs = none := by
  have hp : ∀ c ∈ cs.reverse, (c != ')') = true := by
    intro c hc
    have : c ≠ ')' := fun hce => h (hce ▸ List.mem_reverse.mp hc)
    simpa using this
  simp [splitClose?, List.span_eq_takeWhile_dropWhile, List.dropWhile_eq_nil_iff.mpr hp]

/-- A text has no `)`, or is the text before its last `)`, the `)`, and text without one. -/
theorem not_mem_or_eq_append_close (cs : List Char) :
    ')' ∉ cs ∨ ∃ inner after, cs = inner ++ ')' :: after ∧ ')' ∉ after := by
  induction cs with
  | nil => exact .inl (by simp)
  | cons c cs ih =>
    rcases ih with hn | ⟨inner, after, rfl, ha⟩
    · by_cases hc : c = ')'
      · exact .inr ⟨[], cs, by simp [hc], hn⟩
      · exact .inl (by simp [hn, Ne.symm hc])
    · exact .inr ⟨c :: inner, after, rfl, ha⟩

theorem eq_of_append_close {i a i' a' : List Char} (h : i ++ ')' :: a = i' ++ ')' :: a')
    (ha : ')' ∉ a) (ha' : ')' ∉ a') : i = i' ∧ a = a' := by
  have := (splitClose?_append ha).symm.trans (h ▸ splitClose?_append ha')
  simpa using this

/-- Text after the closing parenthesis that may stand there: blanks, then nothing or a `//`
comment. -/
def BlankOrComment (t : List Char) : Prop :=
  Text.trimChars t = [] ∨ ∃ rest, Text.trimChars t = '/' :: '/' :: rest

theorem allowed_eq_true_iff {t : List Char} : Trailing.allowed t = true ↔ BlankOrComment t := by
  unfold Trailing.allowed BlankOrComment
  split
  · rename_i h
    simp [h]
  · rename_i rest h
    simp [h]
  · rename_i h₁ h₂
    simp only [Bool.false_eq_true, false_iff, not_or, not_exists]
    exact ⟨h₁, fun rest hr => h₂ rest hr⟩

theorem body_eq_ok_iff {args inner : List Char} :
    body args = .ok inner ↔ ∃ t, args = inner ++ ')' :: t ∧ ')' ∉ t ∧ BlankOrComment t := by
  unfold body
  rcases not_mem_or_eq_append_close args with hn | ⟨i, a, rfl, ha⟩
  · rw [splitClose?_of_not_mem hn]
    simp only [reduceCtorEq, false_iff, not_exists, not_and]
    rintro t rfl
    simp at hn
  · rw [splitClose?_append ha]
    dsimp only
    constructor
    · intro h
      split at h
      · rename_i hallowed
        cases h
        exact ⟨a, rfl, ha, allowed_eq_true_iff.mp hallowed⟩
      · cases h
    · rintro ⟨t, heq, ht, hbc⟩
      obtain ⟨rfl, rfl⟩ := eq_of_append_close heq ha ht
      simp [allowed_eq_true_iff.mpr hbc]

/-! ### Fields -/

/-- No piece of a split holds the character split at. -/
theorem not_mem_of_mem_splitOn {a : Char} {l f : List Char} (h : f ∈ l.splitOn a) : a ∉ f := by
  induction l generalizing f with
  | nil => simp [List.splitOn_nil] at h; simp [h]
  | cons x xs ih =>
    rw [List.splitOn_cons_eq_if_modifyHead] at h
    obtain ⟨g, gs, hgs⟩ := List.exists_cons_of_ne_nil (List.splitOn_ne_nil a xs)
    split at h
    · rcases List.mem_cons.mp h with rfl | h
      · simp
      · exact ih h
    · rename_i hx
      rw [hgs, List.modifyHead_cons] at h
      rcases List.mem_cons.mp h with rfl | h
      · have hg := ih (by simp [hgs] : g ∈ xs.splitOn a)
        simp only [beq_iff_eq] at hx
        simp [hg, Ne.symm hx]
      · exact ih (by simp [hgs, h])

/-- The text of a field without the blanks around it. -/
def fieldText (f : List Char) : String := String.ofList (Text.trimChars f)

@[simp] theorem toList_fieldText (f : List Char) : (fieldText f).toList = Text.trimChars f :=
  String.toList_ofList

/-- The fields `fs` of a record line stand for the columns `c`: the result and three operand
types, the memory flag, the prefix and the opcode as byte numerals, the identifier column when
there are nine fields, and last the mnemonic between double quotes, each field trimmed. -/
inductive Denotes : List (List Char) → Columns → Prop
  | fields {r a b d m p o t : List Char} {n : Option (List Char)} {c : Columns}
      (result : ColumnType.ofString? (fieldText r) = some c.result)
      (operand1 : ColumnType.ofString? (fieldText a) = some c.operand1)
      (operand2 : ColumnType.ofString? (fieldText b) = some c.operand2)
      (operand3 : ColumnType.ofString? (fieldText d) = some c.operand3)
      (memory : Text.byteValue? (fieldText m) = some c.memory)
      (leadByte : Text.byteValue? (fieldText p) = some c.leadByte)
      (code : Text.byteValue? (fieldText o) = some c.code)
      (name : c.name = n.map fieldText)
      (identifier : ∀ f ∈ n, isIdentifier (Text.trimChars f) = true)
      (text : ∃ s, Text.trimChars t = '"' :: s ++ ['"'] ∧ s ≠ [] ∧ c.text = String.ofList s) :
      Denotes ([r, a, b, d, m, p, o] ++ n.toList ++ [t]) c

/-! ### Reading the columns -/

theorem typeColumn_eq_ok_iff {f : String} {t : ColumnType} :
    typeColumn f = .ok t ↔ ColumnType.ofString? f = some t := by
  unfold typeColumn
  split <;> simp_all

theorem byteColumn_eq_ok_iff {column : ByteColumn} {f : String} {b : UInt8} :
    byteColumn column f = .ok b ↔ Text.byteValue? f = some b := by
  unfold byteColumn
  split <;> simp_all

theorem nameColumn_eq_ok_iff {f x : String} :
    nameColumn f = .ok x ↔ isIdentifier f.toList = true ∧ x = f := by
  unfold nameColumn
  split
  · rename_i h
    simp only [Except.ok.injEq, h, true_and]
    exact eq_comm
  · rename_i h
    simp [h]

theorem unquote?_eq_some_iff {cs s : List Char} :
    unquote? cs = some s ↔ cs = '"' :: s ++ ['"'] := by
  unfold unquote?
  split
  · rename_i rest
    split
    · rename_i hlast
      obtain ⟨ys, rfl⟩ := List.getLast?_eq_some_iff.mp hlast
      simp [eq_comm]
    · rename_i hlast
      simp only [reduceCtorEq, false_iff]
      rintro h
      simp only [List.cons_append, List.cons.injEq, true_and] at h
      simp [h] at hlast
  · rename_i hne
    simp only [reduceCtorEq, false_iff]
    rintro rfl
    exact hne _ rfl

theorem textColumn_eq_ok_iff {f x : String} :
    textColumn f = .ok x ↔ ∃ s, f.toList = '"' :: s ++ ['"'] ∧ s ≠ [] ∧ x = String.ofList s := by
  unfold textColumn
  split
  · rename_i h
    rw [unquote?_eq_some_iff] at h
    simp only [reduceCtorEq, false_iff, not_exists, not_and]
    intro s hs hne
    rw [h] at hs
    simp at hs
    exact absurd hs hne
  · rename_i inner hne h
    rw [unquote?_eq_some_iff] at h
    simp only [Except.ok.injEq, h]
    constructor
    · rintro rfl
      exact ⟨inner, rfl, fun he => hne he, rfl⟩
    · rintro ⟨s, hs, -, rfl⟩
      simp at hs
      rw [hs]
  · rename_i h
    simp only [reduceCtorEq, false_iff, not_exists, not_and]
    intro s hs
    rw [← unquote?_eq_some_iff] at hs
    simp [hs] at h

/-- A column record built from values with properties is one whose fields have them. -/
theorem exists_columns_eq_iff {P₁ P₂ P₃ P₄ : ColumnType → Prop} {Q₁ Q₂ Q₃ : UInt8 → Prop}
    {N : Option String → Prop} {T : String → Prop} {c : Columns} :
    (∃ x₁, P₁ x₁ ∧ ∃ x₂, P₂ x₂ ∧ ∃ x₃, P₃ x₃ ∧ ∃ x₄, P₄ x₄ ∧ ∃ y₁, Q₁ y₁ ∧ ∃ y₂, Q₂ y₂ ∧
      ∃ y₃, Q₃ y₃ ∧ ∃ n, N n ∧ ∃ s, T s ∧
        ({ result := x₁, operand1 := x₂, operand2 := x₃, operand3 := x₄, memory := y₁,
           leadByte := y₂, code := y₃, name := n, text := s } : Columns) = c) ↔
      P₁ c.result ∧ P₂ c.operand1 ∧ P₃ c.operand2 ∧ P₄ c.operand3 ∧ Q₁ c.memory ∧
        Q₂ c.leadByte ∧ Q₃ c.code ∧ N c.name ∧ T c.text := by
  constructor
  · rintro ⟨x₁, h₁, x₂, h₂, x₃, h₃, x₄, h₄, y₁, g₁, y₂, g₂, y₃, g₃, n, hn, s, hs, rfl⟩
    exact ⟨h₁, h₂, h₃, h₄, g₁, g₂, g₃, hn, hs⟩
  · rintro ⟨h₁, h₂, h₃, h₄, g₁, g₂, g₃, hn, hs⟩
    exact ⟨_, h₁, _, h₂, _, h₃, _, h₄, _, g₁, _, g₂, _, g₃, _, hn, _, hs, rfl⟩

theorem ofFields_eq_ok_iff {r a b d m p o t : String} {n : Option String} {c : Columns} :
    ofFields r a b d m p o n t = .ok c ↔
      ColumnType.ofString? r = some c.result ∧ ColumnType.ofString? a = some c.operand1 ∧
      ColumnType.ofString? b = some c.operand2 ∧ ColumnType.ofString? d = some c.operand3 ∧
      Text.byteValue? m = some c.memory ∧ Text.byteValue? p = some c.leadByte ∧
      Text.byteValue? o = some c.code ∧ (c.name = n ∧ ∀ f ∈ n, isIdentifier f.toList = true) ∧
      ∃ s, t.toList = '"' :: s ++ ['"'] ∧ s ≠ [] ∧ c.text = String.ofList s := by
  cases n with
  | none =>
    have hname : none = c.name ↔
        c.name = none ∧ ∀ f ∈ (none : Option String), isIdentifier f.toList = true :=
      ⟨fun h => ⟨h.symm, fun f hf => by simp at hf⟩, fun h => h.1.symm⟩
    simp only [ofFields, Except.bind_eq_ok_iff, typeColumn_eq_ok_iff, byteColumn_eq_ok_iff,
      textColumn_eq_ok_iff, pure, Except.pure, Except.ok.injEq, exists_columns_eq_iff, hname]
  | some f =>
    have hname : (∃ g, (isIdentifier f.toList = true ∧ g = f) ∧ c.name = some g) ↔
        c.name = some f ∧ ∀ g ∈ some f, isIdentifier g.toList = true := by
      simp [and_comm]
    simp only [ofFields, Except.bind_eq_ok_iff, typeColumn_eq_ok_iff, byteColumn_eq_ok_iff,
      textColumn_eq_ok_iff, Except.map_some_eq_ok_iff, nameColumn_eq_ok_iff, pure, Except.pure,
      Except.ok.injEq, exists_columns_eq_iff, hname]

theorem ofFieldList_map_eq_ok_iff {fs : List (List Char)} {c : Columns} :
    ofFieldList (fs.map fieldText) = .ok c ↔ Denotes fs c := by
  constructor
  · intro h
    unfold ofFieldList at h
    split at h
    · rename_i heq
      simp only [List.map_eq_cons_iff, List.map_eq_nil_iff] at heq
      obtain ⟨r, _, rfl, rfl, a, _, rfl, rfl, b, _, rfl, rfl, d, _, rfl, rfl, m, _, rfl, rfl, p, _,
        rfl, rfl, o, _, rfl, rfl, t, _, rfl, rfl, rfl⟩ := heq
      obtain ⟨hr, ha, hb, hd, hm, hp, ho, ⟨hname, -⟩, s, hs, hne, htext⟩ := ofFields_eq_ok_iff.mp h
      exact @Denotes.fields r a b d m p o t none c hr ha hb hd hm hp ho hname (by simp)
        ⟨s, by simpa using hs, hne, htext⟩
    · rename_i heq
      simp only [List.map_eq_cons_iff, List.map_eq_nil_iff] at heq
      obtain ⟨r, _, rfl, rfl, a, _, rfl, rfl, b, _, rfl, rfl, d, _, rfl, rfl, m, _, rfl, rfl, p, _,
        rfl, rfl, o, _, rfl, rfl, n, _, rfl, rfl, t, _, rfl, rfl, rfl⟩ := heq
      obtain ⟨hr, ha, hb, hd, hm, hp, ho, ⟨hname, hn⟩, s, hs, hne, htext⟩ := ofFields_eq_ok_iff.mp h
      exact @Denotes.fields r a b d m p o t (some n) c hr ha hb hd hm hp ho hname
        (by simpa using hn) ⟨s, by simpa using hs, hne, htext⟩
    · split at h <;> cases h
  · rintro ⟨hr, ha, hb, hd, hm, hp, ho, hname, hn, s, hs, hne, htext⟩
    rename_i n
    cases n with
    | none =>
      simp only [Option.toList_none, List.append_nil, List.cons_append, List.nil_append,
        List.map_cons, List.map_nil, ofFieldList]
      exact ofFields_eq_ok_iff.mpr ⟨hr, ha, hb, hd, hm, hp, ho, ⟨hname, by simp⟩, s,
        by simpa using hs, hne, htext⟩
    | some f =>
      simp only [Option.toList_some, List.cons_append, List.nil_append, List.map_cons,
        List.map_nil, ofFieldList]
      exact ofFields_eq_ok_iff.mpr ⟨hr, ha, hb, hd, hm, hp, ho, ⟨hname, by simpa using hn⟩, s,
        by simpa using hs, hne, htext⟩

/-- **The columns of the text after the marker**: the fields separated by commas, the last `)`, and
blanks or a comment after it, where the fields stand for the columns. -/
theorem read_eq_ok_iff {args : List Char} {c : Columns} :
    read args = .ok c ↔ ∃ fs t, args = [','].intercalate fs ++ ')' :: t ∧ (∀ f ∈ fs, ',' ∉ f) ∧
      ')' ∉ t ∧ BlankOrComment t ∧ Denotes fs c := by
  unfold Columns.read
  rw [Except.bind_eq_ok_iff]
  constructor
  · rintro ⟨inner, hbody, hfields⟩
    obtain ⟨t, rfl, ht, hbc⟩ := body_eq_ok_iff.mp hbody
    exact ⟨inner.splitOn ',', t, by rw [List.intercalate_splitOn],
      fun f hf => not_mem_of_mem_splitOn hf, ht, hbc, ofFieldList_map_eq_ok_iff.mp hfields⟩
  · rintro ⟨fs, t, rfl, hfs, ht, hbc, hd⟩
    refine ⟨_, body_eq_ok_iff.mpr ⟨t, rfl, ht, hbc⟩, ?_⟩
    have hne : fs ≠ [] := by
      cases hd
      simp
    rw [fields, List.splitOn_intercalate ',' hfs hne]
    exact ofFieldList_map_eq_ok_iff.mpr hd

end Columns

end Opcodes
