import Opcodes.Source
import Opcodes.Proofs.SourceLexer
/-!
# Reading the generated source: items

A line of the generated module is read as tokens (`Opcodes.Source.tokens`), and the tokens as
what the line contributes to the module: a constant definition, an arm of the decoder, or
nothing (attributes, type definitions, braces, comments and blank lines). The module is read
line by line.

A constant definition keeps its value as written: the name of a type constant's variant, the
literal of a byte constant, and the six fields of a metadata literal. Evaluating them is
`Opcodes.Proofs.SourceDecoder`'s part.

## Main definitions

* `Opcodes.Source.Item`, `Opcodes.Source.classify` — what a line contributes.
* `Opcodes.Source.read` — the items of a module, line by line.
* `Opcodes.Source.moduleItems` — the items the module of a table should have: the five type
  constants of the preamble, an opcode constant per entry, a metadata constant per entry, an arm
  per entry and the arm for other bytes.
* `Opcodes.Source.Lines` — text made of whole lines that read as given items.

## Main results

* `Opcodes.Source.read_of_lines` — text of whole lines is read line by line.
* `Opcodes.Source.read_render` — **the module of a table reads as the items of its entries**,
  whenever every entry's name is a constant name.
-/

set_option autoImplicit false

namespace Opcodes.Source

/-! ### Items -/

/-- The fields of a metadata literal `Op { tr: …, t1: …, t2: …, m: …, code: …, text: … }`, as
written: three type constant names, two integer literals and the text the string literal
denotes. -/
structure OpFields where
  result : String
  operand1 : String
  operand2 : String
  memory : String
  code : String
  text : String
deriving DecidableEq, Repr

/-- What a line of the module contributes. -/
inductive Item where
  /-- `pub const n: Option<ValueType> = None;` or `… = Some(ValueType::T);`. -/
  | typeConst (name : String) (value : Option ValueType)
  /-- `pub const n: u8 = literal;`. -/
  | byteConst (name : String) (literal : String)
  /-- `pub const n: Op = Op { … };`. -/
  | opConst (name : String) (fields : OpFields)
  /-- Any other definition of a constant `n`. -/
  | otherConst (name : String)
  /-- A decoder arm `pattern => Some(&result),`. -/
  | arm (pattern result : String)
  /-- The decoder arm `_ => None,`. -/
  | defaultArm
deriving DecidableEq, Repr

/-- The value type whose variant is spelt `s`. -/
def ValueType.ofName? (s : String) : Option ValueType :=
  [ValueType.i32, .i64, .f32, .f64].find? (·.name = s)

/-- The constant `n` defined by the rest of a `pub const n:` line, by its type and value. -/
def constItem (n : String) : List Token → Item
  | [.word "Option", .punct '<', .word "ValueType", .punct '>', .punct '=', .word "None",
      .punct ';'] => .typeConst n none
  | [.word "Option", .punct '<', .word "ValueType", .punct '>', .punct '=', .word "Some",
      .punct '(', .word "ValueType", .punct ':', .punct ':', .word v, .punct ')', .punct ';'] =>
    match ValueType.ofName? v with
    | some t => .typeConst n (some t)
    | none => .otherConst n
  | [.word "u8", .punct '=', .number lit, .punct ';'] => .byteConst n lit
  | [.word "Op", .punct '=', .word "Op", .punct '\x7b', .word "tr", .punct ':', .word tr,
      .punct ',', .word "t1", .punct ':', .word t1, .punct ',', .word "t2", .punct ':', .word t2,
      .punct ',', .word "m", .punct ':', .number m, .punct ',', .word "code", .punct ':',
      .number code, .punct ',', .word "text", .punct ':', .str text, .punct '\x7d',
      .punct ';'] => .opConst n ⟨tr, t1, t2, m, code, text⟩
  | _ => .otherConst n

/-- What the tokens of a line contribute, if anything. -/
def classify : List Token → Option Item
  | .word "pub" :: .word "const" :: .word n :: .punct ':' :: rest => some (constItem n rest)
  | [.word "_", .punct '=', .punct '>', .word "None", .punct ','] => some .defaultArm
  | [.word p, .punct '=', .punct '>', .word "Some", .punct '(', .punct '&', .word r, .punct ')',
      .punct ','] => some (.arm p r)
  | _ => none

/-- The items of a line, if it is source the reader covers. -/
def readLine (line : List Char) : Option (List Item) :=
  (tokens line).map fun ts => (classify ts).toList

/-- The items of a module, line by line. -/
def read (s : String) : Option (List Item) :=
  ((s.toList.splitOn '\n').mapM readLine).map List.flatten

example : read "pub const X: u8 = 0x6a;\n\n            X => Some(&X_OP),\n" =
    some [.byteConst "X" "0x6a", .arm "X" "X_OP"] := by decide

/-! ### The items of the module of a table -/

/-- The type constants of the preamble. -/
def preambleItems : List Item :=
  [.typeConst "___" none, .typeConst "I32" (some .i32), .typeConst "I64" (some .i64),
    .typeConst "F32" (some .f32), .typeConst "F64" (some .f64)]

/-- The fields of the metadata literal of an instruction. -/
def OpFields.ofInstr (i : Instr) : OpFields where
  result := typeExpr i.result
  operand1 := typeExpr i.operand1
  operand2 := typeExpr i.operand2
  memory := toString i.memory.toNat
  code := Text.byteLiteral i.code
  text := i.text

/-- The opcode constant of an entry. -/
def opcodeItem (e : Table.Entry) : Item :=
  .byteConst e.ident (Text.byteLiteral e.instr.code)

/-- The metadata constant of an entry. -/
def metadataItem (e : Table.Entry) : Item :=
  .opConst e.metadataIdent (OpFields.ofInstr e.instr)

/-- The decoder arm of an entry. -/
def armItem (e : Table.Entry) : Item :=
  .arm e.ident e.metadataIdent

/-- The items the module of `t` should have. -/
def moduleItems (t : Table) : List Item :=
  preambleItems ++ t.entries.toList.map opcodeItem ++ t.entries.toList.map metadataItem ++
    t.entries.toList.map armItem ++ [.defaultArm]

/-! ### Whole lines -/

/-- `s` is made of whole lines, each ended by a line feed, that read as `items`. -/
inductive Lines : List Char → List Item → Prop
  | nil : Lines [] []
  | line {l s : List Char} {is items : List Item} :
    '\n' ∉ l → readLine l = some is → Lines s items → Lines (l ++ '\n' :: s) (is ++ items)

theorem Lines.single {l : List Char} {is : List Item} (hl : '\n' ∉ l) (hr : readLine l = some is) :
    Lines (l ++ ['\n']) is := by
  simpa using Lines.line hl hr .nil

theorem Lines.append {s₁ s₂ : List Char} {i₁ i₂ : List Item} (h₁ : Lines s₁ i₁)
    (h₂ : Lines s₂ i₂) : Lines (s₁ ++ s₂) (i₁ ++ i₂) := by
  induction h₁ with
  | nil => simpa using h₂
  | line hl hr _ ih => simpa using Lines.line hl hr ih

theorem Lines.flatMap {α : Type} (f : α → List Char) (g : α → List Item) (xs : List α)
    (h : ∀ x ∈ xs, Lines (f x) (g x)) : Lines (xs.flatMap f) (xs.flatMap g) := by
  induction xs with
  | nil => exact .nil
  | cons x xs ih =>
    simp only [List.flatMap_cons]
    exact (h x (by simp)).append (ih fun y hy => h y (by simp [hy]))

/-- **Text of whole lines is read line by line.** -/
theorem read_of_lines {s : String} {items : List Item} (h : Lines s.toList items) :
    read s = some items := by
  unfold read
  generalize s.toList = cs at h
  induction h with
  | nil => rfl
  | line hl hr _ ih =>
    rw [List.splitOn_append_cons_self_of_not_mem hl, List.mapM_cons, hr]
    cases hrest : (List.mapM readLine _) with
    | none => simp [hrest] at ih
    | some ls =>
      simp only [hrest, Option.map_some, Option.some.injEq] at ih
      simp [← ih]

/-! ### What the generated text is made of -/

theorem toList_padRight (s : String) (w : Nat) :
    (padRight s w).toList = s.toList ++ List.replicate (w - s.length) ' ' := by
  simp [padRight]

/-- A usable constant name is a word. -/
theorem isWord_of_isEmittable {s : String} (h : Ident.isEmittable s = true) :
    isWord s.toList = true := by
  unfold Ident.isEmittable at h
  split at h
  · simp at h
  · simp at h
  · rename_i c rest _ hs
    rw [hs]
    simp only [Bool.and_eq_true, Bool.or_eq_true, beq_iff_eq, List.all_eq_true] at h
    simp only [isWord, Bool.and_eq_true, List.all_eq_true]
    refine ⟨?_, fun d hd => ?_⟩
    · rcases h.1 with hu | rfl
      · simp [isWordStart, Char.isAlpha, hu]
      · rfl
    · have hd := h.2 d hd
      simp only [Ident.isNameChar, Bool.or_eq_true, beq_iff_eq] at hd
      simp only [isWordChar, Char.isAlphanum, Char.isAlpha, Bool.or_eq_true, beq_iff_eq]
      rcases hd with (hu | hdig) | rfl
      · exact .inl (.inl (.inl hu))
      · exact .inl (.inr hdig)
      · exact .inr rfl

theorem isWord_metadata {s : String} (h : isWord s.toList = true) :
    isWord (Ident.metadata s).toList = true := by
  rw [Ident.metadata, String.toList_append]
  -- Decided as a `Bool`: with all of Mathlib in scope the bounded `∀` picks an instance that
  -- unfolds too deep.
  exact isWord_append h (List.all_eq_true.mp (by decide))

theorem isWord_typeExpr (x : Option ValueType) : isWord (typeExpr x).toList = true := by
  rcases x with _ | ⟨_ | _ | _ | _⟩ <;> decide

theorem isNumeral_byteLiteral (b : UInt8) : isNumeral (Text.byteLiteral b).toList = true := by
  have hd : ∀ d < 16, isWordChar (Text.hexDigit d) = true := by decide
  have hb := b.toNat_lt
  simp [Text.byteLiteral, isNumeral, hd _ (Nat.mod_lt _ (by decide : 16 > 0)),
    hd (b.toNat / 16) (by omega)]
  decide

theorem isNumeral_toString (n : Nat) : isNumeral (toString n).toList = true := by
  rw [Nat.toString_eq_ofList_toDigits, String.toList_ofList]
  have hdigit : ∀ c ∈ Nat.toDigits 10 n, c.isDigit = true :=
    fun c hc => Nat.isDigit_of_mem_toDigits (by decide) (by decide) hc
  cases h : Nat.toDigits 10 n with
  | nil => exact absurd h Nat.toDigits_ne_nil
  | cons c cs =>
    rw [h] at hdigit
    simp only [isNumeral, Bool.and_eq_true, List.all_eq_true]
    exact ⟨hdigit c (by simp), fun d hd => isWordChar_of_isDigit (hdigit d (by simp [hd]))⟩

theorem newline_not_mem_replicate (k : Nat) : '\n' ∉ List.replicate k ' ' := by
  simp [List.mem_replicate]

theorem newline_not_mem_escapeChar (c : Char) : '\n' ∉ Text.escapeChar c := by
  unfold Text.escapeChar
  split
  · decide
  · decide
  · decide
  · decide
  · decide
  · decide
  · rename_i h₀ h₁ h₂ h₃ h₄ h₅
    split
    · have hhex : '\n' ∉ Text.hexDigits c.toNat := by
        intro hn
        obtain ⟨d, hd, heq⟩ := Text.mem_hexDigits hn
        have : ∀ d < 16, Text.hexDigit d ≠ '\n' := by decide
        exact this d hd heq.symm
      simp [Text.codePointEscape, hhex]
    · -- a line feed is never written as itself
      simpa using fun h => h₃ h.symm

/-- A quoted literal stays on its line. -/
theorem newline_not_mem_quote (s : String) : '\n' ∉ (Text.quote s).toList := by
  simp [Text.quote, newline_not_mem_escapeChar]

/-! ### The lines of the module -/

theorem classify_byteConst (n lit : String) :
    classify [.word "pub", .word "const", .word n, .punct ':', .word "u8", .punct '=',
      .number lit, .punct ';'] = some (.byteConst n lit) := rfl

theorem classify_opConst (n tr t1 t2 m code text : String) :
    classify [.word "pub", .word "const", .word n, .punct ':', .word "Op", .punct '=', .word "Op",
      .punct '\x7b', .word "tr", .punct ':', .word tr, .punct ',', .word "t1", .punct ':', .word t1,
      .punct ',', .word "t2", .punct ':', .word t2, .punct ',', .word "m", .punct ':', .number m,
      .punct ',', .word "code", .punct ':', .number code, .punct ',', .word "text", .punct ':',
      .str text, .punct '\x7d', .punct ';'] = some (.opConst n ⟨tr, t1, t2, m, code, text⟩) := rfl

theorem classify_arm (p r : String) :
    classify [.word p, .punct '=', .punct '>', .word "Some", .punct '(', .punct '&', .word r,
      .punct ')', .punct ','] = some (.arm p r) := by
  simp [classify]

/-- The line of an opcode constant defines it with its literal. -/
theorem lines_opcodeLine (c : String × UInt8) (hc : isWord c.1.toList = true) :
    Lines (opcodeLine c).toList [.byteConst c.1 (Text.byteLiteral c.2)] := by
  have hend : (";\n" : String).toList = ";".toList ++ ['\n'] := by decide
  have hlit := isNumeral_byteLiteral c.2
  unfold opcodeLine
  simp only [String.toList_append, toList_padRight, hend, ← List.append_assoc]
  apply Lines.single
  · simp only [List.mem_append, not_or, newline_not_mem_of_isWord hc,
      newline_not_mem_of_isNumeral hlit, newline_not_mem_replicate, not_false_eq_true, and_true]
    decide
  · simp only [List.append_assoc, readLine, tokens]
    -- the line is read piece by piece: fixed text, the name, its padding, the literal
    rw [run_fixed [] _ [.word "pub", .word "const"] _ (by decide),
      run_word _ hc (apart_replicate_append _ (apart_append (apart_of_head (by decide)))),
      run_spaces, run_fixed _ _ [.punct ':', .word "u8", .punct '='] _ (by decide),
      run_number _ hlit (apart_of_head (by decide)), run_fixed_end _ _ [.punct ';'] (by decide)]
    simp only [String.ofList_toList, List.nil_append, List.cons_append, Option.bind_some,
      finish_between, Option.map_some, classify_byteConst, Option.toList_some]

/-- The line of a metadata constant defines it with the fields of its literal. -/
theorem lines_metadataLine (c : String × Instr) (hc : isWord c.1.toList = true) :
    Lines (metadataLine c).toList [.opConst c.1 (OpFields.ofInstr c.2)] := by
  have hend : (";\n" : String).toList = ";".toList ++ ['\n'] := by decide
  have hlit := isNumeral_byteLiteral c.2.code
  have hm := isNumeral_toString c.2.memory.toNat
  unfold metadataLine instrLiteral
  simp only [String.toList_append, toList_padRight, hend, ← List.append_assoc]
  apply Lines.single
  · have htype x := newline_not_mem_of_isWord (isWord_typeExpr x)
    simp only [List.mem_append, not_or, newline_not_mem_of_isWord hc,
      newline_not_mem_of_isNumeral hlit, newline_not_mem_of_isNumeral hm, htype,
      newline_not_mem_replicate, newline_not_mem_quote, not_false_eq_true, and_true]
    decide
  · simp only [List.append_assoc, readLine, tokens]
    rw [run_fixed [] _ [.word "pub", .word "const"] _ (by decide),
      run_word _ hc (apart_replicate_append _ (apart_append (apart_of_head (by decide)))),
      run_spaces, run_fixed _ _ [.punct ':', .word "Op", .punct '='] _ (by decide),
      run_fixed _ _ [.word "Op", .punct '\x7b', .word "tr", .punct ':'] _ (by decide),
      run_word _ (isWord_typeExpr _) (apart_append (apart_of_head (by decide))),
      run_fixed _ _ [.punct ',', .word "t1", .punct ':'] _ (by decide),
      run_word _ (isWord_typeExpr _) (apart_append (apart_of_head (by decide))),
      run_fixed _ _ [.punct ',', .word "t2", .punct ':'] _ (by decide),
      run_word _ (isWord_typeExpr _) (apart_append (apart_of_head (by decide))),
      run_fixed _ _ [.punct ',', .word "m", .punct ':'] _ (by decide),
      run_number _ hm (apart_append (apart_of_head (by decide))),
      run_fixed _ _ [.punct ',', .word "code", .punct ':'] _ (by decide),
      run_number _ hlit (apart_append (apart_of_head (by decide))),
      run_fixed _ _ [.punct ',', .word "text", .punct ':'] _ (by decide),
      run_quote, run_fixed _ _ [.punct '\x7d'] _ (by decide),
      run_fixed_end _ _ [.punct ';'] (by decide)]
    simp only [String.ofList_toList, List.nil_append, List.cons_append, Option.bind_some,
      finish_between, Option.map_some, classify_opConst, Option.toList_some, OpFields.ofInstr]

/-- The decoder arm of an entry maps its opcode constant to its metadata constant. -/
theorem lines_decoderArm (e : Table.Entry) (he : isWord e.ident.toList = true) :
    Lines (decoderArm e).toList [.arm e.ident e.metadataIdent] := by
  have hmeta : isWord e.metadataIdent.toList = true := isWord_metadata he
  have hend : ("),\n" : String).toList = "),".toList ++ ['\n'] := by decide
  unfold decoderArm
  simp only [String.toList_append, toList_padRight, hend, ← List.append_assoc]
  apply Lines.single
  · simp only [List.mem_append, not_or, newline_not_mem_of_isWord he,
      newline_not_mem_of_isWord hmeta, newline_not_mem_replicate, not_false_eq_true, and_true]
    decide
  · simp only [List.append_assoc, readLine, tokens]
    rw [run_fixed [] _ [] _ (by decide),
      run_word _ he (apart_replicate_append _ (apart_append (apart_of_head (by decide)))),
      run_spaces, run_fixed _ _ [.punct '=', .punct '>', .word "Some", .punct '(', .punct '&'] _
        (by decide),
      run_word _ hmeta (apart_of_head (by decide)),
      run_fixed_end _ _ [.punct ')', .punct ','] (by decide)]
    simp only [String.ofList_toList, List.nil_append, List.cons_append, Option.bind_some,
      finish_between, Option.map_some, classify_arm, Option.toList_some]

/-! ### The whole module -/

/-- Lines that each read as items, joined with line feeds. -/
theorem Lines.of_lines {cs : List Char} {items : List Item} (L : List (List Char))
    (hcs : L.flatMap (· ++ ['\n']) = cs)
    (h : (∀ l ∈ L, '\n' ∉ l ∧ (readLine l).isSome) ∧
      L.flatMap (fun l => (readLine l).getD []) = items) :
    Lines cs items := by
  obtain ⟨hlines, hitems⟩ := h
  rw [← hcs, ← hitems]
  apply Lines.flatMap
  intro l hl
  obtain ⟨hn, hr⟩ := hlines l hl
  obtain ⟨is, his⟩ := Option.isSome_iff_exists.mp hr
  rw [his]
  exact Lines.single hn his

/-- Fixed text is checked by reading it: its lines are what splitting at line feeds gives. -/
theorem Lines.of_text {cs : List Char} {items : List Item}
    (h : ((cs.splitOn '\n').dropLast.flatMap (· ++ ['\n']) = cs) ∧
      (∀ l ∈ (cs.splitOn '\n').dropLast, '\n' ∉ l ∧ (readLine l).isSome) ∧
      (cs.splitOn '\n').dropLast.flatMap (fun l => (readLine l).getD []) = items) :
    Lines cs items :=
  Lines.of_lines _ h.1 h.2

theorem Lines.join_map {α : Type} (f : α → String) (g : α → Item) (xs : List α)
    (h : ∀ x ∈ xs, Lines (f x).toList [g x]) :
    Lines (String.join (xs.map f)).toList (xs.map g) := by
  have := Lines.flatMap (fun x => (f x).toList) (fun x => [g x]) xs h
  rwa [← List.map_eq_flatMap, ← List.flatMap_map, ← String.toList_join] at this

theorem lines_banner : Lines banner.toList [] :=
  Lines.of_text (by decide +kernel)

/-- The preamble defines the five type constants and nothing else. -/
theorem lines_preamble : Lines preamble.toList preambleItems := by
  -- read line by line: the preamble as one text is too long to split by evaluation
  refine Lines.of_lines (preambleLines.map String.toList) ?_ (by decide +kernel)
  simp [preamble, String.toList_join, List.flatMap_map]

theorem lines_decoder (t : Table) (h : ∀ e ∈ t.entries.toList, isWord e.ident.toList = true) :
    Lines (decoder t).toList (t.entries.toList.map armItem ++ [.defaultArm]) := by
  have harms := Lines.join_map decoderArm armItem t.entries.toList
    fun e he => lines_decoderArm e (h e he)
  unfold decoder
  simp only [String.toList_append, List.append_assoc]
  -- two fixed lines open the match, one fixed line closes it with the arm for other bytes
  rw [show t.entries.toList.map armItem ++ [.defaultArm] =
    [] ++ ([] ++ (t.entries.toList.map armItem ++ [.defaultArm])) from rfl]
  exact (Lines.of_text (by decide +kernel)).append
    ((Lines.of_text (by decide +kernel)).append (harms.append (Lines.of_text (by decide +kernel))))

/-- The module of a table whose names are usable is made of lines that read as `moduleItems`. -/
theorem lines_render (t : Table) (h : ∀ e ∈ t.entries.toList, Ident.isEmittable e.ident = true) :
    Lines (render t).toList (moduleItems t) := by
  have hw e (he : e ∈ t.entries.toList) : isWord e.ident.toList = true :=
    isWord_of_isEmittable (h e he)
  have hops : Lines (String.join (t.opcodeConstants.map opcodeLine)).toList
      (t.entries.toList.map opcodeItem) := by
    rw [Table.opcodeConstants, List.map_map]
    exact Lines.join_map _ _ _ fun e he => lines_opcodeLine _ (hw e he)
  have hmetas : Lines (String.join (t.metadataConstants.map metadataLine)).toList
      (t.entries.toList.map metadataItem) := by
    rw [Table.metadataConstants, List.map_map]
    exact Lines.join_map _ _ _ fun e he => lines_metadataLine _ (isWord_metadata (hw e he))
  have hitems : moduleItems t = [] ++ preambleItems ++ t.entries.toList.map opcodeItem ++ [] ++
      t.entries.toList.map metadataItem ++ [] ++
      (t.entries.toList.map armItem ++ [.defaultArm]) := by
    simp [moduleItems]
  unfold render
  simp only [String.toList_append]
  rw [hitems]
  exact (((((lines_banner.append lines_preamble).append hops).append
    (Lines.of_text (by decide +kernel))).append hmetas).append
    (Lines.of_text (by decide +kernel))).append (lines_decoder t hw)

/-- **The module of a table reads as the items of its entries**, whenever every entry's name is a
usable constant name. -/
theorem read_render (t : Table) (h : ∀ e ∈ t.entries.toList, Ident.isEmittable e.ident = true) :
    read (render t) = some (moduleItems t) :=
  read_of_lines (lines_render t h)

end Opcodes.Source
