import Opcodes.Proofs.SourceItems
import Opcodes.Proofs.CompiledTable
import Mathlib.Data.List.Perm.Basic
/-!
# The generated decoder agrees with the table

The items of a module (`Opcodes.Source.read`) are evaluated as Rust evaluates the constants and the
decoder of the generated module. A constant name stands for the value of its definition; a type
constant is `None` or `Some` of a variant; an integer literal of type `u8` is decimal or
hexadecimal behind `0x`; a metadata literal is built from the values of its fields. The decoder
`from_opcode` is a `match` whose arms are tried in order: a constant pattern matches the byte equal
to its value, and `_` matches every byte.

For the module of a compiled table, every constant is defined once, every metadata constant
evaluates to the metadata of its entry, and the decoder returns, for every byte, exactly what the
table decodes it to.

## Main definitions

* `Opcodes.Source.constNames`, `Opcodes.Source.constant?` — the constants a module defines.
* `Opcodes.Source.literalValue?`, `Opcodes.Source.typeValue?`, `Opcodes.Source.byteValue?`,
  `Opcodes.Source.opValue?` — the values of constants.
* `Opcodes.Source.fromOpcode` — the result of the decoder on a byte.
* `Opcodes.Source.ReadsBack` — what the module of a table is when read back.

## Main results

* `Opcodes.Source.constant?_eq_of_mem` — where names are unique, a name finds its definition.
* `Opcodes.Source.opValue?_metadataIdent`, `Opcodes.Source.fromOpcode_moduleItems` — the values of
  the module of a table.
* `Opcodes.Source.readsBack_of_compile_eq_ok` — **the module of a compiled table reads back as
  the table** (`Opcodes.Source.ReadsBack`): its items are the entries', its constants are defined
  once, and its decoder decodes every byte as the table does.
-/

set_option autoImplicit false

namespace Opcodes.Source

/-! ### Constants -/

/-- The constant an item defines, if any. -/
def Item.name? : Item → Option String
  | .typeConst n _ | .byteConst n _ | .opConst n _ | .otherConst n => some n
  | .arm .. | .defaultArm => none

/-- The names of the constants the items define, in order. -/
def constNames (items : List Item) : List String :=
  items.filterMap Item.name?

/-- The definition of the constant `n`. -/
def constant? (items : List Item) (n : String) : Option Item :=
  items.find? (·.name? == some n)

/-- The value of an integer literal of type `u8`: decimal digits, or hexadecimal digits behind
`0x`. Underscores and suffixes are not covered. -/
def literalValue? (s : String) : Option UInt8 :=
  (match s.toList with
    | '0' :: 'x' :: ds => Text.digitsValue? 16 ds
    | ds => Text.digitsValue? 10 ds).bind fun n => if n < 256 then some n.toUInt8 else none

/-- The value of the type constant `n`. -/
def typeValue? (items : List Item) (n : String) : Option (Option ValueType) :=
  match constant? items n with
  | some (.typeConst _ v) => some v
  | _ => none

/-- The value of the byte constant `n`. -/
def byteValue? (items : List Item) (n : String) : Option UInt8 :=
  match constant? items n with
  | some (.byteConst _ lit) => literalValue? lit
  | _ => none

/-- The metadata a metadata literal builds. -/
def OpFields.value? (items : List Item) (f : OpFields) : Option Instr := do
  let result ← typeValue? items f.result
  let operand1 ← typeValue? items f.operand1
  let operand2 ← typeValue? items f.operand2
  let memory ← literalValue? f.memory
  let code ← literalValue? f.code
  pure { result, operand1, operand2, memory, code, text := f.text }

/-- The value of the metadata constant `n`. -/
def opValue? (items : List Item) (n : String) : Option Instr :=
  match constant? items n with
  | some (.opConst _ f) => f.value? items
  | _ => none

/-- Whether an item is an arm of the decoder. -/
def Item.isArm : Item → Bool
  | .arm .. | .defaultArm => true
  | _ => false

/-- The decoder on the byte `b`, from the arms `arms` on: the first arm whose pattern's value is
`b` gives the metadata constant it names, the arm `_` gives nothing. An arm that cannot be
evaluated, or running out of arms, is no result. -/
def matchArms (items : List Item) (b : UInt8) : List Item → Option (Option Instr)
  | [] => none
  | .arm p r :: rest =>
    (byteValue? items p).bind fun v =>
      if v = b then (opValue? items r).map some else matchArms items b rest
  | .defaultArm :: _ => some none
  | _ :: rest => matchArms items b rest

/-- The result of the decoder `from_opcode` on the byte `b`. -/
def fromOpcode (items : List Item) (b : UInt8) : Option (Option Instr) :=
  matchArms items b items

/-! ### Looking up constants -/

/-- A list lookup finds the one element that satisfies its test. -/
theorem find?_eq_some_of_unique {α : Type} {p : α → Bool} {l : List α} {a : α} (ha : a ∈ l)
    (hp : p a = true) (huniq : ∀ x ∈ l, p x = true → x = a) : l.find? p = some a := by
  cases h : l.find? p with
  | none =>
    rw [List.find?_eq_none] at h
    exact absurd hp (h a ha)
  | some x => rw [huniq x (List.mem_of_find?_eq_some h) (List.find?_some h)]

/-- Where constant names are unique, two definitions of one name are the same item. -/
theorem eq_of_name?_eq {items : List Item} (hnd : (constNames items).Nodup) {x y : Item}
    {n : String} (hx : x ∈ items) (hy : y ∈ items) (hxn : x.name? = some n)
    (hyn : y.name? = some n) : x = y := by
  induction items with
  | nil => simp at hx
  | cons z zs ih =>
    cases hz : z.name? with
    | none =>
      -- `z` defines nothing, so neither `x` nor `y` is `z`
      simp only [constNames, List.filterMap_cons_none hz] at hnd
      have hxz : x ≠ z := fun h => by simp [h, hz] at hxn
      have hyz : y ≠ z := fun h => by simp [h, hz] at hyn
      exact ih hnd ((List.mem_cons.mp hx).resolve_left hxz) ((List.mem_cons.mp hy).resolve_left hyz)
    | some m =>
      simp only [constNames, List.filterMap_cons_some hz, List.nodup_cons] at hnd
      -- a name defined by `z` is defined nowhere after it
      have hlater : ∀ w ∈ zs, w.name? = some n → m ≠ n := fun w hw hwn hmn =>
        hnd.1 (List.mem_filterMap.mpr ⟨w, hw, hmn ▸ hwn⟩)
      rcases List.mem_cons.mp hx with hxz | hxs <;> rcases List.mem_cons.mp hy with hyz | hys
      · rw [hxz, hyz]
      · exact absurd (Option.some.inj (hz.symm.trans (hxz ▸ hxn))) (hlater y hys hyn)
      · exact absurd (Option.some.inj (hz.symm.trans (hyz ▸ hyn))) (hlater x hxs hxn)
      · exact ih hnd.2 hxs hys

/-- **Where names are unique, a name finds its definition.** -/
theorem constant?_eq_of_mem {items : List Item} (hnd : (constNames items).Nodup) {it : Item}
    {n : String} (hmem : it ∈ items) (hname : it.name? = some n) :
    constant? items n = some it :=
  find?_eq_some_of_unique hmem (by simp [hname])
    fun x hx hxn => eq_of_name?_eq hnd hx hmem (by simpa using hxn) hname

/-! ### Literals -/

theorem literalValue?_byteLiteral (b : UInt8) : literalValue? (Text.byteLiteral b) = some b := by
  have hb := b.toNat_lt
  simp [literalValue?, Text.byteLiteral, Text.digitsValue?_byteLiteral, hb]

theorem literalValue?_toString {n : Nat} (hn : n < 256) :
    literalValue? (toString n) = some n.toUInt8 := by
  unfold literalValue?
  rw [Nat.toString_eq_ofList_toDigits, String.toList_ofList]
  split
  · rename_i ds h
    have hmem : 'x' ∈ Nat.toDigits 10 n := by simp [h]
    have hx : 'x'.isDigit = true := Nat.isDigit_of_mem_toDigits (by decide) (by decide) hmem
    exact absurd hx (by decide)
  · simp [Text.digitsValue?_toDigits, hn]

theorem typeValue?_typeExpr (t : Table) (x : Option ValueType) :
    typeValue? (moduleItems t) (typeExpr x) = some x := by
  rw [moduleItems]
  rcases x with _ | ⟨_ | _ | _ | _⟩ <;> rfl

/-! ### The constants of the module of a table -/

theorem constNames_moduleItems (t : Table) :
    constNames (moduleItems t) = Ident.reserved ++ t.entries.toList.map (·.ident) ++
      t.entries.toList.map (·.metadataIdent) := by
  simp [constNames, moduleItems, List.filterMap_append, List.filterMap_map, Function.comp_def,
    Item.name?, opcodeItem, metadataItem, armItem, preambleItems, Ident.reserved]

theorem perm_flatMap_pair {α β : Type} (f g : α → β) (l : List α) :
    (l.flatMap fun x => [f x, g x]).Perm (l.map f ++ l.map g) := by
  induction l with
  | nil => simp
  | cons x xs ih =>
    simp only [List.flatMap_cons, List.map_cons, List.cons_append]
    exact ((ih.cons (g x)).trans List.perm_middle.symm).cons (f x)

theorem constNames_nodup {rs : List Record} {t : Table} (hc : Compilable rs)
    (he : t.entries.toList = rs.map Table.Entry.ofRecord) : (constNames (moduleItems t)).Nodup := by
  have hperm : (moduleNames rs).Perm (Ident.reserved ++ rs.map Record.ident ++
      rs.map fun r => Ident.metadata r.ident) := by
    rw [moduleNames, List.append_assoc]
    exact (perm_flatMap_pair _ _ rs).append_left _
  rw [constNames_moduleItems, he]
  simpa [Function.comp_def, Table.Entry.metadataIdent] using hperm.nodup_iff.mp hc.names_nodup

theorem byteValue?_ident {t : Table} (hnd : (constNames (moduleItems t)).Nodup) {e : Table.Entry}
    (he : e ∈ t.entries.toList) : byteValue? (moduleItems t) e.ident = some e.instr.code := by
  have hmem : opcodeItem e ∈ moduleItems t := by
    simp only [moduleItems, List.mem_append, List.mem_map]
    exact .inl (.inl (.inl (.inr ⟨e, he, rfl⟩)))
  rw [byteValue?, constant?_eq_of_mem hnd hmem rfl]
  exact literalValue?_byteLiteral _

theorem OpFields.value?_ofInstr (t : Table) (i : Instr) :
    (OpFields.ofInstr i).value? (moduleItems t) = some i := by
  have hm := i.memory.toNat_lt
  simp only [OpFields.value?, OpFields.ofInstr, typeValue?_typeExpr, literalValue?_toString hm,
    literalValue?_byteLiteral]
  simp

theorem opValue?_metadataIdent {t : Table} (hnd : (constNames (moduleItems t)).Nodup)
    {e : Table.Entry} (he : e ∈ t.entries.toList) :
    opValue? (moduleItems t) e.metadataIdent = some e.instr := by
  have hmem : metadataItem e ∈ moduleItems t := by
    simp only [moduleItems, List.mem_append, List.mem_map]
    exact .inl (.inl (.inr ⟨e, he, rfl⟩))
  rw [opValue?, constant?_eq_of_mem hnd hmem rfl]
  exact OpFields.value?_ofInstr t e.instr

/-! ### The decoder of the module of a table -/

theorem matchArms_append_of_not_isArm (items : List Item) (b : UInt8) (xs ys : List Item)
    (h : ∀ x ∈ xs, x.isArm = false) :
    matchArms items b (xs ++ ys) = matchArms items b ys := by
  induction xs with
  | nil => rfl
  | cons x xs ih =>
    have hrest := ih fun y hy => h y (by simp [hy])
    have hx := h x (by simp)
    cases x with
    | arm p r => simp [Item.isArm] at hx
    | defaultArm => simp [Item.isArm] at hx
    | typeConst n v => simpa [matchArms] using hrest
    | byteConst n lit => simpa [matchArms] using hrest
    | opConst n f => simpa [matchArms] using hrest
    | otherConst n => simpa [matchArms] using hrest

theorem matchArms_arms (items : List Item) (b : UInt8) (es : List Table.Entry)
    (h : ∀ e ∈ es, byteValue? items e.ident = some e.instr.code ∧
      opValue? items e.metadataIdent = some e.instr) :
    matchArms items b (es.map armItem ++ [.defaultArm]) =
      some ((es.find? (·.instr.code == b)).map (·.instr)) := by
  induction es with
  | nil => rfl
  | cons e es ih =>
    obtain ⟨hb, ho⟩ := h e (by simp)
    have hrest := ih fun e' he' => h e' (by simp [he'])
    by_cases hcode : e.instr.code = b
    · simp [armItem, matchArms, hb, ho, hcode]
    · simpa [armItem, matchArms, hb, hcode] using hrest

theorem find?_entries {rs : List Record} {t : Table} (hI : Table.Indexes rs t) (b : UInt8) :
    t.entries.toList.find? (·.instr.code == b) = t.entry? b := by
  rw [hI.entries_eq]
  by_cases hb : ∃ r ∈ rs, r.code = b
  · obtain ⟨r, hr, rfl⟩ := hb
    obtain ⟨i, hi, rfl⟩ := List.getElem_of_mem hr
    rw [hI.entry?_code i hi]
    refine find?_eq_some_of_unique (List.mem_map_of_mem (List.getElem_mem hi)) (by simp) ?_
    -- opcodes are distinct, so only the entry of `rs[i]` has its opcode
    intro x hx hcode
    obtain ⟨r', hr', rfl⟩ := List.mem_map.mp hx
    have hsame : r'.code = rs[i].code := by simpa using hcode
    rw [List.inj_on_of_nodup_map hI.codes_nodup hr' (List.getElem_mem hi) hsame]
  · simp only [not_exists, not_and] at hb
    rw [hI.entry?_eq_none b hb, List.find?_eq_none]
    intro x hx hcode
    obtain ⟨r', hr', rfl⟩ := List.mem_map.mp hx
    exact hb r' hr' (by simpa using hcode)

/-- **The decoder of the module of a table decodes every byte as the table does.** -/
theorem fromOpcode_moduleItems {rs : List Record} {t : Table} (hI : Table.Indexes rs t)
    (hnd : (constNames (moduleItems t)).Nodup) (b : UInt8) :
    fromOpcode (moduleItems t) b = some (t.decode b) := by
  have hvalues : ∀ e ∈ t.entries.toList, byteValue? (moduleItems t) e.ident = some e.instr.code ∧
      opValue? (moduleItems t) e.metadataIdent = some e.instr :=
    fun e he => ⟨byteValue?_ident hnd he, opValue?_metadataIdent hnd he⟩
  have hconsts : ∀ x ∈ preambleItems ++ t.entries.toList.map opcodeItem ++
      t.entries.toList.map metadataItem, x.isArm = false := by
    intro x hx
    simp only [List.mem_append, List.mem_map] at hx
    rcases hx with (hx | ⟨e, -, rfl⟩) | ⟨e, -, rfl⟩
    · simp only [preambleItems, List.mem_cons, List.not_mem_nil, or_false] at hx
      rcases hx with rfl | rfl | rfl | rfl | rfl <;> rfl
    · rfl
    · rfl
  -- the constants come first and are passed over; then the arms are tried in order
  have hskip := matchArms_append_of_not_isArm (moduleItems t) b
    (preambleItems ++ t.entries.toList.map opcodeItem ++ t.entries.toList.map metadataItem)
    (t.entries.toList.map armItem ++ [.defaultArm]) hconsts
  rw [show preambleItems ++ t.entries.toList.map opcodeItem ++ t.entries.toList.map metadataItem ++
    (t.entries.toList.map armItem ++ [.defaultArm]) = moduleItems t by simp [moduleItems]] at hskip
  rw [fromOpcode, hskip, matchArms_arms _ _ _ hvalues, find?_entries hI, Table.decode_eq_entry?_map]

/-! ### The module of a compiled table -/

/-- What the module of the table `t` is when read back: line by line it defines the five type
constants, an opcode constant and a metadata constant per entry, and has an arm per entry then the
arm for other bytes; every constant name is defined once; each entry's opcode constant has its
opcode and its metadata constant its metadata; and the decoder returns, for every byte, what the
table decodes it to. -/
structure ReadsBack (t : Table) : Prop where
  read_eq : read (render t) = some (moduleItems t)
  constNames_eq : constNames (moduleItems t) =
    Ident.reserved ++ t.entries.toList.map (·.ident) ++ t.entries.toList.map (·.metadataIdent)
  constNames_nodup : (constNames (moduleItems t)).Nodup
  values : ∀ e ∈ t.entries.toList, byteValue? (moduleItems t) e.ident = some e.instr.code ∧
    opValue? (moduleItems t) e.metadataIdent = some e.instr
  fromOpcode_eq : ∀ b, fromOpcode (moduleItems t) b = some (t.decode b)

/-- **The module of a compiled table reads back as the table.** -/
theorem readsBack_of_compile_eq_ok {rs : List Record} {t : Table} (h : Table.compile rs = .ok t) :
    ReadsBack t := by
  obtain ⟨hc, names, hs⟩ := Table.reached_of_compile_eq_ok h
  have hI := Table.indexes_of_reached hc hs
  have hnd := constNames_nodup hc hI.entries_eq
  -- the records' names are usable, so every line of the module is read
  have hemit : ∀ e ∈ t.entries.toList, Ident.isEmittable e.ident = true := by
    intro e he
    rw [hI.entries_eq] at he
    obtain ⟨r, hr, rfl⟩ := List.mem_map.mp he
    exact hc.emittable r hr
  exact ⟨read_render t hemit, constNames_moduleItems t, hnd,
    fun e he => ⟨byteValue?_ident hnd he, opValue?_metadataIdent hnd he⟩,
    fromOpcode_moduleItems hI hnd⟩

theorem readsBack_of_compile_add_sub :
    ∃ rs t, rs = [(⟨some .i32, some .i32, some .i32, none, 0, .absent, 0x6a, none, "i32.add", 1⟩ :
        Record), ⟨some .i32, some .i32, some .i32, none, 0, .absent, 0x6b, none, "i32.sub", 2⟩] ∧
      Table.compile rs = .ok t ∧ ReadsBack t := by
  refine ⟨_, ?table, rfl, ?compiled, readsBack_of_compile_eq_ok ?compiled⟩
  case compiled => rfl

end Opcodes.Source
