import Opcodes.Proofs.Compilation
import Mathlib
/-!
# Mnemonics that name constants

The constant name of a mnemonic drops its quotes, turns `.` and `/` into `_` and puts ASCII
letters in upper case. Compilation accepts the name if it starts with a capital or `_`, goes on
with capitals, digits and `_`, and is not `_` alone. This module states which mnemonics pass,
in terms of the mnemonic itself: once its quotes are dropped, it is not empty, holds only ASCII
letters, digits, `_`, `.` and `/`, does not start with a digit, and is not `_`, `.` or `/` alone.
Upper case is ASCII only, so a mnemonic with any other character never passes, and the first
record that holds one stops compilation as malformed.

## Main definitions

* `Opcodes.Ident.unquoted` — a mnemonic without its quotes.
* `Opcodes.Ident.UsableMnemonic` — a mnemonic that gives a usable constant name.

## Main results

* `Opcodes.Ident.isEmittable_iff` — the shape of a usable constant name.
* `Opcodes.Ident.isEmittable_canonical_iff` — the constant name of a mnemonic is usable exactly
  when the mnemonic is usable.
* `Opcodes.Table.compile_eq_unnamable` — the first record with an unusable mnemonic stops
  compilation as malformed.
* `Opcodes.Table.isEmittable_canonical_iff_and_compile_non_ascii` — **the usable mnemonics, and
  what a mnemonic outside ASCII does to compilation**.
-/

set_option autoImplicit false

namespace Opcodes

namespace Ident

/-! ### Usable mnemonics -/

/-- The mnemonic `t` without its quote characters. -/
def unquoted (t : String) : List Char :=
  t.toList.filter fun c => c != '"' && c != '\''

/-- Whether a character may stand in a usable mnemonic besides quotes: an ASCII letter or digit,
`_`, `.` or `/`. -/
def isMnemonicChar (c : Char) : Bool :=
  c.isAlpha || c.isDigit || c == '_' || c == '.' || c == '/'

/-- A mnemonic that gives a usable constant name: without its quotes it is not empty, holds only
ASCII letters, digits, `_`, `.` and `/`, does not start with a digit, and is not `_`, `.` or `/`
alone. -/
def UsableMnemonic (t : String) : Prop :=
  unquoted t ≠ [] ∧ (∀ c ∈ unquoted t, isMnemonicChar c = true) ∧
    (∀ c ∈ (unquoted t).head?, c.isDigit = false) ∧ unquoted t ∉ [['_'], ['.'], ['/']]

-- The conditions on every character are decided through `List.all` and `Option.all`, which
-- reduce by plain recursion on the characters.
instance (t : String) : Decidable (UsableMnemonic t) :=
  decidable_of_iff (unquoted t ≠ [] ∧ (unquoted t).all isMnemonicChar = true ∧
      ((unquoted t).head?.all fun c => !c.isDigit) = true ∧ unquoted t ∉ [['_'], ['.'], ['/']])
    (by simp [UsableMnemonic, List.all_eq_true, Option.all_eq_true, Option.mem_def])

/-! ### Classes of characters by code point

Each class below is a union of ranges of code points, so every fact about one character of a
mnemonic becomes linear arithmetic on its code point. -/

private theorem toNat_char_dot : ('.' : Char).toNat = 46 := rfl
private theorem toNat_char_slash : ('/' : Char).toNat = 47 := rfl
private theorem toNat_char_underscore : ('_' : Char).toNat = 95 := rfl
private theorem toNat_char_zero : ('0' : Char).toNat = 48 := rfl
private theorem toNat_char_nine : ('9' : Char).toNat = 57 := rfl

theorem isUpper_iff_toNat (c : Char) : c.isUpper = true ↔ 65 ≤ c.toNat ∧ c.toNat ≤ 90 := by
  simp [Char.isUpper, UInt32.le_iff_toNat_le]

theorem isLower_iff_toNat (c : Char) : c.isLower = true ↔ 97 ≤ c.toNat ∧ c.toNat ≤ 122 := by
  simp [Char.isLower, UInt32.le_iff_toNat_le]

theorem isAlpha_iff_toNat (c : Char) :
    c.isAlpha = true ↔ (65 ≤ c.toNat ∧ c.toNat ≤ 90) ∨ (97 ≤ c.toNat ∧ c.toNat ≤ 122) := by
  rw [Char.isAlpha, Bool.or_eq_true, isUpper_iff_toNat, isLower_iff_toNat]

theorem isNameChar_iff_toNat (c : Char) : isNameChar c = true ↔
    (65 ≤ c.toNat ∧ c.toNat ≤ 90) ∨ (48 ≤ c.toNat ∧ c.toNat ≤ 57) ∨ c.toNat = 95 := by
  simp only [isNameChar, Bool.or_eq_true, beq_iff_eq, isUpper_iff_toNat, Char.isDigit_iff_toNat,
    toNat_char_zero, toNat_char_nine, ← Char.toNat_inj, toNat_char_underscore, or_assoc]

theorem isMnemonicChar_iff_toNat (c : Char) : isMnemonicChar c = true ↔
    (65 ≤ c.toNat ∧ c.toNat ≤ 90) ∨ (97 ≤ c.toNat ∧ c.toNat ≤ 122) ∨
      (48 ≤ c.toNat ∧ c.toNat ≤ 57) ∨ c.toNat = 95 ∨ c.toNat = 46 ∨ c.toNat = 47 := by
  simp only [isMnemonicChar, Bool.or_eq_true, beq_iff_eq, isAlpha_iff_toNat,
    Char.isDigit_iff_toNat, toNat_char_zero, toNat_char_nine, ← Char.toNat_inj,
    toNat_char_underscore, toNat_char_dot, toNat_char_slash, or_assoc]

/-- Upper case moves the code points of `a`–`z` down by 32 and keeps every other one. -/
theorem toNat_toUpper (c : Char) :
    c.toUpper.toNat = if 97 ≤ c.toNat ∧ c.toNat ≤ 122 then c.toNat - 32 else c.toNat := by
  by_cases h : c.isLower
  · have hc := (isLower_iff_toNat c).mp h
    rw [Char.toUpper_eq_of_isLower h, if_pos hc, Char.toNat_ofNat, if_pos (Or.inl (by omega))]
  · rw [Char.toUpper_eq_of_not_isLower h, if_neg (mt (isLower_iff_toNat c).mpr h)]

/-! ### One character of a mnemonic -/

/-- The character of the constant name that stands for a character of a mnemonic other than a
quote. -/
def upperChar (c : Char) : Char :=
  if c = '.' ∨ c = '/' then '_' else c.toUpper

theorem canonicalChar_eq (c : Char) :
    canonicalChar c = if c = '"' ∨ c = '\'' then none else some (upperChar c) := by
  unfold canonicalChar upperChar
  split_ifs <;> rfl

theorem toNat_upperChar (c : Char) : (upperChar c).toNat =
    if c.toNat = 46 ∨ c.toNat = 47 then 95
    else if 97 ≤ c.toNat ∧ c.toNat ≤ 122 then c.toNat - 32 else c.toNat := by
  unfold upperChar
  simp only [← Char.toNat_inj, toNat_char_dot, toNat_char_slash]
  split_ifs
  · rfl
  · exact (toNat_toUpper c).trans (if_pos ‹_›)
  · exact (toNat_toUpper c).trans (if_neg ‹_›)

section Classes

variable (c : Char)

/-- The first character of the constant name may start one exactly when the character of the
mnemonic is a letter, `_`, `.` or `/`. -/
theorem upperChar_isUpper_or_underscore :
    (upperChar c).isUpper = true ∨ upperChar c = '_' ↔
      c.isAlpha = true ∨ c = '_' ∨ c = '.' ∨ c = '/' := by
  simp only [isUpper_iff_toNat, isAlpha_iff_toNat, ← Char.toNat_inj, toNat_upperChar,
    toNat_char_dot, toNat_char_slash, toNat_char_underscore]
  split_ifs <;> omega

theorem isNameChar_upperChar : isNameChar (upperChar c) = isMnemonicChar c := by
  apply Bool.eq_iff_iff.mpr
  rw [isNameChar_iff_toNat, isMnemonicChar_iff_toNat, toNat_upperChar]
  split_ifs <;> omega

theorem upperChar_eq_underscore : upperChar c = '_' ↔ c = '_' ∨ c = '.' ∨ c = '/' := by
  simp only [← Char.toNat_inj, toNat_upperChar, toNat_char_dot, toNat_char_slash,
    toNat_char_underscore]
  split_ifs <;> omega

/-- A character of a usable mnemonic that may also start one is one that is not a digit. -/
theorem isMnemonicChar_and_not_isDigit :
    isMnemonicChar c = true ∧ c.isDigit = false ↔
      c.isAlpha = true ∨ c = '_' ∨ c = '.' ∨ c = '/' := by
  rw [← Bool.not_eq_true, isMnemonicChar_iff_toNat, Char.isDigit_iff_toNat, isAlpha_iff_toNat]
  simp only [← Char.toNat_inj, toNat_char_zero, toNat_char_nine, toNat_char_dot, toNat_char_slash,
    toNat_char_underscore]
  omega

end Classes

/-- The characters of a usable mnemonic are ASCII. -/
theorem toNat_lt_of_isMnemonicChar {c : Char} (h : isMnemonicChar c = true) : c.toNat < 128 := by
  rw [isMnemonicChar_iff_toNat] at h
  omega

/-! ### The whole mnemonic -/

theorem toList_canonical (t : String) : (canonical t).toList = (unquoted t).map upperChar := by
  rw [canonical, String.toList_ofList, unquoted]
  induction t.toList with
  | nil => rfl
  | cons c cs ih =>
    rw [List.filterMap_cons, canonicalChar_eq, List.filter_cons]
    by_cases hq : c = '"' ∨ c = '\''
    · have : (c != '"' && c != '\'') = false := by rcases hq with rfl | rfl <;> rfl
      rw [if_pos hq, this]
      exact ih
    · have : (c != '"' && c != '\'') = true := by simpa [not_or] using hq
      rw [if_neg hq, this, if_pos rfl, List.map_cons, ih]

/-- A usable constant name: a capital or `_`, then characters of names, and not `_` alone. -/
theorem isEmittable_iff (s : String) : isEmittable s = true ↔
    ∃ c rest, s.toList = c :: rest ∧ (c.isUpper = true ∨ c = '_') ∧
      (∀ d ∈ rest, isNameChar d = true) ∧ s.toList ≠ ['_'] := by
  unfold isEmittable
  split
  · simp_all
  · simp_all
  · rename_i c rest hnot hs
    rw [hs]
    simp only [Bool.and_eq_true, Bool.or_eq_true, beq_iff_eq, List.all_eq_true]
    constructor
    · rintro ⟨hc, hrest⟩
      refine ⟨c, rest, rfl, hc, hrest, fun h => ?_⟩
      injection h with h₁ h₂
      exact hnot h₁ h₂
    · rintro ⟨c', rest', h, hc, hrest, -⟩
      injection h with h₁ h₂
      subst h₁ h₂
      exact ⟨hc, hrest⟩

/-- The constant name of a mnemonic is usable exactly when the mnemonic is usable. -/
theorem isEmittable_canonical_iff (t : String) :
    isEmittable (canonical t) = true ↔ UsableMnemonic t := by
  rw [isEmittable_iff, toList_canonical, UsableMnemonic]
  cases unquoted t with
  | nil => simp
  | cons c rest =>
    -- the first character decides how the name starts, the others its body
    have hsingle : (c :: rest).map upperChar = ['_'] ↔ c :: rest ∈ [['_'], ['.'], ['/']] := by
      simp [upperChar_eq_underscore, or_and_right]
    simp only [List.forall_mem_cons, List.head?_cons, Option.mem_def, Option.some.injEq,
      forall_eq', ne_eq, hsingle]
    constructor
    · rintro ⟨c', rest', h, hc, hrest, hne⟩
      injection h with hc' hrest'
      subst hc' hrest'
      have hc := (isMnemonicChar_and_not_isDigit c).mpr ((upperChar_isUpper_or_underscore c).mp hc)
      refine ⟨List.cons_ne_nil _ _, ⟨hc.1, fun d hd => ?_⟩, hc.2, hne⟩
      simpa [isNameChar_upperChar] using hrest (upperChar d) (List.mem_map_of_mem hd)
    · rintro ⟨-, ⟨hc, hrest⟩, hdigit, hne⟩
      refine ⟨upperChar c, rest.map upperChar, rfl, ?_, ?_, hne⟩
      · exact (upperChar_isUpper_or_underscore c).mpr
          ((isMnemonicChar_and_not_isDigit c).mp ⟨hc, hdigit⟩)
      · simpa [isNameChar_upperChar] using hrest

example : UsableMnemonic "i32.trunc_s/f32" ∧ UsableMnemonic "\".x\"" ∧
    ¬ UsableMnemonic "'_'" ∧ ¬ UsableMnemonic "/" ∧ ¬ UsableMnemonic "3d" := by
  decide

/-- A mnemonic with a character outside ASCII is not usable: that character is no quote, and
every other character of a usable mnemonic is ASCII. -/
theorem not_usableMnemonic_of_non_ascii {t : String} {c : Char} (hc : c ∈ t.toList)
    (hna : 127 < c.toNat) : ¬ UsableMnemonic t := by
  rintro ⟨-, hchars, -, -⟩
  have hq : (c != '"' && c != '\'') = true := by
    have h₁ : c ≠ '"' := fun h => by subst h; exact absurd hna (by decide)
    have h₂ : c ≠ '\'' := fun h => by subst h; exact absurd hna (by decide)
    simp [h₁, h₂]
  have := toNat_lt_of_isMnemonicChar (hchars c (List.mem_filter.mpr ⟨hc, hq⟩))
  omega

end Ident

namespace Table

/-! ### What an unusable mnemonic does to compilation -/

/-- Records that hold an unusable mnemonic never compile. -/
theorem compile_ne_ok_of_not_usable {rs : List Record} {r : Record} (hr : r ∈ rs)
    (h : ¬ Ident.UsableMnemonic r.text) (t : Table) : compile rs ≠ .ok t := by
  intro hok
  exact h ((Ident.isEmittable_canonical_iff r.text).mp
    ((reached_of_compile_eq_ok hok).1.emittable r hr))

/-- If the records before an unusable mnemonic compile, compilation stops at it as malformed. -/
theorem compile_eq_unnamable {rs : List Record} {k : Nat} (hk : k < rs.length)
    (h : ¬ Ident.UsableMnemonic rs[k].text) (hpre : ∃ t, compile (rs.take k) = .ok t) :
    compile rs = .error (.malformed rs[k].line (.unnamable rs[k].text)) := by
  obtain ⟨t, ht⟩ := hpre
  have hc : Compilable (rs.take k) := (reached_of_compile_eq_ok ht).1
  have hunnamable : Ident.isEmittable rs[k].ident = false := by
    rw [Record.ident, ← Bool.not_eq_true, Ident.isEmittable_canonical_iff]
    exact h
  have hrun := (foldlM_compileStep_error_iff rs compilable_nil reached_nil _).mpr
    ⟨k, hk, by simpa using hc, by simpa using Fault.unnamable hunnamable⟩
  simp [compile, hrun, Except.map]

/-- **A mnemonic gives a usable constant name exactly when it is usable; a record whose mnemonic
holds a character outside ASCII keeps its records from compiling, and stops compilation as
malformed once the records before it compile.** -/
theorem isEmittable_canonical_iff_and_compile_non_ascii :
    (∀ t, Ident.isEmittable (Ident.canonical t) = true ↔ Ident.UsableMnemonic t) ∧
    ∀ (rs : List Record) (k : Nat) (hk : k < rs.length), (∃ c ∈ rs[k].text.toList, 127 < c.toNat) →
      (∀ t, compile rs ≠ .ok t) ∧
      ((∃ t, compile (rs.take k) = .ok t) →
        compile rs = .error (.malformed rs[k].line (.unnamable rs[k].text))) := by
  refine ⟨Ident.isEmittable_canonical_iff, fun rs k hk ⟨c, hc, hna⟩ => ?_⟩
  have h := Ident.not_usableMnemonic_of_non_ascii hc hna
  exact ⟨compile_ne_ok_of_not_usable (List.getElem_mem hk) h, compile_eq_unnamable hk h⟩

/-- The record of `i32.é` alone does not compile: the `é` makes it unnamable on its own line. -/
theorem compile_unnamable_i32_e_acute :
    ∃ r : Record, r = ⟨some .i32, some .i32, none, none, 0, .absent, 0x45, none, "i32.é", 1⟩ ∧
      (∀ t, compile [r] ≠ .ok t) ∧ compile [r] = .error (.malformed 1 (.unnamable "i32.é")) := by
  have h := isEmittable_canonical_iff_and_compile_non_ascii.2
    [⟨some .i32, some .i32, none, none, 0, .absent, 0x45, none, "i32.é", 1⟩] 0 (by decide)
    ⟨'é', by decide, by decide⟩
  exact ⟨_, rfl, h.1, h.2 ⟨_, rfl⟩⟩

end Table

end Opcodes
