import Opcodes.Text.Numeral
import Mathlib.Data.Nat.Digits.Defs
import Mathlib.Data.List.Forall2
/-!
# The grammar of byte numerals

`Opcodes.Text.byteValue?` reads a byte column one digit at a time, with a number as accumulator.
This module says which texts it accepts without reference to how it reads them. A numeral is a
nonempty run of digits behind at most one `+`, and behind `0x` or `0X` when the digits are
hexadecimal. A digit is written as `Nat.digitChar` writes it or in upper case, and the value of a
run is `Nat.ofDigits` of its digits, least significant first. The reader accepts exactly the
numerals of value at most 255; a numeral of a larger value, however many digits it has, is
rejected and never taken modulo 256.

## Main definitions

* `Opcodes.Text.IsDigitOf` — a character written for a digit of a radix.
* `Opcodes.Text.SignedDigits` — a run of digits behind at most one `+`, with its value.
* `Opcodes.Text.ByteNumeral` — a numeral with its value, before the bound.

## Main results

* `Opcodes.Text.digitIn?_eq_some_iff` — the digits of a radix up to sixteen.
* `Opcodes.Text.digitsFrom?_eq_some_iff` — the digit loop computes the value of the digits.
* `Opcodes.Text.numeralValue?_eq_some_iff` — the reader without the bound accepts exactly the
  numerals.
* `Opcodes.Text.byteValue?_eq_some_iff`, `Opcodes.Text.byteValue?_eq_none_of_lt` — the bound.
* `Opcodes.Text.byteValue?_eq_some_iff_byteNumeral` — **a byte column reads as `v` exactly when it
  is a numeral of value `v`, and a numeral above 255 never reads**.
-/

set_option autoImplicit false

namespace Opcodes.Text

/-! ### The grammar -/

/-- `c` is written for the digit `d` of `radix`: as `Nat.digitChar d`, or in upper case. -/
def IsDigitOf (radix : Nat) (c : Char) (d : Nat) : Prop :=
  d < radix ∧ (c = Nat.digitChar d ∨ c = (Nat.digitChar d).toUpper)

/-- `cs` is a nonempty run of digits of `radix` behind at most one `+`, and `n` is its value,
the digits taken most significant first. -/
def SignedDigits (radix : Nat) (cs : List Char) (n : Nat) : Prop :=
  ∃ sign digits ds, (sign = [] ∨ sign = ['+']) ∧ cs = sign ++ digits ∧ ds ≠ [] ∧
    List.Forall₂ (IsDigitOf radix) digits ds ∧ Nat.ofDigits radix ds.reverse = n

/-- `cs` is a numeral of value `n`: decimal digits, or `0x` or `0X` and hexadecimal digits, each
behind at most one `+`. -/
def ByteNumeral (cs : List Char) (n : Nat) : Prop :=
  SignedDigits 10 cs n ∨
    ∃ x rest, (x = 'x' ∨ x = 'X') ∧ cs = '0' :: x :: rest ∧ SignedDigits 16 rest n

/-! ### Digits -/

/-- A character of the reader's digits, by code point: `0`–`9`, `a`–`z` and `A`–`Z`. -/
theorem digitValue?_eq_some_iff_toNat {c : Char} {d : Nat} :
    digitValue? c = some d ↔
      (48 ≤ c.toNat ∧ c.toNat ≤ 57 ∧ d + 48 = c.toNat) ∨
      (97 ≤ c.toNat ∧ c.toNat ≤ 122 ∧ d + 87 = c.toNat) ∨
      (65 ≤ c.toNat ∧ c.toNat ≤ 90 ∧ d + 55 = c.toNat) := by
  have h0 : ('0' : Char).toNat = 48 := rfl
  have h9 : ('9' : Char).toNat = 57 := rfl
  have ha : ('a' : Char).toNat = 97 := rfl
  have hz : ('z' : Char).toNat = 122 := rfl
  have hA : ('A' : Char).toNat = 65 := rfl
  have hZ : ('Z' : Char).toNat = 90 := rfl
  unfold digitValue?
  simp only [Char.le_def, UInt32.le_iff_toNat_le, Char.toNat_val]
  split_ifs <;> simp <;> omega

theorem toNat_digitChar : ∀ d < 16, (Nat.digitChar d).toNat = if d < 10 then d + 48 else d + 87 := by
  decide

theorem toNat_toUpper_digitChar :
    ∀ d < 16, (Nat.digitChar d).toUpper.toNat = if d < 10 then d + 48 else d + 55 := by
  decide

theorem digitValue?_eq_some_iff {c : Char} {d : Nat} (hd : d < 16) :
    digitValue? c = some d ↔ c = Nat.digitChar d ∨ c = (Nat.digitChar d).toUpper := by
  rw [digitValue?_eq_some_iff_toNat, ← Char.toNat_inj, ← Char.toNat_inj, toNat_digitChar d hd,
    toNat_toUpper_digitChar d hd]
  split_ifs <;> omega

/-- In a radix up to sixteen, the reader's digits are the digits of `Nat.digitChar`, in either
case. -/
theorem digitIn?_eq_some_iff {radix : Nat} (hr : radix ≤ 16) {c : Char} {d : Nat} :
    digitIn? radix c = some d ↔ IsDigitOf radix c d := by
  rw [digitIn?, Option.filter_eq_some_iff, IsDigitOf]
  constructor
  · rintro ⟨h, hd⟩
    have hd : d < radix := by simpa using hd
    exact ⟨hd, (digitValue?_eq_some_iff (by omega)).mp h⟩
  · rintro ⟨hd, h⟩
    exact ⟨(digitValue?_eq_some_iff (by omega)).mpr h, by simpa using hd⟩

theorem IsDigitOf.isHexDigit {radix : Nat} (hr : radix ≤ 16) {c : Char} {d : Nat}
    (h : IsDigitOf radix c d) : c.isHexDigit = true := by
  obtain ⟨hd, hc⟩ := h
  have hall : ∀ d < 16, (Nat.digitChar d).isHexDigit ∧ (Nat.digitChar d).toUpper.isHexDigit := by
    decide
  rcases hc with rfl | rfl
  · exact (hall d (by omega)).1
  · exact (hall d (by omega)).2

theorem IsDigitOf.isDigit {c : Char} {d : Nat} (h : IsDigitOf 10 c d) : c.isDigit = true := by
  obtain ⟨hd, hc⟩ := h
  have hall : ∀ d < 10, (Nat.digitChar d).isDigit ∧ (Nat.digitChar d).toUpper.isDigit := by
    decide
  rcases hc with rfl | rfl
  · exact (hall d hd).1
  · exact (hall d hd).2

/-! ### Runs of digits -/

theorem ofDigits_reverse_cons (radix d : Nat) (ds : List Nat) :
    Nat.ofDigits radix (d :: ds).reverse = d * radix ^ ds.length + Nat.ofDigits radix ds.reverse := by
  rw [List.reverse_cons, Nat.ofDigits_append, List.length_reverse, Nat.ofDigits_singleton]
  ring

/-- The digit loop reads every character as a digit, and ends with the accumulator shifted past
the digits plus their value. -/
theorem digitsFrom?_eq_some_iff {radix : Nat} (hr : radix ≤ 16) (acc : Nat) (cs : List Char)
    (n : Nat) :
    digitsFrom? radix acc cs = some n ↔ ∃ ds, List.Forall₂ (IsDigitOf radix) cs ds ∧
      n = acc * radix ^ ds.length + Nat.ofDigits radix ds.reverse := by
  -- the accumulator grows by one digit a step, so it is generalised
  induction cs generalizing acc with
  | nil => simp [digitsFrom?, eq_comm]
  | cons c cs ih =>
    simp only [digitsFrom?, Option.bind_eq_some_iff, digitIn?_eq_some_iff hr, ih,
      List.forall₂_cons_left_iff]
    constructor
    · rintro ⟨d, hd, ds, hds, rfl⟩
      refine ⟨d :: ds, ⟨d, ds, hd, hds, rfl⟩, ?_⟩
      rw [ofDigits_reverse_cons, List.length_cons]
      ring
    · rintro ⟨_, ⟨d, ds, hd, hds, rfl⟩, rfl⟩
      refine ⟨d, hd, ds, hds, ?_⟩
      rw [ofDigits_reverse_cons, List.length_cons]
      ring

theorem digitsValue?_eq_some_iff {radix : Nat} (hr : radix ≤ 16) (cs : List Char) (n : Nat) :
    digitsValue? radix cs = some n ↔ ∃ ds, ds ≠ [] ∧ List.Forall₂ (IsDigitOf radix) cs ds ∧
      Nat.ofDigits radix ds.reverse = n := by
  cases cs with
  | nil => simp [digitsValue?]
  | cons c cs =>
    show digitsFrom? radix 0 (c :: cs) = some n ↔ _
    rw [digitsFrom?_eq_some_iff hr]
    constructor
    · rintro ⟨ds, hds, rfl⟩
      refine ⟨ds, ?_, hds, by simp⟩
      rintro rfl
      cases hds
    · rintro ⟨ds, -, hds, rfl⟩
      exact ⟨ds, hds, by simp⟩

/-- Digits with no sign read as signed digits with the empty sign. -/
theorem signedDigits_of_digitsValue? {radix : Nat} (hr : radix ≤ 16) {cs : List Char} {n : Nat}
    (h : digitsValue? radix cs = some n) : SignedDigits radix cs n := by
  obtain ⟨ds, hne, hds, hv⟩ := (digitsValue?_eq_some_iff hr cs n).mp h
  exact ⟨[], cs, ds, .inl rfl, rfl, hne, hds, hv⟩

/-- A `+` is no digit, so the sign of signed digits is read off their first character. -/
theorem unsignedValue?_eq_some_iff {radix : Nat} (hr : radix ≤ 16) (cs : List Char) (n : Nat) :
    unsignedValue? radix cs = some n ↔ SignedDigits radix cs n := by
  have hplus : '+'.isHexDigit = false := by decide
  unfold unsignedValue?
  split
  · rename_i rest
    constructor
    · intro h
      obtain ⟨ds, hne, hds, hv⟩ := (digitsValue?_eq_some_iff hr rest n).mp h
      exact ⟨['+'], rest, ds, .inr rfl, rfl, hne, hds, hv⟩
    · rintro ⟨sign, digits, ds, rfl | rfl, hcs, hne, hds, hv⟩
      · -- without a sign, the `+` would be a digit
        rw [List.nil_append] at hcs
        subst hcs
        obtain _ | ⟨hd, -⟩ := hds
        exact absurd (hd.isHexDigit hr) (by simp [hplus])
      · obtain rfl : rest = digits := by simpa using hcs
        exact (digitsValue?_eq_some_iff hr rest n).mpr ⟨ds, hne, hds, hv⟩
  · rename_i hnot
    constructor
    · exact signedDigits_of_digitsValue? hr
    · rintro ⟨sign, digits, ds, rfl | rfl, hcs, hne, hds, hv⟩
      · rw [List.nil_append] at hcs
        subst hcs
        exact (digitsValue?_eq_some_iff hr _ n).mpr ⟨ds, hne, hds, hv⟩
      · exact absurd hcs (hnot digits)

/-! ### Numerals -/

/-- After `0x` or `0X` no decimal digits can follow, so a hexadecimal numeral is not decimal. -/
theorem not_signedDigits_ten_of_hex {x : Char} (hx : x.isDigit = false) (rest : List Char)
    (n : Nat) : ¬ SignedDigits 10 ('0' :: x :: rest) n := by
  rintro ⟨sign, digits, ds, rfl | rfl, hcs, -, hds, -⟩
  · rw [List.nil_append] at hcs
    subst hcs
    obtain _ | ⟨-, _ | ⟨hd, -⟩⟩ := hds
    exact absurd hd.isDigit (by simp [hx])
  · simp only [List.singleton_append, List.cons.injEq] at hcs
    exact absurd hcs.1 (by decide)

/-- The numeral reader accepts exactly the numerals, with their value. -/
theorem numeralValue?_eq_some_iff (cs : List Char) (n : Nat) :
    numeralValue? cs = some n ↔ ByteNumeral cs n := by
  unfold numeralValue? ByteNumeral
  split
  · rename_i rest
    rw [unsignedValue?_eq_some_iff (by decide)]
    simp [not_signedDigits_ten_of_hex (show 'x'.isDigit = false by decide)]
  · rename_i rest
    rw [unsignedValue?_eq_some_iff (by decide)]
    simp [not_signedDigits_ten_of_hex (show 'X'.isDigit = false by decide)]
  · rename_i hx hX
    rw [unsignedValue?_eq_some_iff (by decide)]
    constructor
    · exact .inl
    · rintro (h | ⟨x, rest, rfl | rfl, rfl, -⟩)
      · exact h
      · exact absurd rfl (hx rest)
      · exact absurd rfl (hX rest)

/-- A byte column reads as the byte `v` exactly when it is a numeral of value `v`. -/
theorem byteValue?_eq_some_iff (f : String) (v : UInt8) :
    byteValue? f = some v ↔ ByteNumeral f.toList v.toNat := by
  rw [byteValue?, Option.bind_eq_some_iff]
  constructor
  · rintro ⟨n, hn, hv⟩
    split at hv
    · rename_i hle
      cases hv
      rw [← numeralValue?_eq_some_iff]
      simpa [Nat.mod_eq_of_lt (show n < 256 by omega)] using hn
    · cases hv
  · intro h
    refine ⟨v.toNat, (numeralValue?_eq_some_iff _ _).mpr h, ?_⟩
    rw [if_pos (by have := v.toNat_lt; omega)]
    simp

/-- A numeral of a value above 255 does not read: the value is bounded, never reduced. -/
theorem byteValue?_eq_none_of_lt {f : String} {n : Nat} (hn : ByteNumeral f.toList n)
    (hlarge : 255 < n) : byteValue? f = none := by
  rw [byteValue?, (numeralValue?_eq_some_iff _ _).mpr hn, Option.bind_some, if_neg (by omega)]

/-- **A byte column reads as the byte `v` exactly when it is a numeral of value `v`; a numeral of
a value above 255 does not read, whatever its length.** -/
theorem byteValue?_eq_some_iff_byteNumeral (f : String) :
    (∀ v : UInt8, byteValue? f = some v ↔ ByteNumeral f.toList v.toNat) ∧
    ∀ n, ByteNumeral f.toList n → 255 < n → byteValue? f = none :=
  ⟨byteValue?_eq_some_iff f, fun _ hn hlarge => byteValue?_eq_none_of_lt hn hlarge⟩

example : byteValue? "000000000000255" = some 255 ∧ byteValue? "0x+f" = some 15 ∧
    byteValue? "0x100" = none ∧ byteValue? "+0x5" = none ∧ byteValue? "0x" = none := by
  decide

end Opcodes.Text
