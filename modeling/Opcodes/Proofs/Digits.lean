import Opcodes.Text.Hex
import Opcodes.Text.Numeral
import Mathlib
/-!
# Digits read back

The generated module writes numbers as digits: opcodes as two hexadecimal digits behind `0x`,
memory flags in decimal, and code points of escaped characters in hexadecimal without leading
zeros. This module shows that reading those digits with the numeral reader of definition tables
gives the number back.

## Main results

* `Opcodes.Text.digitsFrom?_append` — reading digits in two parts.
* `Opcodes.Text.digitsFrom?_of_digits` — digits written most significant first read back as their
  value, in any radix.
* `Opcodes.Text.digitsValue?_hexDigits`, `Opcodes.Text.digitsValue?_toDigits`,
  `Opcodes.Text.digitsValue?_byteLiteral` — the three ways the module writes numbers.
-/

set_option autoImplicit false

namespace Opcodes.Text

theorem digitsFrom?_append (radix acc : Nat) (cs ds : List Char) :
    digitsFrom? radix acc (cs ++ ds) =
      (digitsFrom? radix acc cs).bind fun v => digitsFrom? radix v ds := by
  induction cs generalizing acc with
  | nil => rfl
  | cons c cs ih =>
    simp only [List.cons_append, digitsFrom?]
    cases digitIn? radix c with
    | none => rfl
    | some d => exact ih (acc * radix + d)

/-- Digits written most significant first, by a rule that writes a number below the radix as one
digit and any other as the digits of its quotient then the digit of its remainder, read back as
the number. -/
theorem digitsFrom?_of_digits {radix : Nat} (hradix : 1 < radix) (digit : Nat → Char)
    (hdigit : ∀ d < radix, digitIn? radix (digit d) = some d) (digits : Nat → List Char)
    (hlow : ∀ n < radix, digits n = [digit n])
    (hhigh : ∀ n, radix ≤ n → digits n = digits (n / radix) ++ [digit (n % radix)]) (n : Nat) :
    digitsFrom? radix 0 (digits n) = some n := by
  induction n using Nat.strongRecOn with
  | ind n ih =>
    rcases Nat.lt_or_ge n radix with hn | hn
    · simp [hlow n hn, digitsFrom?, hdigit n hn]
    · have hq : n / radix < n := Nat.div_lt_self (by omega) hradix
      rw [hhigh n hn, digitsFrom?_append, ih _ hq]
      simp [digitsFrom?, hdigit _ (Nat.mod_lt n (by omega)), Nat.div_add_mod' n radix]

theorem digitIn?_hexDigit : ∀ d < 16, digitIn? 16 (hexDigit d) = some d := by
  decide

theorem hexDigits_ne_nil (n : Nat) : hexDigits n ≠ [] := by
  rw [hexDigits]
  split <;> simp

theorem digitsValue?_hexDigits (n : Nat) : digitsValue? 16 (hexDigits n) = some n := by
  have h := digitsFrom?_of_digits (by decide) hexDigit digitIn?_hexDigit hexDigits
    (fun n hn => by rw [hexDigits, if_pos hn])
    (fun n hn => by rw [hexDigits, if_neg (by omega)]) n
  unfold digitsValue?
  split
  · rename_i h'
    exact absurd h' (hexDigits_ne_nil n)
  · exact h

theorem mem_hexDigits {n : Nat} {c : Char} (h : c ∈ hexDigits n) : ∃ d < 16, c = hexDigit d := by
  induction n using Nat.strongRecOn with
  | ind n ih =>
    rw [hexDigits] at h
    split at h
    · exact ⟨n, by omega, by simpa using h⟩
    · rcases List.mem_append.mp h with h | h
      · exact ih (n / 16) (by omega) h
      · exact ⟨n % 16, Nat.mod_lt _ (by decide), by simpa using h⟩

theorem length_hexDigits_le {n k : Nat} (hk : 0 < k) (hn : n < 16 ^ k) :
    (hexDigits n).length ≤ k := by
  induction k generalizing n with
  | zero => omega
  | succ k ih =>
    rw [hexDigits]
    split
    · simp
    · rcases Nat.eq_zero_or_pos k with rfl | hk'
      · omega
      · have : n / 16 < 16 ^ k := by
          rw [Nat.div_lt_iff_lt_mul (by decide)]
          simpa [Nat.pow_succ] using hn
        simpa using ih hk' this

/-- Hexadecimal digits of a code point are at most six. -/
theorem length_hexDigits_toNat_le (c : Char) : (hexDigits c.toNat).length ≤ 6 := by
  have hc : c.toNat < 0x110000 := by
    have := c.valid
    simp [Nat.isValidChar, UInt32.isValidChar] at this
    omega
  exact length_hexDigits_le (by decide) (by omega)

theorem digitIn?_digitChar : ∀ d < 10, digitIn? 10 (Nat.digitChar d) = some d := by
  decide

theorem digitsValue?_toDigits (n : Nat) : digitsValue? 10 (Nat.toDigits 10 n) = some n := by
  have h := digitsFrom?_of_digits (by decide) Nat.digitChar digitIn?_digitChar (Nat.toDigits 10)
    (fun n hn => Nat.toDigits_of_lt_base hn) (fun n hn => Nat.toDigits_of_base_le (by decide) hn) n
  unfold digitsValue?
  split
  · rename_i h'
    exact absurd h' Nat.toDigits_ne_nil
  · exact h

theorem digitsValue?_byteLiteral (b : UInt8) :
    digitsValue? 16 [hexDigit (b.toNat / 16), hexDigit (b.toNat % 16)] = some b.toNat := by
  have hb := b.toNat_lt
  simp [digitsValue?, digitsFrom?, digitIn?_hexDigit _ (by omega : b.toNat / 16 < 16),
    digitIn?_hexDigit _ (Nat.mod_lt _ (by decide : 16 > 0))]
  omega

end Opcodes.Text
