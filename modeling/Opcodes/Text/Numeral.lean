/-!
# Byte numerals

The byte columns of a definition table hold numerals: decimal, or hexadecimal behind `0x` or
`0X`. After that marker, or at the start of a decimal numeral, one `+` may stand before the
digits; a minus sign never may. Digits are ASCII, hexadecimal ones in either case, leading zeros
are allowed in any number, and the value must be at most 255. So `+5`, `0x+f` and `0007` are
numerals, while `+0x5`, `0x`, `++1`, `-0` and `256` are not.

## Main definitions

* `Opcodes.Text.digitValue?` — the value of one ASCII digit or letter.
* `Opcodes.Text.digitsValue?` — the value of a nonempty run of digits in a radix.
* `Opcodes.Text.unsignedValue?` — the same behind an optional `+`.
* `Opcodes.Text.byteValue?` — a byte numeral.
-/

namespace Opcodes.Text

/-- The value of an ASCII digit (`0`–`9`) or letter (`a`–`z` and `A`–`Z` count from ten). -/
def digitValue? (c : Char) : Option Nat :=
  if '0' ≤ c ∧ c ≤ '9' then some (c.toNat - '0'.toNat)
  else if 'a' ≤ c ∧ c ≤ 'z' then some (c.toNat - 'a'.toNat + 10)
  else if 'A' ≤ c ∧ c ≤ 'Z' then some (c.toNat - 'A'.toNat + 10)
  else none

/-- The value of one digit in `radix`, if `c` is such a digit. -/
def digitIn? (radix : Nat) (c : Char) : Option Nat :=
  (digitValue? c).filter (· < radix)

/-- The value of the digits `cs` in `radix`, most significant first, given `acc` for the
digits before them. -/
def digitsFrom? (radix : Nat) (acc : Nat) : List Char → Option Nat
  | [] => some acc
  | c :: cs => (digitIn? radix c).bind fun d => digitsFrom? radix (acc * radix + d) cs

/-- The value of a nonempty run of digits in `radix`. -/
def digitsValue? (radix : Nat) : List Char → Option Nat
  | [] => none
  | cs => digitsFrom? radix 0 cs

/-- The value of digits in `radix` behind at most one `+`. -/
def unsignedValue? (radix : Nat) : List Char → Option Nat
  | '+' :: cs => digitsValue? radix cs
  | cs => digitsValue? radix cs

/-- The value of a numeral without the bound: hexadecimal behind `0x` or `0X`, else decimal. -/
def numeralValue? : List Char → Option Nat
  | '0' :: 'x' :: cs => unsignedValue? 16 cs
  | '0' :: 'X' :: cs => unsignedValue? 16 cs
  | cs => unsignedValue? 10 cs

/-- The byte that the numeral `s` denotes, if it is a numeral of a value at most 255. -/
def byteValue? (s : String) : Option UInt8 :=
  (numeralValue? s.toList).bind fun n => if n ≤ 255 then some n.toUInt8 else none

example : byteValue? "+5" = some 5 ∧ byteValue? "0x+f" = some 15 ∧ byteValue? "0007" = some 7 := by
  decide
example : byteValue? "+0x5" = none ∧ byteValue? "0x" = none ∧ byteValue? "++1" = none ∧
    byteValue? "-0" = none ∧ byteValue? "256" = none ∧ byteValue? "+" = none := by decide

end Opcodes.Text
