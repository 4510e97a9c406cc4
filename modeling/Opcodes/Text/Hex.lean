/-!
# Hexadecimal digits

Lowercase hexadecimal digits of a natural number, without leading zeros, and the two-digit form
of a byte behind `0x` that error texts and generated constants use.

## Main definitions

* `Opcodes.Text.hexDigit`, `Opcodes.Text.hexDigits` — one digit, and all digits of a number.
* `Opcodes.Text.byteLiteral` — `0x` and exactly two lowercase digits.
-/

namespace Opcodes.Text

/-- The lowercase hexadecimal digit of a value below sixteen. -/
def hexDigit (d : Nat) : Char :=
  if d < 10 then Char.ofNat (48 + d) else Char.ofNat (87 + d)

/-- The lowercase hexadecimal digits of `n`, most significant first and without leading zeros;
zero has the single digit `0`. -/
def hexDigits (n : Nat) : List Char :=
  if n < 16 then [hexDigit n] else hexDigits (n / 16) ++ [hexDigit (n % 16)]

example : hexDigits 0 = ['0'] ∧ hexDigits 0x200b = ['2', '0', '0', 'b'] := by decide +kernel

/-- A byte as `0x` followed by exactly two lowercase hexadecimal digits. -/
def byteLiteral (b : UInt8) : String :=
  String.ofList ['0', 'x', hexDigit (b.toNat / 16), hexDigit (b.toNat % 16)]

example : byteLiteral 0x0a = "0x0a" ∧ byteLiteral 0xff = "0xff" := by decide

end Opcodes.Text
