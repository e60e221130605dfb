/-
# Hexadecimal digits
-/

namespace ScriptImport
namespace Text

/-- The digit of a number below sixteen, a small letter from ten on. -/
def hexDigit (n : Nat) : Char := if n < 10 then Char.ofNat (48 + n) else Char.ofNat (87 + n)

/-- The digit of a number below sixteen, a capital letter from ten on. -/
def upperHexDigit (n : Nat) : Char := if n < 10 then Char.ofNat (48 + n) else Char.ofNat (55 + n)

/-- The number of a hexadecimal digit in either case. -/
def hexValue? (c : Char) : Option Nat :=
  if '0' ≤ c ∧ c ≤ '9' then some (c.toNat - 48)
  else if 'a' ≤ c ∧ c ≤ 'f' then some (c.toNat - 87)
  else if 'A' ≤ c ∧ c ≤ 'F' then some (c.toNat - 55)
  else none

/-- A number in hexadecimal without leading zeros. -/
def hex (n : Nat) : List Char := (Nat.toDigits 16 n)

/-- `width` hexadecimal digits of a number, the last ones. -/
def hexPadded : (width : Nat) → Nat → List Char
  | 0, _ => []
  | width + 1, n => hexPadded width (n / 16) ++ [hexDigit (n % 16)]

/-- Bytes as pairs of hexadecimal digits. -/
def hexBytes (bytes : List UInt8) : List Char := bytes.flatMap fun b => hexPadded 2 b.toNat

end Text
end ScriptImport
