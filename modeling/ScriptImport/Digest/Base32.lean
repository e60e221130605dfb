/-
# Base 32

Bytes as capital letters and the digits from `2` to `7`, five bits each, the first bit highest; the last
digit is filled up with zero bits and no padding follows.
-/

namespace ScriptImport
namespace Digest

/-- The digit of a number below 32. -/
def base32Digit (n : Nat) : Char := if n < 26 then Char.ofNat (65 + n) else Char.ofNat (24 + n)

/-- Writes bytes behind `count` bits, which are those of the number `bits`. -/
def base32After (bits count : Nat) : List UInt8 → List Char
  | [] => if count = 0 then [] else [base32Digit (bits * Nat.pow 2 (5 - count))]
  | b :: bs =>
    let bits := bits * 256 + b.toNat
    let count := count + 8
    let first := base32Digit (bits / Nat.pow 2 (count - 5))
    let bits := bits % Nat.pow 2 (count - 5)
    let count := count - 5
    if count < 5 then first :: base32After bits count bs
    else first :: base32Digit (bits / Nat.pow 2 (count - 5)) ::
      base32After (bits % Nat.pow 2 (count - 5)) (count - 5) bs

/-- Bytes in base 32. -/
def base32 (bytes : List UInt8) : List Char := base32After 0 0 bytes

end Digest
end ScriptImport
