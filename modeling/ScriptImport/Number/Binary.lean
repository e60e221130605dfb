/-
# The exact value of a floating-point number

A double is a sign, a significand below `2 ^ 53` and a power of two, or one of the two infinities, or
not a number.  `Binary.ofFloat` reads that off the bit pattern and `Binary.toFloat` builds the bit
pattern again, so rounding to an integer and taking remainders are questions about natural numbers and
need no floating-point arithmetic.

| field | bits | meaning |
| --- | ---: | --- |
| sign | 1 | `1` for a negative number |
| exponent `e` | 11 | `2047`: infinity or NaN; `0`: subnormal; else the number is `(2 ^ 52 + f) · 2 ^ (e - 1075)` |
| fraction `f` | 52 | a subnormal number is `f · 2 ^ (-1074)` |
-/

namespace ScriptImport
namespace Number

/-- The value of a double: `finite s m q` is `m · 2 ^ q`, negated if `s` holds (so there are two
zeros). -/
inductive Binary where
  | nan
  | infinite (negative : Bool)
  | finite (negative : Bool) (significand : Nat) (exponent : Int)
  deriving Repr, DecidableEq

/-- The least exponent of a double. -/
def minExponent : Int := -1074

namespace Binary

/-- Reads the value off the bit pattern. -/
def ofFloat (x : Float) : Binary :=
  let bits := x.toBits.toNat
  let negative := Nat.pow 2 63 ≤ bits
  let exponent : Nat := bits / Nat.pow 2 52 % 2048
  let fraction := bits % Nat.pow 2 52
  if exponent = 2047 then
    if fraction = 0 then .infinite negative else .nan
  else if exponent = 0 then .finite negative fraction minExponent
  else .finite negative (Nat.pow 2 52 + fraction) ((exponent : Int) - 1075)

/-- The bit pattern of a magnitude `m · 2 ^ q` that a double holds exactly: the significand is moved
up until it has 53 bits or the exponent is the least one. -/
def magnitudeBits (m : Nat) (q : Int) : Nat :=
  if m = 0 then 0
  else
    let shift := min (52 - (m.log2 : Int)) (q - minExponent)
    let m := if 0 ≤ shift then m * Nat.pow 2 shift.toNat else m / Nat.pow 2 (-shift).toNat
    let q := q - shift
    if m < Nat.pow 2 52 then m else (q + 1075).toNat * Nat.pow 2 52 + (m - Nat.pow 2 52)

/-- The double of a value that some double has. -/
def toFloat : Binary → Float
  | .nan => 0.0 / 0.0
  | .infinite negative => if negative then -1.0 / 0.0 else 1.0 / 0.0
  | .finite negative m q =>
    Float.ofBits (UInt64.ofNat (magnitudeBits m q + if negative then Nat.pow 2 63 else 0))

end Binary

/-- Not a number. -/
def nan : Float := Binary.toFloat .nan

/-- Positive infinity. -/
def infinity : Float := Binary.toFloat (.infinite false)

/-- The whole part of the magnitude `m · 2 ^ q`, and whether something is left over. -/
def wholePart (m : Nat) (q : Int) : Nat × Bool :=
  if 0 ≤ q then (m * Nat.pow 2 q.toNat, false)
  else (m / Nat.pow 2 (-q).toNat, m % Nat.pow 2 (-q).toNat ≠ 0)

/-- The integer that a double equals, if it is one.  Both zeros are `0`. -/
def integer? (x : Float) : Option Int :=
  match Binary.ofFloat x with
  | .finite negative m q =>
    match wholePart m q with
    | (n, false) => some (if negative then -(n : Int) else n)
    | (_, true) => none
  | _ => none

/-- The double of an integer with the given sign; the sign shows for zero only. -/
def signed (negative : Bool) (n : Nat) : Float :=
  if negative then -Float.ofNat n else Float.ofNat n

/-- Rounds a double to an integer: `up s` says whether a number of sign `s` that is not whole moves
away from zero. -/
def roundWhole (up : Bool → Bool) (x : Float) : Float :=
  match Binary.ofFloat x with
  | .finite negative m q =>
    match wholePart m q with
    | (n, true) => signed negative (if up negative then n + 1 else n)
    | (_, false) => x
  | _ => x

/-- The greatest whole number that is not above `x`. -/
def roundDown (x : Float) : Float := roundWhole (fun negative => negative) x

/-- The least whole number that is not below `x`. -/
def roundUp (x : Float) : Float := roundWhole (fun negative => !negative) x

/-- The whole number next to `x` in the direction of zero. -/
def truncate (x : Float) : Float := roundWhole (fun _ => false) x

/-- The magnitude of `x`. -/
def absolute (x : Float) : Float :=
  match Binary.ofFloat x with
  | .nan => x
  | .infinite _ => infinity
  | .finite _ m q => Binary.toFloat (.finite false m q)

/-- The remainder of the division of `x` by `y` toward zero, which is exact and has the sign of
`x`. -/
def remainder (x y : Float) : Float :=
  match Binary.ofFloat x, Binary.ofFloat y with
  | .finite negative m q, .finite _ m' q' =>
    if m' = 0 then nan
    else
      let least := min q q'
      let r := (m * Nat.pow 2 (q - least).toNat) % (m' * Nat.pow 2 (q' - least).toNat)
      Binary.toFloat (.finite negative r least)
  | .finite .., .infinite _ => x
  | _, _ => nan

end Number
end ScriptImport
