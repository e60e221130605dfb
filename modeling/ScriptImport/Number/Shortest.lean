/-
# The fewest decimal digits that read back as the same double

The reals that round to a double `m · 2 ^ q` form an interval around it that reaches half way to both
neighbours; its ends belong to it when `m` is even.  Decimals with `n` digits lie on a grid, and if a
point of the grid is in the interval, so is one of the two grid points next to the value.  So the
shortest text is found by trying `n = 1, 2, … 17` and testing two points each time; of two points in
the interval the nearer one is taken, and of two that are equally near the one that `Tie` says.

All numbers are compared as fractions of natural numbers.
-/

import ScriptImport.Number.Binary

namespace ScriptImport
namespace Number

/-- The decimal number `digits · 10 ^ exponent`. -/
structure Decimal where
  digits : Nat
  exponent : Int
  deriving Repr, DecidableEq

/-- A positive number and the interval of reals that round to it, over one denominator. -/
structure Interval where
  low : Nat
  value : Nat
  high : Nat
  denominator : Nat
  closed : Bool

/-- The reals that round to `m · 2 ^ q`.  Below a power of two the next double is half as far away. -/
def Interval.around (m : Nat) (q : Int) : Interval :=
  let below := if m = Nat.pow 2 52 then 1 else 2
  let scale := Nat.pow 2 (q - 2).toNat
  { low := (4 * m - below) * scale
    value := 4 * m * scale
    high := (4 * m + 2) * scale
    denominator := Nat.pow 2 (2 - q).toNat
    closed := m % 2 = 0 }

/-- Which of two neighbours on a grid is taken for a value half way between them. -/
inductive Tie where
  /-- The greater one. -/
  | up
  /-- The one whose last digit is even. -/
  | even
  deriving Repr, DecidableEq

/-- Whether `d` is taken for a value half way between `d` and `d + 1`. -/
def Tie.keeps (tie : Tie) (d : Nat) : Bool :=
  match tie with
  | .up => false
  | .even => d % 2 = 0

/-- How many digits `n` has in decimal; `0` has none. -/
def digitCount (n : Nat) : Nat := if n = 0 then 0 else (Nat.repr n).length

/-- The number of digits before the decimal point of a positive fraction; a negative count is that of
the zeros after the point. -/
def pointPosition (value denominator : Nat) : Int :=
  if denominator ≤ value then digitCount (value / denominator)
  else (digitCount (value * Nat.pow 10 343 / denominator) : Int) - 343

/-- The point of the grid of multiples of `10 ^ g` in the interval that is nearest to its value. -/
def Interval.nearest? (i : Interval) (tie : Tie) (g : Int) : Option Nat :=
  let up := Nat.pow 10 (-g).toNat
  let step := Nat.pow 10 g.toNat * i.denominator
  let low := i.low * up
  let value := i.value * up
  let high := i.high * up
  let inside (d : Nat) : Bool :=
    if i.closed then low ≤ d * step ∧ d * step ≤ high else low < d * step ∧ d * step < high
  let d := value / step
  let double := 2 * (value - d * step)
  let takesBelow := double < step || (double = step && tie.keeps d)
  if inside d && (takesBelow || !inside (d + 1)) then some d
  else if inside (d + 1) then some (d + 1)
  else none

/-- Tries the grids of `n, n + 1, …` digits, `budget` of them. -/
def Interval.firstHit (i : Interval) (tie : Tie) (point : Int) : (budget n : Nat) → Decimal
  | 0, n => ⟨i.value * Nat.pow 10 ((n : Int) - point).toNat / (i.denominator * Nat.pow 10 (point - n).toNat),
      point - n⟩
  | budget + 1, n =>
    match i.nearest? tie (point - n) with
    | some d => ⟨d, point - n⟩
    | none => i.firstHit tie point budget (n + 1)

/-- Moves the zeros at the end of the digits into the exponent; `budget` bounds their number. -/
def Decimal.trimZeros : (budget : Nat) → Decimal → Decimal
  | 0, d => d
  | budget + 1, d =>
    if d.digits ≠ 0 ∧ d.digits % 10 = 0 then trimZeros budget ⟨d.digits / 10, d.exponent + 1⟩ else d

/-- The shortest decimal that reads back as the double `m · 2 ^ q`. -/
def shortest (tie : Tie) (m : Nat) (q : Int) : Decimal :=
  if m = 0 then ⟨0, 0⟩
  else
    let i := Interval.around m q
    (i.firstHit tie (pointPosition i.value i.denominator) 17 1).trimZeros 20

end Number
end ScriptImport
