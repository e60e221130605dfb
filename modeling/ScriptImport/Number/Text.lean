/-
# Decimal text of numbers

Two ways of writing a double, both with the fewest digits that read back:

* `positional`: digits and a decimal point, never an exponent (`1e21` is `1000000000000000000000`); a
  value half way between two such decimals becomes the greater one;
* `scientific`: positional with at least one decimal place while the point stays within sixteen
  digits, else one digit before the point and a signed power of ten (`1e+16`, `1.5e-7`); a value half
  way between two such decimals becomes the one whose last digit is even.

`read?` takes an optional sign, digits with at most one point and at least one digit, an optional
exponent, or one of the words `inf`, `infinity` and `nan` in any case; the result is the double next to
the value.
-/

import ScriptImport.Number.Shortest

namespace ScriptImport
namespace Number

/-- `n` zeros. -/
def zeros (n : Nat) : String := String.ofList (List.replicate n '0')

/-- A decimal without an exponent. -/
def Decimal.positional (d : Decimal) : String :=
  let digits := Nat.repr d.digits
  if 0 ≤ d.exponent then digits ++ (if d.digits = 0 then "" else zeros d.exponent.toNat)
  else
    let places := (-d.exponent).toNat
    if places < digits.length then
      String.ofList (digits.toList.take (digits.length - places)) ++ "." ++
        String.ofList (digits.toList.drop (digits.length - places))
    else "0." ++ zeros (places - digits.length) ++ digits

/-- A decimal as a number with a fractional part: positional while the point is at most sixteen digits
to the right or five to the left of the first digit, with a power of ten beyond that. -/
def Decimal.scientific (d : Decimal) : String :=
  let digits := (Nat.repr d.digits).toList
  let point : Int := digits.length + d.exponent
  if d.digits = 0 then "0.0"
  else if 0 ≤ d.exponent ∧ point ≤ 16 then d.positional ++ ".0"
  else if -5 < point ∧ point ≤ 16 then d.positional
  else
    let mantissa :=
      match digits with
      | [] => ""
      | [c] => String.ofList [c]
      | c :: rest => String.ofList (c :: '.' :: rest)
    mantissa ++ (if 1 ≤ point then "e+" else "e") ++ toString (point - 1)

/-- The text of a double, given the text of a positive decimal. -/
def textWith (tie : Tie) (decimal : Decimal → String) (x : Float) : String :=
  match Binary.ofFloat x with
  | .nan => "NaN"
  | .infinite negative => if negative then "-Infinity" else "Infinity"
  | .finite negative m q => (if negative then "-" else "") ++ decimal (shortest tie m q)

/-- The shortest digits that read back, without an exponent; negative zero is `-0`. -/
def positional (x : Float) : String := textWith .up Decimal.positional x

/-- The shortest digits that read back, as a number with a fractional part or an exponent. -/
def scientific (x : Float) : String := textWith .even Decimal.scientific x

/-- Integers below this magnitude are written as integers. -/
def integerLimit : Nat := Nat.pow 10 15

/-- The integer that a double equals, if its magnitude is below the limit. -/
def shortInteger? (x : Float) : Option Int :=
  (integer? x).filter fun n => n.natAbs < integerLimit

/-- How a number is converted to a string: as an integer if it is a short one (so both zeros are `0`),
else with the fewest digits that read back. -/
def text (x : Float) : String :=
  match shortInteger? x with
  | some n => toString n
  | none => positional x

/-- The value of digits, most significant first. -/
def ofDigits (digits : List Char) : Nat :=
  digits.foldl (fun n c => 10 * n + (c.toNat - 48)) 0

/-- Exponents beyond this magnitude leave no digit of a number that can be written down. -/
def exponentCap : Nat := Nat.pow 10 6

/-- `digits · 10 ^ exponent`, rounded to the nearest double. -/
def ofDecimal (digits : Nat) (exponent : Int) : Float :=
  if digits = 0 then Float.ofNat 0
  else Float.ofScientific digits (exponent < 0) exponent.natAbs

/-- Reads `e` or `E`, an optional sign and at least one digit, up to the end. -/
def readExponent? : List Char → Option Int
  | [] => some 0
  | c :: rest =>
    if c = 'e' ∨ c = 'E' then
      let (negative, digits) : Bool × List Char :=
        match rest with
        | '-' :: ds => (true, ds)
        | '+' :: ds => (false, ds)
        | ds => (false, ds)
      if digits.isEmpty || !digits.all Char.isDigit then none
      else
        let n := ofDigits digits
        some (if negative then -(n : Int) else n)
    else none

/-- Reads a decimal without a sign. -/
def readUnsigned? (cs : List Char) : Option Float :=
  let whole := cs.takeWhile Char.isDigit
  let rest := cs.dropWhile Char.isDigit
  let (places, rest) : List Char × List Char :=
    match rest with
    | '.' :: rest => (rest.takeWhile Char.isDigit, rest.dropWhile Char.isDigit)
    | rest => ([], rest)
  if whole.isEmpty && places.isEmpty then none
  else
    (readExponent? rest).map fun exponent =>
      let digits := ofDigits (whole ++ places)
      let size : Int := exponentCap + (whole.length + places.length : Nat)
      ofDecimal digits (max (-size) (min size (exponent - places.length)))

/-- Reads the words for the infinities and for not a number. -/
def readWord? (cs : List Char) : Option Float :=
  let word := String.ofList (cs.map Char.toLower)
  if word = "inf" ∨ word = "infinity" then some infinity
  else if word = "nan" then some nan
  else none

/-- Reads a number; the whole text has to be one. -/
def read? (s : String) : Option Float :=
  let unsigned (cs : List Char) := (readUnsigned? cs).orElse fun _ => readWord? cs
  match s.toList with
  | '-' :: cs => (unsigned cs).map fun x => -x
  | '+' :: cs => unsigned cs
  | cs => unsigned cs

end Number
end ScriptImport
