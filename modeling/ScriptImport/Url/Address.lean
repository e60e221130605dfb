/-
# Numeric hosts

A host whose last label is a number is an IPv4 address: up to four numbers, decimal, octal (`0…`) or
hexadecimal (`0x…`), of which the last one fills the bytes that the others leave.  A host in brackets is
an IPv6 address: eight groups of four hexadecimal digits, a run of zero groups perhaps written `::`, the
last two perhaps as an IPv4 address.  Both have one written form.
-/

import ScriptImport.Path
import ScriptImport.Text.Hex

namespace ScriptImport
namespace Url

/-- The number that digits of a base below seventeen stand for. -/
def digits? (base : Nat) (cs : List Char) : Option Nat :=
  cs.foldl (fun n c => do
    let n ← n
    let d ← Text.hexValue? c
    if d < base then some (base * n + d) else none) (some 0)

namespace IPv4

/-- The number that a label stands for. -/
def number? : List Char → Option Nat
  | [] => none
  | '0' :: 'x' :: cs => digits? 16 cs
  | '0' :: 'X' :: cs => digits? 16 cs
  | ['0'] => some 0
  | '0' :: cs => digits? 8 cs
  | cs => digits? 10 cs

/-- The labels of a host without an empty one at the end. -/
def labels (host : List Char) : List (List Char) :=
  let parts := Path.splitAt '.' host
  if parts.getLast? = some [] then parts.dropLast else parts

/-- Whether a host has to be an address, because its last label is a number or looks like one. -/
def isNumeric (host : List Char) : Bool :=
  match (labels host).getLast? with
  | none => false
  | some last => (last ≠ [] && last.all Char.isDigit) || (number? last).isSome

/-- The address whose numbers are `front` and then `last`, if every number has room: those in front one
byte each, and the last one the rest of the four. -/
def combine (front : List Nat) (last : Nat) : Option Nat :=
  if front.length ≤ 3 ∧ front.all (· ≤ 255) ∧ last < Nat.pow 256 (4 - front.length) then
    some (front.foldl (fun n x => 256 * n + x) 0 * Nat.pow 256 (4 - front.length) + last)
  else none

/-- Reads an address. -/
def read? (host : List Char) : Option Nat := do
  let numbers ← (labels host).mapM number?
  combine numbers.dropLast (← numbers.getLast?)

/-- The written form of an address: its four bytes. -/
def text (address : Nat) : List Char :=
  let byte (place : Nat) := Nat.toDigits 10 (address / Nat.pow 256 place % 256)
  byte 3 ++ '.' :: byte 2 ++ '.' :: byte 1 ++ '.' :: byte 0

end IPv4

namespace IPv6

/-- The decimal number of a byte: one to three digits, and no zero in front. -/
def byte? (cs : List Char) : Option Nat :=
  match cs with
  | [] => none
  | '0' :: _ :: _ => none
  | _ => (digits? 10 cs).filter (· ≤ 255)

/-- The two groups of an IPv4 address at the end. -/
def mapped? (cs : List Char) : Option (List Nat) := do
  match ← (Path.splitAt '.' cs).mapM byte? with
  | [a, b, c, d] => some [256 * a + b, 256 * c + d]
  | _ => none

/-- The number of a group of one to four digits. -/
def group? (cs : List Char) : Option Nat :=
  if 1 ≤ cs.length ∧ cs.length ≤ 4 then digits? 16 cs else none

/-- Groups with colons between them, where the last one may be an IPv4 address. -/
def groups? : List (List Char) → Option (List Nat)
  | [] => some []
  | [last] => if '.' ∈ last then mapped? last else (group? last).map ([·])
  | part :: parts => do
    let first ← group? part
    return first :: (← groups? parts)

/-- The texts before and after the first `::`. -/
def cutAtGap (before : List Char) : List Char → Option (List Char × List Char)
  | ':' :: ':' :: cs => some (before.reverse, cs)
  | c :: cs => cutAtGap (c :: before) cs
  | [] => none

/-- The groups of a text that may be empty. -/
def side? (cs : List Char) : Option (List Nat) :=
  if cs = [] then some [] else groups? (Path.splitAt ':' cs)

/-- Reads an address as its eight groups. -/
def read? (cs : List Char) : Option (List Nat) :=
  match cutAtGap [] cs with
  | none => (side? cs).filter fun groups => groups.length = 8
  | some (front, back) => do
    if '.' ∈ front then none
    else
      let front ← side? front
      let back ← side? back
      if front.length + back.length ≤ 7 then
        some (front ++ List.replicate (8 - front.length - back.length) 0 ++ back)
      else none

/-- How many groups are zero at the start. -/
def zeros (groups : List Nat) : Nat := (groups.takeWhile (· = 0)).length

/-- The start and the length of the first longest run of zeros in `groups`, which start at `index`. -/
def longestRun (index : Nat) : List Nat → Nat × Nat
  | [] => (index, 0)
  | g :: groups =>
    let here := zeros (g :: groups)
    let later := longestRun (index + 1) groups
    if later.2 ≤ here then (index, here) else later

/-- Groups with colons between them. -/
def joined (groups : List Nat) : List Char := Path.joinWith ':' (groups.map Text.hex)

/-- The written form of an address: the first longest run of two or more zero groups is `::`. -/
def text (groups : List Nat) : List Char :=
  let (start, length) := longestRun 0 groups
  if length < 2 then joined groups
  else joined (groups.take start) ++ ':' :: ':' :: joined (groups.drop (start + length))

end IPv6
end Url
end ScriptImport
