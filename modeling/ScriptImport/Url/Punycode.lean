/-
# Punycode

Text beyond ASCII written in letters, digits and hyphens: first the ASCII characters as they are, then
for every other character, in the order of code points, how many positions it lies behind the one before
it.  These distances are numbers of variable length in base 36, whose digits have thresholds that adapt
to the size of the distances.
-/

import ScriptImport.Path

namespace ScriptImport
namespace Url
namespace Punycode

/-- The character of a digit below 36. -/
def digit (d : Nat) : Char := if d < 26 then Char.ofNat (97 + d) else Char.ofNat (22 + d)

/-- The digit of a character. -/
def digitValue? (c : Char) : Option Nat :=
  if 'a' ≤ c ∧ c ≤ 'z' then some (c.toNat - 97)
  else if 'A' ≤ c ∧ c ≤ 'Z' then some (c.toNat - 65)
  else if '0' ≤ c ∧ c ≤ '9' then some (c.toNat - 22)
  else none

/-- The threshold of the digit at position `k` (in steps of 36). -/
def threshold (bias k : Nat) : Nat := min 26 (max 1 (k - bias))

/-- Thresholds are at least one and at most 26. -/
theorem threshold_bounds (bias k : Nat) : 1 ≤ threshold bias k ∧ threshold bias k ≤ 26 := by
  unfold threshold
  omega

/-- Divides by 35 until at most 455 is left; every division counts 36. -/
def shrink (delta : Nat) : Nat × Nat :=
  if 455 < delta then
    let (left, count) := shrink (delta / 35)
    (left, count + 36)
  else (delta, 0)
termination_by delta
decreasing_by omega

/-- The bias after the distance `delta`, when `count` characters are in place. -/
def adapt (delta count : Nat) (first : Bool) : Nat :=
  let delta := if first then delta / 700 else delta / 2
  let (left, steps) := shrink (delta + delta / count)
  steps + 36 * left / (left + 38)

/-- A distance as digits, from position `k` on. -/
def digits (bias k n : Nat) : List Char :=
  let t := threshold bias k
  if n < t then [digit n]
  else digit (t + (n - t) % (36 - t)) :: digits bias (k + 36) ((n - t) / (36 - t))
termination_by n
decreasing_by
  have h := threshold_bounds bias k
  have : (n - threshold bias k) / (36 - threshold bias k) ≤ n - threshold bias k := Nat.div_le_self ..
  omega

/-- What writing goes on from. -/
structure Progress where
  written : List Char
  delta : Nat
  bias : Nat
  placed : Nat

/-- Goes past a character of the text while characters with the code point `m` are put in place; `basic`
characters were there at first. -/
def Progress.pass (basic m : Nat) (p : Progress) (c : Char) : Progress :=
  if c.toNat < m then { p with delta := p.delta + 1 }
  else if c.toNat = m then
    { written := p.written ++ digits p.bias 36 p.delta
      delta := 0
      bias := adapt p.delta (p.placed + 1) (p.placed == basic)
      placed := p.placed + 1 }
  else p

/-- Puts the characters of the code points `points`, which ascend, in place; all below `next` are. -/
def place (text : List Char) (basic : Nat) : (next : Nat) → List Nat → Progress → Progress
  | _, [], p => p
  | next, m :: points, p =>
    let p := { p with delta := p.delta + (m - next) * (p.placed + 1) }
    let p := text.foldl (Progress.pass basic m) p
    place text basic (m + 1) points { p with delta := p.delta + 1 }

/-- Inserts a number into an ascending list, once. -/
def insertOnce (n : Nat) : List Nat → List Nat
  | [] => [n]
  | m :: ms => if n < m then n :: m :: ms else if n = m then m :: ms else m :: insertOnce n ms

/-- Writes a text. -/
def encode (text : List Char) : List Char :=
  let basic := text.filter (·.toNat < 128)
  let points := (text.filter (128 ≤ ·.toNat)).foldl (fun ms c => insertOnce c.toNat ms) []
  let start := if basic = [] then [] else basic ++ ['-']
  (place text basic.length 128 points ⟨start, 0, 72, basic.length⟩).written

/-- The number that digits stand for, from position `k` on, each digit worth `weight`; and what follows. -/
def number? (bias : Nat) : (k weight : Nat) → List Char → Option (Nat × List Char)
  | _, _, [] => none
  | k, weight, c :: cs => do
    let d ← digitValue? c
    let t := threshold bias k
    if d < t then return (d * weight, cs)
    else
      let (n, rest) ← number? bias (k + 36) (weight * (36 - t)) cs
      return (d * weight + n, rest)

/-- What follows a number is shorter than what it was read from. -/
theorem number?_length {bias k weight n : Nat} {cs rest : List Char}
    (h : number? bias k weight cs = some (n, rest)) : rest.length < cs.length := by
  induction cs generalizing k weight n rest with
  | nil => simp [number?] at h
  | cons c cs ih =>
    simp only [number?, Option.bind_eq_bind, Option.pure_def, Option.bind_eq_some_iff] at h
    obtain ⟨d, _, h⟩ := h
    split at h
    · simp_all
    · obtain ⟨⟨n', rest'⟩, h', h⟩ := Option.bind_eq_some_iff.1 h
      have := ih h'
      obtain ⟨-, rfl⟩ := Prod.mk.inj (Option.some.inj h)
      simp only [List.length_cons]
      omega

/-- Inserts the characters that distances name: the next one at the earliest with the code point `point`
and at the place `index`.  `first` says that none is in place yet. -/
def fill (first : Bool) (point index bias : Nat) (text cs : List Char) : Option (List Char) :=
  if cs = [] then some text
  else
    match _h : number? bias 36 1 cs with
    | none => none
    | some (delta, rest) =>
      let count := text.length + 1
      let place := index + delta
      let point := point + place / count
      if point < 0x110000 ∧ ¬(0xd800 ≤ point ∧ point ≤ 0xdfff) then
        fill false point (place % count + 1) (adapt delta count first)
          (text.insertIdx (place % count) (Char.ofNat point)) rest
      else none
termination_by cs.length
decreasing_by exact number?_length _h

/-- Reads a text. -/
def decode? (cs : List Char) : Option (List Char) :=
  let back := cs.reverse.takeWhile (· ≠ '-')
  if back.length = cs.length then fill true 128 0 72 [] cs
  else
    let basic := cs.take (cs.length - back.length - 1)
    if basic.all (·.toNat < 128) then fill true 128 0 72 basic back.reverse else none

end Punycode
end Url
end ScriptImport
