/-
# Direction of writing

Letters are written from left to right or from right to left; digits and signs fit in with the letters
around them in ways of their own (`Bidi_Class`).  Controls and separators of paragraphs and of words have
no row here, and ranges may pass over code points without a character.
-/

import ScriptImport.Text.Mark

namespace ScriptImport
namespace Text

/-- What a character does to the direction of the text around it. -/
inductive Direction where
  | leftToRight
  | rightToLeft
  /-- A letter of the Arabic kind, which makes numbers behind it Arabic. -/
  | arabicLetter
  | arabicNumber
  | number
  /-- A sign in front of or between numbers. -/
  | sign
  /-- What separates the digits of a number. -/
  | separator
  /-- What stands at an end of a number, such as a currency. -/
  | terminator
  | neutral
  /-- What is not shown. -/
  | boundary
  /-- A mark, which goes with the character in front of it. -/
  | mark
  deriving DecidableEq, Repr

/-- Part 1 of `directions`. -/
def directionsPart1 : List (Nat × Nat × Direction) :=
  [(0x21, 0x22, .neutral), (0x23, 0x25, .terminator), (0x26, 0x2a, .neutral), (0x2b, 0x2b, .sign),
   (0x2c, 0x2c, .separator), (0x2d, 0x2d, .sign), (0x2e, 0x2f, .separator), (0x30, 0x39, .number),
   (0x3a, 0x3a, .separator), (0x3b, 0x60, .neutral), (0x7b, 0xa1, .neutral),
   (0xa2, 0xa5, .terminator), (0xa6, 0xae, .neutral), (0xb0, 0xb1, .terminator),
   (0xb6, 0xd7, .neutral), (0xf7, 0xf7, .neutral), (0x2b9, 0x2ba, .neutral),
   (0x2c2, 0x2cf, .neutral), (0x2d2, 0x2ed, .neutral), (0x2ef, 0x2ff, .neutral),
   (0x375, 0x375, .neutral), (0x3f6, 0x3f6, .neutral), (0x58a, 0x58e, .neutral),
   (0x58f, 0x58f, .terminator), (0x5be, 0x5f4, .rightToLeft), (0x606, 0x607, .neutral),
   (0x608, 0x608, .arabicLetter), (0x609, 0x60a, .terminator), (0x60b, 0x60b, .arabicLetter),
   (0x60c, 0x60c, .separator), (0x60d, 0x60d, .arabicLetter), (0x60e, 0x60f, .neutral),
   (0x61b, 0x64a, .arabicLetter), (0x660, 0x669, .arabicNumber), (0x66a, 0x66a, .terminator),
   (0x66b, 0x66c, .arabicNumber), (0x66d, 0x6d5, .arabicLetter), (0x6de, 0x6de, .neutral),
   (0x6e5, 0x6e6, .arabicLetter), (0x6e9, 0x6e9, .neutral), (0x6ee, 0x6ef, .arabicLetter),
   (0x6f0, 0x6f9, .number), (0x6fa, 0x7b1, .arabicLetter), (0x7c0, 0x7f5, .rightToLeft),
   (0x7f6, 0x7f9, .neutral), (0x7fa, 0x85e, .rightToLeft), (0x860, 0x8c9, .arabicLetter),
   (0x9f2, 0x9f3, .terminator), (0x9fb, 0x9fb, .terminator), (0xaf1, 0xaf1, .terminator),
   (0xbf3, 0xbf8, .neutral), (0xbf9, 0xbf9, .terminator), (0xbfa, 0xbfa, .neutral),
   (0xc78, 0xc7e, .neutral), (0xe3f, 0xe3f, .terminator), (0xf3a, 0xf3d, .neutral),
   (0x1390, 0x1399, .neutral), (0x1400, 0x1400, .neutral), (0x169b, 0x169c, .neutral),
   (0x17db, 0x17db, .terminator), (0x17f0, 0x180a, .neutral), (0x1940, 0x1945, .neutral),
   (0x19de, 0x19ff, .neutral), (0x200c, 0x200d, .boundary), (0x2010, 0x2027, .neutral),
   (0x2030, 0x2032, .terminator), (0x2035, 0x2043, .neutral), (0x2044, 0x2044, .separator),
   (0x2045, 0x205e, .neutral), (0x20a0, 0x20c1, .terminator), (0x2104, 0x2129, .neutral),
   (0x212e, 0x212e, .terminator), (0x213a, 0x214d, .neutral), (0x218a, 0x2211, .neutral),
   (0x2212, 0x2212, .sign), (0x2213, 0x2213, .terminator), (0x2214, 0x2335, .neutral),
   (0x237b, 0x2394, .neutral), (0x2396, 0x26ab, .neutral), (0x26ad, 0x27ff, .neutral),
   (0x2900, 0x2bff, .neutral), (0x2ce5, 0x2cea, .neutral), (0x2cf9, 0x2cff, .neutral),
   (0x2e00, 0x3004, .neutral), (0x3008, 0x3020, .neutral), (0x3030, 0x3030, .neutral),
   (0x3037, 0x3037, .neutral), (0x303d, 0x303f, .neutral), (0x30a0, 0x30a0, .neutral),
   (0x30fb, 0x30fb, .neutral), (0x31c0, 0x31e5, .neutral), (0x4dc0, 0x4dff, .neutral),
   (0xa490, 0xa4c6, .neutral), (0xa60d, 0xa60f, .neutral), (0xa673, 0xa67f, .neutral),
   (0xa700, 0xa721, .neutral), (0xa788, 0xa788, .neutral), (0xa828, 0xa82b, .neutral),
   (0xa838, 0xa839, .terminator), (0xa874, 0xa877, .neutral), (0xab6a, 0xab6b, .neutral),
   (0xfbb2, 0xfbd2, .arabicLetter), (0xfd3e, 0xfd4f, .neutral), (0xfd90, 0xfdce, .arabicLetter),
   (0xfdcf, 0xfe46, .neutral), (0xfe73, 0xfe73, .arabicLetter), (0x10101, 0x10101, .neutral),
   (0x10140, 0x1018c, .neutral), (0x10190, 0x101a0, .neutral), (0x102e1, 0x102fb, .number),
   (0x10800, 0x1091b, .rightToLeft), (0x1091f, 0x1091f, .neutral),
   (0x10920, 0x10b35, .rightToLeft), (0x10b39, 0x10b3f, .neutral),
   (0x10b40, 0x10cff, .rightToLeft), (0x10d00, 0x10d23, .arabicLetter),
   (0x10d30, 0x10d39, .arabicNumber), (0x10d40, 0x10d8f, .rightToLeft),
   (0x10e60, 0x10e7e, .arabicNumber), (0x10e80, 0x10eb1, .rightToLeft)]

/-- Part 2 of `directions`. -/
def directionsPart2 : List (Nat × Nat × Direction) :=
  [(0x10ec2, 0x10ed8, .arabicLetter), (0x10f00, 0x10f27, .rightToLeft),
   (0x10f30, 0x10f59, .arabicLetter), (0x10f70, 0x10ff6, .rightToLeft),
   (0x11052, 0x11065, .neutral), (0x11660, 0x1166c, .neutral), (0x11fd5, 0x11fdc, .neutral),
   (0x11fdd, 0x11fe0, .terminator), (0x11fe1, 0x11ff1, .neutral), (0x16fe2, 0x16fe2, .neutral),
   (0x1cc00, 0x1cef0, .neutral), (0x1d1e9, 0x1d245, .neutral), (0x1d300, 0x1d356, .neutral),
   (0x1e2ff, 0x1e2ff, .terminator), (0x1e800, 0x1e95f, .rightToLeft),
   (0x1ec71, 0x1ed3d, .arabicLetter), (0x1eef0, 0x1f12f, .neutral), (0x1f16d, 0x1f16f, .neutral),
   (0x1f1ad, 0x1f1ad, .neutral), (0x1f260, 0x1fbfa, .neutral)]

/-- Directions of characters other than marks, where they are not from left to right. -/
def directions : List (Nat × Nat × Direction) :=
  directionsPart1 ++
  directionsPart2

/-- Marks without a place of their own that count as letters from left to right. -/
def leftToRightMarks : List Nat := [0xcbf, 0xcc6, 0x11a07, 0x11a08, 0x11c3f]

/-- The direction of a character. -/
def direction (c : Char) : Direction :=
  if isNonspacing c then if c.toNat ∈ leftToRightMarks then .leftToRight else .mark
  else
    (directions.findSome? fun (first, last, d) =>
      if first ≤ c.toNat ∧ c.toNat ≤ last then some d else none).getD .leftToRight

end Text
end ScriptImport
