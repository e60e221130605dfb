/-
# Doubles of integers

A double that equals an integer below `2 ^ 53` is that integer: `integer?`, which looks at the bits of a double only,
finds it (`integer?_of_beq`).

The double of an integer `n` is made by shifting `n` up until it has 53 bits, packing it, and multiplying it by the
double `1`.  So what is followed is one normal significand `m`, which has 53 bits, through rounding
(`roundWithAccuracy_exact`: bits below `m` that are all zero are shifted out), through the bit pattern
(`unpack_pack_normal`), and back out of it (`ofFloat_eq_ofUnpacked`).
-/

import Mathlib
import ScriptImport.Number.Binary

namespace ScriptImport
namespace Number

open Float.Model Float.Model.UnpackedFloat

variable {x y : Float} {s : Sign} {m n : Nat} {e : Int}

/-! ### Rounding what is exact -/

/-- Zeros at the end of a significand are shifted out. -/
theorem repeat_shiftRightOne (m k : Nat) :
    Nat.repeat ExtendedMantissa.shiftRightOne k ⟨m * 2 ^ k, false, false⟩ = ⟨m, false, false⟩ := by
  induction k generalizing m with
  | zero => simp [Nat.repeat]
  | succ k ih =>
    have hstep := ih (m * 2)
    rw [Nat.mul_assoc, ← Nat.pow_succ'] at hstep
    simp [Nat.repeat, hstep, ExtendedMantissa.shiftRightOne]

theorem log2_mul_two_pow (hlow : 2 ^ 52 ≤ m) (hhigh : m < 2 ^ 53) (k : Nat) : (m * 2 ^ k).log2 = 52 + k := by
  have hpos : 0 < 2 ^ k := Nat.two_pow_pos k
  refine (Nat.log2_eq_iff (Nat.mul_ne_zero (by omega) (by omega))).2 ⟨?_, ?_⟩
  · rw [Nat.pow_add]
    exact Nat.mul_le_mul_right _ hlow
  · rw [Nat.add_right_comm, Nat.pow_add]
    exact Nat.mul_lt_mul_of_pos_right hhigh hpos

/-- A normal significand is shifted back to where it was. -/
theorem shiftToTargetExponent_exact (hlow : 2 ^ 52 ≤ m) (hhigh : m < 2 ^ 53) (he : -1074 ≤ e) (k : Nat) :
    shiftToTargetExponent .binary64 (m * 2 ^ k) (e - k) .exact = (⟨m, false, false⟩, e) := by
  have htarget : Format.binary64.targetExponent (totalExponent (m * 2 ^ k) (e - k)) = e := by
    simp only [Format.targetExponent, totalExponent, log2_mul_two_pow hlow hhigh, Format.mantissaBits,
      Format.minExponent]
    omega
  have hamount : (e - (e - k)).toNat = k := by omega
  simp only [shiftToTargetExponent, htarget, shiftToExponent, hamount, ExtendedMantissa.ofMantissaAndAccuracy,
    HShiftRight.hShiftRight, repeat_shiftRightOne, Int.sub_add_cancel]

/-- **A normal significand is not rounded.** -/
theorem roundWithAccuracy_exact (s : Sign) (hlow : 2 ^ 52 ≤ m) (hhigh : m < 2 ^ 53) (he : -1074 ≤ e) (k : Nat) :
    roundWithAccuracy .binary64 s (m * 2 ^ k) (e - k) .exact = .finite s m e (Nat.zero_lt_of_lt hlow) := by
  have hagain := shiftToTargetExponent_exact hlow hhigh he 0
  rw [Nat.pow_zero, Nat.mul_one, Int.natCast_zero, Int.sub_zero] at hagain
  have hrounded : (⟨m, false, false⟩ : ExtendedMantissa).roundedMantissa = m := rfl
  simp only [roundWithAccuracy, shiftToTargetExponent_exact hlow hhigh he k, hrounded, hagain]
  rw [dif_neg (by omega)]

/-! ### Bit patterns -/

theorem toNat_one_append (fraction : BitVec 52) : (1#1 ++ fraction).toNat = 2 ^ 52 + fraction.toNat := by
  rw [BitVec.toNat_append, ← Nat.shiftLeft_add_eq_or_of_lt fraction.isLt]
  rfl

/-- **A normal double is packed without loss.** -/
theorem unpack_pack_normal (hlow : 2 ^ 52 ≤ m) (hhigh : m < 2 ^ 53) (he : -1074 ≤ e) (he' : e ≤ 971)
    (hm : 0 < m) : unpack .binary64 (UnpackedFloat.pack .binary64 (.finite s m e hm)) = .finite s m e hm := by
  have hlog : m.log2 = 52 := by
    have h := log2_mul_two_pow hlow hhigh 0
    rwa [Nat.pow_zero, Nat.mul_one] at h
  have hbias : (e + Format.binary64.exponentBias + Format.binary64.mantissaBitsWithoutImplicit).toNat
      = (e + 1075).toNat := by
    show (e + (1023 : Nat) + (52 : Nat)).toNat = _
    omega
  have hexponent : (BitVec.ofNat 11 (e + 1075).toNat).toNat = (e + 1075).toNat := by
    rw [BitVec.toNat_ofNat]
    omega
  have hfraction : (1#1 ++ BitVec.ofNat 52 m).toNat = m := by
    rw [toNat_one_append, BitVec.toNat_ofNat]
    omega
  have hordinary : BitVec.ofNat 11 (e + 1075).toNat ≠ -1#11 ∧ BitVec.ofNat 11 (e + 1075).toNat ≠ 0#11 := by
    constructor <;> intro h <;> have := hexponent.symm.trans (congrArg BitVec.toNat h) <;> simp at this <;> omega
  rw [UnpackedFloat.pack]
  simp only [hlog, hbias]
  rw [if_neg (by omega), if_pos (show 52 + 1 = Format.binary64.mantissaBits from rfl), UnpackedFloat.unpack]
  simp only [unpackMantissa_packComponents, unpackExponent_packComponents, unpackSign_packComponents,
    Sign.ofBitVec_toBitVec]
  rw [if_neg hordinary.1, if_neg hordinary.2]
  simp only [hfraction, hexponent]
  congr 1
  show ((e + 1075).toNat : Int) - ((1023 : Nat) + (52 : Nat)) = e
  omega

/-- The fields of a bit pattern as numbers. -/
theorem toNat_unpackExponent (b : BitVec Format.binary64.numBits) :
    (unpackExponent b).toNat = b.toNat / 2 ^ 52 % 2048 := by
  simp [unpackExponent, BitVec.extractLsb_toNat, Nat.shiftRight_eq_div_pow]

theorem toNat_unpackMantissa (b : BitVec Format.binary64.numBits) :
    (unpackMantissa b).toNat = b.toNat % 2 ^ 52 := by
  simp [unpackMantissa, BitVec.extractLsb_toNat]

theorem sign_unpackSign (b : BitVec Format.binary64.numBits) :
    (Sign.ofBitVec (unpackSign b) == .negative) = decide (2 ^ 63 ≤ b.toNat) := by
  have hlt : b.toNat < 2 ^ 64 := b.isLt
  have hsign : (unpackSign b).toNat = b.toNat / 2 ^ 63 := by
    simp [unpackSign, BitVec.extractLsb_toNat, Nat.shiftRight_eq_div_pow]
    omega
  rw [Sign.ofBitVec]
  split
  · next h =>
    have hzero : b.toNat / 2 ^ 63 = 0 := by rw [← hsign, h]; rfl
    exact (decide_eq_false (by omega)).symm
  · next h =>
    have hne : (unpackSign b).toNat ≠ 0 := fun h0 => h (BitVec.eq_of_toNat_eq h0)
    exact (decide_eq_true (by omega)).symm

/-- `Binary.ofFloat` reads the fields of a bit pattern. -/
theorem ofFloat_eq (x : Float) :
    let b : BitVec Format.binary64.numBits := x.toModel.toBits.toBitVec
    let negative := Sign.ofBitVec (unpackSign b) == .negative
    Binary.ofFloat x =
      if (unpackExponent b).toNat = 2047 then
        if (unpackMantissa b).toNat = 0 then .infinite negative else .nan
      else if (unpackExponent b).toNat = 0 then .finite negative (unpackMantissa b).toNat minExponent
      else .finite negative (2 ^ 52 + (unpackMantissa b).toNat) ((unpackExponent b).toNat - 1075) := by
  intro b negative
  simp only [negative, toNat_unpackExponent, toNat_unpackMantissa, sign_unpackSign]
  rfl

theorem toNat_eq_iff {w : Nat} (v : BitVec w) (k : Nat) (hk : k < 2 ^ w) : v = BitVec.ofNat w k ↔ v.toNat = k := by
  rw [← BitVec.toNat_inj, BitVec.toNat_ofNat, Nat.mod_eq_of_lt hk]

/-- The value of an unpacked double. -/
def ofUnpacked : UnpackedFloat → Binary
  | .infinity s => .infinite (s == .negative)
  | .notANumber => .nan
  | .zero s => .finite (s == .negative) 0 minExponent
  | .finite s m e _ => .finite (s == .negative) m e

/-- **What the bits of a double say is what is unpacked from it.** -/
theorem ofFloat_eq_ofUnpacked (x : Float) : Binary.ofFloat x = ofUnpacked x.toModel.unpack := by
  rw [ofFloat_eq, Float.Model.unpack, UnpackedFloat.unpack]
  dsimp only
  obtain ⟨b, hb⟩ : ∃ b : BitVec Format.binary64.numBits, b = x.toModel.toBits.toBitVec := ⟨_, rfl⟩
  rw [← hb]
  have hinfinite : unpackExponent b = -1#11 ↔ (unpackExponent b).toNat = 2047 := toNat_eq_iff _ _ (by decide)
  have hzero : unpackExponent b = 0#11 ↔ (unpackExponent b).toNat = 0 := toNat_eq_iff _ _ (by decide)
  have hfraction : unpackMantissa b = 0#52 ↔ (unpackMantissa b).toNat = 0 := toNat_eq_iff _ _ (by decide)
  by_cases h : unpackExponent b = -1#11
  · rw [if_pos (hinfinite.1 h), if_pos h]
    by_cases hm : unpackMantissa b = 0#52
    · rw [if_pos (hfraction.1 hm), if_pos hm, ofUnpacked]
    · rw [if_neg (mt hfraction.2 hm), if_neg hm, ofUnpacked]
  · rw [if_neg (mt hinfinite.2 h), if_neg h]
    by_cases he : unpackExponent b = 0#11
    · rw [if_pos (hzero.1 he), if_pos he]
      by_cases hm : unpackMantissa b = 0#52
      · rw [dif_pos hm, ofUnpacked, hfraction.1 hm]
      · rw [dif_neg hm, ofUnpacked, hzero.1 he]
        rfl
    · rw [if_neg (mt hzero.2 he), if_neg he, ofUnpacked, toNat_one_append]
      rfl

/-! ### Doubles of integers -/

/-- How far an integer below `2 ^ 53` is moved up to have 53 bits. -/
def room (n : Nat) : Nat := 52 - n.log2

theorem log2_le (hn : n < 2 ^ 53) : n.log2 ≤ 52 := by
  rcases Nat.eq_zero_or_pos n with rfl | hpos
  · decide
  · exact Nat.le_of_lt_succ ((Nat.log2_lt (Nat.ne_of_gt hpos)).2 hn)

theorem moved_bounds (hpos : 0 < n) (hn : n < 2 ^ 53) :
    2 ^ 52 ≤ n * 2 ^ room n ∧ n * 2 ^ room n < 2 ^ 53 := by
  have hlog := log2_le hn
  obtain ⟨hlow, hhigh⟩ := (Nat.log2_eq_iff (Nat.ne_of_gt hpos)).1 rfl
  have hexponents : n.log2 + room n = 52 ∧ n.log2 + 1 + room n = 53 := by
    unfold room
    omega
  constructor
  · calc 2 ^ 52 = 2 ^ n.log2 * 2 ^ room n := by rw [← Nat.pow_add, hexponents.1]
      _ ≤ n * 2 ^ room n := Nat.mul_le_mul_right _ hlow
  · calc n * 2 ^ room n < 2 ^ (n.log2 + 1) * 2 ^ room n := Nat.mul_lt_mul_of_pos_right hhigh (Nat.two_pow_pos _)
      _ = 2 ^ 53 := by rw [← Nat.pow_add, hexponents.2]

/-- The unpacked double of an integer. -/
theorem ofNat_unpacked (hpos : 0 < n) (hn : n < 2 ^ 53) :
    UnpackedFloat.ofNat .binary64 n =
      .finite .positive (n * 2 ^ room n) (-room n) (Nat.zero_lt_of_lt (moved_bounds hpos hn).1) := by
  obtain ⟨hlow, hhigh⟩ := moved_bounds hpos hn
  have hlog := log2_le hn
  have htarget : Format.binary64.targetExponent (totalExponent n 0) = -room n := by
    simp only [Format.targetExponent, totalExponent, Format.mantissaBits, Format.minExponent, room]
    omega
  have hround := roundWithAccuracy_exact (e := -room n) .positive hlow hhigh (by unfold room; omega) 0
  rw [Nat.pow_zero, Nat.mul_one, Int.natCast_zero, Int.sub_zero] at hround
  have hcompare : compare (n : Int) 0 = .gt := Int.compare_eq_gt.2 (by omega)
  rw [UnpackedFloat.ofNat, UnpackedFloat.ofInt, UnpackedFloat.normalize, hcompare]
  dsimp only
  rw [Int.toNat_natCast, UnpackedFloat.round, htarget, decreaseExponent]
  have hamount : (- -(room n : Int)).toNat = room n := by omega
  simp only [Int.zero_sub, hamount, Nat.shiftLeft_eq]
  exact hround

/-- **The double of an integer below `2 ^ 53`** is that integer, moved up. -/
theorem unpack_ofNat (hpos : 0 < n) (hn : n < 2 ^ 53) :
    (Float.ofNat n).toModel.unpack =
      .finite .positive (n * 2 ^ room n) (-room n) (Nat.zero_lt_of_lt (moved_bounds hpos hn).1) := by
  obtain ⟨hlow, hhigh⟩ := moved_bounds hpos hn
  have hroom : room n ≤ 52 := Nat.sub_le _ _
  have hword : (n.toUInt64).toNat = n := by
    rw [Nat.toUInt64, UInt64.toNat_ofNat']
    omega
  have hunpacked : (n.toUInt64.toFloat).toModel.unpack =
      .finite .positive (n * 2 ^ room n) (-room n) (Nat.zero_lt_of_lt hlow) := by
    show UnpackedFloat.unpack .binary64 (UnpackedFloat.pack .binary64
      (UnpackedFloat.ofNat .binary64 n.toUInt64.toNat)) = _
    rw [hword, ofNat_unpacked hpos hn, unpack_pack_normal hlow hhigh (by omega) (by omega)]
  have hone : (Float.exactlyRepresentablePowersOfTen[0]).toModel.unpack =
      .finite .positive (2 ^ 52) (-52) (by decide) := by rfl
  have hproduct : Float.ofNat n = n.toUInt64.toFloat * Float.exactlyRepresentablePowersOfTen[0] := by
    show Float.ofScientific n false 0 = _
    rw [Float.ofScientific, dif_pos ⟨hn, by decide⟩]
    rfl
  have hrounded := roundWithAccuracy_exact (e := -room n) .positive hlow hhigh (by omega) 52
  rw [hproduct]
  show UnpackedFloat.unpack .binary64 (UnpackedFloat.pack .binary64 (UnpackedFloat.mul .binary64
    (n.toUInt64.toFloat).toModel.unpack (Float.exactlyRepresentablePowersOfTen[0]).toModel.unpack)) = _
  rw [hunpacked, hone]
  show UnpackedFloat.unpack .binary64 (UnpackedFloat.pack .binary64
    (roundWithAccuracy .binary64 .positive (n * 2 ^ room n * 2 ^ 52) (-room n - (52 : Nat)) .exact)) = _
  rw [hrounded, unpack_pack_normal hlow hhigh (by omega) (by omega)]

/-- The sign of an integer. -/
def signOf : Int → Sign
  | .ofNat _ => .positive
  | .negSucc _ => .negative

theorem unpack_ofInt {k : Int} (hk : k ≠ 0) (hn : k.natAbs < 2 ^ 53) :
    (Float.ofInt k).toModel.unpack = .finite (signOf k) (k.natAbs * 2 ^ room k.natAbs) (-room k.natAbs)
      (Nat.zero_lt_of_lt (moved_bounds (Int.natAbs_pos.2 hk) hn).1) := by
  cases k with
  | ofNat n => exact unpack_ofNat (Int.natAbs_pos.2 hk) hn
  | negSucc n =>
    obtain ⟨hlow, hhigh⟩ := moved_bounds (Nat.succ_pos n) hn
    have hroom : room n.succ ≤ 52 := Nat.sub_le _ _
    show UnpackedFloat.unpack .binary64 (UnpackedFloat.pack .binary64 (Float.ofNat (n + 1)).toModel.unpack.neg) = _
    rw [unpack_ofNat (Nat.succ_pos n) hn]
    exact unpack_pack_normal hlow hhigh (by omega) (by omega) _

/-! ### Integers of doubles -/

theorem wholePart_moved (n k : Nat) : wholePart (n * 2 ^ k) (-k) = (n, false) := by
  unfold wholePart
  split
  · next h =>
    obtain rfl : k = 0 := by omega
    simp
  · simp [Nat.pow_eq, Nat.mul_div_cancel _ (Nat.two_pow_pos k)]

theorem wholePart_zero (q : Int) : wholePart 0 q = (0, false) := by
  unfold wholePart
  split <;> simp

/-- **A double that equals an integer below `2 ^ 53` is that integer.** -/
theorem integer?_of_beq {k : Int} (hk : k.natAbs < 2 ^ 53) (h : x == Float.ofInt k) : integer? x = some k := by
  obtain ⟨-, -, hsame⟩ := (beq_iff_ne_notANumber_and_eq x.toModel.unpack (Float.ofInt k).toModel.unpack).1 h
  rw [integer?, ofFloat_eq_ofUnpacked]
  by_cases hzero : k = 0
  · subst hzero
    have hunpacked : (Float.ofInt 0).toModel.unpack = .zero .positive := by rfl
    obtain ⟨s, hx⟩ : ∃ s, x.toModel.unpack = .zero s := by
      rcases hsame with hx | ⟨hx, -⟩ | ⟨hx, -⟩
      · exact ⟨_, hx.trans hunpacked⟩
      · exact ⟨_, hx⟩
      · exact ⟨_, hx⟩
    rw [hx, ofUnpacked]
    dsimp only
    rw [wholePart_zero]
    cases s <;> rfl
  · rw [unpack_ofInt hzero hk] at hsame
    have hx := hsame.resolve_right (by simp)
    rw [hx, ofUnpacked]
    dsimp only
    rw [wholePart_moved]
    cases k with
    | ofNat n => rfl
    | negSucc n => rfl

end Number
end ScriptImport
