/-
# Base 32 keeps bytes apart

The digits of base 32 are 32 different characters, none of which means anything in a path
(`base32Digit_injOn`, `mem_base32`).  Two byte strings of one length with the same digits are equal
(`base32_injective`): of the bits in front of a byte and the byte, each digit shows the highest five, and
what is left goes in front of the next byte.
-/

import Mathlib.Tactic.IntervalCases
import Mathlib.Tactic.Ring
import ScriptImport.Digest.Base32
import ScriptImport.Digest.Sha256

namespace ScriptImport
namespace Digest

/-- Different numbers below 32 have different digits. -/
theorem base32Digit_injOn {m n : Nat} (hm : m < 32) (hn : n < 32)
    (h : base32Digit m = base32Digit n) : m = n := by
  have hall : ∀ m < 32, ∀ n < 32, base32Digit m = base32Digit n → m = n := by decide
  exact hall m hm n hn h

/-- A digit that shows the highest five of `count + 5` bits. -/
theorem div_two_pow_lt {n count : Nat} (h : n < 2 ^ (count + 5)) : n / 2 ^ count < 32 := by
  rw [Nat.div_lt_iff_lt_mul (by positivity), show 32 = 2 ^ 5 by rfl, ← Nat.pow_add, Nat.add_comm 5]
  exact h

theorem append_byte_lt {bits count : Nat} (b : UInt8) (h : bits < 2 ^ count) :
    bits * 256 + b.toNat < 2 ^ (count + 3 + 5) := by
  have hb := b.toNat_lt
  have hpow : 2 ^ (count + 3 + 5) = 2 ^ count * 256 := by ring
  omega

/-- Bits that are left over make one more digit. -/
theorem base32After_nil (bits count : Nat) :
    base32After bits count [] = if count = 0 then [] else [base32Digit (bits * 2 ^ (5 - count))] := rfl

/-- Where fewer than two bits are left over, a byte makes one digit. -/
theorem base32After_cons_of_lt {bits count : Nat} (b : UInt8) (bs : List UInt8) (h : count < 2) :
    base32After bits count (b :: bs)
      = base32Digit ((bits * 256 + b.toNat) / 2 ^ (count + 3)) ::
        base32After ((bits * 256 + b.toNat) % 2 ^ (count + 3)) (count + 3) bs := by
  rw [base32After]
  exact if_pos (by omega)

/-- Where two bits or more are left over, a byte makes two digits. -/
theorem base32After_cons_of_ge {bits count : Nat} (b : UInt8) (bs : List UInt8) :
    base32After bits (count + 2) (b :: bs)
      = base32Digit ((bits * 256 + b.toNat) / 2 ^ (count + 5)) ::
        base32Digit ((bits * 256 + b.toNat) % 2 ^ (count + 5) / 2 ^ count) ::
          base32After ((bits * 256 + b.toNat) % 2 ^ (count + 5) % 2 ^ count) count bs := by
  rw [base32After]
  exact if_neg (by omega)

/-- The characters of base 32 are its digits. -/
theorem mem_base32After {bits count : Nat} {bs : List UInt8} {c : Char} (hcount : count < 5)
    (hbits : bits < 2 ^ count) (hc : c ∈ base32After bits count bs) : ∃ n < 32, c = base32Digit n := by
  induction bs generalizing bits count with
  | nil =>
    rw [base32After_nil] at hc
    split_ifs at hc with hzero
    · exact absurd hc List.not_mem_nil
    · refine ⟨_, ?_, List.mem_singleton.1 hc⟩
      interval_cases count <;> omega
  | cons b bs ih =>
    have hall := append_byte_lt b hbits
    rcases Nat.lt_or_ge count 2 with hlt | hge
    · rw [base32After_cons_of_lt b bs hlt] at hc
      rcases List.mem_cons.1 hc with rfl | hc
      · exact ⟨_, div_two_pow_lt hall, rfl⟩
      · exact ih (by omega) (Nat.mod_lt _ (by positivity)) hc
    · obtain ⟨count, rfl⟩ := Nat.exists_eq_add_of_le' hge
      rw [base32After_cons_of_ge b bs] at hc
      rcases List.mem_cons.1 hc with rfl | hc
      · exact ⟨_, div_two_pow_lt hall, rfl⟩
      · rcases List.mem_cons.1 hc with rfl | hc
        · exact ⟨_, div_two_pow_lt (Nat.mod_lt _ (by positivity)), rfl⟩
        · exact ih (by omega) (Nat.mod_lt _ (by positivity)) hc

theorem mem_base32 {bs : List UInt8} {c : Char} (h : c ∈ base32 bs) : ∃ n < 32, c = base32Digit n :=
  mem_base32After (by decide) (by decide) h

/-- Every digit shows five bits, the last one what is left of them. -/
theorem length_base32After {bits count : Nat} {bs : List UInt8} (hcount : count < 5) :
    (base32After bits count bs).length = (count + 8 * bs.length + 4) / 5 := by
  induction bs generalizing bits count with
  | nil =>
    rw [base32After_nil]
    split_ifs with hzero
    · simp [hzero]
    · simp only [List.length_singleton, List.length_nil]
      omega
  | cons b bs ih =>
    rcases Nat.lt_or_ge count 2 with hlt | hge
    · rw [base32After_cons_of_lt b bs hlt, List.length_cons, ih (by omega), List.length_cons]
      omega
    · obtain ⟨count, rfl⟩ := Nat.exists_eq_add_of_le' hge
      rw [base32After_cons_of_ge b bs, List.length_cons, List.length_cons, ih (by omega), List.length_cons]
      omega

/-- Bits and bytes behind them are told apart by their digits. -/
theorem base32After_injective {bits bits' count : Nat} {bs bs' : List UInt8} (hcount : count < 5)
    (hbits : bits < 2 ^ count) (hbits' : bits' < 2 ^ count) (hlength : bs.length = bs'.length)
    (h : base32After bits count bs = base32After bits' count bs') : bits = bits' ∧ bs = bs' := by
  induction bs generalizing bits bits' count bs' with
  | nil =>
    obtain rfl := List.eq_nil_of_length_eq_zero hlength.symm
    rw [base32After_nil, base32After_nil] at h
    split_ifs at h with hzero
    · subst hzero
      exact ⟨by omega, rfl⟩
    · have hdigit := base32Digit_injOn (by interval_cases count <;> omega)
        (by interval_cases count <;> omega) (List.cons.inj h).1
      exact ⟨Nat.eq_of_mul_eq_mul_right (by positivity) hdigit, rfl⟩
  | cons b bs ih =>
    cases bs' with
    | nil => exact absurd hlength (by simp)
    | cons b' bs' =>
      have hall := append_byte_lt b hbits
      have hall' := append_byte_lt b' hbits'
      have hjoin : ∀ {n n' k : Nat}, n / 2 ^ k = n' / 2 ^ k → n % 2 ^ k = n' % 2 ^ k → n = n' :=
        fun {n n' k} hdiv hmod => by rw [← Nat.div_add_mod n (2 ^ k), hdiv, hmod, Nat.div_add_mod]
      have hbyte : bits * 256 + b.toNat = bits' * 256 + b'.toNat → bs = bs' →
          bits = bits' ∧ b :: bs = b' :: bs' := by
        intro heq hbs
        have hb := b.toNat_lt
        have hb' := b'.toNat_lt
        exact ⟨by omega, by rw [hbs, UInt8.toNat_inj.1 (show b.toNat = b'.toNat by omega)]⟩
      rcases Nat.lt_or_ge count 2 with hlt | hge
      · rw [base32After_cons_of_lt b bs hlt, base32After_cons_of_lt b' bs' hlt, List.cons.injEq] at h
        obtain ⟨hmod, hbs⟩ := ih (by omega) (Nat.mod_lt _ (by positivity)) (Nat.mod_lt _ (by positivity))
          (Nat.succ.inj hlength) h.2
        exact hbyte (hjoin (base32Digit_injOn (div_two_pow_lt hall) (div_two_pow_lt hall') h.1) hmod) hbs
      · obtain ⟨count, rfl⟩ := Nat.exists_eq_add_of_le' hge
        rw [base32After_cons_of_ge b bs, base32After_cons_of_ge b' bs', List.cons.injEq,
          List.cons.injEq] at h
        obtain ⟨hfirst, hsecond, hrest⟩ := h
        obtain ⟨hmod, hbs⟩ := ih (by omega) (Nat.mod_lt _ (by positivity)) (Nat.mod_lt _ (by positivity))
          (Nat.succ.inj hlength) hrest
        have hlow := hjoin (base32Digit_injOn (div_two_pow_lt (Nat.mod_lt _ (by positivity)))
          (div_two_pow_lt (Nat.mod_lt _ (by positivity))) hsecond) hmod
        exact hbyte (hjoin (base32Digit_injOn (div_two_pow_lt hall) (div_two_pow_lt hall') hfirst) hlow) hbs

/-- **Byte strings of one length are told apart by their digits.** -/
theorem base32_injective {bs bs' : List UInt8} (hlength : bs.length = bs'.length)
    (h : base32 bs = base32 bs') : bs = bs' :=
  (base32After_injective (by decide) (by decide) (by decide) hlength h).2

/-- A digest has 32 bytes. -/
theorem length_sha256 (message : List UInt8) : (sha256 message).length = 32 := by
  simp [sha256, bytesOf]

/-- A digest has 52 digits. -/
theorem length_base32_sha256 (message : List UInt8) : (base32 (sha256 message)).length = 52 := by
  rw [base32, length_base32After (by decide), length_sha256]

end Digest
end ScriptImport
