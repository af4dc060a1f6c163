import Mathlib.Data.Nat.Bitwise

/-!
# Bitmaps in byte strings

Bit `n` of a byte string is bit `n % 8` of its byte `n / 8`, set with `|= 1u << (n % 8)` and tested
with `& (1u << (n % 8))`. `testBit_setBit` makes the string a set of the indices it has room for.
-/

namespace Bitmap

def mask (n : Nat) : UInt8 := 1 <<< UInt8.ofNat (n % 8)

def setBit (n : Nat) (bs : List UInt8) : List UInt8 := bs.modify (n / 8) (· ||| mask n)

def testBit (n : Nat) (bs : List UInt8) : Bool := bs.getD (n / 8) 0 &&& mask n != 0

@[simp] theorem length_setBit (n : Nat) (bs : List UInt8) : (setBit n bs).length = bs.length := by
  simp [setBit]

theorem toNat_mask (n : Nat) : (mask n).toNat = 2 ^ (n % 8) := by
  have h8 : n % 8 < 8 := Nat.mod_lt _ (by decide)
  have hpow : 2 ^ (n % 8) < 2 ^ 8 := Nat.pow_lt_pow_right (by decide) h8
  rw [mask, UInt8.toNat_shiftLeft, UInt8.toNat_ofNat', UInt8.toNat_one, Nat.one_shiftLeft,
    Nat.mod_eq_of_lt (show n % 8 < 2 ^ 8 by omega), Nat.mod_eq_of_lt h8, Nat.mod_eq_of_lt hpow]

/-- Masking a byte is testing one of its bits. -/
theorem and_mask (b : UInt8) (n : Nat) : (b &&& mask n != 0) = b.toNat.testBit (n % 8) := by
  rw [Bool.eq_iff_iff, bne_iff_ne, ne_eq, ← UInt8.toNat_inj, UInt8.toNat_and, toNat_mask,
    Nat.and_two_pow]
  cases b.toNat.testBit (n % 8) <;> simp

theorem or_mask_testBit (b : UInt8) (n i : Nat) :
    (b ||| mask n).toNat.testBit i = (b.toNat.testBit i || decide (n % 8 = i)) := by
  rw [UInt8.toNat_or, Nat.testBit_or, toNat_mask, Nat.testBit_two_pow]

theorem testBit_eq (n : Nat) (bs : List UInt8) :
    testBit n bs = (bs.getD (n / 8) 0).toNat.testBit (n % 8) := and_mask _ _

/-- **Set encoding**: setting a bit the string has room for adds exactly that index. -/
theorem testBit_setBit {n : Nat} {bs : List UInt8} (h : n / 8 < bs.length) (m : Nat) :
    testBit m (setBit n bs) = (decide (n = m) || testBit m bs) := by
  rw [testBit_eq, testBit_eq, setBit, List.getD_eq_getElem?_getD, List.getD_eq_getElem?_getD,
    List.getElem?_modify]
  by_cases hbyte : n / 8 = m / 8
  · have hlt : m / 8 < bs.length := hbyte ▸ h
    have hbit : decide (n % 8 = m % 8) = decide (n = m) := by
      rw [decide_eq_decide]
      omega
    simp only [hbyte, if_true]
    rw [List.getElem?_eq_getElem hlt, Option.map_eq_map, Option.map_some, Option.getD_some,
      Option.getD_some, or_mask_testBit, hbit, Bool.or_comm]
  · have hne : n ≠ m := fun e => hbyte (e ▸ rfl)
    simp only [hbyte, if_false]
    rw [decide_eq_false hne, Bool.false_or, Option.map_eq_map, Option.map_id']

/-- The empty bitmap. -/
theorem testBit_replicate (n k : Nat) : testBit n (List.replicate k 0) = false := by
  have h0 : (List.replicate k (0 : UInt8)).getD (n / 8) 0 = 0 := by
    rw [List.getD_eq_getElem?_getD, List.getElem?_replicate]
    split <;> rfl
  rw [testBit_eq, h0]
  exact Nat.zero_testBit _

end Bitmap
