import LinkAtlas.Decimal.Binary64
import LinkAtlas.Proofs.Decimal.Nearest
import Mathlib

namespace LinkAtlas.Decimal

/-!
# The bits of a double

* `magnitude?_isSome` — the doubles with a magnitude are the finite ones;
* `isDouble_of_magnitude?` — such a magnitude is in the ranges of a double;
* `ofMagnitude_of_magnitude?` — sign and magnitude give the double back.

A double is its three fields side by side: sign, exponent field and fraction. An exponent field of ones
only stands for infinities and for what is no number.
-/

open Float.Model (Format)
open Float.Model.UnpackedFloat

private abbrev Word := BitVec Format.binary64.numBits

/-- The exponent field is the eleven bits above the significand. -/
private theorem toNat_unpackExponent (b : Word) :
    (unpackExponent b).toNat = b.toNat / 2 ^ 52 % 2 ^ 11 := by
  simp [unpackExponent, BitVec.extractLsb_toNat, Nat.shiftRight_eq_div_pow]

/-- A double is finite unless all bits of its exponent field are set. -/
private theorem isFinite_unpack (b : Word) :
    (unpack .binary64 b).isFinite = true ↔ unpackExponent b ≠ -1#11 := by
  unfold unpack
  simp only
  split
  · rename_i hexp
    split <;> exact iff_of_false Bool.false_ne_true (not_not.mpr hexp)
  · rename_i hexp
    split
    · split <;> exact iff_of_true rfl hexp
    · exact iff_of_true rfl hexp

/-- The doubles with a magnitude are the finite ones. -/
theorem magnitude?_isSome (x : Float) : (magnitude? x).isSome = x.isFinite := by
  have hexp : @unpackExponent .binary64 x.toBits.toBitVec = -1#11 ↔
      x.toBits.toNat / 2 ^ 52 % 2 ^ 11 = 2047 := by
    rw [← BitVec.toNat_inj, toNat_unpackExponent]
    rfl
  have hfinite : x.isFinite = true ↔ x.toBits.toNat / 2 ^ 52 % 2 ^ 11 ≠ 2047 :=
    (isFinite_unpack x.toBits.toBitVec).trans (not_congr hexp)
  rw [Bool.eq_iff_iff, hfinite]
  simp only [magnitude?, Nat.pow_eq]
  split
  · rename_i hfield
    simp [hfield]
  · rename_i hfield
    split <;> simp [hfield]

/-- The magnitude of a double is in the ranges of a double. -/
theorem isDouble_of_magnitude? {x : Float} {m : Magnitude} (h : magnitude? x = some m) :
    m.IsDouble := by
  have hfield := Nat.mod_lt (x.toBits.toNat / 2 ^ 52) (show 0 < 2 ^ 11 by decide)
  have hfrac := Nat.mod_lt x.toBits.toNat (show 0 < 2 ^ 52 by decide)
  simp only [magnitude?, Nat.pow_eq] at h
  split at h
  · cases h
  · split at h <;> cases h
    · exact ⟨by simp only; omega, by simp, by simp, by simp⟩
    · exact ⟨by simp only; omega, by simp only; omega, by simp only; omega, by simp only; omega⟩

/-- Sign and magnitude give a double back. -/
theorem ofMagnitude_of_magnitude? {x : Float} {m : Magnitude} (h : magnitude? x = some m) :
    ofMagnitude (isNegative x) m = x := by
  have hlt : x.toBits.toNat < 2 ^ 64 := x.toBits.toNat_lt
  have hbits : Float.ofBits (UInt64.ofNat x.toBits.toNat) = x := by
    rw [UInt64.ofNat_toNat, Float.ofBits_toBits]
  -- The sign is the highest bit, and the other bits are the magnitude.
  have hsign : (if isNegative x then 2 ^ 63 else 0) = x.toBits.toNat / 2 ^ 63 * 2 ^ 63 := by
    simp only [isNegative, Nat.pow_eq, beq_iff_eq]
    split <;> omega
  conv_rhs => rw [← hbits]
  simp only [ofMagnitude, Nat.pow_eq, hsign]
  congr 2
  simp only [magnitude?, Nat.pow_eq] at h
  -- The exponent field is all ones, zero or anything between, and the first is not finite.
  split at h
  · cases h
  · split at h <;> cases h
    · simp only
      rw [if_pos (by omega)]
      omega
    · simp only
      rw [if_neg (by omega)]
      omega

end LinkAtlas.Decimal
