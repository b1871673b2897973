import LinkAtlas.Decimal.Binary64
import Mathlib.Algebra.Order.Field.Power
import Mathlib.Data.Rat.Cast.Order
import Mathlib.Tactic.FieldSimp
import Mathlib.Tactic.Linarith
import Mathlib.Tactic.NormNum
import Mathlib.Tactic.Positivity
import Mathlib.Tactic.Ring

namespace LinkAtlas.Decimal

/-!
# Rounding to the nearest double

* `RoundsTo` — a natural number is the nearest one to a rational, a tie goes to the even one;
* `roundsTo_roundDiv`, `roundsTo_roundScaled` — that is what integer division with rounding gives,
  and `RoundsTo.unique` that nothing else is;
* `Magnitude.IsDouble` — significand and exponent in the ranges of a double;
* `Magnitude.Rounds` — the rationals that round to a double, as an interval about its significand;
* `nearest?_eq_some` — a quotient that rounds to a double has that double for its nearest one.

The search for the double guesses an exponent from the lengths of numerator and denominator. It is
at most two below the exponent of the double, and the three cases are apart in `nearest?_eq_some`.
-/

/-! ### The nearest natural number -/

/-- A natural number is the nearest one to a rational; of two as near it is the even one. -/
structure RoundsTo (v : ℚ) (n : ℕ) : Prop where
  low : (n : ℚ) - 1 / 2 ≤ v
  high : v ≤ n + 1 / 2
  even : v = n - 1 / 2 ∨ v = n + 1 / 2 → n % 2 = 0

/-- A number rounds to one integer only. -/
theorem RoundsTo.unique {v : ℚ} {m n : ℕ} (hm : RoundsTo v m) (hn : RoundsTo v n) : m = n := by
  -- Two different ones lie one apart, `v` is halfway between them, and both are even.
  have step {m n : ℕ} (hm : RoundsTo v m) (hn : RoundsTo v n) : ¬ m < n := by
    intro hlt
    have hle : (m : ℚ) + 1 ≤ n := by exact_mod_cast hlt
    have hv : v = n - 1 / 2 := le_antisymm (by linarith [hm.high]) hn.low
    have hn' : (n : ℚ) = m + 1 := le_antisymm (by linarith [hm.high, hn.low]) hle
    have hmn : n = m + 1 := by exact_mod_cast hn'
    have hm2 := hm.even (.inr (by rw [hv, hn']; ring))
    have hn2 := hn.even (.inl hv)
    omega
  exact Nat.le_antisymm (Nat.not_lt.mp (step hn hm)) (Nat.not_lt.mp (step hm hn))

/-- Rounding does not fall below an even integer that the number comes near to. -/
theorem RoundsTo.le {v : ℚ} {n k : ℕ} (h : RoundsTo v n) (hk : (k : ℚ) - 1 / 2 ≤ v)
    (heven : k % 2 = 0) : k ≤ n := by
  by_contra hlt
  have hle : (n : ℚ) + 1 ≤ k := by exact_mod_cast Nat.lt_of_not_le hlt
  have hv : v = n + 1 / 2 := le_antisymm h.high (by linarith)
  have hk' : (k : ℚ) = n + 1 := le_antisymm (by linarith) hle
  have hkn : k = n + 1 := by exact_mod_cast hk'
  have := h.even (.inr hv)
  omega

/-- Rounding does not rise above an integer that the number is at most. -/
theorem RoundsTo.ge {v : ℚ} {n k : ℕ} (h : RoundsTo v n) (hk : v ≤ k) : n ≤ k := by
  have hlt : (n : ℚ) < k + 1 := by linarith [h.low]
  exact Nat.lt_succ_iff.mp (by exact_mod_cast hlt)

/-- A quotient halfway between two naturals is rounded to an even one. -/
theorem even_roundDiv (num den : ℕ) (hden : 0 < den)
    (h : 2 * num + den = 2 * (den * roundDiv num den) ∨
      2 * num = 2 * (den * roundDiv num den) + den) : roundDiv num den % 2 = 0 := by
  have hr := Nat.mod_lt num hden
  have hd := Nat.div_add_mod num den
  revert h
  unfold roundDiv
  simp only
  -- The remainder is compared with half of the divisor; on a tie the even quotient is taken.
  split
  · omega
  · split
    · rw [Nat.mul_add]; omega
    · split
      · omega
      · omega

/-- The rounded quotient is what the quotient rounds to. -/
theorem roundsTo_roundDiv (num den : ℕ) (hden : 0 < den) :
    RoundsTo (num / den) (roundDiv num den) := by
  have hpos : (0 : ℚ) < den := by exact_mod_cast hden
  have hlow : 2 * ((den : ℚ) * roundDiv num den) ≤ 2 * num + den := by
    exact_mod_cast two_mul_roundDiv_le num den hden
  have hhigh : 2 * (num : ℚ) ≤ 2 * (den * roundDiv num den) + den := by
    exact_mod_cast le_two_mul_roundDiv num den hden
  refine ⟨?_, ?_, fun htie => even_roundDiv num den hden ?_⟩
  · rw [le_div_iff₀ hpos]; linarith
  · rw [div_le_iff₀ hpos]; linarith
  -- The quotient is half a unit above or below, and both are ties of the integer division.
  · rcases htie with htie | htie <;> rw [div_eq_iff hpos.ne'] at htie
    · left
      have : 2 * (num : ℚ) + den = 2 * (den * roundDiv num den) := by rw [htie]; ring
      exact_mod_cast this
    · right
      have : 2 * (num : ℚ) = 2 * (den * roundDiv num den) + den := by rw [htie]; ring
      exact_mod_cast this

/-! ### Scaled quotients -/

/-- A power with an integer exponent as a quotient of powers with natural ones. -/
theorem pow_toNat_div (b : ℕ) (hb : b ≠ 0) (k : ℤ) :
    (Nat.pow b k.toNat : ℚ) / Nat.pow b (-k).toNat = (b : ℚ) ^ k := by
  have hb' : (b : ℚ) ≠ 0 := by exact_mod_cast hb
  rcases le_total 0 k with hk | hk
  · obtain ⟨n, rfl⟩ := Int.eq_ofNat_of_zero_le hk
    simp
  · obtain ⟨n, hn⟩ := Int.eq_ofNat_of_zero_le (Int.neg_nonneg_of_nonpos hk)
    obtain rfl : k = -(n : ℤ) := by omega
    simp

/-- So it is when it is scaled by a power of two. -/
theorem roundsTo_roundScaled (num den : ℕ) (hden : 0 < den) (q : ℤ) :
    RoundsTo (num / den * 2 ^ (-q)) (roundScaled num den q) := by
  unfold roundScaled
  -- The scale multiplies the divisor when its exponent is not negative, and the dividend otherwise.
  split
  · rename_i hq
    have h := roundsTo_roundDiv num (den * Nat.pow 2 q.toNat)
      (Nat.mul_pos hden (Nat.pow_pos (by decide)))
    obtain ⟨n, rfl⟩ := Int.eq_ofNat_of_zero_le hq
    simpa [← div_div, ← div_eq_mul_inv] using h
  · rename_i hq
    have h := roundsTo_roundDiv (num * Nat.pow 2 (-q).toNat) den hden
    obtain ⟨n, hn⟩ := Int.eq_ofNat_of_zero_le (show 0 ≤ -q by omega)
    rw [hn] at h ⊢
    simpa [div_mul_eq_mul_div] using h

/-- The lengths of numerator and denominator give the size of a quotient to within a factor two. -/
theorem two_zpow_lt_div {num den : ℕ} (hnum : num ≠ 0) (hden : den ≠ 0) :
    (2 : ℚ) ^ ((num.log2 : ℤ) - den.log2 - 1) < num / den ∧
      (num / den : ℚ) < 2 ^ ((num.log2 : ℤ) - den.log2 + 1) := by
  have hpos : (0 : ℚ) < den := by exact_mod_cast Nat.pos_of_ne_zero hden
  -- Each of the two numbers is between a power of two and the next one.
  have hnlow : (2 : ℚ) ^ num.log2 ≤ num := by exact_mod_cast Nat.log2_self_le hnum
  have hnhigh : (num : ℚ) < 2 ^ (num.log2 + 1) := by exact_mod_cast Nat.lt_log2_self
  have hdlow : (2 : ℚ) ^ den.log2 ≤ den := by exact_mod_cast Nat.log2_self_le hden
  have hdhigh : (den : ℚ) < 2 ^ (den.log2 + 1) := by exact_mod_cast Nat.lt_log2_self
  constructor
  · rw [lt_div_iff₀ hpos]
    calc (2 : ℚ) ^ ((num.log2 : ℤ) - den.log2 - 1) * den
        < 2 ^ ((num.log2 : ℤ) - den.log2 - 1) * 2 ^ (den.log2 + 1) := by gcongr
      _ = 2 ^ num.log2 := by
        rw [← zpow_natCast, ← zpow_natCast, ← zpow_add₀ (by norm_num)]
        congr 1
        push_cast
        ring
      _ ≤ num := hnlow
  · rw [div_lt_iff₀ hpos]
    calc (num : ℚ) < 2 ^ (num.log2 + 1) := hnhigh
      _ = 2 ^ ((num.log2 : ℤ) - den.log2 + 1) * 2 ^ den.log2 := by
        rw [← zpow_natCast, ← zpow_natCast, ← zpow_add₀ (by norm_num)]
        congr 1
        push_cast
        ring
      _ ≤ 2 ^ ((num.log2 : ℤ) - den.log2 + 1) * den := by gcongr

/-! ### Doubles -/

/-- The magnitude is one of a finite double. -/
structure Magnitude.IsDouble (m : Magnitude) : Prop where
  significand_lt : m.significand < 2 ^ 53
  le_exponent : -1074 ≤ m.exponent
  exponent_le : m.exponent ≤ 971
  subnormal : m.significand < 2 ^ 52 → m.exponent = -1074

/-- A rational rounds to a magnitude. Below the least significand of a binade the doubles lie twice
    as close, so a value there is a quarter of a unit away at most. -/
structure Magnitude.Rounds (m : Magnitude) (v : ℚ) : Prop where
  significand : RoundsTo (v * 2 ^ (-m.exponent)) m.significand
  least : m.significand = 2 ^ 52 → -1074 < m.exponent →
    (2 : ℚ) ^ 52 - 1 / 4 ≤ v * 2 ^ (-m.exponent)

namespace Magnitude

variable {m : Magnitude} {v : ℚ}

/-- Above the lowest exponent a double uses all bits of its significand. -/
theorem IsDouble.normal (hm : m.IsDouble) (he : -1074 < m.exponent) :
    2 ^ 52 ≤ m.significand := by
  by_contra hlt
  have := hm.subnormal (Nat.lt_of_not_le hlt)
  omega

/-- Every double is below `2 ^ 1024`. -/
theorem IsDouble.scale_le (hm : m.IsDouble) :
    (2 : ℚ) ^ 53 * 2 ^ m.exponent ≤ 2 ^ (1024 : ℤ) := by
  have hexp : (2 : ℚ) ^ m.exponent ≤ 2 ^ (971 : ℤ) :=
    zpow_le_zpow_right₀ (by norm_num) hm.exponent_le
  calc (2 : ℚ) ^ 53 * 2 ^ m.exponent ≤ 2 ^ 53 * 2 ^ (971 : ℤ) := by gcongr
    _ = 2 ^ (1024 : ℤ) := by
        rw [← zpow_natCast, ← zpow_add₀ (by norm_num)]
        rfl

/-- What a double is nearest to is less than the next power of two. -/
theorem Rounds.lt (h : m.Rounds v) (hm : m.IsDouble) : v * 2 ^ (-m.exponent) < 2 ^ 53 := by
  have hs : (m.significand : ℚ) + 1 ≤ 2 ^ 53 := by exact_mod_cast hm.significand_lt
  linarith [h.significand.high]

/-- Above the lowest exponent it is not much less than the last one. -/
theorem Rounds.ge (h : m.Rounds v) (hm : m.IsDouble) (he : -1074 < m.exponent) :
    (2 : ℚ) ^ 52 - 1 / 4 ≤ v * 2 ^ (-m.exponent) := by
  rcases Nat.eq_or_lt_of_le (hm.normal he) with hs | hs
  · exact h.least hs.symm he
  · have hs' : (2 : ℚ) ^ 52 + 1 ≤ m.significand := by exact_mod_cast hs
    linarith [h.significand.low]

end Magnitude

/-- A scale `k` steps finer multiplies by `2 ^ k`. -/
private theorem mul_zpow_neg_sub (v : ℚ) (e : ℤ) (k : ℕ) :
    v * 2 ^ (-(e - k)) = v * 2 ^ (-e) * 2 ^ k := by
  rw [mul_assoc, ← zpow_natCast, ← zpow_add₀ (by norm_num)]
  congr 2
  ring

/-- A bound of a value at the scale of an exponent. -/
private theorem mul_zpow_neg_lt {v : ℚ} {j k e : ℤ} (h : v < 2 ^ j) (hj : j ≤ k + e) :
    v * 2 ^ (-e) < 2 ^ k := by
  have hpow : (2 : ℚ) ^ j ≤ 2 ^ (k + e) := zpow_le_zpow_right₀ (by norm_num) hj
  calc v * 2 ^ (-e) < 2 ^ (k + e) * 2 ^ (-e) := by
        have := h.trans_le hpow
        gcongr
    _ = 2 ^ k := by rw [← zpow_add₀ (by norm_num), add_neg_cancel_right]

/-- A number above a power of two is so after scaling. -/
private theorem lt_mul_zpow_neg {v : ℚ} {j k e : ℤ} (h : 2 ^ j < v) (hj : k + e ≤ j) :
    2 ^ k < v * 2 ^ (-e) := by
  have hpow : (2 : ℚ) ^ (k + e) ≤ 2 ^ j := zpow_le_zpow_right₀ (by norm_num) hj
  calc (2 : ℚ) ^ k = 2 ^ (k + e) * 2 ^ (-e) := by
        rw [← zpow_add₀ (by norm_num), add_neg_cancel_right]
    _ < v * 2 ^ (-e) := by
        have := hpow.trans_lt h
        gcongr

section Search

variable {m : Magnitude} {num den : ℕ}

/-- The exponent that the search guesses is not above the one of the double. -/
theorem guess_le (hm : m.IsDouble) (hnum : num ≠ 0) (hden : den ≠ 0)
    (h : m.Rounds (num / den)) : (num.log2 : ℤ) - den.log2 - 53 ≤ m.exponent := by
  by_contra hlt
  have hlow : (2 : ℚ) ^ (53 : ℤ) < num / den * 2 ^ (-m.exponent) :=
    lt_mul_zpow_neg (two_zpow_lt_div hnum hden).1 (by omega)
  exact lt_asymm (h.lt hm) (by exact_mod_cast hlow)

/-- The exponent that the search guesses is at most two below the one of a double that is not among
    the least. -/
theorem le_guess_add_two (hm : m.IsDouble) (hnum : num ≠ 0) (hden : den ≠ 0)
    (h : m.Rounds (num / den)) (he : -1074 < m.exponent) :
    m.exponent ≤ (num.log2 : ℤ) - den.log2 - 53 + 2 := by
  by_contra hlt
  have hhigh : num / den * 2 ^ (-m.exponent) < (2 : ℚ) ^ (51 : ℤ) :=
    mul_zpow_neg_lt (two_zpow_lt_div hnum hden).2 (by omega)
  have hge := h.ge hm he
  norm_num at hhigh hge
  linarith

/-- At a finer scale the quotient has more bits than a significand. -/
theorem le_roundScaled (hm : m.IsDouble) (hden : 0 < den) (h : m.Rounds (num / den))
    (he : -1074 < m.exponent) {k : ℕ} (hk : 1 ≤ k) :
    2 ^ 53 ≤ roundScaled num den (m.exponent - k) := by
  refine (roundsTo_roundScaled num den hden (m.exponent - k)).le ?_ (by norm_num)
  have hge := h.ge hm he
  have hpow : (2 : ℚ) ^ 1 ≤ 2 ^ k := pow_le_pow_right₀ (by norm_num) hk
  rw [mul_zpow_neg_sub]
  push_cast
  nlinarith

/-- Where the guess is two below, the quotient lies just under a power of two. One step finer it
    rounds up to that power, and the double is that power. -/
theorem roundScaled_eq_of_guess (hm : m.IsDouble) (hnum : num ≠ 0) (hden : 0 < den)
    (h : m.Rounds (num / den)) (he : -1074 < m.exponent)
    (hguess : (num.log2 : ℤ) - den.log2 - 53 = m.exponent - 2) :
    roundScaled num den (m.exponent - 1) = 2 ^ 53 ∧ m.significand = 2 ^ 52 := by
  have hlt : num / den * 2 ^ (-m.exponent) < (2 : ℚ) ^ (52 : ℤ) :=
    mul_zpow_neg_lt (two_zpow_lt_div hnum hden.ne').2 (by omega)
  have hround := roundsTo_roundScaled num den hden (m.exponent - (1 : ℕ))
  rw [mul_zpow_neg_sub] at hround
  constructor
  -- At this scale the quotient is below `2 ^ 53`, and it is not rounded to less.
  · refine Nat.le_antisymm (hround.ge ?_) (le_roundScaled hm hden h he (Nat.le_refl 1))
    norm_num at hlt ⊢
    linarith
  · exact Nat.le_antisymm (h.significand.ge (by exact_mod_cast hlt.le)) (hm.normal he)

/-- A quotient that rounds to a double has it for its nearest one. -/
theorem nearest?_eq_some (hm : m.IsDouble) (hnum : num ≠ 0) (hden : 0 < den)
    (h : m.Rounds (num / den)) : nearest? num den = some m := by
  have hguess := guess_le hm hnum hden.ne' h
  have hfine := le_guess_add_two hm hnum hden.ne' h
  have hle := hm.le_exponent
  have hs := hm.significand_lt
  have hfit : ¬ 971 < m.exponent := Int.not_lt.mpr hm.exponent_le
  have hsig : roundScaled num den m.exponent = m.significand :=
    (roundsTo_roundScaled num den hden m.exponent).unique h.significand
  unfold nearest?
  simp only [Nat.pow_eq, if_neg hnum]
  generalize hq : max ((num.log2 : ℤ) - den.log2 - 53) (-1074) = q
  have hcases : q = m.exponent ∨ q = m.exponent - 1 ∨ q = m.exponent - 2 := by omega
  rcases hcases with rfl | rfl | rfl
  · -- The guess is right.
    rw [hsig, if_pos hs, if_pos hs, if_neg hfit]
  · -- One below: the significand there has 54 bits, so the wider scale is taken.
    have hbig : 2 ^ 53 ≤ roundScaled num den (m.exponent - 1) :=
      le_roundScaled hm hden h (by omega) (Nat.le_refl 1)
    rw [if_neg (Nat.not_lt.mpr hbig), Int.sub_add_cancel, hsig, if_pos hs, if_neg hfit]
  · -- Two below: the wider scale has a significand of 54 bits too, which is halved.
    have hbig : 2 ^ 53 ≤ roundScaled num den (m.exponent - 2) :=
      le_roundScaled hm hden h (by omega) (by decide : 1 ≤ 2)
    obtain ⟨hwide, hpow⟩ := roundScaled_eq_of_guess hm hnum hden h (by omega) (by omega)
    have hnext : m.exponent - 2 + 1 = m.exponent - 1 := by ring
    rw [if_neg (Nat.not_lt.mpr hbig), hnext, hwide, if_neg (lt_irrefl _), Int.sub_add_cancel,
      if_neg hfit]
    have hhalf : 2 ^ 53 / 2 = m.significand := by rw [hpow]; norm_num
    show some ⟨2 ^ 53 / 2, m.exponent⟩ = some m
    rw [hhalf]

end Search

end LinkAtlas.Decimal
