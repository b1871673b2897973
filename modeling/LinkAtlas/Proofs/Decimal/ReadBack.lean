import LinkAtlas.Proofs.Decimal.Bits
import LinkAtlas.Proofs.Decimal.Digits
import LinkAtlas.Proofs.Decimal.Shortest

namespace LinkAtlas.Decimal

/-!
# Reading a double back

* `size_lt`, `le_size` — the size of a decimal from the place of its point;
* `toFloat?_eq_some` — a decimal that rounds to a double is read as that double;
* `toFloat?_of_size_eq` — every decimal of the size of the fewest digits of a finite double, and with
  its sign, is read as that double.

The last statement is about sizes and not about one decimal, since the digits are written with zeros
and points between them, and what is read has another coefficient and exponent.
-/

variable {m : Magnitude}

/-! ### The place of the point -/

/-- A decimal is less than the power of ten after its first digit. -/
theorem size_lt (d : Decimal) :
    d.size < 10 ^ (((natText d.coefficient).length : ℤ) + d.exponent) := by
  have hlt : (d.coefficient : ℚ) < 10 ^ (natText d.coefficient).length := by
    exact_mod_cast lt_pow_length_natText d.coefficient
  rw [zpow_add₀ (by norm_num), zpow_natCast]
  unfold size
  gcongr

/-- A decimal is at least the power of ten of its first digit. -/
theorem le_size {d : Decimal} (hd : d.coefficient ≠ 0) :
    10 ^ (((natText d.coefficient).length : ℤ) + d.exponent - 1) ≤ d.size := by
  have hle : (10 : ℚ) ^ ((natText d.coefficient).length - 1) ≤ d.coefficient := by
    exact_mod_cast pow_length_natText_le hd
  have hpos : 0 < (natText d.coefficient).length :=
    List.length_pos_of_ne_nil (natText_ne_nil d.coefficient)
  have hexp : ((natText d.coefficient).length : ℤ) + d.exponent - 1 =
      ((natText d.coefficient).length - 1 : ℕ) + d.exponent := by omega
  rw [hexp, zpow_add₀ (by norm_num), zpow_natCast]
  unfold size
  gcongr

/-- What rounds to a double that is not zero is in the range of doubles. -/
theorem Magnitude.Rounds.bounds {v : ℚ} (h : m.Rounds v) (hm : m.IsDouble)
    (hs : m.significand ≠ 0) : (10 : ℚ) ^ (-400 : ℤ) ≤ v ∧ v < 10 ^ (399 : ℤ) := by
  have hone : (1 : ℚ) ≤ m.significand := by exact_mod_cast Nat.pos_of_ne_zero hs
  have hpow : (0 : ℚ) < 2 ^ m.exponent := by positivity
  -- Scaled by its exponent the value lies between a half and 2 ^ 53.
  have hunscale : v = v * 2 ^ (-m.exponent) * 2 ^ m.exponent := by
    rw [mul_assoc, ← zpow_add₀ (by norm_num)]
    simp
  rw [hunscale]
  constructor
  · calc (10 : ℚ) ^ (-400 : ℤ) ≤ 2 ^ (-1075 : ℤ) := by
          rw [zpow_neg, zpow_neg]
          exact inv_anti₀ (by positivity) (two_zpow_le_ten_pow 400 1075 (by decide))
      _ = 1 / 2 * 2 ^ (-1074 : ℤ) := by
          rw [show (-1075 : ℤ) = -1 + -1074 by rfl, zpow_add₀ (by norm_num)]
          norm_num
      _ ≤ 1 / 2 * 2 ^ m.exponent := by
          have := zpow_le_zpow_right₀ (a := (2 : ℚ)) (by norm_num) hm.le_exponent
          gcongr
      _ ≤ v * 2 ^ (-m.exponent) * 2 ^ m.exponent := by
          have : 1 / 2 ≤ v * 2 ^ (-m.exponent) := by linarith [h.significand.low]
          gcongr
  · calc v * 2 ^ (-m.exponent) * 2 ^ m.exponent < 2 ^ 53 * 2 ^ m.exponent := by
          have := h.lt hm
          gcongr
      _ ≤ 2 ^ (1024 : ℤ) := hm.scale_le
      _ ≤ 10 ^ (399 : ℤ) := two_zpow_le_ten_pow 399 1024 (by decide)

/-- A decimal that rounds to a double is read as that double. -/
theorem toFloat?_eq_some {d : Decimal} (hm : m.IsDouble) (hs : m.significand ≠ 0)
    (h : m.Rounds d.size) : toFloat? d = some (ofMagnitude d.negative m) := by
  obtain ⟨hlow, hhigh⟩ := h.bounds hm hs
  have hd : d.coefficient ≠ 0 := by
    intro hzero
    have : (0 : ℚ) < d.size := lt_of_lt_of_le (by positivity) hlow
    simp [size, hzero] at this
  -- Neither of the two cuts, for what is too large and for what is too small, applies.
  have htop := (zpow_lt_zpow_iff_right₀ (by norm_num)).mp ((le_size hd).trans_lt hhigh)
  have hbottom := (zpow_lt_zpow_iff_right₀ (by norm_num)).mp (hlow.trans_lt (size_lt d))
  unfold toFloat?
  simp only
  rw [if_neg hd, if_neg (by omega), if_neg (by omega)]
  split
  · rename_i hexp
    obtain ⟨n, hn⟩ := Int.eq_ofNat_of_zero_le hexp
    have hvalue : d.size = ((d.coefficient * Nat.pow 10 d.exponent.toNat : ℕ) : ℚ) / (1 : ℕ) := by
      simp [size, hn]
    have hnearest : nearest? (d.coefficient * Nat.pow 10 d.exponent.toNat) 1 = some m :=
      nearest?_eq_some hm (Nat.mul_ne_zero hd (Nat.pow_pos (by decide)).ne') (by decide)
        (hvalue ▸ h)
    rw [hnearest]
    rfl
  · rename_i hexp
    obtain ⟨n, hn⟩ := Int.eq_ofNat_of_zero_le (show 0 ≤ -d.exponent by omega)
    have hvalue : d.size = (d.coefficient : ℚ) / (Nat.pow 10 (-d.exponent).toNat : ℕ) := by
      have hneg : d.exponent = -(n : ℤ) := by omega
      simp [size, hneg, div_eq_mul_inv]
    have hnearest : nearest? d.coefficient (Nat.pow 10 (-d.exponent).toNat) = some m :=
      nearest?_eq_some hm hd (Nat.pow_pos (by decide)) (hvalue ▸ h)
    rw [hnearest]
    rfl

/-- Every decimal of the size of the fewest digits of a double is read as that double. -/
theorem toFloat?_of_size_eq {x : Float} (hx : magnitude? x = some m) {d : Decimal}
    (hneg : d.negative = isNegative x) (hsize : d.size = (shortest (isNegative x) m).size) :
    d.toFloat? = some x := by
  have hm := isDouble_of_magnitude? hx
  have hback := ofMagnitude_of_magnitude? hx
  -- The interval of zero is no interval, so zero is apart.
  by_cases hs : m.significand = 0
  · have hzero : m = ⟨0, -1074⟩ := by
      have hexp := hm.subnormal (by omega)
      obtain ⟨s, e⟩ := m
      simp_all
    have hd : d.coefficient = 0 := by
      have hzero : d.size = 0 := by
        rw [hsize]
        simp [shortest, hs, size]
      have hcoefficient := (mul_eq_zero.mp hzero).resolve_right (by positivity)
      exact_mod_cast hcoefficient
    rw [toFloat?, if_pos hd, hneg, ← hzero, hback]
  · rw [toFloat?_eq_some hm hs (hsize ▸ rounds_shortest hm hs _), hneg, hback]

end LinkAtlas.Decimal
