import LinkAtlas.Decimal.Shortest
import LinkAtlas.Proofs.Decimal.Nearest

namespace LinkAtlas.Decimal

/-!
# The fewest digits round to the double

* `Decimal.size`, `Magnitude.size` — decimals and magnitudes as rationals;
* `rounds_of_contains` — what lies in the interval of a magnitude rounds to it;
* `le_size_of_pointPlace` — the place of the point is at most three above the first digit;
* `exists_candidate?` — a grid much finer than the interval has a point in it;
* `rounds_shortest` — the decimal that the search for the fewest digits ends with rounds to the
  magnitude.

That the search ends with a decimal at all is part of the last statement: its twentieth grid is fine
enough for every double.
-/

/-- The number that a decimal stands for, without its sign. -/
def size (d : Decimal) : ℚ := d.coefficient * 10 ^ d.exponent

/-- The number that a magnitude stands for. -/
def Magnitude.size (m : Magnitude) : ℚ := m.significand * 2 ^ m.exponent

variable {m : Magnitude}

/-! ### The interval of a magnitude -/

/-- The unit of an interval is a quarter of the one of the magnitude. -/
private theorem unit_of (m : Magnitude) :
    ((Interval.of m).unitNum : ℚ) / (Interval.of m).unitDen = 2 ^ m.exponent / 4 := by
  have h := pow_toNat_div 2 two_ne_zero (m.exponent - 2)
  rw [neg_sub] at h
  simp only [Interval.of]
  rw [h]
  push_cast
  rw [zpow_sub₀ (by norm_num)]
  norm_num

/-- The denominator of the unit of an interval is positive. -/
private theorem unitDen_pos (m : Magnitude) : 0 < (Interval.of m).unitDen :=
  Nat.pow_pos (by decide)

/-- So is its numerator. -/
private theorem unitNum_pos (m : Magnitude) : 0 < (Interval.of m).unitNum :=
  Nat.pow_pos (by decide)

/-- The value in the middle of the interval. -/
private theorem mid_of (m : Magnitude) :
    (((Interval.of m).mid * (Interval.of m).unitNum : ℕ) : ℚ) / (Interval.of m).unitDen = m.size := by
  have h := unit_of m
  have hmid : (Interval.of m).mid = 4 * m.significand := rfl
  rw [hmid]
  push_cast
  rw [mul_div_assoc, h, Magnitude.size]
  ring

/-- Below and above an interval's end, in quarters of the unit of the magnitude. -/
private theorem le_iff (m : Magnitude) (n a b : ℕ) (hb : 0 < b) :
    (n * (b * (Interval.of m).unitNum) ≤ a * (Interval.of m).unitDen ↔
        (n : ℚ) ≤ 4 * (a / b * 2 ^ (-m.exponent))) ∧
      (a * (Interval.of m).unitDen ≤ n * (b * (Interval.of m).unitNum) ↔
        4 * (a / b * 2 ^ (-m.exponent)) ≤ (n : ℚ)) := by
  have hb' : (0 : ℚ) < b := by exact_mod_cast hb
  have hden : (0 : ℚ) < (Interval.of m).unitDen := by exact_mod_cast unitDen_pos m
  have hunit := unit_of m
  rw [div_eq_iff hden.ne'] at hunit
  have hpow : (0 : ℚ) < 2 ^ m.exponent := by positivity
  have hscale : (0 : ℚ) < b * (2 ^ m.exponent / 4) * (Interval.of m).unitDen := by positivity
  -- Both sides are multiples of one positive number, which cancels.
  have hn : ((n * (b * (Interval.of m).unitNum) : ℕ) : ℚ) =
      n * (b * (2 ^ m.exponent / 4) * (Interval.of m).unitDen) := by
    push_cast
    rw [hunit]
    ring
  have ha : ((a * (Interval.of m).unitDen : ℕ) : ℚ) =
      4 * (a / b * 2 ^ (-m.exponent)) *
        (b * (2 ^ m.exponent / 4) * (Interval.of m).unitDen) := by
    push_cast
    rw [zpow_neg]
    field_simp
  constructor
  · rw [← Nat.cast_le (α := ℚ), hn, ha, mul_le_mul_iff_left₀ hscale]
  · rw [← Nat.cast_le (α := ℚ), hn, ha, mul_le_mul_iff_left₀ hscale]

/-- What lies in the interval of a magnitude, in quarters of its unit. -/
theorem contains_iff (m : Magnitude) (a b : ℕ) (hb : 0 < b) :
    (Interval.of m).contains a b = true ↔
      if m.significand % 2 = 0 then
        ((Interval.of m).low : ℚ) ≤ 4 * (a / b * 2 ^ (-m.exponent)) ∧
          4 * (a / b * 2 ^ (-m.exponent)) ≤ ((Interval.of m).high : ℚ)
      else
        ((Interval.of m).low : ℚ) < 4 * (a / b * 2 ^ (-m.exponent)) ∧
          4 * (a / b * 2 ^ (-m.exponent)) < ((Interval.of m).high : ℚ) := by
  obtain ⟨hlow, hlow'⟩ := le_iff m (Interval.of m).low a b hb
  obtain ⟨hhigh', hhigh⟩ := le_iff m (Interval.of m).high a b hb
  have hclosed : (Interval.of m).closed = (m.significand % 2 == 0) := rfl
  unfold Interval.contains
  simp only [hclosed, beq_iff_eq]
  -- The bounds belong to the interval when the significand is even.
  split
  · rw [Bool.and_eq_true, decide_eq_true_iff, decide_eq_true_iff, hlow, hhigh]
  · rw [Bool.and_eq_true, decide_eq_true_iff, decide_eq_true_iff, ← Nat.not_le, ← Nat.not_le,
      hlow', hhigh', not_le, not_le]

/-- The ends of the interval, half a unit away from the middle. -/
private theorem low_of (hs : m.significand ≠ 0) :
    (4 * (m.significand : ℚ) - 2 ≤ (Interval.of m).low ∧
      ((Interval.of m).low : ℚ) ≤ 4 * m.significand - 1) ∧
      (m.significand = 2 ^ 52 → -1074 < m.exponent →
        ((Interval.of m).low : ℚ) = 4 * m.significand - 1) := by
  have hlow : (Interval.of m).low = if m.significand = 2 ^ 52 ∧ -1074 < m.exponent
    then 4 * m.significand - 1 else 4 * m.significand - 2 := rfl
  have h1 : ((4 * m.significand - 1 : ℕ) : ℚ) = 4 * m.significand - 1 := by
    rw [Nat.cast_sub (by omega)]
    push_cast
    ring
  have h2 : ((4 * m.significand - 2 : ℕ) : ℚ) = 4 * m.significand - 2 := by
    rw [Nat.cast_sub (by omega)]
    push_cast
    ring
  rw [hlow]
  -- The gap below is half as wide at a power of two.
  split
  · rw [h1]
    exact ⟨⟨by linarith, le_rfl⟩, fun _ _ => rfl⟩
  · rename_i hleast
    rw [h2]
    exact ⟨⟨le_rfl, by linarith⟩, fun h he => absurd ⟨h, he⟩ hleast⟩

/-- The upper end of the interval of a double, in units of a quarter. -/
private theorem high_of (m : Magnitude) :
    ((Interval.of m).high : ℚ) = 4 * m.significand + 2 := by
  have hhigh : (Interval.of m).high = 4 * m.significand + 2 := rfl
  rw [hhigh]
  push_cast
  ring

/-- What lies in the interval of a magnitude rounds to it. -/
theorem rounds_of_contains (hs : m.significand ≠ 0) {a b : ℕ} (hb : 0 < b)
    (h : (Interval.of m).contains a b = true) : m.Rounds (a / b) := by
  rw [contains_iff m a b hb, high_of] at h
  obtain ⟨⟨hlow, -⟩, hleast⟩ := low_of hs
  -- The interval has its ends when the significand is even, and there a tie goes to it.
  split at h
  · rename_i heven
    refine ⟨⟨by linarith, by linarith, fun _ => heven⟩, fun hpow he => ?_⟩
    have hs' : (m.significand : ℚ) = 2 ^ 52 := by exact_mod_cast hpow
    rw [hleast hpow he, hs'] at h
    linarith
  · rename_i hodd
    refine ⟨⟨by linarith, by linarith, fun htie => ?_⟩, fun hpow _ => ?_⟩
    · rcases htie with htie | htie <;> rw [htie] at h
      · exact absurd h.1 (by linarith)
      · exact absurd h.2 (by linarith)
    · rw [hpow] at hodd
      exact absurd rfl hodd

/-- What is less than a quarter of a unit away from a magnitude lies in its interval. -/
theorem contains_of_near (hs : m.significand ≠ 0) {a b : ℕ} (hb : 0 < b)
    (h : |a / b * 2 ^ (-m.exponent) - (m.significand : ℚ)| < 1 / 4) :
    (Interval.of m).contains a b = true := by
  obtain ⟨hlow, hhigh⟩ := abs_lt.mp h
  obtain ⟨⟨-, hend⟩, -⟩ := low_of hs
  rw [contains_iff m a b hb, high_of]
  split
  · exact ⟨by linarith, by linarith⟩
  · exact ⟨by linarith, by linarith⟩

/-! ### The place of the point -/

/-- `10 ^ 3` is below `2 ^ 10`. -/
private theorem ten_pow_le_two_zpow (n : ℕ) (k : ℤ) (h : 10 * (n : ℤ) ≤ 3 * k) :
    (10 : ℚ) ^ (n : ℤ) ≤ 2 ^ k := by
  rw [zpow_natCast]
  have hcube : ((10 : ℚ) ^ n) ^ 3 ≤ (2 ^ k) ^ 3 := by
    calc ((10 : ℚ) ^ n) ^ 3 = (10 ^ 3) ^ n := by rw [← pow_mul, ← pow_mul, Nat.mul_comm]
      _ ≤ (2 ^ 10) ^ n := by gcongr; norm_num
      _ = 2 ^ (10 * (n : ℤ)) := by rw [← pow_mul, ← zpow_natCast]; push_cast; rfl
      _ ≤ 2 ^ (3 * k) := zpow_le_zpow_right₀ (by norm_num) h
      _ = (2 ^ k) ^ 3 := by rw [Int.mul_comm, zpow_mul]; rfl
  exact le_of_pow_le_pow_left₀ (by norm_num) (by positivity) hcube

/-- `2 ^ 33` is below `10 ^ 10`. -/
theorem two_zpow_le_ten_pow (n : ℕ) (k : ℤ) (h : 10 * k ≤ 33 * (n : ℤ)) :
    (2 : ℚ) ^ k ≤ 10 ^ (n : ℤ) := by
  rw [zpow_natCast]
  have htenth : ((2 : ℚ) ^ k) ^ 10 ≤ (10 ^ n) ^ 10 := by
    calc ((2 : ℚ) ^ k) ^ 10 = 2 ^ (10 * k) := by rw [Int.mul_comm, zpow_mul]; rfl
      _ ≤ 2 ^ (33 * (n : ℤ)) := zpow_le_zpow_right₀ (by norm_num) h
      _ = (2 ^ 33) ^ n := by rw [← pow_mul, ← zpow_natCast]; push_cast; rfl
      _ ≤ (10 ^ 10) ^ n := by gcongr; norm_num
      _ = (10 ^ n) ^ 10 := by rw [← pow_mul, ← pow_mul, Nat.mul_comm]
  exact le_of_pow_le_pow_left₀ (by norm_num) (by positivity) htenth

/-- The guess of a decimal exponent from a binary one is not too high by more than two, for the
    exponents of doubles. -/
theorem ten_zpow_le_two_zpow {k : ℤ} (hlow : -1100 ≤ k) (hhigh : k ≤ 1100) :
    (10 : ℚ) ^ (k * 30103 / 100000 - 3) ≤ 2 ^ (k - 1) := by
  generalize hg : k * 30103 / 100000 - 3 = g
  -- An exponent below zero turns the powers over, so each sign has its own bound.
  rcases le_total 0 g with h | h
  · obtain ⟨n, rfl⟩ := Int.eq_ofNat_of_zero_le h
    exact ten_pow_le_two_zpow n (k - 1) (by omega)
  · obtain ⟨n, hn⟩ := Int.eq_ofNat_of_zero_le (Int.neg_nonneg_of_nonpos h)
    obtain rfl : g = -(n : ℤ) := by omega
    have hle := two_zpow_le_ten_pow n (-(k - 1)) (by omega)
    rw [zpow_neg] at hle
    rw [zpow_neg]
    exact inv_le_of_inv_le₀ (by positivity) hle

/-- A quotient scaled by a power of ten. -/
private theorem mul_pow_div (a b : ℕ) (k : ℤ) :
    ((a * Nat.pow 10 k.toNat : ℕ) : ℚ) / (b * Nat.pow 10 (-k).toNat : ℕ) = a / b * 10 ^ k := by
  have h := pow_toNat_div 10 (by norm_num) k
  rw [Nat.cast_ofNat] at h
  rw [← h, Nat.cast_mul, Nat.cast_mul, mul_div_mul_comm]

/-- Whether a power of ten is at most the size of a double is told in whole numbers. -/
theorem reaches_iff (m : Magnitude) (k : ℤ) :
    (Interval.of m).reaches k = true ↔ (10 : ℚ) ^ k ≤ m.size := by
  have hden : (0 : ℚ) < (Interval.of m).unitDen := by exact_mod_cast unitDen_pos m
  have hpow : (0 : ℚ) < (Nat.pow 10 (-k).toNat : ℕ) := by
    exact_mod_cast Nat.pow_pos (by decide)
  have hten := pow_toNat_div 10 (by norm_num) k
  rw [Nat.cast_ofNat] at hten
  rw [← hten, ← mid_of, div_le_div_iff₀ hpow hden]
  unfold Interval.reaches
  rw [decide_eq_true_iff]
  norm_cast

section Size

variable (hm : m.IsDouble) (hs : m.significand ≠ 0)
include hm hs

/-- The size of a double in powers of two. -/
private theorem size_bounds : (2 : ℚ) ^ (-1074 : ℤ) ≤ m.size ∧ m.size < 2 ^ (1024 : ℤ) := by
  have hone : (1 : ℚ) ≤ m.significand := by exact_mod_cast Nat.pos_of_ne_zero hs
  have hlt : (m.significand : ℚ) < 2 ^ 53 := by exact_mod_cast hm.significand_lt
  unfold Magnitude.size
  constructor
  · calc (2 : ℚ) ^ (-1074 : ℤ) ≤ 2 ^ m.exponent :=
          zpow_le_zpow_right₀ (by norm_num) hm.le_exponent
      _ ≤ m.significand * 2 ^ m.exponent := le_mul_of_one_le_left (by positivity) hone
  · calc (m.significand : ℚ) * 2 ^ m.exponent < 2 ^ 53 * 2 ^ m.exponent := by gcongr
      _ ≤ 2 ^ (1024 : ℤ) := hm.scale_le

/-- The place of the point is at most three above the first digit. -/
theorem le_size_of_pointPlace : (10 : ℚ) ^ ((Interval.of m).pointPlace - 3) ≤ m.size := by
  obtain ⟨hmin, hmax⟩ := size_bounds hm hs
  have hnum : (Interval.of m).mid * (Interval.of m).unitNum ≠ 0 :=
    Nat.mul_ne_zero (Nat.mul_ne_zero (by decide) hs) (unitNum_pos m).ne'
  obtain ⟨hlow, hhigh⟩ := two_zpow_lt_div hnum (unitDen_pos m).ne'
  rw [mid_of] at hlow hhigh
  unfold Interval.pointPlace
  simp only
  generalize (((Interval.of m).mid * (Interval.of m).unitNum).log2 : ℤ) -
    ((Interval.of m).unitDen.log2 : ℤ) = log at hlow hhigh
  have hlog1 := (zpow_lt_zpow_iff_right₀ (by norm_num)).mp (hlow.trans hmax)
  have hlog2 := (zpow_lt_zpow_iff_right₀ (by norm_num)).mp (hmin.trans_lt hhigh)
  -- In the first two cases the size was compared with a power of ten; in the last it was not.
  split
  · rename_i hreach
    exact (zpow_le_zpow_right₀ (by norm_num) (by omega)).trans ((reaches_iff m _).mp hreach)
  · split
    · rename_i hreach
      exact (zpow_le_zpow_right₀ (by norm_num) (by omega)).trans ((reaches_iff m _).mp hreach)
    · calc (10 : ℚ) ^ (log * 30103 / 100000 + 1 - 1 - 3) = 10 ^ (log * 30103 / 100000 - 3) := by
            congr 1
            ring
        _ ≤ 2 ^ (log - 1) := ten_zpow_le_two_zpow (by omega) (by omega)
        _ ≤ m.size := hlow.le

end Size

/-! ### The search -/

/-- A candidate lies in the interval. -/
theorem contains_of_candidate? {i : Interval} {k : ℤ} {d : ℕ} (h : i.candidate? k = some d) :
    i.contains (d * Nat.pow 10 k.toNat) (Nat.pow 10 (-k).toNat) = true := by
  unfold Interval.candidate? at h
  extract_lets num den inside near far at h
  split at h
  · rename_i hin
    exact Option.some.inj h ▸ hin
  · obtain ⟨hin, hfar⟩ := Option.ite_none_right_eq_some.mp h
    exact Option.some.inj hfar ▸ hin

/-- A candidate rounds to the magnitude. -/
theorem rounds_of_candidate? (hs : m.significand ≠ 0) {k : ℤ} {d : ℕ}
    (h : (Interval.of m).candidate? k = some d) : m.Rounds (d * 10 ^ k) := by
  have hpos : 0 < Nat.pow 10 (-k).toNat := Nat.pow_pos (by decide)
  have hvalue := mul_pow_div d 1 k
  rw [Nat.one_mul, Nat.cast_one, div_one] at hvalue
  rw [← hvalue]
  exact rounds_of_contains hs hpos (contains_of_candidate? h)

/-- A grid whose steps are below half a unit of the magnitude has a candidate. -/
theorem exists_candidate? (hs : m.significand ≠ 0) {k : ℤ}
    (hk : (10 : ℚ) ^ k < 2 ^ m.exponent / 2) :
    ∃ d, (Interval.of m).candidate? k = some d := by
  unfold Interval.candidate?
  extract_lets num den inside near far
  have hround : RoundsTo (num / den) near :=
    roundsTo_roundDiv num den (Nat.mul_pos (unitDen_pos m) (Nat.pow_pos (by decide)))
  have hquot : (num : ℚ) / den = m.size * 10 ^ (-k) := by
    rw [← mid_of, ← mul_pow_div, neg_neg]
  -- The step of the grid in units of the magnitude.
  obtain ⟨u, hu⟩ : ∃ u : ℚ, u = 10 ^ k * 2 ^ (-m.exponent) := ⟨_, rfl⟩
  have hpos : 0 < u := by rw [hu]; positivity
  have hlt : u < 1 / 2 := by
    rw [hu, zpow_neg, ← div_eq_mul_inv, div_lt_iff₀ (by positivity)]
    linarith
  have hmid : (m.significand : ℚ) = num / den * u := by
    rw [hquot, hu, Magnitude.size, zpow_neg, zpow_neg]
    field_simp
  -- The nearest point of the grid is half a step away at most, so a quarter of a unit.
  have hin : inside near = true := by
    refine contains_of_near hs (Nat.pow_pos (by decide)) ?_
    have hvalue := mul_pow_div near 1 k
    rw [Nat.one_mul, Nat.cast_one, div_one] at hvalue
    rw [hvalue, mul_assoc, ← hu, hmid, abs_lt]
    have hlow := mul_le_mul_of_nonneg_right hround.low hpos.le
    have hhigh := mul_le_mul_of_nonneg_right hround.high hpos.le
    exact ⟨by linarith, by linarith⟩
  exact ⟨near, if_pos hin⟩

/-- The search comes to a candidate. -/
theorem candidate?_of_search {i : Interval} {place : ℤ} {fuel n d : ℕ} {k : ℤ}
    (h : i.search place fuel n = some (d, k)) : i.candidate? k = some d := by
  induction fuel generalizing n with
  | zero => cases h
  | succ fuel ih =>
    unfold Interval.search at h
    split at h
    · rename_i d' hd
      obtain ⟨rfl, rfl⟩ := Prod.mk.inj (Option.some.inj h)
      exact hd
    · exact ih h

/-- The search ends with a candidate when one of its grids has one. -/
theorem exists_search {i : Interval} {place : ℤ} {fuel n j d : ℕ} (hj : n ≤ j) (hlt : j < n + fuel)
    (h : i.candidate? (place - j) = some d) : ∃ found, i.search place fuel n = some found := by
  induction fuel generalizing n with
  | zero => omega
  | succ fuel ih =>
    unfold Interval.search
    split
    · exact ⟨_, rfl⟩
    · rename_i hnone
      -- The place that is asked for is this one, or it is still to come.
      rcases Nat.eq_or_lt_of_le hj with rfl | hj
      · rw [h] at hnone
        cases hnone
      · exact ih hj (by omega)

/-- Taking zeros off the end of a coefficient leaves the size. -/
theorem stripZeros_size (fuel : ℕ) (c : ℕ × ℤ) :
    ((stripZeros fuel c).1 : ℚ) * 10 ^ (stripZeros fuel c).2 = c.1 * 10 ^ c.2 := by
  induction fuel generalizing c with
  | zero => rfl
  | succ fuel ih =>
    obtain ⟨d, k⟩ := c
    unfold stripZeros
    split
    -- A trailing zero moves into the exponent.
    · rename_i hzero
      obtain ⟨t, rfl⟩ := Nat.dvd_of_mod_eq_zero hzero.2
      rw [ih, Nat.mul_div_cancel_left t (by decide), zpow_add_one₀ (by norm_num)]
      push_cast
      ring
    · rfl

/-- The shortest decimal has the sign that is asked for. -/
@[simp] theorem shortest_negative (negative : Bool) (m : Magnitude) :
    (shortest negative m).negative = negative := by
  unfold shortest
  simp only
  split
  · rfl
  · split <;> rfl

/-- The decimal that the search for the fewest digits ends with rounds to the magnitude. -/
theorem rounds_shortest (hm : m.IsDouble) (hs : m.significand ≠ 0) (negative : Bool) :
    m.Rounds (shortest negative m).size := by
  -- The last grid of the search is fine enough for every double, so the search finds something.
  have hgrid : (10 : ℚ) ^ ((Interval.of m).pointPlace - (20 : ℕ)) < 2 ^ m.exponent / 2 := by
    have hlt : (m.significand : ℚ) < 2 ^ 53 := by exact_mod_cast hm.significand_lt
    have hpow : (0 : ℚ) < 2 ^ m.exponent := by positivity
    calc (10 : ℚ) ^ ((Interval.of m).pointPlace - (20 : ℕ))
        = 10 ^ ((Interval.of m).pointPlace - 3) / 10 ^ 17 := by
          rw [← zpow_natCast, ← zpow_sub₀ (by norm_num)]
          congr 1
          push_cast
          ring
      _ ≤ m.size / 10 ^ 17 := by
          have := le_size_of_pointPlace hm hs
          gcongr
      _ < 2 ^ 53 * 2 ^ m.exponent / 10 ^ 17 := by
          unfold Magnitude.size
          gcongr
      _ < 2 ^ m.exponent / 2 := by linarith
  obtain ⟨d, hd⟩ := exists_candidate? hs hgrid
  obtain ⟨found, hfound⟩ : ∃ found,
      (Interval.of m).search (Interval.of m).pointPlace 20 1 = some found :=
    exists_search (by decide) (by decide) hd
  have hrounds := rounds_of_candidate? hs (candidate?_of_search hfound)
  rw [← stripZeros_size 20] at hrounds
  unfold shortest size
  simp only [hs, if_false, hfound]
  exact hrounds

end LinkAtlas.Decimal
