import StatTable.Proofs.Binary64.Shortest
import StatTable.Binary64.Rounding

set_option autoImplicit false

namespace StatTable.Binary64

theorem round_half_even_le (num den : Nat) : roundHalfEven num den ≤ num / den + 1 := by
  simp only [roundHalfEven]
  split
  · omega
  · split <;> omega

-- With the dropped bits gone at most 53 bits are left, and rounding up reaches the next power of two.
theorem rounded_le (num : Nat) : num / 2 ^ (Nat.log2 num - 52) + 1 ≤ 2 * blockSize := by
  by_cases zero : num = 0
  · rw [zero]
    decide
  · have above : num < 2 ^ (Nat.log2 num + 1) := Nat.lt_log2_self
    have split : 2 ^ (Nat.log2 num + 1) ≤ 2 ^ (Nat.log2 num - 52) * 2 ^ 53 := by
      rw [← Nat.pow_add]
      exact Nat.pow_le_pow_right (by decide) (by omega)
    exact Nat.div_lt_of_lt_mul (Nat.lt_of_lt_of_le above split)

theorem nearest_rank_le (num den : Nat) :
    nearestRank num den ≤ (Nat.log2 (num / den) - 52) * blockSize + 2 * blockSize := by
  have rounds := round_half_even_le num (den * Nat.pow 2 (Nat.log2 (num / den) - 52))
  rw [← Nat.div_div_eq_div_mul] at rounds
  have bound : num / den / Nat.pow 2 (Nat.log2 (num / den) - 52) + 1 ≤ 2 * blockSize :=
    rounded_le (num / den)
  exact (Nat.min_le_right _ _).trans (by omega)

theorem nearest_rank_pos (num : Nat) (positive : 0 < num) : 0 < nearestRank num 1 := by
  rw [nearestRank, Nat.div_one]
  refine Nat.lt_min.mpr ⟨by decide, ?_⟩
  by_cases whole : Nat.log2 num - 52 = 0
  · have kept : roundHalfEven num 1 = num := by
      simp [roundHalfEven, Nat.mod_one]
    rw [whole, Nat.zero_mul, Nat.zero_add]
    change 0 < roundHalfEven num 1
    rw [kept]
    exact positive
  · have dropped : 0 < (Nat.log2 num - 52) * blockSize :=
      Nat.mul_pos (Nat.pos_of_ne_zero whole) (by decide)
    omega

theorem log_scaled_lt (n exponent : Nat) (bound : n ≤ 2 ^ 64) :
    Nat.log2 (n * Nat.pow 2 exponent) < exponent + 65 := by
  by_cases zero : n * Nat.pow 2 exponent = 0
  · rw [zero, Nat.log2_zero]
    omega
  · refine (Nat.log2_lt zero).mpr ?_
    rw [Nat.add_comm, Nat.pow_add]
    exact Nat.mul_lt_mul_of_pos_right (by omega) (Nat.two_pow_pos _)

theorem of_int_finite (n : Int) (bound : n.natAbs ≤ 2 ^ 64) : (ofInt n).isFinite = true := by
  have rank := nearest_rank_le (n.natAbs * unitsPerOne) 1
  rw [Nat.div_one] at rank
  have log : Nat.log2 (n.natAbs * unitsPerOne) < 1074 + 65 := by
    unfold unitsPerOne
    generalize 1074 = exponent
    exact log_scaled_lt n.natAbs exponent bound
  have blocks : (Nat.log2 (n.natAbs * unitsPerOne) - 52) * blockSize ≤ 1086 * blockSize :=
    Nat.mul_le_mul_right _ (by omega)
  rw [isFinite, decide_eq_true_iff]
  change nearestRank (n.natAbs * unitsPerOne) 1 < 2047 * blockSize
  have positive : 0 < blockSize := by decide
  omega

theorem round_half_even_within (num den whole : Nat) (positive : 0 < den)
    (within : num ≤ whole * den) : roundHalfEven num den ≤ whole := by
  have quotient : num / den ≤ whole := Nat.div_le_of_le_mul (by rwa [Nat.mul_comm])
  by_cases reached : num / den = whole
  · have exact_ : num % den = 0 := by
      have parts := Nat.div_add_mod num den
      rw [reached, Nat.mul_comm] at parts
      omega
    simp only [roundHalfEven, exact_, reached, Nat.mul_zero, if_pos positive, Nat.le_refl]
  · have rounds := round_half_even_le num den
    omega

theorem largest_units : units (infinityRank - 1) = (2 * blockSize - 1) * 2 ^ 2045 := by
  have last : blockSize + (infinityRank - 1) % blockSize = 2 * blockSize - 1 := by decide
  have block : (infinityRank - 1) / blockSize - 1 = 2045 := by decide
  rw [units_of_le _ (by decide), gap, last, block]

theorem log_within (num exponent : Nat) (within : num ≤ (2 * blockSize - 1) * 2 ^ exponent) :
    Nat.log2 num - 52 ≤ exponent := by
  by_cases zero : num = 0
  · rw [zero, Nat.log2_zero]
    omega
  · have below : num < 2 ^ (53 + exponent) := by
      rw [Nat.pow_add]
      exact Nat.lt_of_le_of_lt within
        (Nat.mul_lt_mul_of_pos_right (by decide) (Nat.two_pow_pos _))
    have log := (Nat.log2_lt zero).mpr below
    omega

-- Up to 53 ones in front of some zeros, rounding never reaches the next power of two.
theorem nearest_rank_within (num den exponent : Nat) (positive : 0 < den)
    (within : num ≤ (2 * blockSize - 1) * 2 ^ exponent * den) :
    nearestRank num den ≤ exponent * blockSize + (2 * blockSize - 1) := by
  have log := log_within (num / den) exponent
    (Nat.div_le_of_le_mul (by rwa [Nat.mul_comm]))
  by_cases top : Nat.log2 (num / den) - 52 = exponent
  · have rounds : roundHalfEven num (den * Nat.pow 2 exponent) ≤ 2 * blockSize - 1 := by
      refine round_half_even_within _ _ _ (Nat.mul_pos positive (Nat.two_pow_pos _)) ?_
      rwa [Nat.mul_comm den, ← Nat.mul_assoc]
    rw [nearestRank, top]
    exact (Nat.min_le_right _ _).trans (Nat.add_le_add_left rounds _)
  · have rank := nearest_rank_le num den
    have blocks : (Nat.log2 (num / den) - 52 + 1) * blockSize ≤ exponent * blockSize :=
      Nat.mul_le_mul_right _ (by omega)
    have positive : 0 < blockSize := by decide
    rw [Nat.add_mul] at blocks
    omega

theorem nearest_rank_finite (num den : Nat) (positive : 0 < den)
    (within : num ≤ units (infinityRank - 1) * den) : nearestRank num den < infinityRank := by
  rw [largest_units] at within
  have rank := nearest_rank_within num den 2045 positive within
  have largest : 2045 * blockSize + (2 * blockSize - 1) < infinityRank := by decide
  omega

theorem div_finite (x y : Binary64) (finite : x.isFinite = true)
    (one : unitsPerOne ≤ units y.rank) : (x.div y).isFinite = true := by
  rw [isFinite, decide_eq_true_iff] at finite ⊢
  refine nearest_rank_finite _ _ (Nat.lt_of_lt_of_le units_per_one_pos one) ?_
  exact Nat.mul_le_mul (units_strict_mono.monotone (Nat.le_sub_one_of_lt finite)) one

theorem of_int_negative (n i : Int) (negative : n < 0) (whole : (ofInt n).toInt? = some i) :
    i < 0 := by
  have sign : (ofInt n).negative = true := decide_eq_true negative
  have rank : 0 < (ofInt n).rank :=
    nearest_rank_pos _ (Nat.mul_pos (Int.natAbs_pos.mpr (by omega)) units_per_one_pos)
  have positive : 0 < units (ofInt n).rank := by
    have := units_strict_mono rank
    omega
  rw [toInt?] at whole
  split at whole
  · rw [← Option.some.inj whole, signedUnits, if_pos sign]
    exact Int.ediv_neg_of_neg_of_pos (by omega) (Int.natCast_pos.mpr units_per_one_pos)
  · cases whole

end StatTable.Binary64
