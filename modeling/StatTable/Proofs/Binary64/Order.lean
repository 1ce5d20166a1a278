import StatTable.Proofs.Binary64.Rounding

set_option autoImplicit false

namespace StatTable.Binary64

theorem round_half_even_ge (num den : Nat) : num / den ≤ roundHalfEven num den := by
  simp only [roundHalfEven]
  split
  · omega
  · split <;> omega

theorem round_half_even_mono (num other den : Nat) (le : num ≤ other) :
    roundHalfEven num den ≤ roundHalfEven other den := by
  have quotients : num / den ≤ other / den := Nat.div_le_div_right le
  by_cases same : num / den = other / den
  · have whole := Nat.div_add_mod num den
    have wholeOther := Nat.div_add_mod other den
    rw [same] at whole
    have remainders : num % den ≤ other % den := by omega
    simp only [roundHalfEven, same]
    split_ifs <;> omega
  · have above := round_half_even_le num den
    have below := round_half_even_ge other den
    omega

theorem kept_bits (num : Nat) (loses : 0 < Nat.log2 num - 52) :
    blockSize ≤ num / 2 ^ (Nat.log2 num - 52) := by
  have some : num ≠ 0 := by
    rintro rfl
    rw [Nat.log2_zero] at loses
    omega
  rw [Nat.le_div_iff_mul_le (Nat.two_pow_pos _)]
  have split : blockSize * 2 ^ (Nat.log2 num - 52) = 2 ^ Nat.log2 num := by
    rw [show blockSize = 2 ^ 52 from rfl, ← Nat.pow_add]
    congr 1
    omega
  rw [split]
  exact Nat.log2_self_le some

theorem log_mono (num other : Nat) (le : num ≤ other) : Nat.log2 num ≤ Nat.log2 other := by
  by_cases zero : num = 0
  · rw [zero, Nat.log2_zero]
    exact Nat.zero_le _
  · exact (Nat.le_log2 (by omega)).mpr ((Nat.log2_self_le zero).trans le)

theorem nearest_rank_mono (num other den : Nat) (le : num ≤ other) :
    nearestRank num den ≤ nearestRank other den := by
  have quotients : num / den ≤ other / den := Nat.div_le_div_right le
  have logs := log_mono _ _ quotients
  refine Nat.le_min.mpr ⟨Nat.min_le_left _ _, (Nat.min_le_right _ _).trans ?_⟩
  by_cases same : Nat.log2 (num / den) - 52 = Nat.log2 (other / den) - 52
  · rw [same]
    exact Nat.add_le_add_left (round_half_even_mono _ _ _ le) _
  · -- The larger number drops more bits: it starts above the block that the smaller one ends in.
    have rank := nearest_rank_le num den
    have blocks : (Nat.log2 (num / den) - 52 + 1) * blockSize ≤
        (Nat.log2 (other / den) - 52) * blockSize := Nat.mul_le_mul_right _ (by omega)
    have start := kept_bits (other / den) (by omega)
    have rounds := round_half_even_ge other (den * Nat.pow 2 (Nat.log2 (other / den) - 52))
    rw [← Nat.div_div_eq_div_mul] at rounds
    have ends := round_half_even_le num (den * Nat.pow 2 (Nat.log2 (num / den) - 52))
    rw [← Nat.div_div_eq_div_mul] at ends
    have bound : num / den / Nat.pow 2 (Nat.log2 (num / den) - 52) + 1 ≤ 2 * blockSize :=
      rounded_le (num / den)
    have start' : blockSize ≤ other / den / Nat.pow 2 (Nat.log2 (other / den) - 52) := start
    rw [Nat.add_mul] at blocks
    omega

def ofUnits (n : Int) : Binary64 := ⟨n < 0, nearestRank n.natAbs 1, nearestRank_lt _ _⟩

theorem of_units_mono (m n : Int) (le : m ≤ n) : (ofUnits m).orderKey ≤ (ofUnits n).orderKey := by
  have ranks (a b : Int) (within : a.natAbs ≤ b.natAbs) : (ofUnits a).rank ≤ (ofUnits b).rank :=
    nearest_rank_mono _ _ 1 within
  have sign (a : Int) : (ofUnits a).negative = decide (a < 0) := rfl
  simp only [orderKey, sign, decide_eq_true_eq]
  by_cases first : m < 0
  · by_cases second : n < 0
    · have rank := ranks n m (by omega)
      rw [if_pos first, if_pos second]
      omega
    · rw [if_pos first, if_neg second]
      omega
  · have rank := ranks m n (by omega)
    rw [if_neg first, if_neg (by omega)]
    omega

theorem of_int_units (n : Int) : ofInt n = ofUnits (n * unitsPerOne) := by
  have one := units_per_one_pos
  have sign : n * (unitsPerOne : Int) < 0 ↔ n < 0 := by
    constructor
    · intro negative
      by_contra positive
      exact absurd negative (Int.not_lt.mpr (Int.mul_nonneg (Int.not_lt.mp positive) (by omega)))
    · intro negative
      exact Int.mul_neg_of_neg_of_pos negative (by omega)
  have magnitude : (n * (unitsPerOne : Int)).natAbs = n.natAbs * unitsPerOne := by
    rw [Int.natAbs_mul, Int.natAbs_natCast]
  simp only [ofInt, ofRatio, ofUnits, sign, magnitude]

theorem of_int_mono (m n : Int) (le : m ≤ n) : (ofInt m).orderKey ≤ (ofInt n).orderKey := by
  rw [of_int_units, of_int_units]
  exact of_units_mono _ _ (Int.mul_le_mul_of_nonneg_right le (Int.natCast_nonneg _))

theorem order_key_injective (x y : Binary64) (same : x.orderKey = y.orderKey) : x = y := by
  cases x with
  | mk negative rank bound =>
      cases y with
      | mk other rank' bound' =>
          rw [orderKey, orderKey] at same
          cases negative with
          | true =>
              cases other with
              | true =>
                  have ranks : rank = rank' := by
                    simp only [if_true] at same
                    omega
                  subst ranks
                  rfl
              | false =>
                  simp only [if_true, Bool.false_eq_true, if_false] at same
                  omega
          | false =>
              cases other with
              | true =>
                  simp only [if_true, Bool.false_eq_true, if_false] at same
                  omega
              | false =>
                  have ranks : rank = rank' := by
                    simp only [Bool.false_eq_true, if_false] at same
                    omega
                  subst ranks
                  rfl

theorem compare_eq (x y : Binary64) (same : x.compare y = .eq) : x = y :=
  order_key_injective x y (Int.compare_eq_eq.mp same)

end StatTable.Binary64
