import StatTable.Proofs.Binary64.Order

set_option autoImplicit false

namespace StatTable.Binary64

theorem round_half_even_whole (whole den : Nat) (positive : 0 < den) :
    roundHalfEven (whole * den) den = whole := by
  have quotient : whole * den / den = whole := Nat.mul_div_cancel _ positive
  have exact_ : whole * den % den = 0 := Nat.mul_mod_left _ _
  simp only [roundHalfEven, quotient, exact_, Nat.mul_zero, if_pos positive]

theorem units_kept (kept dropped : Nat) (full : dropped = 0 ∨ blockSize ≤ kept)
    (within : kept ≤ 2 * blockSize) :
    units (dropped * blockSize + kept) = kept * 2 ^ dropped := by
  have positive : 0 < blockSize := by decide
  by_cases small : kept < blockSize
  · obtain rfl : dropped = 0 := full.resolve_right (by omega)
    rw [Nat.zero_mul, Nat.zero_add, units_of_lt kept small, Nat.pow_zero, Nat.mul_one]
  · rw [units_of_le _ (by omega), gap]
    by_cases carry : kept = 2 * blockSize
    · have block : (dropped * blockSize + kept) / blockSize = dropped + 2 := by
        rw [carry, ← Nat.add_mul, Nat.mul_div_cancel _ positive]
      have start : (dropped * blockSize + kept) % blockSize = 0 := by
        rw [carry, ← Nat.add_mul, Nat.mul_mod_left]
      rw [block, start, carry, show dropped + 2 - 1 = dropped + 1 by omega, Nat.pow_succ]
      ring
    · have inside : kept - blockSize < blockSize := by omega
      have split : dropped * blockSize + kept = (kept - blockSize) + blockSize * (dropped + 1) := by
        rw [Nat.mul_add, Nat.mul_comm blockSize dropped]
        omega
      have block : (dropped * blockSize + kept) / blockSize = dropped + 1 := by
        rw [split, Nat.add_mul_div_left _ _ positive, Nat.div_eq_of_lt inside, Nat.zero_add]
      have start : (dropped * blockSize + kept) % blockSize = kept - blockSize := by
        rw [split, Nat.add_mul_mod_self_left, Nat.mod_eq_of_lt inside]
      rw [block, start, Nat.add_sub_cancel, Nat.add_sub_cancel' (by omega)]

theorem log_kept (kept dropped : Nat) (full : blockSize ≤ kept) (within : kept < 2 * blockSize) :
    Nat.log2 (kept * 2 ^ dropped) = 52 + dropped := by
  have some : 0 < kept := Nat.lt_of_lt_of_le (by decide) full
  have positive : kept * 2 ^ dropped ≠ 0 := (Nat.mul_pos some (Nat.two_pow_pos _)).ne'
  have low : 2 ^ (52 + dropped) ≤ kept * 2 ^ dropped := by
    rw [Nat.pow_add]
    exact Nat.mul_le_mul_right _ full
  have high : kept * 2 ^ dropped < 2 ^ (52 + dropped + 1) := by
    rw [show 52 + dropped + 1 = 53 + dropped by omega, Nat.pow_add]
    exact Nat.mul_lt_mul_of_pos_right within (Nat.two_pow_pos _)
  have above := (Nat.le_log2 positive).mpr low
  have below := (Nat.log2_lt positive).mpr high
  omega

theorem nearest_rank_units (rank : Nat) (finite : rank < infinityRank) :
    nearestRank (units rank) 1 = rank := by
  rw [nearestRank, Nat.div_one]
  by_cases small : rank < blockSize
  · have log : Nat.log2 rank - 52 = 0 := by
      by_cases zero : rank = 0
      · rw [zero, Nat.log2_zero]
      · have below := (Nat.log2_lt zero).mpr (show rank < 2 ^ 52 from small)
        omega
    have rounds := round_half_even_whole rank 1 (by decide)
    rw [Nat.mul_one] at rounds
    rw [units_of_lt rank small, log]
    change min infinityRank (0 * blockSize + roundHalfEven rank 1) = rank
    rw [rounds]
    omega
  · have digits : rank % blockSize < blockSize := Nat.mod_lt _ (by decide)
    have log := log_kept (blockSize + rank % blockSize) (rank / blockSize - 1) (by omega) (by omega)
    have rounds := round_half_even_whole (blockSize + rank % blockSize) (2 ^ (rank / blockSize - 1))
      (Nat.two_pow_pos _)
    have parts := Nat.div_add_mod rank blockSize
    have block : 1 ≤ rank / blockSize := (Nat.one_le_div_iff (by decide)).mpr (Nat.not_lt.mp small)
    rw [units_of_le rank (Nat.not_lt.mp small), gap, log, Nat.add_sub_cancel_left, Nat.one_mul]
    change min infinityRank (_ + roundHalfEven _ (2 ^ (rank / blockSize - 1))) = rank
    rw [rounds, Nat.sub_mul, Nat.one_mul, Nat.mul_comm (rank / blockSize)]
    have whole : blockSize ≤ blockSize * (rank / blockSize) := Nat.le_mul_of_pos_right _ block
    omega

theorem units_nearest (num : Nat) (finite : nearestRank num 1 < infinityRank) :
    units (nearestRank num 1) =
      roundHalfEven num (2 ^ (Nat.log2 num - 52)) * 2 ^ (Nat.log2 num - 52) := by
  have rank : nearestRank num 1 = min infinityRank ((Nat.log2 num - 52) * blockSize +
      roundHalfEven num (2 ^ (Nat.log2 num - 52))) := by
    rw [nearestRank, Nat.div_one, Nat.one_mul]
    rfl
  have low := round_half_even_ge num (2 ^ (Nat.log2 num - 52))
  have high := round_half_even_le num (2 ^ (Nat.log2 num - 52))
  have bound := rounded_le num
  rw [rank] at finite ⊢
  rw [Nat.min_eq_right (by omega)]
  refine units_kept _ _ ?_ (by omega)
  by_cases loses : Nat.log2 num - 52 = 0
  · exact .inl loses
  · exact .inr ((kept_bits num (Nat.pos_of_ne_zero loses)).trans low)

-- Rounding loses no more than the bits behind the point, so an integer rounds to an integer.
theorem whole_units (n exponent : Nat)
    (finite : nearestRank (n * 2 ^ exponent) 1 < infinityRank) :
    2 ^ exponent ∣ units (nearestRank (n * 2 ^ exponent) 1) := by
  rw [units_nearest _ finite]
  by_cases coarse : exponent ≤ Nat.log2 (n * 2 ^ exponent) - 52
  · exact Nat.dvd_mul_left_of_dvd (Nat.pow_dvd_pow 2 coarse) _
  · -- Few bits: none is lost.
    generalize Nat.log2 (n * 2 ^ exponent) - 52 = dropped at coarse ⊢
    have split : n * 2 ^ exponent = n * 2 ^ (exponent - dropped) * 2 ^ dropped := by
      rw [Nat.mul_assoc, ← Nat.pow_add, Nat.sub_add_cancel (by omega)]
    rw [split, round_half_even_whole _ _ (Nat.two_pow_pos _), ← split]
    exact Nat.dvd_mul_left _ _

theorem of_int_whole (n : Int) (bound : n.natAbs ≤ 2 ^ 64) :
    ∃ whole, (ofInt n).toInt? = some whole := by
  have finite := of_int_finite n bound
  have rank := finite
  rw [isFinite, decide_eq_true_iff] at rank
  have divides : unitsPerOne ∣ units (ofInt n).rank := by
    change nearestRank (n.natAbs * unitsPerOne) 1 < infinityRank at rank
    change unitsPerOne ∣ units (nearestRank (n.natAbs * unitsPerOne) 1)
    unfold unitsPerOne at rank ⊢
    generalize 1074 = exponent at rank ⊢
    exact whole_units n.natAbs exponent rank
  rw [toInt?, finite, Nat.mod_eq_zero_of_dvd divides]
  exact ⟨_, rfl⟩

def exact (x : Binary64) : ℚ := x.signedUnits / unitsPerOne

theorem exact_whole_iff (x : Binary64) (n : Int) :
    x.exact = n ↔ x.signedUnits = n * unitsPerOne := by
  have one : (unitsPerOne : ℚ) ≠ 0 := Nat.cast_ne_zero.mpr units_per_one_pos.ne'
  rw [exact, div_eq_iff one]
  exact_mod_cast Iff.rfl

theorem to_int_iff (x : Binary64) (n : Int) :
    x.toInt? = some n ↔ x.isFinite = true ∧ x.exact = n := by
  have one : (unitsPerOne : Int) ≠ 0 := Int.natCast_ne_zero.mpr units_per_one_pos.ne'
  have divides : units x.rank % unitsPerOne = 0 ↔ (unitsPerOne : Int) ∣ x.signedUnits := by
    rw [← Nat.dvd_iff_mod_eq_zero, ← Int.natCast_dvd_natCast, signedUnits]
    split
    · exact Int.dvd_neg.symm
    · rfl
  rw [exact_whole_iff, toInt?]
  by_cases whole : x.isFinite = true ∧ (unitsPerOne : Int) ∣ x.signedUnits
  · rw [if_pos (by simpa only [Bool.and_eq_true, beq_iff_eq, divides] using whole), Option.some_inj,
      Int.ediv_eq_iff_eq_mul_left one whole.2]
    exact (and_iff_right whole.1).symm
  · rw [if_neg (by simpa only [Bool.and_eq_true, beq_iff_eq, divides] using whole)]
    constructor
    · intro none
      cases none
    · rintro ⟨finite, same⟩
      exact absurd ⟨finite, same ▸ Int.dvd_mul_left _ _⟩ whole

-- But for the negative zero, a finite number is what its units round to.
theorem of_units_own (x : Binary64) (finite : x.isFinite = true) (plain : x ≠ signedZero true) :
    ofUnits x.signedUnits = x := by
  rw [isFinite, decide_eq_true_iff] at finite
  have magnitude : x.signedUnits.natAbs = units x.rank := by
    rw [signedUnits]
    split <;> omega
  have sign : decide (x.signedUnits < 0) = x.negative := by
    cases signed : x.negative with
    | false =>
        rw [signedUnits, signed, if_neg Bool.false_ne_true, decide_eq_false_iff_not]
        omega
    | true =>
        have positive : 0 < x.rank := by
          by_contra zero
          refine plain ?_
          cases x with
          | mk negative rank bound =>
              obtain rfl : rank = 0 := by simpa using zero
              obtain rfl : negative = true := signed
              rfl
        have less := units_strict_mono positive
        rw [signedUnits, if_pos signed, decide_eq_true_iff]
        omega
  simp only [ofUnits, magnitude, sign, nearest_rank_units x.rank finite]

theorem compare_units (m n : Int) (apart : ofUnits m = ofUnits n → m = n) :
    (ofUnits m).compare (ofUnits n) = Ord.compare m n := by
  have differ (same : (ofUnits m).orderKey = (ofUnits n).orderKey) : m = n :=
    apart (order_key_injective _ _ same)
  rw [Binary64.compare]
  rcases lt_trichotomy m n with less | rfl | greater
  · have places := of_units_mono m n less.le
    rw [compare_lt_iff_lt.mpr less]
    exact compare_lt_iff_lt.mpr (lt_of_le_of_ne places fun same => less.ne (differ same))
  · rw [compare_eq_iff_eq.mpr rfl, compare_eq_iff_eq.mpr rfl]
  · have places := of_units_mono n m greater.le
    rw [compare_gt_iff_gt.mpr greater]
    exact compare_gt_iff_gt.mpr (lt_of_le_of_ne places fun same => greater.ne' (differ same.symm))

theorem compare_scaled (m n : Int) :
    Ord.compare ((m : ℚ) / unitsPerOne) ((n : ℚ) / unitsPerOne) = Ord.compare m n := by
  have one : (0 : ℚ) < unitsPerOne := Nat.cast_pos.mpr units_per_one_pos
  have scale : StrictMono fun units : Int => (units : ℚ) / unitsPerOne := fun low high less =>
    div_lt_div_of_pos_right (Int.cast_lt.mpr less) one
  rw [← cmp_eq_compare, ← cmp_eq_compare]
  exact scale.cmp_map_eq m n

theorem compare_exact (x y : Binary64) (finite : x.isFinite = true) (finite' : y.isFinite = true)
    (plain : x ≠ signedZero true) (plain' : y ≠ signedZero true) :
    x.compare y = Ord.compare x.exact y.exact := by
  have own := of_units_own x finite plain
  have own' := of_units_own y finite' plain'
  have units := compare_units x.signedUnits y.signedUnits fun same => by
    rw [own, own'] at same
    rw [same]
  rw [own, own'] at units
  rw [units, exact, exact, compare_scaled]

theorem exact_zero : (signedZero true).exact = 0 := by
  have units : (signedZero true).signedUnits = 0 := by decide
  rw [exact, units, Int.cast_zero, zero_div]

theorem exact_injective (x y : Binary64) (finite : x.isFinite = true) (finite' : y.isFinite = true)
    (same : x.exact = y.exact) (some : x.exact ≠ 0) : x = y := by
  have plain : x ≠ signedZero true := fun zero => some (zero ▸ exact_zero)
  have plain' : y ≠ signedZero true := fun zero => some (same.trans (zero ▸ exact_zero))
  refine compare_eq x y ?_
  rw [compare_exact x y finite finite' plain plain', same]
  exact compare_eq_iff_eq.mpr rfl

theorem compare_of_int (n : Int) (x : Binary64) (finite : x.isFinite = true)
    (plain : x ≠ signedZero true) (other : x ≠ ofInt n) :
    (ofInt n).compare x = Ord.compare (n : ℚ) x.exact := by
  have one : (unitsPerOne : ℚ) ≠ 0 := Nat.cast_ne_zero.mpr units_per_one_pos.ne'
  have own := of_units_own x finite plain
  have value : (n : ℚ) = ((n * unitsPerOne : Int) : ℚ) / unitsPerOne := by
    rw [eq_div_iff one]
    exact_mod_cast rfl
  have units := compare_units (n * unitsPerOne) x.signedUnits fun same => by
    rw [own, ← of_int_units] at same
    exact absurd same.symm other
  rw [own, ← of_int_units] at units
  rw [units, value, exact, compare_scaled]

theorem units_of_key_le (x y : Binary64) (le : x.orderKey ≤ y.orderKey) :
    x.signedUnits ≤ y.signedUnits := by
  have ranks (low high : Nat) (within : low ≤ high) : units low ≤ units high :=
    units_strict_mono.monotone within
  rw [orderKey, orderKey] at le
  rw [signedUnits, signedUnits]
  by_cases first : x.negative = true
  · by_cases second : y.negative = true
    · rw [if_pos first, if_pos second] at le ⊢
      have magnitudes := ranks y.rank x.rank (by omega)
      omega
    · rw [if_pos first, if_neg second]
      omega
  · by_cases second : y.negative = true
    · rw [if_neg first, if_pos second] at le
      omega
    · rw [if_neg first, if_neg second] at le ⊢
      have magnitudes := ranks x.rank y.rank (by omega)
      omega

theorem of_int_whole_mono (m n low high : Int) (le : m ≤ n) (first : (ofInt m).toInt? = some low)
    (second : (ofInt n).toInt? = some high) : low ≤ high := by
  have lowest := (exact_whole_iff _ low).mp ((to_int_iff _ low).mp first).2
  have highest := (exact_whole_iff _ high).mp ((to_int_iff _ high).mp second).2
  have units := units_of_key_le _ _ (of_int_mono m n le)
  rw [lowest, highest] at units
  exact le_of_mul_le_mul_right units (Int.natCast_pos.mpr units_per_one_pos)

theorem limit_whole : (ofInt (2 ^ 63)).toInt? = some (2 ^ 63) := by decide +kernel

theorem least_whole : (ofInt (-2 ^ 63)).toInt? = some (-2 ^ 63) := by decide +kernel

theorem word_whole (i : Int64) : ∃ whole, (ofInt i.toInt).toInt? = some whole ∧
    -2 ^ 63 ≤ whole ∧ whole ≤ 2 ^ 63 := by
  have low := i.le_toInt
  have high := i.toInt_lt
  obtain ⟨whole, rounds⟩ := of_int_whole i.toInt (by omega)
  exact ⟨whole, rounds, of_int_whole_mono _ _ _ _ low least_whole rounds,
    of_int_whole_mono _ _ _ _ high.le rounds limit_whole⟩

end StatTable.Binary64
