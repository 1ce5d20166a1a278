import Mathlib.Algebra.Order.Field.Power
import Mathlib.Data.Rat.Floor
import Mathlib.Tactic.FieldSimp
import Mathlib.Tactic.Linarith
import Mathlib.Tactic.Positivity
import Mathlib.Tactic.Ring
import StatTable.Binary64.Shortest

set_option autoImplicit false

namespace StatTable.Binary64

def gap (rank : Nat) : Nat := 2 ^ (rank / blockSize - 1)

theorem gap_pos (rank : Nat) : 0 < gap rank := Nat.two_pow_pos _

theorem gap_le_succ (rank : Nat) : gap rank ≤ gap (rank + 1) := by
  apply Nat.pow_le_pow_right (by decide)
  have blocks : rank / blockSize ≤ (rank + 1) / blockSize := Nat.div_le_div_right (by omega)
  omega

theorem units_of_lt (rank : Nat) (small : rank < blockSize) : units rank = rank := by
  rw [units, if_pos small]

theorem units_of_le (rank : Nat) (large : blockSize ≤ rank) :
    units rank = (blockSize + rank % blockSize) * gap rank := by
  rw [units, if_neg (Nat.not_lt.mpr large)]
  rfl

theorem gap_of_lt (rank : Nat) (small : rank < blockSize) : gap rank = 1 := by
  rw [gap, Nat.div_eq_of_lt small]
  rfl

theorem units_succ (rank : Nat) : units (rank + 1) = units rank + gap rank := by
  by_cases inside : rank + 1 < blockSize
  · have small : rank < blockSize := by omega
    rw [units_of_lt _ inside, units_of_lt _ small, gap_of_lt _ small]
  · rw [units_of_le _ (Nat.not_lt.mp inside)]
    by_cases last : rank < blockSize
    · have next : rank + 1 = blockSize := by omega
      rw [units_of_lt _ last, gap_of_lt _ last, next]
      decide
    · rw [units_of_le _ (Nat.not_lt.mp last)]
      have positive : 1 ≤ rank / blockSize :=
        (Nat.one_le_div_iff (by decide)).mpr (Nat.not_lt.mp last)
      by_cases carry : rank % blockSize + 1 = blockSize
      · -- The step into the next block: the block's last magnitude and the next one's first.
        have block : (rank + 1) / blockSize = rank / blockSize + 1 := by
          simp only [blockSize] at carry ⊢
          omega
        have start : (rank + 1) % blockSize = 0 := by
          simp only [blockSize] at carry ⊢
          omega
        have wider : gap (rank + 1) = 2 * gap rank := by
          rw [gap, gap, block, Nat.add_sub_cancel, ← Nat.pow_succ']
          congr 1
          omega
        have first : blockSize + rank % blockSize + 1 = 2 * blockSize := by omega
        calc (blockSize + (rank + 1) % blockSize) * gap (rank + 1)
            = 2 * blockSize * gap rank := by rw [start, wider]; ring
          _ = (blockSize + rank % blockSize + 1) * gap rank := by rw [first]
          _ = (blockSize + rank % blockSize) * gap rank + gap rank := by ring
      · have bound : rank % blockSize < blockSize := Nat.mod_lt _ (by decide)
        have block : (rank + 1) / blockSize = rank / blockSize := by
          simp only [blockSize] at carry bound ⊢
          omega
        have next : (rank + 1) % blockSize = rank % blockSize + 1 := by
          simp only [blockSize] at carry bound ⊢
          omega
        rw [gap, block, next, ← gap]
        ring

theorem units_strict_mono : StrictMono units :=
  strictMono_nat_of_lt_succ fun rank => by
    have step := units_succ rank
    have positive := gap_pos rank
    omega

theorem units_lt (rank : Nat) : units rank < 2 * blockSize * gap rank := by
  by_cases small : rank < blockSize
  · rw [units_of_lt _ small, gap_of_lt _ small]
    omega
  · rw [units_of_le _ (Nat.not_lt.mp small)]
    have bound : rank % blockSize < blockSize := Nat.mod_lt _ (by decide)
    exact Nat.mul_lt_mul_of_pos_right (by omega) (gap_pos rank)

-- Seventeen digits are enough: a magnitude has less than 10^16 steps below it.
theorem units_succ_lt (rank : Nat) : units (rank + 1) < 10 ^ 16 * gap rank := by
  have below := units_lt rank
  have step := units_succ rank
  have positive := gap_pos rank
  simp only [blockSize] at below
  omega

theorem units_per_one_pos : 0 < unitsPerOne := by
  unfold unitsPerOne
  generalize 1074 = exponent
  exact Nat.pow_pos (by decide)

theorem decimal_length_pos (n : Nat) : 0 < decimalLength n := Nat.length_toDigits_pos

theorem lt_pow_decimal_length (n : Nat) : n < 10 ^ decimalLength n :=
  (Nat.length_toDigits_le_iff (by decide) (decimal_length_pos n)).mp (Nat.le_refl _)

theorem pow_decimal_length_le (n : Nat) (positive : 0 < n) : 10 ^ (decimalLength n - 1) ≤ n := by
  by_cases short : decimalLength n = 1
  · rw [short]
    exact positive
  · have length := decimal_length_pos n
    by_contra above
    have shorter : decimalLength n ≤ decimalLength n - 1 :=
      (Nat.length_toDigits_le_iff (by decide) (by omega)).mpr (Nat.not_le.mp above)
    omega

theorem leading_exponent_le (amount : Nat) (positive : 0 < amount) :
    (10 : ℚ) ^ leadingExponent amount * unitsPerOne ≤ amount := by
  have one := units_per_one_pos
  by_cases whole : unitsPerOne ≤ amount
  · have quotient : 0 < amount / unitsPerOne := Nat.div_pos whole one
    have length := decimal_length_pos (amount / unitsPerOne)
    have place : leadingExponent amount = ((decimalLength (amount / unitsPerOne) - 1 : Nat) : Int) := by
      rw [leadingExponent, if_pos whole]
      omega
    have below : 10 ^ (decimalLength (amount / unitsPerOne) - 1) * unitsPerOne ≤ amount :=
      (Nat.mul_le_mul_right _ (pow_decimal_length_le _ quotient)).trans (Nat.div_mul_le_self _ _)
    rw [place, zpow_natCast]
    exact_mod_cast below
  · have above := lt_pow_decimal_length ((unitsPerOne - 1) / amount)
    have enough : unitsPerOne ≤ amount * 10 ^ decimalLength ((unitsPerOne - 1) / amount) := by
      have covered := (Nat.div_lt_iff_lt_mul positive).mp above
      rw [Nat.mul_comm]
      omega
    rw [leadingExponent, if_neg whole, zpow_neg, zpow_natCast, inv_mul_le_iff₀ (by positivity),
      mul_comm]
    exact_mod_cast enough

namespace Decimal

def amount (d : Decimal) : ℚ := d.digits * (10 : ℚ) ^ d.exponent

theorem twice_amount (d : Decimal) :
    ((2 * d.digits * Nat.pow 10 d.exponent.toNat * unitsPerOne : Nat) : ℚ) =
      2 * (d.amount * unitsPerOne) * (Nat.pow 10 (-d.exponent).toNat : Nat) := by
  have split : (10 : ℚ) ^ d.exponent * 10 ^ (-d.exponent).toNat = 10 ^ d.exponent.toNat := by
    rw [← zpow_natCast, ← zpow_natCast, ← zpow_add₀ (by norm_num)]
    congr 1
    omega
  simp only [amount, Nat.pow_eq]
  push_cast
  rw [← split]
  ring

theorem rounds_to_iff (d : Decimal) (rank : Nat) :
    d.roundsTo rank = true ↔
      if rank % 2 = 0 then
        (units (rank - 1) + units rank : ℚ) ≤ 2 * (d.amount * unitsPerOne) ∧
          2 * (d.amount * unitsPerOne) ≤ units rank + units (rank + 1)
      else
        (units (rank - 1) + units rank : ℚ) < 2 * (d.amount * unitsPerOne) ∧
          2 * (d.amount * unitsPerOne) < units rank + units (rank + 1) := by
  have scale : (0 : ℚ) < (Nat.pow 10 (-d.exponent).toNat : Nat) := by
    exact_mod_cast Nat.pow_pos (by decide)
  have value := d.twice_amount
  rw [roundsTo, roundingInterval]
  dsimp only
  by_cases even : rank % 2 = 0
  · rw [if_pos even, if_pos even, Bool.and_eq_true, decide_eq_true_iff, decide_eq_true_iff]
    rw [← Nat.cast_le (α := ℚ), ← Nat.cast_le (α := ℚ), value]
    push_cast
    rw [mul_le_mul_iff_left₀ (by exact_mod_cast scale),
      mul_le_mul_iff_left₀ (by exact_mod_cast scale)]
  · rw [if_neg even, if_neg even, Bool.and_eq_true, decide_eq_true_iff, decide_eq_true_iff]
    rw [← Nat.cast_lt (α := ℚ), ← Nat.cast_lt (α := ℚ), value]
    push_cast
    rw [mul_lt_mul_iff_left₀ (by exact_mod_cast scale),
      mul_lt_mul_iff_left₀ (by exact_mod_cast scale)]

theorem rounds_of_inside (d : Decimal) (rank : Nat)
    (above : (units (rank - 1) + units rank : ℚ) < 2 * (d.amount * unitsPerOne))
    (below : 2 * (d.amount * unitsPerOne) < (units rank + units (rank + 1) : ℚ)) :
    d.roundsTo rank = true := by
  rw [rounds_to_iff]
  split
  · exact ⟨above.le, below.le⟩
  · exact ⟨above, below⟩

theorem rounds_above (d : Decimal) (rank : Nat) (rounds : d.roundsTo rank = true) :
    (units (rank - 1) + units rank : ℚ) ≤ 2 * (d.amount * unitsPerOne) ∧
      2 * (d.amount * unitsPerOne) ≤ (units rank + units (rank + 1) : ℚ) := by
  rw [rounds_to_iff] at rounds
  split at rounds
  · exact rounds
  · exact ⟨rounds.1.le, rounds.2.le⟩

theorem rounds_congr (d e : Decimal) (rank : Nat) (same : d.amount = e.amount) :
    d.roundsTo rank = e.roundsTo rank := by
  rw [Bool.eq_iff_iff, rounds_to_iff, rounds_to_iff, same]

theorem not_rounds_to_greater (d e : Decimal) (lower upper : Nat) (less : lower < upper)
    (same : d.amount = e.amount) (low : d.roundsTo lower = true) :
    ¬ e.roundsTo upper = true := by
  intro high
  have below := (rounds_above d lower low).2
  have above := (rounds_above e upper high).1
  by_cases next : upper = lower + 1
  · -- Neighbours share one end, which only the even one of them includes.
    subst next
    rw [Nat.add_sub_cancel] at above
    rw [rounds_to_iff] at low high
    rw [same] at low below
    by_cases even : lower % 2 = 0
    · rw [if_neg (by omega), Nat.add_sub_cancel] at high
      linarith [high.1]
    · rw [if_neg even] at low
      linarith [low.2]
  · have first : units (lower + 1) ≤ units (upper - 1) :=
      units_strict_mono.monotone (by omega)
    have second : units lower < units upper := units_strict_mono less
    have firstCast : (units (lower + 1) : ℚ) ≤ units (upper - 1) := by exact_mod_cast first
    have secondCast : (units lower : ℚ) < units upper := by exact_mod_cast second
    rw [same] at below
    linarith

theorem rounds_unique (d e : Decimal) (left right : Nat) (same : d.amount = e.amount)
    (leftRounds : d.roundsTo left = true) (rightRounds : e.roundsTo right = true) :
    left = right := by
  rcases Nat.lt_trichotomy left right with less | equal | greater
  · exact absurd rightRounds (not_rounds_to_greater d e left right less same leftRounds)
  · exact equal
  · exact absurd leftRounds (not_rounds_to_greater e d right left greater same.symm rightRounds)

theorem trim_amount (count : Nat) (d : Decimal) : (trim count d).amount = d.amount := by
  induction count generalizing d with
  | zero => rfl
  | succ count ih =>
      rw [trim]
      split
      · rename_i zero
        rw [ih]
        have digits : d.digits = d.digits / 10 * 10 := (Nat.div_mul_cancel (Nat.dvd_of_mod_eq_zero zero)).symm
        have cast : (d.digits : ℚ) = (d.digits / 10 : Nat) * 10 := by exact_mod_cast digits
        simp only [amount]
        rw [cast, zpow_add₀ (by norm_num)]
        ring
      · rfl

end Decimal

theorem neighbours_enclose (tie : Tie) (rank : Nat) (exponent : Int) :
    ∃ low ∈ neighbours tie rank exponent, ∃ high ∈ neighbours tie rank exponent,
      low.amount * unitsPerOne ≤ units rank ∧ (units rank : ℚ) < high.amount * unitsPerOne ∧
        high.amount = low.amount + 10 ^ exponent := by
  have one := units_per_one_pos
  let num := units rank * Nat.pow 10 (-exponent).toNat
  let den := unitsPerOne * Nat.pow 10 exponent.toNat
  have denPositive : 0 < den := Nat.mul_pos one (Nat.pow_pos (by decide))
  have members : ∀ d : Decimal, d = ⟨num / den, exponent⟩ ∨ d = ⟨num / den + 1, exponent⟩ →
      d ∈ neighbours tie rank exponent := by
    intro d either
    have listed : ∀ (first : Bool) (low high : Decimal), d = low ∨ d = high →
        d ∈ if first then [low, high] else [high, low] := by
      intro first low high either
      cases first with
      | true => exact List.mem_pair.mpr either
      | false => exact List.mem_pair.mpr either.symm
    exact listed _ _ _ either
  have place : (10 : ℚ) ^ exponent * unitsPerOne * 10 ^ (-exponent).toNat = (den : Nat) := by
    have split : (10 : ℚ) ^ exponent * 10 ^ (-exponent).toNat = 10 ^ exponent.toNat := by
      rw [← zpow_natCast, ← zpow_natCast, ← zpow_add₀ (by norm_num)]
      congr 1
      omega
    simp only [den, Nat.pow_eq]
    push_cast
    rw [← split]
    ring
  have scale : (0 : ℚ) < 10 ^ (-exponent).toNat := by positivity
  have below : (num / den : Nat) * (den : ℚ) ≤ num := by
    exact_mod_cast Nat.div_mul_le_self num den
  have above : (num : ℚ) < ((num / den : Nat) + 1) * den := by
    exact_mod_cast (Nat.div_lt_iff_lt_mul denPositive).mp (Nat.lt_succ_self (num / den))
  have cast : (num : ℚ) = units rank * 10 ^ (-exponent).toNat := by
    simp only [num, Nat.pow_eq]
    push_cast
    ring
  refine ⟨⟨num / den, exponent⟩, members _ (.inl rfl), ⟨num / den + 1, exponent⟩,
    members _ (.inr rfl), ?_, ?_, ?_⟩
  · rw [← place, cast] at below
    refine le_of_mul_le_mul_right (le_of_eq_of_le ?_ below) scale
    simp only [Decimal.amount]
    ring
  · rw [← place, cast] at above
    refine lt_of_mul_lt_mul_right (lt_of_lt_of_eq above ?_) scale.le
    simp only [Decimal.amount]
    push_cast
    ring
  · simp only [Decimal.amount]
    push_cast
    ring

-- A grid that is finer than the step below a magnitude has a neighbour that rounds to it.
theorem neighbour_rounds (tie : Tie) (rank : Nat) (exponent : Int)
    (fine : (10 : ℚ) ^ exponent * unitsPerOne < gap rank) :
    ∃ d ∈ neighbours tie (rank + 1) exponent, d.roundsTo (rank + 1) = true := by
  obtain ⟨low, lowMember, high, highMember, below, above, apart⟩ :=
    neighbours_enclose tie (rank + 1) exponent
  have lower : (units (rank + 1) : ℚ) = units rank + gap rank := by
    exact_mod_cast units_succ rank
  have upper : (units (rank + 1 + 1) : ℚ) = units (rank + 1) + gap (rank + 1) := by
    exact_mod_cast units_succ (rank + 1)
  have wider : (gap rank : ℚ) ≤ gap (rank + 1) := by exact_mod_cast gap_le_succ rank
  have positive : (0 : ℚ) < gap rank := by exact_mod_cast gap_pos rank
  have spread : high.amount * unitsPerOne =
      low.amount * unitsPerOne + 10 ^ exponent * unitsPerOne := by
    rw [apart]
    ring
  by_cases nearLow : 2 * ((units (rank + 1) : ℚ) - low.amount * unitsPerOne) ≤
      10 ^ exponent * unitsPerOne
  · refine ⟨low, lowMember, Decimal.rounds_of_inside low _ ?_ ?_⟩
    · rw [Nat.add_sub_cancel]
      linarith
    · linarith
  · refine ⟨high, highMember, Decimal.rounds_of_inside high _ ?_ ?_⟩
    · rw [Nat.add_sub_cancel]
      linarith
    · linarith

theorem last_place_fine (rank : Nat) :
    (10 : ℚ) ^ (leadingExponent (units (rank + 1)) - (16 : Nat)) * unitsPerOne < gap rank := by
  have magnitude : 0 < units (rank + 1) := by
    have step := units_succ rank
    have positive := gap_pos rank
    omega
  have start := leading_exponent_le (units (rank + 1)) magnitude
  have few : (units (rank + 1) : ℚ) < 10 ^ 16 * gap rank := by
    exact_mod_cast units_succ_lt rank
  rw [zpow_sub₀ (by norm_num), zpow_natCast, div_mul_eq_mul_div, div_lt_iff₀ (by positivity)]
  linarith

theorem shortest_rounds (tie : Tie) (rank : Nat) (positive : 0 < rank) :
    (shortest tie rank).roundsTo rank = true := by
  obtain ⟨before, rfl⟩ : ∃ before, rank = before + 1 := ⟨rank - 1, by omega⟩
  obtain ⟨last, near, rounds⟩ := neighbour_rounds tie before _ (last_place_fine before)
  have member : last ∈ (List.range 17).flatMap fun (place : Nat) =>
      neighbours tie (before + 1) (leadingExponent (units (before + 1)) - place) :=
    List.mem_flatMap.mpr ⟨16, List.mem_range.mpr (by decide), near⟩
  unfold shortest
  dsimp only
  split
  · rename_i found first
    rw [Decimal.rounds_congr _ _ _ (Decimal.trim_amount 17 found)]
    exact List.find?_some (p := fun d : Decimal => d.roundsTo (before + 1)) first
  · rename_i missing
    exact absurd rounds (List.find?_eq_none.mp missing last member)

theorem shortest_digits_pos (tie : Tie) (rank : Nat) (positive : 0 < rank) :
    0 < (shortest tie rank).digits := by
  have above := (Decimal.rounds_above _ _ (shortest_rounds tie rank positive)).1
  have magnitude : 0 < units rank := units_strict_mono.lt_iff_lt (a := 0) |>.mpr positive
  have magnitudeCast : (0 : ℚ) < units rank := by exact_mod_cast magnitude
  have beforeCast : (0 : ℚ) ≤ units (rank - 1) := Nat.cast_nonneg _
  by_contra zero
  have none : (shortest tie rank).digits = 0 := by omega
  have nothing : (shortest tie rank).amount = 0 := by
    rw [Decimal.amount, none, Nat.cast_zero, zero_mul]
  rw [nothing] at above
  linarith

theorem shortest_injective (tie : Tie) (left right : Nat) (leftPositive : 0 < left)
    (rightPositive : 0 < right)
    (same : (shortest tie left).amount = (shortest tie right).amount) : left = right :=
  Decimal.rounds_unique _ _ left right same (shortest_rounds tie left leftPositive)
    (shortest_rounds tie right rightPositive)

end StatTable.Binary64
