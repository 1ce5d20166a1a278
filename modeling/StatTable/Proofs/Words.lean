import StatTable.Word

set_option autoImplicit false

namespace StatTable

theorem word_own (i : Int64) : toWord? i.toInt = some i := by
  have low := i.le_toInt
  have high := i.toInt_lt
  rw [toWord?, if_pos (by omega), Int64.ofInt_toInt]

theorem word_in_range (n : Int) (low : -9223372036854775808 ≤ n)
    (high : n ≤ 9223372036854775807) : toWord? n = some (Int64.ofInt n) ∧
      (Int64.ofInt n).toInt = n :=
  ⟨if_pos ⟨low, high⟩, Int64.toInt_ofInt_of_le low (by omega)⟩

theorem word_value (n : Int) (word : Int64) (fits : toWord? n = some word) : word.toInt = n := by
  rw [toWord?] at fits
  split at fits
  · rename_i within
    rw [← Option.some.inj fits]
    exact (word_in_range n within.1 within.2).2
  · cases fits

def LeavesWord (n : Int) : Prop := n < -9223372036854775808 ∨ 9223372036854775807 < n

theorem word_none_iff (n : Int) : toWord? n = none ↔ LeavesWord n := by
  rw [toWord?, LeavesWord]
  split
  · simp only [reduceCtorEq, false_iff]
    omega
  · simp only [true_iff]
    omega

theorem neg_word (offset : Int64) (other : offset ≠ Int64.minValue) :
    ∃ delta, negWord? offset = some delta ∧ delta.toInt = -offset.toInt := by
  have low := offset.le_toInt
  have high := offset.toInt_lt
  have least : offset.toInt ≠ -9223372036854775808 := fun same =>
    other (Int64.toInt_inj.mp (same.trans rfl))
  obtain ⟨word, value⟩ := word_in_range (-offset.toInt) (by omega) (by omega)
  exact ⟨_, word, value⟩

end StatTable
