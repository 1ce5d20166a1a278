import StatTable.Proofs.Scalars.Numbers
import StatTable.Proofs.Scalars.Order

set_option autoImplicit false

namespace StatTable.Scalar

def number? : Scalar → Option ℚ
  | .integer n => some n.toInt
  | .binary x => some x.exact
  | .bool _ | .text _ => none

theorem of_binary_unfolded (y x : Binary64) (own : ofBinary64 y = .binary x) :
    y = x ∧ ∀ k, y.toInt? = some k → k < -2 ^ 63 ∨ 2 ^ 63 < k := by
  cases whole : y.toInt? with
  | none =>
      rw [ofBinary64, whole] at own
      exact ⟨Scalar.binary.inj own, fun k held => absurd held.symm (Option.some_ne_none k)⟩
  | some k =>
      by_cases within : -2 ^ 63 ≤ k ∧ k ≤ 2 ^ 63
      · rw [ofBinary64, whole] at own
        dsimp only at own
        rw [if_pos (by omega)] at own
        cases own
      · have beyond : k < -2 ^ 63 ∨ 2 ^ 63 < k := by omega
        rw [of_binary_beyond y k whole beyond] at own
        refine ⟨Scalar.binary.inj own, fun other same => ?_⟩
        obtain rfl := Option.some.inj same
        exact beyond

-- A binary64 number that was read is finite, not the negative zero, and nothing a word rounds to.
theorem of_json_binary (source : Json.Value) (x : Binary64)
    (read : ofJson source = some (.binary x)) :
    x.isFinite = true ∧ x ≠ Binary64.signedZero true ∧
      ∀ i : Int64, x ≠ Binary64.ofInt i.toInt := by
  cases source with
  | number n =>
      rw [ofJson, ofNumber] at read
      split at read
      · cases read
      · split at read
        · rename_i finite
          obtain ⟨rfl, beyond⟩ := of_binary_unfolded _ x (Option.some.inj read)
          refine ⟨finite, fun zero => ?_, fun i same => ?_⟩
          · have whole : (Binary64.signedZero true).toInt? = some 0 := by decide +kernel
            rw [← zero] at whole
            have outside := beyond 0 whole
            omega
          · obtain ⟨k, whole, low, high⟩ := Binary64.word_whole i
            rw [← same] at whole
            have outside := beyond k whole
            omega
        · cases read
  | _ => cases read

theorem compare_integers (m n : Int64) :
    (integer m).compare (integer n) = Ord.compare (m.toInt : ℚ) n.toInt := by
  change Ord.compare m.toInt n.toInt = _
  rw [← cmp_eq_compare, ← cmp_eq_compare]
  exact (Int.cast_strictMono.cmp_map_eq m.toInt n.toInt).symm

-- The tie between an integer and the number it rounds to is never broken.
theorem compare_integer_binary (source : Json.Value) (i : Int64) (x : Binary64)
    (read : ofJson source = some (.binary x)) :
    (integer i).compare (binary x) = Ord.compare (i.toInt : ℚ) x.exact := by
  obtain ⟨finite, plain, apart⟩ := of_json_binary source x read
  have untied : (Binary64.ofInt i.toInt).compare x ≠ .eq := fun same =>
    apart i (Binary64.compare_eq _ _ same).symm
  change ((Binary64.ofInt i.toInt).compare x).then .lt = _
  rw [Binary64.compare_of_int i.toInt x finite plain (apart i)] at untied ⊢
  cases places : Ord.compare (i.toInt : ℚ) x.exact with
  | lt => rfl
  | eq => exact absurd places untied
  | gt => rfl

theorem compare_numbers (source other : Json.Value) (a b : Scalar) (x y : ℚ)
    (read : ofJson source = some a) (read' : ofJson other = some b) (held : a.number? = some x)
    (held' : b.number? = some y) : a.compare b = Ord.compare x y := by
  cases a with
  | bool _ => cases held
  | text _ => cases held
  | integer m =>
      obtain rfl := Option.some.inj held
      cases b with
      | bool _ => cases held'
      | text _ => cases held'
      | integer n =>
          obtain rfl := Option.some.inj held'
          exact compare_integers m n
      | binary v =>
          obtain rfl := Option.some.inj held'
          exact compare_integer_binary other m v read'
  | binary u =>
      obtain rfl := Option.some.inj held
      cases b with
      | bool _ => cases held'
      | text _ => cases held'
      | integer n =>
          obtain rfl := Option.some.inj held'
          rw [compare_swap, compare_integer_binary source n u read]
          exact Std.OrientedOrd.eq_swap.symm
      | binary v =>
          obtain rfl := Option.some.inj held'
          obtain ⟨finite, plain, -⟩ := of_json_binary source u read
          obtain ⟨finite', plain', -⟩ := of_json_binary other v read'
          exact Binary64.compare_exact u v finite finite' plain plain'

theorem le_antisymm (a b : Scalar) (first : le a b = true) (second : le b a = true) : a = b := by
  by_contra differ
  have less := lt_of_le_of_ne a b first differ
  have greater := lt_of_le_of_ne b a second (Ne.symm differ)
  rw [compare_swap a b, less] at greater
  cases greater

structure IsTotal (compare : Scalar → Scalar → Ordering) : Prop where
  total : ∀ a b, (compare a b).isLE = true ∨ (compare b a).isLE = true
  antisymm : ∀ a b, (compare a b).isLE = true → (compare b a).isLE = true → a = b
  trans : ∀ a b c, (compare a b).isLE = true → (compare b c).isLE = true →
    (compare a c).isLE = true
  swapped : ∀ a b, compare b a = (compare a b).swap
  equal_iff : ∀ a b, compare a b = .eq ↔ a = b

theorem order_total_and_numeric : IsTotal compare ∧
    ∀ (source other : Json.Value) (a b : Scalar) (x y : ℚ), ofJson source = some a →
      ofJson other = some b → a.number? = some x → b.number? = some y →
        a.compare b = Ord.compare x y :=
  ⟨{ total := fun a b => Bool.or_eq_true_iff.mp (le_total a b)
     antisymm := le_antisymm
     trans := le_trans
     swapped := compare_swap
     equal_iff := alike_iff }, compare_numbers⟩

-- The last word rounds up to the limit, and the number that follows is still the larger one.
theorem last_word_first :
    ofJson (.number (.integer (2 ^ 63 - 1))) = some (.integer Int64.maxValue) ∧
    ofJson (.number (.integer (2 ^ 63 + 1025))) = some (.binary (Binary64.ofInt (2 ^ 63 + 2048))) ∧
    (integer Int64.maxValue).compare (.binary (Binary64.ofInt (2 ^ 63 + 2048))) =
      Ord.compare (Int64.maxValue.toInt : ℚ) (Binary64.ofInt (2 ^ 63 + 2048)).exact := by
  have read : ofJson (.number (.integer (2 ^ 63 - 1))) = some (.integer Int64.maxValue) := by
    decide +kernel
  have read' : ofJson (.number (.integer (2 ^ 63 + 1025))) =
      some (.binary (Binary64.ofInt (2 ^ 63 + 2048))) := by
    decide +kernel
  exact ⟨read, read', order_total_and_numeric.2 _ _ _ _ _ _ read read' rfl rfl⟩

end StatTable.Scalar
