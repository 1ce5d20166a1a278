import StatTable.Binary64.Rounding
import StatTable.Proofs.Sql.Engine

set_option autoImplicit false

namespace StatTable.Sql.Engine

def plainOrder : Value → Value → Option Ordering
  | .integer m, .integer n => some (Ord.compare m n)
  | .binary x, .binary y => some (x.compare y)
  | .text s, .text t => some (Ord.compare s t)
  | _, _ => none

def plainCompare (operator : Operator) (x y : Value) : Truth :=
  match operator with
  | .eq => some (x == y)
  | .ne => some (x != y)
  | .lt => (plainOrder x y).map (·.isLT)
  | .lte => (plainOrder x y).map (·.isLE)
  | .gt => (plainOrder x y).map (·.isGT)
  | .gte => (plainOrder x y).map (·.isGE)
  | _ => none

def plainArithmetic : Operator → Value → Value → Value
  | .plus, .integer m, .integer n => .integer (m + n)
  | .minus, .integer m, .integer n => .integer (m - n)
  | .times, .integer m, .integer n => .integer (m * n)
  | .times, .integer m, .binary x => .binary ((Binary64.ofInt m).mul x)
  | .over, .binary x, .integer n => .binary (x.div (.ofInt n))
  | .concat, .text s, .text t => .text (s ++ t)
  | _, _, _ => .null

def plainSum : List Value → Value
  | [] => .null
  | [x] => x
  | x :: rest => plainArithmetic .plus x (plainSum rest)

def plain : Engine where
  compare := plainCompare
  resembles := fun _ x y => some (x == y)
  arithmetic := plainArithmetic
  call := fun _ _ => .null
  aggregate := fun function values => if function = "SUM" then plainSum values else .null
  compare_refl := by
    intro x _
    simp [plainCompare]
  compare_symm := by
    intro x y equal
    simp only [plainCompare, Option.some.injEq, beq_iff_eq] at equal ⊢
    exact equal.symm
  compare_trans := by
    intro x y z first second
    simp only [plainCompare, Option.some.injEq, beq_iff_eq] at first second ⊢
    exact first.trans second
  compare_integers := by
    intro m n
    by_cases same : m = n <;> simp [plainCompare, same]
  plus_integers := fun _ _ => rfl
  minus_integers := fun _ _ => rfl

end StatTable.Sql.Engine
