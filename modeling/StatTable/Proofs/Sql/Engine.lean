import Mathlib.Data.List.Basic
import StatTable.Sql.Expr

/-
What a database makes of values. Comparisons of values that are present are up to the database, and
so are patterns, arithmetic and the aggregates other than counts; where a value is missing, none of
them says anything. Equality is an equivalence, as grouping needs it, and the equality, sums and
differences of integers are those of numbers.
-/

set_option autoImplicit false

namespace StatTable.Sql

inductive Value where
  | null
  | bool (b : Bool)
  | integer (n : Int)
  | binary (x : Binary64)
  | text (s : String)
deriving DecidableEq

-- A number that is not finite is written as NULL.
def Literal.value : Literal → Value
  | .integer n => .integer n.toInt
  | .binary x => if x.isFinite then .binary x else .null
  | .string s => .text s
  | .bool b => .bool b
  | .null => .null

abbrev Truth := Option Bool

def conjoin : Truth → Truth → Truth
  | some false, _ => some false
  | _, some false => some false
  | some true, some true => some true
  | _, _ => none

def disjoin : Truth → Truth → Truth
  | some true, _ => some true
  | _, some true => some true
  | some false, some false => some false
  | _, _ => none

namespace Value

def ofTruth : Truth → Value
  | some b => .bool b
  | none => .null

def truth : Value → Truth
  | .bool b => some b
  | _ => none

def isTrue (x : Value) : Bool := x.truth == some true

end Value

structure Engine where
  compare : Operator → Value → Value → Truth
  resembles : Bool → Value → Value → Truth
  arithmetic : Operator → Value → Value → Value
  call : String → List Value → Value
  aggregate : String → List Value → Value
  compare_refl : ∀ x, x ≠ .null → compare .eq x x = some true
  compare_symm : ∀ x y, compare .eq x y = some true → compare .eq y x = some true
  compare_trans : ∀ x y z,
    compare .eq x y = some true → compare .eq y z = some true → compare .eq x z = some true
  compare_integers : ∀ m n, compare .eq (.integer m) (.integer n) = some (decide (m = n))
  plus_integers : ∀ m n, arithmetic .plus (.integer m) (.integer n) = .integer (m + n)
  minus_integers : ∀ m n, arithmetic .minus (.integer m) (.integer n) = .integer (m - n)

namespace Engine

variable (engine : Engine)

def comparison (operator : Operator) (x y : Value) : Truth :=
  if x = .null ∨ y = .null then none else engine.compare operator x y

def pattern (caseless : Bool) (x y : Value) : Truth :=
  if x = .null ∨ y = .null then none else engine.resembles caseless x y

def computed (operator : Operator) (x y : Value) : Value :=
  if x = .null ∨ y = .null then .null else engine.arithmetic operator x y

def operate (operator : Operator) (x y : Value) : Value :=
  match operator with
  | .and => .ofTruth (conjoin x.truth y.truth)
  | .or => .ofTruth (disjoin x.truth y.truth)
  | .plus | .minus | .times | .over | .concat => engine.computed operator x y
  | .eq | .ne | .lt | .gt | .lte | .gte => .ofTruth (engine.comparison operator x y)

def equal (x y : Value) : Bool := engine.comparison .eq x y == some true

-- Grouping puts missing values together, which equality does not.
def same (x y : Value) : Bool := (x == .null && y == .null) || engine.equal x y

def amongTruth (x : Value) : List Value → Truth
  | [] => some false
  | choice :: rest => disjoin (engine.comparison .eq x choice) (amongTruth x rest)

def firstGiven : List Value → Value
  | [] => .null
  | x :: rest => if x = .null then firstGiven rest else x

def nullIf (x absent : Value) : Value := if engine.equal x absent then .null else x

def applied (function : String) (arguments : List Value) : Value :=
  if function = "COALESCE" then firstGiven arguments
  else if function = "NULLIF" then engine.nullIf (arguments.getD 0 .null) (arguments.getD 1 .null)
  else engine.call function arguments

def counted (distinct : Bool) (values : List Value) : List Value :=
  let given := values.filter fun x => x ≠ .null
  if distinct then given.pwFilter fun x y => engine.equal x y = false else given

def aggregated (function : String) (distinct : Bool) (values : List Value) : Value :=
  if function = "COUNT" then .integer (engine.counted distinct values).length
  else engine.aggregate function (engine.counted distinct values)

end Engine

theorem conjoin_true (a b : Truth) :
    conjoin a b = some true ↔ a = some true ∧ b = some true := by
  rcases a with _ | _ | _ <;> rcases b with _ | _ | _ <;> simp [conjoin]

theorem disjoin_true (a b : Truth) :
    disjoin a b = some true ↔ a = some true ∨ b = some true := by
  rcases a with _ | _ | _ <;> rcases b with _ | _ | _ <;> simp [disjoin]

@[simp] theorem truth_of_truth (t : Truth) : (Value.ofTruth t).truth = t := by
  rcases t with _ | _ <;> rfl

@[simp] theorem truth_bool (b : Bool) : (Value.bool b).truth = some b := rfl

namespace Engine

variable (engine : Engine)

@[simp] theorem comparison_null_left (operator : Operator) (y : Value) :
    engine.comparison operator .null y = none := by
  simp [comparison]

@[simp] theorem comparison_null_right (operator : Operator) (x : Value) :
    engine.comparison operator x .null = none := by
  simp [comparison]

theorem equal_true (x y : Value) :
    engine.equal x y = true ↔ x ≠ .null ∧ y ≠ .null ∧ engine.compare .eq x y = some true := by
  unfold equal comparison
  by_cases missing : x = .null ∨ y = .null
  · rw [if_pos missing]
    constructor
    · intro equal
      simp at equal
    · rintro ⟨left, right, _⟩
      exact (missing.elim left right).elim
  · rw [if_neg missing, beq_iff_eq]
    exact ⟨fun equal => ⟨fun left => missing (.inl left), fun right => missing (.inr right), equal⟩,
      fun equal => equal.2.2⟩

theorem equal_refl (x : Value) (given : x ≠ .null) : engine.equal x x = true :=
  (engine.equal_true x x).mpr ⟨given, given, engine.compare_refl x given⟩

theorem equal_symm (x y : Value) (equal : engine.equal x y = true) : engine.equal y x = true := by
  obtain ⟨left, right, compared⟩ := (engine.equal_true x y).mp equal
  exact (engine.equal_true y x).mpr ⟨right, left, engine.compare_symm x y compared⟩

theorem equal_trans (x y z : Value) (first : engine.equal x y = true)
    (second : engine.equal y z = true) : engine.equal x z = true := by
  obtain ⟨left, _, compared⟩ := (engine.equal_true x y).mp first
  obtain ⟨_, right, further⟩ := (engine.equal_true y z).mp second
  exact (engine.equal_true x z).mpr ⟨left, right, engine.compare_trans x y z compared further⟩

theorem equal_given (x y : Value) (equal : engine.equal x y = true) : x ≠ .null ∧ y ≠ .null :=
  ⟨((engine.equal_true x y).mp equal).1, ((engine.equal_true x y).mp equal).2.1⟩

theorem equal_integers (m n : Int) :
    engine.equal (.integer m) (.integer n) = true ↔ m = n := by
  simp [equal, comparison, engine.compare_integers]

theorem same_of_given (x y : Value) (given : x ≠ .null) : engine.same x y = engine.equal x y := by
  simp [same, given]

end Engine

end StatTable.Sql
