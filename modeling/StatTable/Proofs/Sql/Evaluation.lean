import Mathlib.Logic.Function.Basic
import StatTable.Proofs.Sql.Engine

set_option autoImplicit false

namespace StatTable.Sql

abbrev Row := String → Value

def Row.missing : Row := fun _ => .null

abbrev Scope := String → Row

namespace Scope

def empty : Scope := fun _ => Row.missing

def extend (scope : Scope) (table : String) (row : Row) : Scope := Function.update scope table row

def single (table : String) (row : Row) : Scope := empty.extend table row

@[simp] theorem extend_self (scope : Scope) (table : String) (row : Row) :
    scope.extend table row table = row := by
  simp [extend]

theorem extend_other (scope : Scope) (table other : String) (row : Row) (different : other ≠ table) :
    scope.extend table row other = scope other := by
  simp [extend, different]

@[simp] theorem single_self (table : String) (row : Row) : single table row table = row :=
  extend_self empty table row

end Scope

mutual

-- The tables that a star or a bare column ranges over are not looked into; plans name the table of
-- every column. A star counts as a value that is present.
def Expr.value (engine : Engine) (group : List Scope) : Expr → Value
  | .column (some table) name => (group.headD Scope.empty) table name
  | .column none _ => .null
  | .literal literal => literal.value
  | .binary operator left right =>
      engine.operate operator (left.value engine group) (right.value engine group)
  | .call function distinct arguments =>
      if aggregateFunctions.contains function then
        engine.aggregated function distinct
          (group.map fun scope => (valuesOfEach engine [scope] arguments).headD .null)
      else engine.applied function (valuesOfEach engine group arguments)
  | .among negated value choices =>
      let among := engine.amongTruth (value.value engine group) (valuesOfEach engine group choices)
      .ofTruth (if negated then among.map not else among)
  | .between negated value low high =>
      let within := conjoin
        (engine.comparison .gte (value.value engine group) (low.value engine group))
        (engine.comparison .lte (value.value engine group) (high.value engine group))
      .ofTruth (if negated then within.map not else within)
  | .isNull negated value => .bool ((value.value engine group == .null) != negated)
  | .like negated caseless value pattern =>
      let alike := engine.pattern caseless (value.value engine group) (pattern.value engine group)
      .ofTruth (if negated then alike.map not else alike)
  | .star _ => .bool true
  | .paren inner => inner.value engine group

def valuesOfEach (engine : Engine) (group : List Scope) : List Expr → List Value
  | [] => []
  | expr :: rest => expr.value engine group :: valuesOfEach engine group rest

end

def Expr.holds (engine : Engine) (group : List Scope) (condition : Expr) : Bool :=
  (condition.value engine group).isTrue

theorem values_of_each (engine : Engine) (group : List Scope) (exprs : List Expr) :
    valuesOfEach engine group exprs = exprs.map fun expr => expr.value engine group := by
  induction exprs with
  | nil => rfl
  | cons expr rest ih => exact congrArg (expr.value engine group :: ·) ih

namespace Expr

variable (engine : Engine) (group : List Scope)

@[simp] theorem field_value (table name : String) :
    (field table name).value engine group = (group.headD Scope.empty) table name := rfl

@[simp] theorem literal_value (literal : Literal) :
    (Expr.literal literal).value engine group = literal.value := rfl

theorem binary_value (operator : Operator) (left right : Expr) :
    (binary operator left right).value engine group =
      engine.operate operator (left.value engine group) (right.value engine group) := rfl

theorem applied_value (function : String) (distinct : Bool) (arguments : List Expr)
    (single : aggregateFunctions.contains function = false) :
    (call function distinct arguments).value engine group =
      engine.applied function (arguments.map fun argument => argument.value engine group) := by
  rw [← values_of_each]
  exact if_neg (single ▸ Bool.false_ne_true)

theorem holds_of_truth (condition : Expr) (truth : Truth)
    (evaluated : condition.value engine group = .ofTruth truth) :
    condition.holds engine group = true ↔ truth = some true := by
  simp [holds, evaluated, Value.isTrue]

@[simp] theorem eq_holds (left right : Expr) : (eq left right).holds engine group =
    engine.equal (left.value engine group) (right.value engine group) := by
  simp [eq, holds, binary_value, Engine.operate, Value.isTrue, Engine.equal]

@[simp] theorem and_holds (left right : Expr) : (and left right).holds engine group = true ↔
    left.holds engine group = true ∧ right.holds engine group = true := by
  simp [and, holds, binary_value, Engine.operate, Value.isTrue, conjoin_true]

theorem fold_and_holds (first : Expr) (rest : List Expr) :
    (rest.foldl and first).holds engine group = true ↔
      first.holds engine group = true ∧ ∀ condition ∈ rest, condition.holds engine group = true := by
  induction rest generalizing first with
  | nil => simp
  | cons condition rest ih =>
      rw [List.foldl_cons, ih, and_holds, List.forall_mem_cons, and_assoc]

theorem conjunction_holds (conditions : List Expr) (joined : Expr)
    (conjoined : conjunction conditions = some joined) :
    joined.holds engine group = true ↔
      ∀ condition ∈ conditions, condition.holds engine group = true := by
  cases conditions with
  | nil => simp [conjunction] at conjoined
  | cons first rest =>
      rw [← Option.some.inj conjoined, fold_and_holds, List.forall_mem_cons]

@[simp] theorem coalesce_value (choices : List Expr) : (coalesce choices).value engine group =
    Engine.firstGiven (choices.map fun choice => choice.value engine group) := by
  rw [coalesce, function, applied_value _ _ _ _ _ (by decide), Engine.applied, if_pos rfl]

@[simp] theorem null_if_value (value absent : Expr) : (nullIf value absent).value engine group =
    engine.nullIf (value.value engine group) (absent.value engine group) := by
  rw [nullIf, function, applied_value _ _ _ _ _ (by decide), Engine.applied, if_neg (by decide),
    if_pos rfl]
  rfl

end Expr

end StatTable.Sql
