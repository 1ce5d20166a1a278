import StatTable.Catalog.Relation
import StatTable.TableState.Basic

set_option autoImplicit false

namespace StatTable.Plan

def operandExpr : Option Operand → Sql.Expr
  | some (.scalar s) => s.toExpr
  | some (.list (s :: _)) => s.toExpr
  | some (.list []) => .literal .null
  | none => .literal .null

def operandExprs : Option Operand → List Sql.Expr
  | some (.scalar s) => [s.toExpr]
  | some (.list items) => items.map Scalar.toExpr
  | none => []

-- The condition of a filter on a target. Patterns are matched without regard to case.
def filterCondition (target : Sql.Expr) (operator : FilterOperator) (operand : Option Operand) :
    Sql.Expr :=
  match operator with
  | .eq => .binary .eq target (operandExpr operand)
  | .ne => .binary .ne target (operandExpr operand)
  | .gt => .binary .gt target (operandExpr operand)
  | .gte => .binary .gte target (operandExpr operand)
  | .lt => .binary .lt target (operandExpr operand)
  | .lte => .binary .lte target (operandExpr operand)
  | .isIn => .among false target (operandExprs operand)
  | .notIn => .among true target (operandExprs operand)
  | .isNull => .isNull false target
  | .isNotNull => .isNull true target
  | .like => .like false true target (operandExpr operand)
  | .notLike => .like true true target (operandExpr operand)

def paramColumn? (relation : Relation) : ParamKey → Option String
  | .year => relation.yearColumn
  | .week => relation.weekColumn
  | .yearOffset | .rateType => none
  | key => (relation.params.find? (·.key == key)).map (·.column)

def paramConditions (relation : Relation) (params : Params) (table : String) : List Sql.Expr :=
  params.toList.filterMap fun entry =>
    (paramColumn? relation entry.1).map fun column => entry.2.condition (.field table column)

def fixedConditions (relation : Relation) (table : String) : List Sql.Expr :=
  relation.fixed.map fun fixed => .eq (.field table fixed.column) fixed.value.toExpr

end StatTable.Plan
