import StatTable.Proofs.Sql.Rows

set_option autoImplicit false

namespace StatTable.Sql

mutual

-- Whether every column that an expression reads stands inside the call of an aggregate function, and
-- no such call inside another.
def Expr.isEnclosed : Expr → Bool
  | .call function _ arguments =>
      if aggregateFunctions.contains function.toUpper then !anyAggregate arguments
      else allEnclosed arguments
  | .binary _ left right => left.isEnclosed && right.isEnclosed
  | .among _ value choices => value.isEnclosed && allEnclosed choices
  | .between _ value low high => value.isEnclosed && low.isEnclosed && high.isEnclosed
  | .isNull _ value => value.isEnclosed
  | .like _ _ value pattern => value.isEnclosed && pattern.isEnclosed
  | .paren inner => inner.isEnclosed
  | .literal _ => true
  | .column .. | .star _ => false

def allEnclosed : List Expr → Bool
  | [] => true
  | expr :: rest => expr.isEnclosed && allEnclosed rest

end

-- How a query groups its rows, as the standard asks.
structure Query.WellGrouped (query : Query) : Prop where
  keys : query.groupBy = (query.selections.map (·.expr)).filter (!·.isAggregate)
  enclosed : ∀ selection ∈ query.selections, selection.expr.isAggregate = true →
    selection.expr.isEnclosed = true
  having : ∀ condition, query.having = some condition → condition.isEnclosed = true
  rows : ∀ condition, query.filter = some condition → condition.isAggregate = false
  joins : ∀ join ∈ query.joins, join.on.isAggregate = false
  names : (query.selections.map (·.outputName)).Nodup

@[simp] theorem any_aggregate_nil : anyAggregate [] = false := rfl

@[simp] theorem all_enclosed_nil : allEnclosed [] = true := rfl

@[simp] theorem any_aggregate_cons (expr : Expr) (rest : List Expr) :
    anyAggregate (expr :: rest) = (expr.isAggregate || anyAggregate rest) := rfl

@[simp] theorem all_enclosed_cons (expr : Expr) (rest : List Expr) :
    allEnclosed (expr :: rest) = (expr.isEnclosed && allEnclosed rest) := rfl

theorem any_aggregate_iff (exprs : List Expr) :
    anyAggregate exprs = false ↔ ∀ expr ∈ exprs, expr.isAggregate = false := by
  induction exprs with
  | nil => simp
  | cons expr rest ih => rw [any_aggregate_cons, Bool.or_eq_false_iff, ih, List.forall_mem_cons]

theorem all_enclosed_iff (exprs : List Expr) :
    allEnclosed exprs = true ↔ ∀ expr ∈ exprs, expr.isEnclosed = true := by
  induction exprs with
  | nil => simp
  | cons expr rest ih => rw [all_enclosed_cons, Bool.and_eq_true, ih, List.forall_mem_cons]

namespace Expr

@[simp] theorem field_plain (table name : String) : (field table name).isAggregate = false :=
  rfl

@[simp] theorem literal_plain (value : Literal) : (literal value).isAggregate = false := rfl

@[simp] theorem literal_enclosed (value : Literal) : (literal value).isEnclosed = true := rfl

@[simp] theorem binary_aggregate (operator : Operator) (left right : Expr) :
    (binary operator left right).isAggregate = (left.isAggregate || right.isAggregate) := rfl

@[simp] theorem binary_enclosed (operator : Operator) (left right : Expr) :
    (binary operator left right).isEnclosed = (left.isEnclosed && right.isEnclosed) := rfl

@[simp] theorem among_aggregate (negated : Bool) (value : Expr) (choices : List Expr) :
    (among negated value choices).isAggregate = (value.isAggregate || anyAggregate choices) := rfl

@[simp] theorem among_enclosed (negated : Bool) (value : Expr) (choices : List Expr) :
    (among negated value choices).isEnclosed = (value.isEnclosed && allEnclosed choices) := rfl

@[simp] theorem between_aggregate (negated : Bool) (value low high : Expr) :
    (between negated value low high).isAggregate =
      (value.isAggregate || low.isAggregate || high.isAggregate) := rfl

@[simp] theorem is_null_aggregate (negated : Bool) (value : Expr) :
    (isNull negated value).isAggregate = value.isAggregate := rfl

@[simp] theorem is_null_enclosed (negated : Bool) (value : Expr) :
    (isNull negated value).isEnclosed = value.isEnclosed := rfl

@[simp] theorem like_aggregate (negated caseless : Bool) (value pattern : Expr) :
    (like negated caseless value pattern).isAggregate =
      (value.isAggregate || pattern.isAggregate) := rfl

@[simp] theorem like_enclosed (negated caseless : Bool) (value pattern : Expr) :
    (like negated caseless value pattern).isEnclosed =
      (value.isEnclosed && pattern.isEnclosed) := rfl

@[simp] theorem eq_aggregate (left right : Expr) :
    (eq left right).isAggregate = (left.isAggregate || right.isAggregate) := rfl

@[simp] theorem and_aggregate (left right : Expr) :
    (and left right).isAggregate = (left.isAggregate || right.isAggregate) := rfl

@[simp] theorem and_enclosed (left right : Expr) :
    (and left right).isEnclosed = (left.isEnclosed && right.isEnclosed) := rfl

@[simp] theorem call_aggregate (function : String) (distinct : Bool) (arguments : List Expr) :
    (call function distinct arguments).isAggregate =
      (aggregateFunctions.contains function.toUpper || anyAggregate arguments) := rfl

@[simp] theorem call_enclosed (function : String) (distinct : Bool) (arguments : List Expr) :
    (call function distinct arguments).isEnclosed =
      if aggregateFunctions.contains function.toUpper then !anyAggregate arguments
      else allEnclosed arguments := rfl

theorem coalesce_plain (choices : List Expr) (plain : ∀ choice ∈ choices, choice.isAggregate = false) :
    (coalesce choices).isAggregate = false := by
  rw [coalesce, function, call_aggregate, (any_aggregate_iff choices).mpr plain, Bool.or_false]
  decide +kernel

theorem null_if_aggregate (value absent : Expr) :
    (nullIf value absent).isAggregate = (value.isAggregate || absent.isAggregate) := by
  have other : aggregateFunctions.contains "NULLIF".toUpper = false := by decide +kernel
  rw [nullIf, function, call_aggregate, other, Bool.false_or, any_aggregate_cons, any_aggregate_cons,
    any_aggregate_nil, Bool.or_false]

theorem null_if_enclosed (value absent : Expr) :
    (nullIf value absent).isEnclosed = (value.isEnclosed && absent.isEnclosed) := by
  have other : aggregateFunctions.contains "NULLIF".toUpper = false := by decide +kernel
  rw [nullIf, function, call_enclosed, other, if_neg Bool.false_ne_true, all_enclosed_cons,
    all_enclosed_cons, all_enclosed_nil, Bool.and_true]

theorem aggregate_of_plain (function : String) (distinct : Bool) (argument : Expr)
    (aggregates : aggregateFunctions.contains function.toUpper = true)
    (plain : argument.isAggregate = false) :
    (call function distinct [argument]).isAggregate = true ∧
      (call function distinct [argument]).isEnclosed = true := by
  rw [call_aggregate, call_enclosed, aggregates, Bool.true_or, if_pos rfl, any_aggregate_cons, plain,
    any_aggregate_nil]
  exact ⟨rfl, rfl⟩

theorem fold_and_plain (first : Expr) (rest : List Expr) :
    (rest.foldl and first).isAggregate = false ↔
      first.isAggregate = false ∧ ∀ condition ∈ rest, condition.isAggregate = false := by
  induction rest generalizing first with
  | nil => simp
  | cons condition rest ih =>
      rw [List.foldl_cons, ih, and_aggregate, Bool.or_eq_false_iff, List.forall_mem_cons, and_assoc]

theorem fold_and_enclosed (first : Expr) (rest : List Expr) :
    (rest.foldl and first).isEnclosed = true ↔
      first.isEnclosed = true ∧ ∀ condition ∈ rest, condition.isEnclosed = true := by
  induction rest generalizing first with
  | nil => simp
  | cons condition rest ih =>
      rw [List.foldl_cons, ih, and_enclosed, Bool.and_eq_true, List.forall_mem_cons, and_assoc]

theorem conjunction_plain (conditions : List Expr) (joined : Expr)
    (conjoined : conjunction conditions = some joined) :
    joined.isAggregate = false ↔ ∀ condition ∈ conditions, condition.isAggregate = false := by
  cases conditions with
  | nil => simp [conjunction] at conjoined
  | cons first rest => rw [← Option.some.inj conjoined, fold_and_plain, List.forall_mem_cons]

theorem conjunction_enclosed (conditions : List Expr) (joined : Expr)
    (conjoined : conjunction conditions = some joined) :
    joined.isEnclosed = true ↔ ∀ condition ∈ conditions, condition.isEnclosed = true := by
  cases conditions with
  | nil => simp [conjunction] at conjoined
  | cons first rest => rw [← Option.some.inj conjoined, fold_and_enclosed, List.forall_mem_cons]

end Expr

end StatTable.Sql
