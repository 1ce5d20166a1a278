import StatTable.Plan.Stage
import StatTable.Proofs.Joins.Matching
import StatTable.Proofs.Players.Reading

set_option autoImplicit false

namespace StatTable

open Sql

theorem among_true (engine : Engine) (x : Value) (choices : List Value) :
    engine.amongTruth x choices = some true ↔ ∃ choice ∈ choices, engine.equal x choice = true := by
  induction choices with
  | nil => simp [Engine.amongTruth]
  | cons choice rest ih =>
      rw [Engine.amongTruth, disjoin_true, ih, List.exists_mem_cons_iff]
      simp [Engine.equal]

theorem among_missing (engine : Engine) (choices : List Value) (some : choices ≠ []) :
    engine.amongTruth .null choices = none := by
  induction choices with
  | nil => exact absurd rfl some
  | cons choice rest ih =>
      rw [Engine.amongTruth, engine.comparison_null_left]
      by_cases last : rest = []
      · rw [last]
        rfl
      · rw [ih last]
        rfl

section

variable (engine : Engine) (group : List Scope)

@[simp] theorem scalar_value (scalar : Scalar) : scalar.toExpr.value engine group = scalar.value := by
  cases scalar <;> simp [Scalar.toExpr, Scalar.value, Literal.value]

theorem scalar_values (scalars : List Scalar) :
    valuesOfEach engine group (scalars.map Scalar.toExpr) = scalars.map Scalar.value := by
  rw [values_of_each, List.map_map]
  exact List.map_congr_left fun scalar _ => scalar_value engine group scalar

@[simp] theorem string_value (s : String) : (Expr.string s).value engine group = .text s := by
  rw [Expr.string, Expr.literal_value]
  rfl

theorem range_holds (column : Expr) (min max : Option Scalar) :
    ((ParamValue.range min max).condition column).holds engine group =
      (ParamValue.range min max).allows engine (column.value engine group) := by
  rw [Bool.eq_iff_iff]
  generalize value : column.value engine group = x
  by_cases missing : x = .null
  · cases min <;> cases max <;>
      simp [ParamValue.condition, ParamValue.allows, Expr.holds, Expr.value, Value.isTrue,
        Engine.operate, value, missing, conjoin]
  · cases min <;> cases max <;>
      simp [ParamValue.condition, ParamValue.allows, Expr.holds, Expr.value, Value.isTrue,
        Engine.operate, value, missing, conjoin_true]

theorem allows_holds (column : Expr) (allowed : ParamValue) :
    (allowed.condition column).holds engine group =
      allowed.allows engine (column.value engine group) := by
  cases allowed with
  | scalar s =>
      have compared := Expr.eq_holds engine group column s.toExpr
      rwa [scalar_value] at compared
  | list items =>
      rw [Bool.eq_iff_iff, ParamValue.condition, ParamValue.allows]
      rw [Expr.holds_of_truth engine group _ (engine.amongTruth (column.value engine group)
        (items.map Scalar.value)) (by simp [Expr.value, scalar_values]), among_true]
      simp
  | range min max => exact range_holds engine group column min max

theorem ratio_value (num den : Expr) : (ratioExpr num den).value engine group =
    engine.quotient (num.value engine group) (den.value engine group) := by
  simp [ratioExpr, Engine.quotient, Expr.value, Engine.operate, Expr.integer, Literal.value,
    show (Binary64.ofInt 1).isFinite = true from by decide +kernel]

theorem count_rows_value : Expr.countRows.value engine group = .integer group.length := by
  simp [Expr.countRows, Expr.function, Expr.value, valuesOfEach, Engine.aggregated, Engine.counted,
    aggregateFunctions]

end

section

variable (engine : Engine) (group : List Scope) (table : String)

theorem aggregate_call (function : String) (distinct : Bool) (argument : Expr)
    (known : aggregateFunctions.contains function = true) :
    (Expr.call function distinct [argument]).value engine group = engine.aggregated function distinct
      (group.map fun scope => argument.value engine [scope]) := by
  rw [Expr.value, if_pos known]
  simp [valuesOfEach]

theorem or_zero_value (scope : Scope) (column : String) :
    (Aggregate.orZero table column).value engine [scope] = Engine.orZero (scope table column) := by
  by_cases missing : scope table column = .null <;>
    simp [Aggregate.orZero, Engine.orZero, Engine.firstGiven, Expr.integer, Literal.value, missing]

theorem sum_of_value (scope : Scope) (rest : List String) (first : Expr) :
    (rest.foldl (fun total column => .binary .plus total (Aggregate.orZero table column))
      first).value engine [scope] =
    rest.foldl (fun total column => engine.computed .plus total
      (Engine.orZero (scope table column))) (first.value engine [scope]) := by
  induction rest generalizing first with
  | nil => rfl
  | cons column rest ih =>
      rw [List.foldl_cons, List.foldl_cons, ih, Expr.value, or_zero_value]
      rfl

theorem aggregate_value (aggregate : Aggregate) : (aggregate.expr table).value engine group =
    aggregate.amount engine (group.map (· table)) := by
  induction aggregate with
  | sum column =>
      rw [Aggregate.expr, Expr.sum, Expr.function, aggregate_call engine group _ _ _ (by decide),
        Aggregate.amount, List.map_map]
      exact congrArg _ (List.map_congr_left fun scope _ => Expr.field_value engine [scope] table column)
  | sumOf first rest =>
      rw [Aggregate.expr, Expr.sum, Expr.function, aggregate_call engine group _ _ _ (by decide),
        Aggregate.amount, List.map_map]
      refine congrArg _ (List.map_congr_left fun scope _ => ?_)
      rw [sum_of_value engine table scope, or_zero_value]
      rfl
  | count => rw [Aggregate.expr, count_rows_value, Aggregate.amount, List.length_map]
  | countDistinct column =>
      rw [Aggregate.expr, Expr.countDistinct, aggregate_call engine group _ _ _ (by decide),
        Aggregate.amount, List.map_map]
      exact congrArg _ (List.map_congr_left fun scope _ => Expr.field_value engine [scope] table column)
  | ratio num den numIh denIh =>
      rw [Aggregate.expr, ratio_value, numIh, denIh, Aggregate.amount]

theorem attribute_value (source : Attribute) (scope : Scope) :
    (source.expr table).value engine [scope] = source.value engine (scope table) := by
  have joined : ∀ (names : List String) (first : Expr), (names.foldl (fun joined name =>
      .binary .concat (.binary .concat joined (.string " ")) (.field table name)) first).value
        engine [scope] = names.foldl (fun joined name => engine.computed .concat
          (engine.computed .concat joined (.text " ")) (scope table name))
            (first.value engine [scope]) := by
    intro names
    induction names with
    | nil => exact fun first => rfl
    | cons name rest ih =>
        intro first
        rw [List.foldl_cons, List.foldl_cons, ih]
        simp [Expr.value, Engine.operate]
  rw [Attribute.expr, joined, Expr.field_value]
  rfl

end

section

variable (engine : Engine) (relation : Relation) (params : Params) (table : String) (scope : Scope)

theorem fits_holds :
    (∀ condition ∈ Plan.fixedConditions relation table ++ Plan.paramConditions relation params table,
      condition.holds engine [scope] = true) ↔ relation.fits engine params (scope table) = true := by
  rw [List.forall_mem_append, Relation.fits, Bool.and_eq_true, List.all_eq_true, List.all_eq_true]
  refine and_congr ?_ ?_
  · rw [Plan.fixedConditions, List.forall_mem_map]
    refine forall₂_congr fun fixed _ => ?_
    rw [Expr.eq_holds, Expr.field_value, scalar_value]
    rfl
  · constructor
    · intro hold entry member
      cases read : Plan.paramColumn? relation entry.1 with
      | none => rfl
      | some column =>
          have condition := hold (entry.2.condition (.field table column))
            (List.mem_filterMap.mpr ⟨entry, member, by rw [read]; rfl⟩)
          rwa [allows_holds, Expr.field_value] at condition
    · intro fits condition listed
      obtain ⟨entry, member, made⟩ := List.mem_filterMap.mp listed
      obtain ⟨column, read, rfl⟩ := Option.map_eq_some_iff.mp made
      have allowed := fits entry member
      rw [read] at allowed
      rw [allows_holds, Expr.field_value]
      exact allowed

end

end StatTable
