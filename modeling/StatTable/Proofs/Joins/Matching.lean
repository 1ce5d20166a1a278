import StatTable.Proofs.Joins.Reads
import StatTable.Proofs.Sql.Fields
import StatTable.Proofs.Sql.Rows

set_option autoImplicit false

namespace StatTable.Plan

open Sql

-- Aliases start with a letter of their own, so no table that is read as it is has one.
theorem alias_ne (key : GroupKey) (table : String) (other : table.toList.head? ≠ some 't') :
    key.aliasName ≠ table := by
  rintro rfl
  simp [GroupKey.aliasName] at other

theorem scalar_fields (scalar : Scalar) : scalar.toExpr.fields = [] := by
  cases scalar <;> simp [Scalar.toExpr]

theorem scalars_fields (scalars : List Scalar) : fieldsOfEach (scalars.map Scalar.toExpr) = [] := by
  induction scalars with
  | nil => rfl
  | cons scalar rest ih => rw [List.map_cons, fieldsOfEach, ih, scalar_fields, List.append_nil]

theorem param_condition_fields (value : ParamValue) (column : Expr) :
    (value.condition column).fields = column.fields := by
  cases value with
  | scalar s => simp [ParamValue.condition, Expr.fields, scalar_fields]
  | list items => simp [ParamValue.condition, Expr.fields, scalars_fields]
  | range min max =>
      cases min <;> cases max <;> simp [ParamValue.condition, Expr.fields, scalar_fields]

theorem param_conditions_within (relation : Relation) (params : Params) (table : String) :
    ∀ condition ∈ paramConditions relation params table, condition.Within (· = table) := by
  intro condition member field read
  obtain ⟨entry, _, made⟩ := List.mem_filterMap.mp member
  obtain ⟨column, _, rfl⟩ := Option.map_eq_some_iff.mp made
  rw [param_condition_fields, Expr.fields_field, List.mem_singleton] at read
  rw [read]

theorem fixed_conditions_within (relation : Relation) (table : String) :
    ∀ condition ∈ fixedConditions relation table, condition.Within (· = table) := by
  intro condition member field read
  obtain ⟨fixed, _, rfl⟩ := List.mem_map.mp member
  rw [Expr.fields_eq, Expr.fields_field, scalar_fields, List.append_nil, List.mem_singleton] at read
  rw [read]

theorem source_conditions_within (group : Group) :
    ∀ condition ∈ sourceConditions group, condition.Within (· = group.aliasName) := by
  intro condition member
  unfold sourceConditions at member
  cases source : group.source with
  | fact relation => simp [source] at member
  | denominator rate numerator => simp [source] at member
  | direct relation marketType =>
      simp only [source, directConditions, List.mem_append] at member
      rcases member with (param | fixed) | market
      · exact param_conditions_within relation _ _ condition param
      · exact fixed_conditions_within relation _ condition fixed
      · obtain ⟨type, _, rfl⟩ := List.mem_map.mp market
        intro field read
        rw [Expr.fields_eq, Expr.fields_field, Expr.string, Expr.fields_literal, List.append_nil,
          List.mem_singleton] at read
        rw [read]

theorem entity_within (group : Group) : (entityExpr group).Within (· = group.aliasName) := by
  intro field read
  unfold entityExpr at read
  cases source : group.source <;> simp only [source, Expr.fields_field, List.mem_singleton] at read <;>
    rw [read]

theorem join_table_name (group : Group) : (joinTable group).scopeName = group.aliasName := by
  unfold joinTable
  cases group.source <;> rfl

def ownConditions (group : Group) : List Expr :=
  .eq (entityExpr group) playerKeyExpr :: sourceConditions group

theorem own_conditions_within (group : Group) : ∀ condition ∈ ownConditions group,
    condition.Within fun table => table = Catalog.playerTable ∨ table = group.aliasName := by
  intro condition member field read
  rcases List.mem_cons.mp member with rfl | source
  · rw [Expr.fields_eq, playerKeyExpr, Expr.fields_field, List.mem_append, List.mem_singleton] at read
    rcases read with own | rfl
    · exact .inr (entity_within group field own)
    · exact .inl rfl
  · exact .inr (source_conditions_within group condition source field read)

section

variable (engine : Engine) (tables : Tables) (player : Row)

def Group.offers (group : Group) (row : Row) : Bool :=
  (ownConditions group).all fun condition =>
    condition.holds engine [(Scope.single Catalog.playerTable player).extend group.aliasName row]

def Group.offered (group : Group) : List Row :=
  (tables (joinTable group).table).filter (group.offers engine player)

-- Whether a row of a group is tied to the groups before it.
def tied (ordered : List Group) (chain : SplitChain) (group : Group) (scope : Scope) (row : Row) :
    Bool :=
  (tieConditions ordered chain group).all fun condition =>
    condition.holds engine [scope.extend group.aliasName row]

theorem offers_in (group : Group) (scope : Scope) (row : Row)
    (own : scope Catalog.playerTable = player) (apart : group.aliasName ≠ Catalog.playerTable) :
    group.offers engine player row = (ownConditions group).all fun condition =>
      condition.holds engine [scope.extend group.aliasName row] := by
  unfold Group.offers
  refine Bool.eq_iff_iff.mpr ?_
  simp only [List.all_eq_true]
  refine forall₂_congr fun condition member => ?_
  rw [holds_congr engine _ (scope.extend group.aliasName row) condition]
  intro field read
  rcases own_conditions_within group condition member field read with table | table
  · rw [table, Scope.extend_other _ _ _ _ apart.symm, Scope.extend_other _ _ _ _ apart.symm, own,
      Scope.single_self]
  · rw [table, Scope.extend_self, Scope.extend_self]

theorem matching_eq (ordered : List Group) (chain : SplitChain) (group : Group) (scope : Scope)
    (own : scope Catalog.playerTable = player) (apart : group.aliasName ≠ Catalog.playerTable) :
    (planJoin ordered chain group).join.matching engine tables scope =
      ((group.offered engine tables player).filter (tied engine ordered chain group scope)).map
        (scope.extend group.aliasName) := by
  unfold Join.matching Group.offered
  rw [planJoin, join_table_name, List.filter_map, List.filter_filter]
  refine congrArg _ (List.filter_congr fun row _ => ?_)
  rw [offers_in engine player group scope row own apart, tied, Function.comp_apply,
    Bool.eq_iff_iff, Bool.and_eq_true, List.all_eq_true, List.all_eq_true]
  obtain ⟨joined, conjoined⟩ : ∃ joined,
      Expr.conjunction (joinConditions ordered chain group) = some joined := ⟨_, rfl⟩
  rw [conjoined, Option.getD_some, Expr.conjunction_holds _ _ _ _ conjoined, joinConditions,
    ← List.cons_append, List.forall_mem_append, and_comm]
  rfl

end

end StatTable.Plan
