import StatTable.Proofs.Sql.Fields
import StatTable.Proofs.Sql.Rows

set_option autoImplicit false

namespace StatTable.Sql

def Row.narrow (seen : String → Bool) (row : Row) : Row :=
  fun column => if seen column then row column else .null

theorem of_cells_narrow (names more : List (Option String)) (cells others : List Value)
    (lengths : names.length = cells.length) :
    (Row.ofCells (names ++ more) (cells ++ others)).narrow (fun name => names.contains (some name)) =
      Row.ofCells names cells := by
  funext name
  rw [Row.narrow, Row.ofCells, Row.ofCells, List.zip_append lengths, List.lookup_append]
  cases found : (names.zip cells).lookup (some name) with
  | some cell =>
      have listed : names.contains (some name) = true := by
        obtain ⟨pair, member, same⟩ := List.lookup_isSome_iff.mp (Option.isSome_iff_exists.mpr ⟨_, found⟩)
        rw [List.contains_iff_mem, eq_of_beq same]
        exact (List.of_mem_zip member).1
      rw [if_pos listed]
      rfl
  | none =>
      have absent : ¬ names.contains (some name) = true := by
        intro listed
        obtain ⟨i, bound, held⟩ := List.mem_iff_getElem.mp (List.contains_iff_mem.mp listed)
        have paired := List.getElem_mem (l := names.zip cells) (n := i) (by
          rw [List.length_zip, ← lengths, Nat.min_self]
          exact bound)
        rw [List.getElem_zip, held] at paired
        have other := List.lookup_eq_none_iff.mp found _ paired
        rw [bne_self_eq_false] at other
        exact Bool.false_ne_true other
      rw [if_neg absent]
      rfl

namespace Scope

def narrow (seen : String → String → Bool) (scope : Scope) : Scope :=
  fun table => (scope table).narrow (seen table)

variable (seen : String → String → Bool)

theorem narrow_missing (table : String) : Row.missing.narrow (seen table) = Row.missing :=
  funext fun _ => ite_self _

theorem narrow_empty : empty.narrow seen = empty :=
  funext fun table => narrow_missing seen table

theorem narrow_extend (scope : Scope) (table : String) (row : Row) :
    (scope.extend table row).narrow seen =
      (scope.narrow seen).extend table (row.narrow (seen table)) := by
  funext other
  by_cases same : other = table
  · rw [same, narrow, extend_self, extend_self]
  · rw [narrow, extend_other _ _ _ _ same, extend_other _ _ _ _ same, narrow]

end Scope

def Expr.Sees (seen : String → String → Bool) (expr : Expr) : Prop :=
  ∀ field ∈ expr.fields, seen field.1 field.2 = true

section

variable (engine : Engine) (seen : String → String → Bool)

mutual

theorem value_narrow (group : List Scope) (expr : Expr) (sees : expr.Sees seen) :
    expr.value engine (group.map (Scope.narrow seen)) = expr.value engine group := by
  rw [Expr.Sees] at sees
  cases expr with
  | column table name =>
      cases table with
      | none => simp only [Expr.value]
      | some table =>
          have own : seen table name = true := sees (table, name) (by simp [Expr.fields])
          have first : (group.map (Scope.narrow seen)).headD Scope.empty =
              (group.headD Scope.empty).narrow seen := by
            cases group with
            | nil => exact (Scope.narrow_empty seen).symm
            | cons scope rest => rfl
          rw [Expr.value, Expr.value, first, Scope.narrow, Row.narrow, if_pos own]
  | literal => simp only [Expr.value]
  | star => simp only [Expr.value]
  | binary operator left right =>
      simp only [Expr.fields, List.forall_mem_append] at sees
      simp only [Expr.value, value_narrow group left sees.1, value_narrow group right sees.2]
  | call function distinct arguments =>
      simp only [Expr.fields] at sees
      have single : ∀ scope, valuesOfEach engine [scope.narrow seen] arguments =
          valuesOfEach engine [scope] arguments := fun scope =>
        values_narrow [scope] arguments sees
      simp only [Expr.value, List.map_map, Function.comp_def, single,
        values_narrow group arguments sees]
  | among negated value choices =>
      simp only [Expr.fields, List.forall_mem_append] at sees
      simp only [Expr.value, value_narrow group value sees.1, values_narrow group choices sees.2]
  | between negated value low high =>
      simp only [Expr.fields, List.forall_mem_append] at sees
      simp only [Expr.value, value_narrow group value sees.1.1, value_narrow group low sees.1.2,
        value_narrow group high sees.2]
  | isNull negated value =>
      simp only [Expr.fields] at sees
      simp only [Expr.value, value_narrow group value sees]
  | like negated caseless value pattern =>
      simp only [Expr.fields, List.forall_mem_append] at sees
      simp only [Expr.value, value_narrow group value sees.1, value_narrow group pattern sees.2]
  | paren inner =>
      simp only [Expr.fields] at sees
      simp only [Expr.value, value_narrow group inner sees]

theorem values_narrow (group : List Scope) (exprs : List Expr)
    (sees : ∀ field ∈ fieldsOfEach exprs, seen field.1 field.2 = true) :
    valuesOfEach engine (group.map (Scope.narrow seen)) exprs = valuesOfEach engine group exprs := by
  cases exprs with
  | nil => simp only [valuesOfEach]
  | cons expr rest =>
      simp only [fieldsOfEach, List.forall_mem_append] at sees
      simp only [valuesOfEach, value_narrow group expr sees.1, values_narrow group rest sees.2]

end

theorem holds_narrow (scope : Scope) (condition : Expr) (sees : condition.Sees seen) :
    condition.holds engine [scope.narrow seen] = condition.holds engine [scope] :=
  congrArg Value.isTrue (value_narrow engine seen [scope] condition sees)

namespace Query

variable (query : Query) (keys : ∀ key ∈ query.groupBy, key.Sees seen)

include keys

theorem alike_narrow (one other : Scope) :
    query.alike engine (one.narrow seen) (other.narrow seen) = query.alike engine one other := by
  rw [alike, alike, Bool.eq_iff_iff, List.all_eq_true, List.all_eq_true]
  refine forall₂_congr fun key listed => ?_
  have first := value_narrow engine seen [one] key (keys key listed)
  have second := value_narrow engine seen [other] key (keys key listed)
  rw [← first, ← second]
  rfl

theorem groups_narrow (scopes : List Scope) :
    query.groups engine (scopes.map (Scope.narrow seen)) =
      (query.groups engine scopes).map (List.map (Scope.narrow seen)) := by
  have alike := alike_narrow engine seen query keys
  rw [groups, groups]
  by_cases keyless : query.groupBy.isEmpty = true
  · rw [if_pos keyless, if_pos keyless]
    by_cases aggregated : query.isAggregated = true
    · rw [if_pos aggregated, if_pos aggregated, List.map_singleton]
    · rw [if_neg aggregated, if_neg aggregated, List.map_map, List.map_map]
      rfl
  · rw [if_neg keyless, if_neg keyless, List.pwFilter_map, List.map_map, List.map_map]
    simp only [alike]
    refine List.map_congr_left fun head _ => ?_
    rw [Function.comp_apply, Function.comp_apply, List.filter_map]
    exact congrArg _ (List.filter_congr fun scope _ => alike head scope)

end Query

-- Two queries that make the same of each group of rows, of which one joins rows of which the other
-- joins no more than the columns that are seen.
theorem body_rows_narrow (query other : Query) (tables others : Tables)
    (selections : query.selections = other.selections) (groupBy : query.groupBy = other.groupBy)
    (ungrouped : query.having = none ∧ other.having = none)
    (keys : ∀ key ∈ other.groupBy, key.Sees seen)
    (values : ∀ selection ∈ other.selections, selection.expr.Sees seen)
    (scopes : query.scopes engine tables = (other.scopes engine others).map (Scope.narrow seen)) :
    query.bodyRows engine tables = other.bodyRows engine others := by
  have alike : query.alike engine = other.alike engine := by
    funext one second
    rw [Query.alike, Query.alike, groupBy]
  have groups (rows : List Scope) : query.groups engine rows = other.groups engine rows := by
    rw [Query.groups, Query.groups, Query.isAggregated, Query.isAggregated, selections,
      ungrouped.1, ungrouped.2, groupBy, alike]
  rw [Query.bodyRows, Query.bodyRows, ungrouped.1, ungrouped.2, groups, scopes,
    Query.groups_narrow engine seen other keys, selections]
  simp only [satisfies, Option.all_none, List.filter_true, List.map_map]
  refine List.map_congr_left fun group _ => ?_
  rw [Function.comp_apply]
  exact List.map_congr_left fun selection listed =>
    value_narrow engine seen group selection.expr (values selection listed)

end

end StatTable.Sql
