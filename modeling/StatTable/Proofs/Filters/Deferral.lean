import StatTable.Proofs.Filters.Decisions
import StatTable.Proofs.Sql.Keyed
import StatTable.Proofs.Sql.Outer

set_option autoImplicit false

namespace StatTable

open Sql

namespace Plan

-- A filter that a stage decides, as one that is decided late: the column of the stage that it reads,
-- and its condition on the column.
structure Deferral where
  aliasName : String
  column : Selection
  condition : Expr

def BoundFilter.deferral? (bound : BoundFilter) : Option Deferral :=
  match bound.binding with
  | .fact target relation id aggregate =>
      if bound.isEarly then
        some ⟨target.aliasName, ⟨aggregate.expr relation.table, some id⟩,
          filterCondition (.field target.aliasName id) bound.filter.operator bound.filter.operand⟩
      else none
  | _ => none

def Bindings.deferrals (bindings : Bindings) : List Deferral :=
  bindings.filters.filterMap (·.deferral?)

namespace Stage

def addColumn (columns : List Selection) (column : Selection) : List Selection :=
  if columns.any (·.aliasName == column.aliasName) then columns else columns ++ [column]

def deferred (deferrals : List Deferral) (stage : Stage) : Stage :=
  { stage with
    aggregates := ((deferrals.filter (·.aliasName == stage.name)).map (·.column)).foldl addColumn
      stage.aggregates
    having := [] }

end Stage

end Plan

-- The plan with every filter decided late.
def QueryPlan.deferred (deferrals : List Plan.Deferral) (plan : QueryPlan) : QueryPlan :=
  { plan with
    stages := plan.stages.map (Plan.Stage.deferred deferrals)
    joins := plan.joins.map fun planned => { planned with join := planned.join.outer }
    filters := plan.filters ++ deferrals.map (·.condition) }

namespace Plan

namespace Stage

theorem mem_add_column (columns : List Selection) (column held : Selection)
    (member : held ∈ addColumn columns column) : held ∈ columns ∨ held = column := by
  rw [addColumn] at member
  split at member
  · exact .inl member
  · exact (List.mem_append.mp member).imp_right List.mem_singleton.mp

theorem add_column_grows (columns : List Selection) (column : Selection) :
    ∃ more, addColumn columns column = columns ++ more := by
  rw [addColumn]
  split
  · exact ⟨[], (List.append_nil _).symm⟩
  · exact ⟨[column], rfl⟩

theorem add_columns_grow (added columns : List Selection) :
    ∃ more, added.foldl addColumn columns = columns ++ more := by
  induction added generalizing columns with
  | nil => exact ⟨[], (List.append_nil _).symm⟩
  | cons column rest ih =>
      obtain ⟨first, own⟩ := add_column_grows columns column
      obtain ⟨more, grown⟩ := ih (addColumn columns column)
      exact ⟨first ++ more, by rw [List.foldl_cons, grown, own, List.append_assoc]⟩

theorem mem_add_columns (added columns : List Selection) (held : Selection)
    (member : held ∈ added.foldl addColumn columns) : held ∈ columns ∨ held ∈ added := by
  induction added generalizing columns with
  | nil => exact .inl member
  | cons column rest ih =>
      rcases ih _ member with before | later
      · rcases mem_add_column columns column held before with old | rfl
        · exact .inl old
        · exact .inr List.mem_cons_self
      · exact .inr (List.mem_cons_of_mem _ later)

theorem added_column (added columns : List Selection) (column : Selection) (member : column ∈ added)
    (agree : ∀ one ∈ columns ++ added, one.aliasName = column.aliasName → one = column) :
    column ∈ added.foldl addColumn columns := by
  induction added generalizing columns with
  | nil => exact absurd member List.not_mem_nil
  | cons first rest ih =>
      by_cases here : column = first
      · subst here
        have placed : column ∈ addColumn columns column := by
          rw [addColumn]
          split
          · rename_i taken
            obtain ⟨held, listed, same⟩ := List.any_eq_true.mp taken
            rwa [agree held (List.mem_append_left _ listed) (eq_of_beq same)] at listed
          · exact List.mem_append_right _ (List.mem_singleton.mpr rfl)
        obtain ⟨more, grown⟩ := add_columns_grow rest (addColumn columns column)
        rw [List.foldl_cons, grown]
        exact List.mem_append_left _ placed
      · refine ih _ ((List.mem_cons.mp member).resolve_left here) fun one listed same => ?_
        refine agree one ?_ same
        rcases List.mem_append.mp listed with before | later
        · rcases mem_add_column columns first one before with old | rfl
          · exact List.mem_append_left _ old
          · exact List.mem_append_right _ List.mem_cons_self
        · exact List.mem_append_right _ (List.mem_cons_of_mem _ later)

section

variable (engine : Engine) (database : Tables) (deferrals : List Deferral) (stage : Stage)

theorem deferred_row (group : List Scope) :
    ((stage.deferred deferrals).query.rowOf engine group).narrow
      (fun name => stage.shown.contains (some name)) = stage.query.rowOf engine group := by
  obtain ⟨more, grown⟩ := add_columns_grow
    ((deferrals.filter (·.aliasName == stage.name)).map (·.column)) stage.aggregates
  have selections : (stage.deferred deferrals).query.selections =
      stage.query.selections ++ more := by
    rw [query, query, List.append_assoc, ← grown]
    rfl
  rw [Query.rowOf, Query.rowOf, selections, List.map_append, List.map_append]
  have lengths : (stage.query.selections.map (·.outputName)).length =
      (stage.query.selections.map fun selection => selection.expr.value engine group).length := by
    rw [List.length_map, List.length_map]
  exact of_cells_narrow _ _ _ _ lengths

theorem deferred_rows (keyed : stage.keys ≠ []) (passes : Row → Bool)
    (same : ∀ group, satisfies engine group stage.query.having =
      passes ((stage.deferred deferrals).query.rowOf engine group)) :
    stage.query.tableRows engine database =
      (((stage.deferred deferrals).query.tableRows engine database).filter passes).map
        (Row.narrow fun name => stage.shown.contains (some name)) := by
  have groups : (stage.deferred deferrals).query.groups engine = stage.query.groups engine := by
    funext rows
    have grouped : stage.query.groupBy.isEmpty = false := by
      cases keys : stage.keys with
      | nil => exact absurd keys keyed
      | cons first rest => rw [query, keys]; rfl
    rw [Query.groups, Query.groups, if_neg (ne_true_of_eq_false grouped)]
    exact if_neg (ne_true_of_eq_false grouped)
  have unconditional (group : List Scope) :
      satisfies engine group (stage.deferred deferrals).query.having = true := rfl
  rw [Query.table_rows_eq, Query.table_rows_eq, groups]
  simp only [same, unconditional, List.filter_true, List.filter_map, List.map_map]
  refine List.map_congr_left fun group _ => ?_
  exact (deferred_row engine deferrals stage group).symm

end

end Stage

end Plan

end StatTable
