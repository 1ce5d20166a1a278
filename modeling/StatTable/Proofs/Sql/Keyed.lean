import StatTable.Proofs.Sql.Grouping
import StatTable.Proofs.Sql.Named

set_option autoImplicit false

namespace StatTable.Sql

namespace Query

variable (engine : Engine) (tables : Tables) (query : Query)

def rowOf (group : List Scope) : Row :=
  Row.ofCells (query.selections.map (·.outputName))
    (query.selections.map fun selection => selection.expr.value engine group)

theorem row_of_agreed (selection : Selection) (selected : selection ∈ query.selections)
    (name : String) (named : selection.outputName = some name)
    (agree : ∀ other ∈ query.selections, other.outputName = some name →
      other.expr = selection.expr) (group : List Scope) :
    query.rowOf engine group name = selection.expr.value engine group := by
  rw [rowOf, Row.ofCells, ← named, lookup_agreeing (·.outputName) _ _ selection selected,
    Option.getD_some]
  intro other listed same
  rw [agree other listed (same.trans named)]

theorem row_of_cell (distinct : (query.selections.map (·.outputName)).Nodup) (selection : Selection)
    (selected : selection ∈ query.selections) (name : String)
    (named : selection.outputName = some name) (group : List Scope) :
    query.rowOf engine group name = selection.expr.value engine group :=
  query.row_of_agreed engine selection selected name named (fun _ listed same => congrArg _
    (List.inj_on_of_nodup_map distinct listed selected (same.trans named.symm))) group

theorem table_rows_eq : query.tableRows engine tables =
    ((query.groups engine (query.scopes engine tables)).filter fun group =>
      satisfies engine group query.having).map (query.rowOf engine) := by
  rw [tableRows, bodyRows, List.map_map]
  rfl

def rowsWith (table column : String) (x : Value) : List Scope :=
  (query.scopes engine tables).filter fun scope => engine.equal (scope table column) x

theorem keyed_rows (distinct : (query.selections.map (·.outputName)).Nodup)
    (table column name : String) (rest : List Selection)
    (selected : query.selections = ⟨.field table column, some name⟩ :: rest)
    (keyed : query.groupBy = [.field table column]) (x : Value) :
    (query.tableRows engine tables).filter (fun row => engine.equal (row name) x) =
      if !(query.rowsWith engine tables table column x).isEmpty &&
          satisfies engine (query.rowsWith engine tables table column x) query.having
      then [query.rowOf engine (query.rowsWith engine tables table column x)] else [] := by
  have cell : ∀ group : List Scope,
      query.rowOf engine group name = (Expr.field table column).value engine group := fun group =>
    query.row_of_cell engine distinct ⟨.field table column, some name⟩ (by simp [selected]) name rfl
      group
  have picked := query.group_picked engine table column keyed (query.scopes engine tables) x
  rw [table_rows_eq, List.filter_map, List.filter_filter]
  have swapped : ((query.groups engine (query.scopes engine tables)).filter fun group =>
        ((fun row : Row => engine.equal (row name) x) ∘ query.rowOf engine) group &&
          satisfies engine group query.having) =
      ((query.groups engine (query.scopes engine tables)).filter fun group =>
        engine.equal ((Expr.field table column).value engine group) x).filter fun group =>
          satisfies engine group query.having := by
    rw [List.filter_filter]
    refine List.filter_congr fun group _ => ?_
    rw [Function.comp_apply, cell, Bool.and_comm]
  rw [swapped, picked]
  unfold rowsWith
  by_cases none : (query.scopes engine tables).filter
      (fun scope => engine.equal (scope table column) x) = []
  · rw [if_pos none, none]
    rfl
  · rw [if_neg none, List.filter_singleton, List.isEmpty_eq_false_iff.mpr none]
    cases satisfies engine ((query.scopes engine tables).filter
      fun scope => engine.equal (scope table column) x) query.having <;> rfl

end Query

end StatTable.Sql
