import StatTable.Proofs.Joins.Matching
import StatTable.Proofs.Players.Conditions
import StatTable.Proofs.Sql.Keyed

set_option autoImplicit false

namespace StatTable.Plan

open Sql

theorem entity_given (engine : Engine) (scope : Scope) (table column : String) (x : Value)
    (equal : engine.equal (scope table column) x = true) :
    (Expr.isNull true (.field table column)).holds engine [scope] = true := by
  have given := (engine.equal_given _ _ equal).1
  simp [Expr.holds, Expr.value, Value.isTrue, given]

theorem row_conditions_hold (engine : Engine) (relation : Relation) (params : Params)
    (table : String) (scope : Scope) (x : Value) :
    (((Stage.rowConditions relation params table).all fun condition =>
      condition.holds engine [scope]) && engine.equal (scope table relation.entityColumn) x) =
    (engine.equal (scope table relation.entityColumn) x &&
      relation.fits engine params (scope table)) := by
  rw [Bool.and_comm]
  cases equal : engine.equal (scope table relation.entityColumn) x with
  | false => rfl
  | true =>
      have given := entity_given engine scope table relation.entityColumn x equal
      rw [Bool.true_and, Bool.true_and, Bool.eq_iff_iff, Stage.rowConditions, List.all_cons, given,
        Bool.true_and, List.all_eq_true]
      exact fits_holds engine relation params table scope

theorem relation_rows_with (engine : Engine) (database : Tables) (query : Query) (ref : TableRef)
    (relation : Relation) (params : Params) (player : Value) (source : query.source = some ref)
    (reads : ref.table = relation.table) (joins : query.joins = [])
    (filter : query.filter =
      Expr.conjunction (Stage.rowConditions relation params ref.scopeName)) :
    query.rowsWith engine database ref.scopeName relation.entityColumn player =
      (relation.rowsOf engine database params player).map (Scope.single ref.scopeName) := by
  rw [Query.rowsWith, Query.scopes, joins, join_all_nil, source, sourceScopes, reads, filter,
    Relation.rowsOf, List.filter_filter, List.filter_map]
  refine congrArg _ (List.filter_congr fun row _ => ?_)
  have hold := row_conditions_hold engine relation params ref.scopeName
    (Scope.single ref.scopeName row) player
  rw [Scope.single_self] at hold
  rw [Function.comp_apply, Scope.single_self, ← hold, Bool.and_comm, satisfies_conjunction]

section

variable (engine : Engine) (database : Tables) (group : Group) (relation : Relation) (player : Value)

def overRows (aggregate : Aggregate) : Value :=
  aggregate.amount engine (relation.rowsOf engine database group.params player)

def havingPasses : Bool :=
  group.having.all fun condition => condition.holds engine
    ((relation.rowsOf engine database group.params player).map (Scope.single relation.table))

theorem over_rows_value (aggregate : Aggregate) : (aggregate.expr relation.table).value engine
      ((relation.rowsOf engine database group.params player).map (Scope.single relation.table)) =
    overRows engine database group relation player aggregate := by
  rw [aggregate_value, List.map_map, overRows]
  have rows : (relation.rowsOf engine database group.params player).map
      ((fun scope : Scope => scope relation.table) ∘ Scope.single relation.table) = _ :=
    (List.map_congr_left fun row _ => Scope.single_self relation.table row).trans (List.map_id' _)
  rw [rows]

theorem fact_rows_with : (Stage.ofFact group relation).query.rowsWith engine database relation.table
      relation.entityColumn player =
    (relation.rowsOf engine database group.params player).map (Scope.single relation.table) :=
  relation_rows_with engine database _ ⟨relation.table, none⟩ relation group.params player rfl rfl rfl
    rfl

variable (unsplit : group.splits = [])

include unsplit

theorem fact_keys : (Stage.ofFact group relation).keys =
    [⟨.field relation.table relation.entityColumn, some Catalog.playerKey⟩] := by
  simp [Stage.ofFact, Stage.keysOf, unsplit]

theorem fact_names : (Stage.ofFact group relation).query.selections.map (·.outputName) =
    some Catalog.playerKey :: (group.aggregates.map (·.1)).map some := by
  rw [Stage.query, fact_keys group relation unsplit]
  simp [Stage.ofFact, Selection.outputName]

variable (ids : (group.aggregates.map (·.1)).Nodup)
variable (other : Catalog.playerKey ∉ group.aggregates.map (·.1))

include ids other

theorem fact_names_distinct :
    ((Stage.ofFact group relation).query.selections.map (·.outputName)).Nodup := by
  rw [fact_names group relation unsplit]
  refine List.nodup_cons.mpr ⟨fun listed => other ?_, ids.map (Option.some_injective _)⟩
  simpa using listed

theorem fact_stage_rows : ((Stage.ofFact group relation).query.tableRows engine database).filter
      (fun row => engine.equal (row Catalog.playerKey) player) =
    if !(relation.rowsOf engine database group.params player).isEmpty &&
        havingPasses engine database group relation player then
      [(Stage.ofFact group relation).query.rowOf engine
        ((relation.rowsOf engine database group.params player).map (Scope.single relation.table))]
    else [] := by
  have keys := fact_keys group relation unsplit
  rw [Query.keyed_rows engine database _ (fact_names_distinct group relation unsplit ids other)
      relation.table relation.entityColumn Catalog.playerKey (Stage.ofFact group relation).aggregates
      (by rw [Stage.query, keys, List.singleton_append]) (by rw [Stage.query, keys]; rfl) player,
    fact_rows_with engine database group relation player, List.isEmpty_map]
  have having : satisfies engine ((relation.rowsOf engine database group.params player).map
      (Scope.single relation.table)) (Stage.ofFact group relation).query.having =
        havingPasses engine database group relation player :=
    satisfies_conjunction engine _ group.having
  rw [having]

theorem fact_row_cell (id : String) (aggregate : Aggregate) (member : (id, aggregate) ∈ group.aggregates) :
    (Stage.ofFact group relation).query.rowOf engine
      ((relation.rowsOf engine database group.params player).map (Scope.single relation.table)) id =
    overRows engine database group relation player aggregate := by
  rw [Query.row_of_cell engine _ (fact_names_distinct group relation unsplit ids other)
    ⟨aggregate.expr relation.table, some id⟩
    (List.mem_append_right _ (List.mem_map.mpr ⟨(id, aggregate), member, rfl⟩)) id rfl,
    over_rows_value]

end

end StatTable.Plan
