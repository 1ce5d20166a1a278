import StatTable.Proofs.Players.Offers

set_option autoImplicit false

namespace StatTable.Plan

open Sql

section

variable (engine : Engine) (tables : Tables) (player : Row)

def Group.rowFor (group : Group) : Row := (group.offered engine tables player).headD Row.missing

def Group.keeps (group : Group) : Bool :=
  !(group.restricting && (group.offered engine tables player).isEmpty)

def joinGroups (groups : List Group) (scope : Scope) : Scope :=
  groups.foldl (fun scope group => scope.extend group.aliasName (group.rowFor engine tables player))
    scope

theorem join_groups_other (groups : List Group) (scope : Scope) (name : String)
    (other : ∀ group ∈ groups, group.aliasName ≠ name) :
    joinGroups engine tables player groups scope name = scope name := by
  induction groups generalizing scope with
  | nil => rfl
  | cons group rest ih =>
      rw [joinGroups, List.foldl_cons]
      refine (ih _ fun later member => other later (by simp [member])).trans ?_
      exact Scope.extend_other scope group.aliasName name _ (other group (by simp)).symm

theorem join_groups_row (groups : List Group) (distinct : Distinct groups) (scope : Scope)
    (group : Group) (member : group ∈ groups) :
    joinGroups engine tables player groups scope group.aliasName =
      group.rowFor engine tables player := by
  induction groups generalizing scope with
  | nil => simp at member
  | cons first rest ih =>
      obtain ⟨fresh, restDistinct⟩ := List.nodup_cons.mp distinct
      rw [joinGroups, List.foldl_cons]
      rcases List.mem_cons.mp member with rfl | later
      · refine (join_groups_other engine tables player rest _ _ ?_).trans (Scope.extend_self _ _ _)
        intro other otherMember same
        exact fresh (List.mem_map.mpr ⟨other, otherMember, same⟩)
      · exact ih restDistinct _ later

variable (ordered : List Group) (chain : SplitChain) (group : Group)
variable (unsplit : group.splits = [])

include unsplit

-- Without dimensions nothing ties a group to others.
theorem untied : tieConditions ordered chain group = [] := by
  unfold tieConditions
  split
  · split
    · simp [denominatorConditions, unsplit]
    · rfl
  · simp [SplitChain.conditions, splitRefs, unsplit]

theorem join_rows_once (scope : Scope) (own : scope Catalog.playerTable = player)
    (apart : group.aliasName ≠ Catalog.playerTable)
    (once : (group.offered engine tables player).length ≤ 1) :
    (planJoin ordered chain group).join.rows engine tables scope =
      if group.keeps engine tables player then
        [scope.extend group.aliasName (group.rowFor engine tables player)]
      else [] := by
  have free : ∀ row, tied engine ordered chain group scope row = true := by
    intro row
    rw [tied, untied ordered chain group unsplit]
    rfl
  have matching := matching_eq engine tables player ordered chain group scope own apart
  rw [List.filter_eq_self.mpr fun row _ => free row] at matching
  have kind : (planJoin ordered chain group).join.kind = group.joinKind := rfl
  have name : (planJoin ordered chain group).join.table.scopeName = group.aliasName :=
    join_table_name group
  unfold Join.rows
  rw [matching, kind, name, Group.keeps, Group.rowFor, Group.joinKind]
  cases offered : group.offered engine tables player with
  | nil => cases group.restricting <;> rfl
  | cons row rest =>
      obtain rfl : rest = [] := by simpa [offered] using once
      cases group.restricting <;> rfl

end

section

variable (engine : Engine) (tables : Tables) (player : Row) (ordered : List Group)
variable (unsplit : ∀ group ∈ ordered, group.splits = [])
variable (apart : ∀ group ∈ ordered, group.aliasName ≠ Catalog.playerTable)
variable (once : ∀ group ∈ ordered, (group.offered engine tables player).length ≤ 1)

include unsplit apart once

-- Joining all groups to a player makes one row, or none.
theorem join_all_once (groups : List Group) (joined : ∀ group ∈ groups, group ∈ ordered)
    (chain : SplitChain) (scope : Scope) (own : scope Catalog.playerTable = player) :
    joinAll engine tables ((planJoins ordered chain groups).map (·.join)) [scope] =
      if groups.all (·.keeps engine tables player) then
        [joinGroups engine tables player groups scope]
      else [] := by
  induction groups generalizing chain scope with
  | nil => rfl
  | cons group rest ih =>
      have placed := joined group (by simp)
      rw [planJoins, List.map_cons, join_all_cons, List.flatMap_singleton,
        join_rows_once engine tables player ordered chain group (unsplit group placed) scope own
          (apart group placed) (once group placed), List.all_cons]
      cases kept : group.keeps engine tables player with
      | true =>
          rw [if_pos rfl, Bool.true_and]
          refine ih (fun later member => joined later (by simp [member])) _ _ ?_
          rw [Scope.extend_other _ _ _ _ (apart group placed).symm, own]
      | false =>
          rw [if_neg (by simp), join_all_flat_map]
          rfl

end

section

variable (engine : Engine) (database : Tables)
variable (defaults : Defaults) (state : TableState) (bindings : Bindings) (plan : QueryPlan)

def scopeFor (player : Row) : Scope :=
  joinGroups engine (planTables engine database plan) player bindings.ordered
    (Scope.single Catalog.playerTable player)

def survives (player : Row) : Bool :=
  bindings.ordered.all (·.keeps engine (planTables engine database plan) player) &&
    plan.filters.all fun condition =>
      condition.holds engine [scopeFor engine database bindings plan player]

variable (whole : Unsplit defaults state bindings plan) (keyed : state.WellKeyed engine database)

include whole

theorem scope_for_player (player : Row) :
    scopeFor engine database bindings plan player Catalog.playerTable = player := by
  rw [scopeFor, join_groups_other _ _ _ _ _ _ (ordered_apart defaults state bindings plan whole),
    Scope.single_self]

omit whole in
theorem scope_for_group (player : Row) (group : Group) (member : group ∈ bindings.ordered) :
    scopeFor engine database bindings plan player group.aliasName =
      group.rowFor engine (planTables engine database plan) player :=
  join_groups_row engine _ player bindings.ordered (ordered_distinct bindings) _ group member

include keyed

theorem plan_scopes : plan.query.scopes engine (planTables engine database plan) =
    ((database Catalog.playerTable).filter (survives engine database bindings plan)).map
      (scopeFor engine database bindings plan) := by
  have players : planTables engine database plan Catalog.playerTable =
      database Catalog.playerTable :=
    plan_table_base state bindings plan whole.compiled engine database _ (by decide)
  have source : plan.query.source = some ⟨Catalog.playerTable, none⟩ :=
    congrArg some whole.compiled.base
  have joins : plan.query.joins =
      (planJoins bindings.ordered .empty bindings.ordered).map (·.join) :=
    congrArg (List.map PlannedJoin.join) whole.compiled.joins
  have filter : ∀ scopes, satisfies engine scopes plan.query.filter =
      plan.filters.all fun condition => condition.holds engine scopes :=
    fun scopes => satisfies_conjunction engine scopes plan.filters
  rw [Query.scopes, source, sourceScopes, players, joins, join_all_flat_map, List.flatMap_map,
    List.filter_flatMap]
  refine (flat_map_kept (survives engine database bindings plan)
    (fun player => [scopeFor engine database bindings plan player]) _ _ fun player _ => ?_).trans
      List.map_eq_flatMap.symm
  have joined := join_all_once engine (planTables engine database plan) player bindings.ordered
    (ordered_unsplit defaults state bindings plan whole)
    (ordered_apart defaults state bindings plan whole)
    (offered_once engine database player defaults state bindings plan whole keyed) bindings.ordered
    (fun _ member => member) .empty (Scope.single Catalog.playerTable player) (Scope.single_self _ _)
  rw [show (TableRef.mk Catalog.playerTable none).scopeName = Catalog.playerTable from rfl, joined]
  unfold survives
  cases bindings.ordered.all (·.keeps engine (planTables engine database plan) player) with
  | true =>
      rw [if_pos rfl, Bool.true_and, List.filter_singleton, filter]
      exact cond_eq_ite _ _ _
  | false => rfl

theorem scopes_apart : (((database Catalog.playerTable).filter
      (survives engine database bindings plan)).map (scopeFor engine database bindings plan)).Pairwise
    fun one other => plan.query.alike engine one other = false := by
  have listed : playerKeyExpr ∈ plan.query.groupBy := by
    show playerKeyExpr ∈ plan.groupBy
    rw [whole.compiled.groupBy, whole.compiled.outputs]
    exact List.mem_filter.mpr ⟨by simp [leadingOutputs], rfl⟩
  have cell : ∀ player, playerKeyExpr.value engine [scopeFor engine database bindings plan player] =
      player Catalog.playerKey := by
    intro player
    rw [playerKeyExpr, Expr.field_value, List.headD_cons,
      scope_for_player engine database defaults state bindings plan whole player]
  rw [List.pairwise_map]
  refine (keyed.unique.sublist List.filter_sublist).imp_of_mem
    fun {one other} oneMember otherMember different => ?_
  refine plan.query.not_alike engine _ _ playerKeyExpr listed ?_ ?_
  · rw [cell]
    exact keyed.given one (List.mem_filter.mp oneMember).1
  · rw [cell, cell]
    exact different

theorem plan_rows : plan.query.rows engine database =
    ((database Catalog.playerTable).filter (survives engine database bindings plan)).map fun player =>
      plan.outputs.map fun output =>
        output.expr.value engine [scopeFor engine database bindings plan player] := by
  have having : ∀ group : List Scope, satisfies engine group plan.query.having = true := fun _ => rfl
  have apart := scopes_apart engine database defaults state bindings plan whole keyed
  rw [rows_eq, Query.bodyRows]
  show ((plan.query.groups engine (plan.query.scopes engine
    (planTables engine database plan))).filter _).map _ = _
  rw [plan_scopes engine database defaults state bindings plan whole keyed,
    plan.query.groups_apart engine _ (grouped state bindings plan whole.compiled) apart,
    List.filter_eq_self.mpr fun group _ => having group, List.map_map, List.map_map]
  refine List.map_congr_left fun player _ => ?_
  show (plan.outputs.map QueryPlan.selection).map _ = _
  rw [List.map_map]
  rfl

end

end StatTable.Plan
