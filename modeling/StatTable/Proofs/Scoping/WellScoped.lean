import StatTable.Proofs.Joins.Staged
import StatTable.Proofs.Scoping.Bindings
import StatTable.Proofs.Sql.Plain

set_option autoImplicit false

namespace StatTable

open Sql

namespace QueryPlan

def visible (plan : QueryPlan) (count : Nat) : List String :=
  plan.base.scopeName :: (plan.joins.take count).map (·.aliasName)

def resultExprs (plan : QueryPlan) : List Expr :=
  plan.outputs.map (·.expr) ++ plan.filters ++ plan.groupBy

structure WellScoped (plan : QueryPlan) : Prop where
  aliases : (plan.visible plan.joins.length).Nodup
  named : ∀ planned ∈ plan.joins, planned.join.table.scopeName = planned.aliasName
  staged : ∀ planned ∈ plan.joins, planned.kind = "fact" ∨ planned.kind = "rate" →
    planned.join.table.table = planned.aliasName ∧
      (plan.stages.map (·.name)).count planned.aliasName = 1
  joined : ∀ stage ∈ plan.stages, (plan.joins.map (·.join.table.table)).count stage.name = 1
  inner : ∀ stage ∈ plan.stages, stage.Scoped
  conditions : ∀ (count : Nat) (planned : PlannedJoin), plan.joins[count]? = some planned →
    planned.join.on.Within (· ∈ plan.visible (count + 1))
  results : ∀ expr ∈ plan.resultExprs, expr.Within (· ∈ plan.visible plan.joins.length)
  shown : ∀ expr ∈ plan.joins.map (·.join.on) ++ plan.resultExprs, ∀ field ∈ expr.fields,
    ∀ stage ∈ plan.stages, stage.name = field.1 → some field.2 ∈ stage.shown

end QueryPlan

namespace Plan

section

variable (defaults : Defaults) (state : TableState) (bindings : Bindings)
variable (uses : Uses defaults state bindings)

include uses

theorem table_is_alias (group holder : Group) (member : group ∈ bindings.ordered)
    (holderMember : holder ∈ bindings.ordered) (stage : Stage)
    (made : Stage.of? holder = some stage) :
    (joinTable group).table = holder.aliasName ↔ group.aliasName = holder.aliasName := by
  cases own : Stage.of? group with
  | some stage' => rw [stage_table group stage' own]
  | none =>
      constructor
      · intro named
        exfalso
        unfold Stage.of? at own
        cases source : group.source with
        | fact relation => simp [source] at own
        | denominator rate numerator => simp [source] at own
        | direct relation marketType =>
            have apart := placed_table defaults state bindings uses group
              (ordered_placed bindings group member) relation (by rw [source]; rfl)
            rw [joinTable, source, placed_alias bindings holder (ordered_placed bindings holder
              holderMember)] at named
            exact alias_ne holder.target.key relation.table apart named.symm
      · intro named
        obtain rfl := distinct_eq _ (ordered_distinct bindings) group holder member holderMember named
        rw [own] at made
        exact absurd made (by simp)

variable (apart : AliasesApart bindings.keys)

include apart

theorem stage_scoped (group : Group) (member : group ∈ bindings.ordered) (stage : Stage)
    (made : Stage.of? group = some stage) : stage.Scoped := by
  unfold Stage.of? at made
  cases source : group.source with
  | direct relation marketType => simp [source] at made
  | denominator rate numerator =>
      rw [source] at made
      rw [← Option.some.inj made]
      exact denominator_scoped group rate
  | fact relation =>
      rw [source] at made
      rw [← Option.some.inj made]
      refine fact_scoped group relation fun condition listed => ?_
      have placed := ordered_placed bindings group member
      obtain ⟨bound, used, target, relation', id, aggregate, reads, _, named, rfl⟩ :=
        table_lasting bindings _ (lasting_having bindings) group placed condition listed
      have use := bindings.filter_uses bound used
      have same := placed_target defaults state bindings uses apart group placed _ target use
        (by rw [reads]; rfl) named
      obtain ⟨spec, _, finds⟩ := use_finds defaults state bindings uses _ use
      have sources : group.source = .fact relation' := (congrArg Target.source same).trans
        (binds_fact _ _ _ _ target relation' id aggregate finds.binds reads).1
      rw [source] at sources
      obtain rfl : relation = relation' := by injection sources
      intro field read
      rw [earlyCondition, filter_condition_fields] at read
      exact aggregate_within relation.table aggregate field read

theorem select_resolved (bound : BoundSelect) (member : bound ∈ bindings.selects) :
    Resolved bindings.ordered (bound.value bindings.table) :=
  use_resolved defaults state bindings uses apart _ (bindings.select_uses bound member)
    fun target relation id aggregate reads =>
      select_provided bindings bound member target relation id aggregate reads

theorem filter_resolved (bound : BoundFilter) (member : bound ∈ bindings.filters) (condition : Expr)
    (late : bound.condition? bindings.table = some condition) :
    Resolved bindings.ordered condition := by
  unfold BoundFilter.condition? at late
  split at late
  · simp at late
  · rename_i isLate
    intro field read
    rw [← Option.some.inj late, filter_condition_fields] at read
    exact use_resolved defaults state bindings uses apart _ (bindings.filter_uses bound member)
      (fun target relation id aggregate reads => late_filter_provided bindings bound member target
        relation id aggregate reads (by simpa using isLate)) field read

theorem results_resolved (plan : QueryPlan) (compiled : Compiled state bindings plan) :
    ∀ expr ∈ plan.resultExprs, Resolved bindings.ordered expr := by
  have outputs : ∀ expr ∈ plan.outputs.map (·.expr), Resolved bindings.ordered expr := by
    intro expr member
    obtain ⟨output, listed, rfl⟩ := List.mem_map.mp member
    rw [compiled.outputs, leadingOutputs, List.mem_append, List.mem_cons] at listed
    rcases listed with (rfl | leading) | column
    · intro field read
      rw [playerKeyExpr, Expr.fields_field, List.mem_singleton] at read
      exact .inl (by rw [read])
    · obtain ⟨split, _, made⟩ := List.mem_filterMap.mp leading
      obtain ⟨value, shown, rfl⟩ := Option.map_eq_some_iff.mp made
      exact split_output_resolved defaults state bindings uses split value shown
    · obtain ⟨bound, boundMember, rfl⟩ := List.mem_map.mp column
      exact select_resolved defaults state bindings uses apart bound boundMember
  intro expr member
  rcases List.mem_append.mp member with listed | key
  · rcases List.mem_append.mp listed with output | filter
    · exact outputs expr output
    · rw [compiled.filters] at filter
      obtain ⟨bound, boundMember, late⟩ := List.mem_filterMap.mp filter
      exact filter_resolved defaults state bindings uses apart bound boundMember expr late
  · rw [compiled.groupBy] at key
    exact outputs expr (List.mem_filter.mp key).1

end

theorem resolved_within (groups : List Group) (expr : Expr) (resolved : Resolved groups expr) :
    expr.Within (· ∈ Catalog.playerTable :: groups.map (·.aliasName)) := by
  intro field read
  rcases resolved field read with player | ⟨group, member, named, _⟩
  · exact List.mem_cons.mpr (.inl player)
  · exact List.mem_cons_of_mem _ (List.mem_map.mpr ⟨group, member, named⟩)

section

variable (defaults : Defaults) (state : TableState) (bindings : Bindings) (plan : QueryPlan)
variable (compiled : Compiled state bindings plan)

section

include compiled

theorem joins_names : plan.joins.map (·.aliasName) = bindings.ordered.map (·.aliasName) := by
  rw [compiled.joins]
  exact plan_joins_map bindings.ordered _ _ (fun _ _ => rfl) _ _

theorem joins_tables :
    plan.joins.map (·.join.table.table) = bindings.ordered.map (joinTable · |>.table) := by
  rw [compiled.joins]
  exact plan_joins_map bindings.ordered _ _ (fun _ _ => rfl) _ _

theorem visible_names (count : Nat) : plan.visible count =
    Catalog.playerTable :: (bindings.ordered.take count).map (·.aliasName) := by
  have base : plan.base.scopeName = Catalog.playerTable := by
    rw [compiled.base]
    rfl
  rw [QueryPlan.visible, base, List.map_take, joins_names state bindings plan compiled, ← List.map_take]

theorem visible_all : plan.visible plan.joins.length =
    Catalog.playerTable :: bindings.ordered.map (·.aliasName) := by
  have length : plan.joins.length = bindings.ordered.length := by
    simpa using congrArg List.length (joins_names state bindings plan compiled)
  rw [visible_names state bindings plan compiled, length, List.take_length]

theorem stage_holder (stage : Stage) (staged : stage ∈ plan.stages) :
    ∃ holder ∈ bindings.ordered, Stage.of? holder = some stage := by
  rw [compiled.stages] at staged
  exact List.mem_filterMap.mp staged

theorem resolved_shown (groups : List Group) (included : ∀ group ∈ groups, group ∈ bindings.ordered)
    (expr : Expr) (resolved : Resolved groups expr) (field : String × String)
    (read : field ∈ expr.fields) (stage : Stage) (staged : stage ∈ plan.stages)
    (named : stage.name = field.1) : some field.2 ∈ stage.shown := by
  obtain ⟨holder, holderMember, made⟩ := stage_holder state bindings plan compiled stage staged
  have holderNamed := stage_name holder stage made
  have placed := ordered_placed bindings holder holderMember
  rcases resolved field read with player | ⟨group, member, groupNamed, shows⟩
  · rw [← named, holderNamed, placed_alias bindings holder placed] at player
    exact absurd player (alias_ne _ _ (by decide))
  · obtain rfl := distinct_eq _ (ordered_distinct bindings) group holder (included group member)
      holderMember (groupNamed.trans (named.symm.trans holderNamed))
    exact shows stage made

theorem aggregated_staged (planned : PlannedJoin) (member : planned ∈ plan.joins)
    (kind : planned.kind = "fact" ∨ planned.kind = "rate") :
    planned.join.table.table = planned.aliasName ∧
      (plan.stages.map (·.name)).count planned.aliasName = 1 := by
  rw [compiled.joins] at member
  obtain ⟨group, placed, before, rfl⟩ := mem_plan_joins _ _ _ planned member
  have made : ∃ stage, Stage.of? group = some stage := by
    unfold Stage.of?
    cases source : group.source with
    | fact relation => exact ⟨_, rfl⟩
    | denominator rate numerator => exact ⟨_, rfl⟩
    | direct relation marketType => simp [planJoin, source, Source.kind] at kind
  obtain ⟨stage, made⟩ := made
  refine ⟨stage_table group stage made, ?_⟩
  rw [compiled.stages, stage_names]
  refine List.count_eq_one_of_mem
    ((ordered_distinct bindings).sublist (List.filter_sublist.map _)) ?_
  exact List.mem_map.mpr ⟨group, List.mem_filter.mpr ⟨placed, by simp [made]⟩, rfl⟩

end

variable (uses : Uses defaults state bindings)

include compiled uses

theorem aliases_apart : (plan.visible plan.joins.length).Nodup := by
  have joinable := ordered_joinable defaults state bindings uses
  rw [visible_all state bindings plan compiled]
  refine List.nodup_cons.mpr ⟨fun listed => ?_, joinable.distinct⟩
  obtain ⟨group, member, named⟩ := List.mem_map.mp listed
  exact joinable.apart group member named

theorem stage_joined (stage : Stage) (staged : stage ∈ plan.stages) :
    (plan.joins.map (·.join.table.table)).count stage.name = 1 := by
  obtain ⟨holder, holderMember, made⟩ := stage_holder state bindings plan compiled stage staged
  have one : (bindings.ordered.map (·.aliasName)).count holder.aliasName = 1 :=
    List.count_eq_one_of_mem (ordered_distinct bindings) (List.mem_map_of_mem holderMember)
  rw [joins_tables state bindings plan compiled, stage_name holder stage made, ← one,
    List.count_eq_countP, List.count_eq_countP, List.countP_map, List.countP_map]
  refine List.countP_congr fun group member => ?_
  simpa using table_is_alias defaults state bindings uses group holder member holderMember stage made

theorem conditions_resolved (count : Nat) (planned : PlannedJoin)
    (held : plan.joins[count]? = some planned) :
    Resolved (bindings.ordered.take (count + 1)) planned.join.on := by
  rw [compiled.joins, plan_joins_get] at held
  obtain ⟨group, found, rfl⟩ := Option.map_eq_some_iff.mp held
  obtain ⟨bounded, rfl⟩ := List.getElem?_eq_some_iff.mp found
  rw [List.take_succ_eq_append_getElem bounded]
  refine join_resolved defaults state bindings uses (bindings.ordered.take count)
    (bindings.ordered.drop (count + 1)) _ ?_
  rw [← List.drop_eq_getElem_cons, List.take_append_drop]

end

theorem compiled_well_scoped (defaults : Defaults) (limits : Limits) (state : TableState)
    (bindings : Bindings) (plan : QueryPlan) (ok : compile defaults limits state = .ok plan)
    (bound : boundUses defaults state = .ok bindings) (apart : AliasesApart bindings.keys) :
    plan.WellScoped := by
  have uses := bound_uses defaults state bindings bound
  have compiled := compiled_of_bound defaults limits state bindings plan bound ok
  have conditions := conditions_resolved defaults state bindings plan compiled uses
  have results := results_resolved defaults state bindings uses apart plan compiled
  refine {
    aliases := aliases_apart defaults state bindings plan compiled uses
    named := fun planned member => ?_
    staged := aggregated_staged state bindings plan compiled
    joined := stage_joined defaults state bindings plan compiled uses
    inner := fun stage staged => ?_
    conditions := fun count planned held => ?_
    results := fun expr member => ?_
    shown := fun expr member field read stage staged named => ?_ }
  · rw [compiled.joins] at member
    obtain ⟨group, _, before, rfl⟩ := mem_plan_joins _ _ _ planned member
    exact join_table_name group
  · obtain ⟨holder, holderMember, made⟩ := stage_holder state bindings plan compiled stage staged
    exact stage_scoped defaults state bindings uses apart holder holderMember stage made
  · rw [visible_names state bindings plan compiled]
    exact resolved_within _ _ (conditions count planned held)
  · rw [visible_all state bindings plan compiled]
    exact resolved_within _ _ (results expr member)
  · rcases List.mem_append.mp member with on | result
    · obtain ⟨planned, listed, rfl⟩ := List.mem_map.mp on
      obtain ⟨count, held⟩ := List.mem_iff_getElem?.mp listed
      exact resolved_shown state bindings plan compiled _ (fun _ => List.mem_of_mem_take) _
        (conditions count planned held) field read stage staged named
    · exact resolved_shown state bindings plan compiled _ (fun _ joined => joined) expr
        (results expr result) field read stage staged named

def yardsAndPoints : TableState :=
  { TableState.empty with
    columns := [⟨"rush_yards", .ofList [(.rateType, .scalar (.text "per_game"))]⟩,
      ⟨"fantasy_points", .empty⟩]
    sorts := [⟨"targets", 0, true, .empty⟩]
    splits := [.year] }

def yardsAndPointsUses : Bindings := (boundUses .standard yardsAndPoints).toOption.getD ⟨[], []⟩

def yardsAndPointsPlan : QueryPlan :=
  (compile .standard .usual yardsAndPoints).toOption.getD ⟨[], ⟨"", none⟩, [], [], [], [], [], 0, 0⟩

theorem yards_and_points_well_scoped :
    compile .standard .usual yardsAndPoints = .ok yardsAndPointsPlan ∧
    boundUses .standard yardsAndPoints = .ok yardsAndPointsUses ∧
    AliasesApart yardsAndPointsUses.keys ∧ yardsAndPointsPlan.WellScoped := by
  have ok : compile .standard .usual yardsAndPoints = .ok yardsAndPointsPlan :=
    ok_of_is_ok _ _ (by decide +kernel)
  have bound : boundUses .standard yardsAndPoints = .ok yardsAndPointsUses :=
    ok_of_is_ok _ _ (by decide +kernel)
  have apart : AliasesApart yardsAndPointsUses.keys := aliases_apart_of_nodup _ (by decide +kernel)
  exact ⟨ok, bound, apart, compiled_well_scoped .standard .usual yardsAndPoints yardsAndPointsUses
    yardsAndPointsPlan ok bound apart⟩

end Plan

end StatTable
