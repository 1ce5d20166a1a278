import StatTable.Proofs.Filters.DeferredStages
import StatTable.Proofs.Players.Answers

/-
Deciding filters early changes no results: a plan has the rows of the plan that joins all its tables
outside, aggregates without conditions and decides every filter late.
-/

set_option autoImplicit false

namespace StatTable

open Sql

-- The columns in which the tables of a plan and of its deferred one agree: those that a stage shows,
-- and all columns of other tables.
def QueryPlan.sees (plan : QueryPlan) (table column : String) : Bool :=
  plan.stages.all fun stage => stage.name != table || stage.shown.contains (some column)

namespace Plan

theorem normalize_missing (engine : Engine) (scopes : List Scope) (table : GroupTable)
    (aliasName : String) (rate : Option Rate) (whole : Expr)
    (missing : whole.value engine scopes = .null) :
    (Binding.normalize table aliasName rate whole).value engine scopes = .null := by
  cases rate with
  | none => rwa [normalize_whole]
  | some rate =>
      cases found : table.get? aliasName with
      | none =>
          simp only [Binding.normalize, found]
          exact missing
      | some group => rw [normalize_rated table aliasName rate whole group found, ratio_value, missing,
          quotient_missing]

theorem value_missing (engine : Engine) (scope : Scope) (table : GroupTable) (rate : Option Rate)
    (binding : Binding) (target : Target) (reads : binding.target? = some target)
    (missing : scope target.aliasName = Row.missing) :
    (binding.value table rate).value engine [scope] = .null := by
  have field (name : String) : (Expr.field target.aliasName name).value engine [scope] = .null := by
    rw [Expr.field_value, List.headD_cons, missing]
    rfl
  cases binding with
  | player source => cases reads
  | direct own column =>
      obtain rfl : own = target := Option.some.inj reads
      exact field column
  | fact own relation id aggregate =>
      obtain rfl : own = target := Option.some.inj reads
      exact normalize_missing engine [scope] table own.aliasName rate _ (field id)

theorem deferral_holds (engine : Engine) (bindings : Bindings) (deferral : Deferral)
    (member : deferral ∈ bindings.deferrals) (scope : Scope) :
    deferral.condition.holds engine [Scope.single deferral.aliasName (scope deferral.aliasName)] =
      deferral.condition.holds engine [scope] := by
  obtain ⟨bound, _, target, relation, id, aggregate, _, _, rfl⟩ :=
    mem_deferrals bindings deferral member
  refine holds_congr engine _ _ _ fun field read => ?_
  rw [filter_condition_fields, Expr.fields_field, List.mem_singleton] at read
  rw [read, Scope.single_self]

theorem due_holds (engine : Engine) (bindings : Bindings) (aliasName : String) (scope : Scope) :
    due engine bindings.deferrals aliasName (scope aliasName) = true ↔
      ∀ deferral ∈ bindings.deferrals, deferral.aliasName = aliasName →
        deferral.condition.holds engine [scope] = true := by
  rw [due, List.all_eq_true]
  constructor
  · rintro asked deferral member rfl
    rw [← deferral_holds engine bindings deferral member]
    exact asked deferral (List.mem_filter.mpr ⟨member, beq_self_eq_true _⟩)
  · intro held deferral listed
    obtain ⟨member, named⟩ := List.mem_filter.mp listed
    obtain rfl := eq_of_beq named
    rw [deferral_holds engine bindings deferral member]
    exact held deferral member rfl

theorem deferred_filter (engine : Engine) (plan : QueryPlan) (deferrals : List Deferral)
    (scope : Scope) : satisfies engine [scope] (plan.deferred deferrals).query.filter = true ↔
      (∀ condition ∈ plan.filters, condition.holds engine [scope] = true) ∧
        ∀ deferral ∈ deferrals, deferral.condition.holds engine [scope] = true := by
  rw [QueryPlan.query, QueryPlan.deferred, satisfies_conjunction, List.all_append, Bool.and_eq_true,
    List.all_map, List.all_eq_true, List.all_eq_true]
  rfl

section

variable (engine : Engine) (database : Tables)
variable (defaults : Defaults) (state : TableState) (bindings : Bindings) (plan : QueryPlan)
variable (compiled : Compiled state bindings plan)

section

include compiled

theorem sees_stage (stage : Stage) (staged : stage ∈ plan.stages) :
    plan.sees stage.name = fun column => stage.shown.contains (some column) := by
  funext column
  have distinct := stage_names_distinct state bindings plan compiled
  rw [QueryPlan.sees, Bool.eq_iff_iff, List.all_eq_true]
  constructor
  · intro all
    have own := all stage staged
    rwa [bne_self_eq_false, Bool.false_or] at own
  · intro shows other listed
    by_cases same : other.name = stage.name
    · rw [List.inj_on_of_nodup_map distinct listed staged same, bne_self_eq_false, Bool.false_or]
      exact shows
    · rw [bne_iff_ne.mpr same, Bool.true_or]

theorem stage_alias (stage : Stage) (staged : stage ∈ plan.stages) :
    ∃ group ∈ bindings.ordered, Stage.of? group = some stage ∧ stage.name = group.aliasName := by
  obtain ⟨group, joined, made⟩ := stage_holder state bindings plan compiled stage staged
  exact ⟨group, joined, made, stage_name group stage made⟩

theorem resolved_sees (expr : Expr) (resolved : Resolved bindings.ordered expr) :
    expr.Sees plan.sees := by
  intro field read
  refine List.all_eq_true.mpr fun stage staged => ?_
  by_cases named : stage.name = field.1
  · have shows := resolved_shown state bindings plan compiled bindings.ordered (fun _ member => member)
      expr resolved field read stage staged named
    rw [List.contains_iff_mem.mpr shows, Bool.or_true]
  · rw [bne_iff_ne.mpr named, Bool.true_or]

end

theorem sees_other (table : String) (other : ∀ stage ∈ plan.stages, stage.name ≠ table) :
    plan.sees table = fun _ => true := by
  funext column
  refine List.all_eq_true.mpr fun stage staged => ?_
  rw [bne_iff_ne.mpr (other stage staged), Bool.true_or]

theorem narrow_whole (row : Row) : row.narrow (fun _ => true) = row := rfl

theorem deferred_withs (deferrals : List Deferral) : (plan.deferred deferrals).query.withs =
    plan.stages.map fun stage => (stage.name, (stage.deferred deferrals).query) := by
  rw [QueryPlan.query, QueryPlan.deferred, List.map_map]
  rfl

theorem deferred_names (deferrals : List Deferral) :
    (plan.deferred deferrals).query.withs.map (·.1) = plan.query.withs.map (·.1) := by
  rw [deferred_withs, QueryPlan.query, List.map_map, List.map_map]
  rfl

section

include compiled

theorem deferred_table_base (deferrals : List Deferral) (table : String)
    (other : table.toList.head? ≠ some 't') :
    planTables engine database (plan.deferred deferrals) table = database table := by
  refine with_tables_other engine _ database table fun listed => ?_
  rw [deferred_names] at listed
  obtain ⟨group, member, named⟩ := with_alias state bindings plan compiled table listed
  rw [placed_alias bindings group (ordered_placed bindings group member)] at named
  exact alias_ne group.target.key table other named

variable (uses : Uses defaults state bindings)

include uses

theorem deferred_table_stage (deferrals : List Deferral) (stage : Stage)
    (staged : stage ∈ plan.stages) :
    planTables engine database (plan.deferred deferrals) stage.name =
      (stage.deferred deferrals).query.tableRows engine database := by
  have independent := plan_withs_independent defaults state bindings plan uses compiled
  have listed (other : Stage) (member : other ∈ plan.stages) :
      (other.name, other.query) ∈ plan.query.withs := List.mem_map.mpr ⟨other, member, rfl⟩
  have distinct := plan_withs_distinct state bindings plan compiled
  rw [← deferred_names plan deferrals] at distinct
  refine with_tables_named engine _ database distinct ?_
    (stage.name, (stage.deferred deferrals).query) ?_
  · rw [deferred_withs]
    intro one oneListed
    obtain ⟨own, ownStaged, rfl⟩ := List.mem_map.mp oneListed
    refine ⟨rfl, fun other otherListed => ?_⟩
    obtain ⟨holder, holderStaged, rfl⟩ := List.mem_map.mp otherListed
    exact (independent _ (listed own ownStaged)).2 (holder.name, holder.query)
      (listed holder holderStaged)
  · rw [deferred_withs]
    exact List.mem_map.mpr ⟨stage, staged, rfl⟩

variable (apart : AliasesApart bindings.keys) (shaped : ∀ clause ∈ state.filters, clause.Shaped)

section

variable (planned : PlannedJoin) (group : Group) (joined : group ∈ bindings.ordered)
variable (before : SplitChain) (own : planned = planJoin bindings.ordered before group)

omit compiled uses in
include own in
theorem join_name_alias : planned.join.name = group.aliasName := by
  rw [own]
  exact join_table_name group

omit compiled uses in
include joined in
theorem due_unrestricted (free : group.restricting = false) (row : Row) :
    due engine bindings.deferrals group.aliasName row = true := by
  refine due_unasked engine bindings.deferrals group.aliasName (fun deferral member named => ?_) row
  obtain ⟨bound, used, target, relation, id, aggregate, reads, early, rfl⟩ :=
    mem_deferrals bindings deferral member
  rw [table_restricting bindings group (ordered_placed bindings group joined)] at free
  refine absurd (List.any_eq_true.mpr ⟨bound, used, ?_⟩) (ne_true_of_eq_false free)
  rw [BoundFilter.restrictsAlias, (early_strict bound early).2, reads]
  exact beq_iff_eq.mpr named

include joined apart shaped in
theorem joined_rows_due : planTables engine database plan (joinTable group).table =
    ((planTables engine database (plan.deferred bindings.deferrals) (joinTable group).table).filter
      (due engine bindings.deferrals group.aliasName)).map (Row.narrow (plan.sees group.aliasName)) := by
  have placed := ordered_placed bindings group joined
  cases made : Stage.of? group with
  | some stage =>
      have staged : stage ∈ plan.stages := by
        rw [compiled.stages]
        exact List.mem_filterMap.mpr ⟨group, joined, made⟩
      have named := stage_name group stage made
      have deferred := deferred_table_stage engine database defaults state bindings plan compiled uses
        bindings.deferrals stage staged
      have sees := sees_stage state bindings plan compiled stage staged
      rw [named] at deferred sees
      rw [stage_table group stage made, deferred, sees,
        plan_table_stage defaults state bindings plan uses compiled engine database group joined stage
          made]
      exact stage_rows_due defaults state bindings uses apart engine database shaped group placed stage
        made
  | none =>
      obtain ⟨relation, marketType, source⟩ : ∃ relation marketType,
          group.source = .direct relation marketType := by
        rw [Stage.of?] at made
        cases source : group.source with
        | direct relation marketType => exact ⟨relation, marketType, rfl⟩
        | fact relation => simp [source] at made
        | denominator rate numerator => simp [source] at made
      have table : (joinTable group).table = relation.table := by rw [joinTable, source]
      have base := placed_table defaults state bindings uses group placed relation
        (by rw [source]; rfl)
      have undue := due_unaggregated defaults state bindings uses apart engine group placed
        fun relation' fact => by
          rw [source] at fact
          cases fact
      have whole := sees_other plan group.aliasName fun stage staged named => by
        obtain ⟨holder, holderMember, holderMade, own⟩ :=
          stage_alias state bindings plan compiled stage staged
        obtain rfl := distinct_eq _ (ordered_distinct bindings) holder group holderMember joined
          (own.symm.trans named)
        rw [holderMade] at made
        cases made
      rw [table, plan_table_base state bindings plan compiled engine database _ base,
        deferred_table_base engine database state bindings plan compiled bindings.deferrals _ base,
        whole, List.filter_eq_self.mpr fun row _ => undue row]
      exact (List.map_id _).symm

include joined apart shaped own in
theorem join_deferrable (listed : planned ∈ plan.joins) : Deferrable (planTables engine database plan)
    (planTables engine database (plan.deferred bindings.deferrals)) plan.sees
      (due engine bindings.deferrals) planned.join := by
  have named := join_name_alias bindings planned group before own
  refine { sees := ?_, rows := ?_, undue := fun left row => ?_ }
  · obtain ⟨count, held⟩ := List.mem_iff_getElem?.mp listed
    refine resolved_sees state bindings plan compiled _ fun field read => ?_
    exact resolves_mono _ _ (fun _ member => List.mem_of_mem_take member) field
      (conditions_resolved defaults state bindings plan compiled uses count planned held field read)
  · have rows := joined_rows_due engine database defaults state bindings plan compiled uses apart shaped
      group joined
    rw [named, own]
    exact rows
  · have free : group.restricting = false := by
      rw [own, planJoin, Group.joinKind] at left
      cases restricting : group.restricting with
      | false => rfl
      | true =>
          rw [restricting, if_pos rfl] at left
          cases left
    rw [named]
    exact due_unrestricted engine bindings group joined free row

end

omit compiled uses in
theorem deferral_of_early (bound : BoundFilter) (used : bound ∈ bindings.filters) (target : Target)
    (relation : Relation) (id : String) (aggregate : Aggregate)
    (reads : bound.binding = .fact target relation id aggregate) (early : bound.isEarly = true) :
    ∃ deferral ∈ bindings.deferrals, deferral.condition = filterCondition
      (.field target.aliasName id) bound.filter.operator bound.filter.operand := by
  have made : bound.deferral? = some ⟨target.aliasName, ⟨aggregate.expr relation.table, some id⟩,
      filterCondition (.field target.aliasName id) bound.filter.operator bound.filter.operand⟩ := by
    rw [BoundFilter.deferral?, reads]
    exact if_pos early
  exact ⟨_, List.mem_filterMap.mpr ⟨bound, used, made⟩, rfl⟩

include shaped in
theorem restricted_given (scope : Scope)
    (kept : satisfies engine [scope] (plan.deferred bindings.deferrals).query.filter = true)
    (group : Group) (placed : group ∈ bindings.table.groups) (restricting : group.restricting = true) :
    scope group.aliasName ≠ Row.missing := by
  intro missing
  obtain ⟨conditions, deferrals⟩ := (deferred_filter engine plan bindings.deferrals scope).mp kept
  obtain ⟨bound, used, target, reads, restricts, named⟩ :=
    table_lasting bindings _ (lasting_restricting bindings) group placed restricting
  rw [named] at missing
  have fits := filter_shaped defaults state bindings uses shaped bound used
  have strict : bound.filter.operator.matchesMissing = false := by
    simpa [BoundFilter.restricts] using restricts
  have given (value : Expr) (holds : (filterCondition value bound.filter.operator
      bound.filter.operand).holds engine [scope] = true) : value.value engine [scope] ≠ .null := by
    rw [filter_value engine _ _ _ _ fits, beq_iff_eq] at holds
    exact truth_given engine _ _ _ fits holds strict
  cases early : bound.isEarly with
  | false =>
      have listed : filterCondition (bound.binding.value bindings.table bound.filter.request.rate)
          bound.filter.operator bound.filter.operand ∈ plan.filters := by
        rw [compiled.filters]
        refine List.mem_filterMap.mpr ⟨bound, used, ?_⟩
        rw [BoundFilter.condition?, early]
        rfl
      exact given _ (conditions _ listed) (value_missing engine scope bindings.table _ bound.binding target
        reads missing)
  | true =>
      cases binding : bound.binding with
      | player source =>
          rw [binding] at reads
          cases reads
      | direct own column =>
          rw [BoundFilter.isEarly, binding] at early
          cases early
      | fact own relation id aggregate =>
          rw [binding] at reads
          obtain rfl : own = target := Option.some.inj reads
          obtain ⟨deferral, member, condition⟩ :=
            deferral_of_early bindings bound used own relation id aggregate binding early
          refine given (.field own.aliasName id) (condition ▸ deferrals deferral member) ?_
          rw [Expr.field_value, List.headD_cons, missing]
          rfl

include shaped in
theorem joins_rejected : Rejects (due engine bindings.deferrals)
    (fun scope => satisfies engine [scope] (plan.deferred bindings.deferrals).query.filter)
      (plan.joins.map (·.join)) := by
  intro join listed scope kept
  obtain ⟨planned, member, rfl⟩ := List.mem_map.mp listed
  rw [compiled.joins] at member
  obtain ⟨group, joined, before, own⟩ := mem_plan_joins _ _ _ planned member
  rw [join_name_alias bindings planned group before own]
  refine ⟨(due_holds engine bindings group.aliasName scope).mpr fun deferral held _ =>
    ((deferred_filter engine plan bindings.deferrals scope).mp kept).2 deferral held, fun inner => ?_⟩
  refine restricted_given engine defaults state bindings plan compiled uses shaped scope kept group
    (ordered_placed bindings group joined) ?_
  rw [own, planJoin, Group.joinKind] at inner
  cases restricting : group.restricting with
  | true => rfl
  | false =>
      rw [restricting, if_neg Bool.false_ne_true] at inner
      cases inner

include apart in
-- Once what is due of each joined row is true, only the late filters of the plan are left to decide.
theorem filters_agree (scope : Scope)
    (passes : ∀ join ∈ plan.joins.map (·.join),
      due engine bindings.deferrals join.name (scope join.name) = true) :
    satisfies engine [scope] (plan.deferred bindings.deferrals).query.filter =
      satisfies engine [scope.narrow plan.sees] plan.query.filter := by
  have late : ∀ condition ∈ plan.filters, condition.holds engine [scope.narrow plan.sees] =
      condition.holds engine [scope] := by
    intro condition listed
    refine holds_narrow engine plan.sees scope condition (resolved_sees state bindings plan compiled _ ?_)
    refine results_resolved defaults state bindings uses apart plan compiled condition ?_
    exact List.mem_append_left _ (List.mem_append_right _ listed)
  have deferred : ∀ deferral ∈ bindings.deferrals,
      deferral.condition.holds engine [scope] = true := by
    intro deferral member
    obtain ⟨bound, used, target, relation, id, aggregate, reads, _, made⟩ :=
      mem_deferrals bindings deferral member
    have use := bindings.filter_uses bound used
    have targets : bound.binding.target? = some target := by
      rw [reads]
      rfl
    obtain ⟨group, placed, named, _⟩ := use_served bindings _ use target targets
    obtain ⟨joined, _⟩ := served_ordered defaults state bindings uses apart _ target use targets group
      placed named
    have listed : group.aliasName ∈ plan.joins.map (·.join.name) := by
      rw [compiled.joins, plan_joins_map bindings.ordered (fun planned => planned.join.name)
        (·.aliasName) fun _ group => join_table_name group]
      exact List.mem_map_of_mem joined
    obtain ⟨planned, plannedMember, joinNamed⟩ := List.mem_map.mp listed
    have own := passes planned.join (List.mem_map_of_mem plannedMember)
    refine (due_holds engine bindings planned.join.name scope).mp own deferral member ?_
    rw [joinNamed, named, made]
  rw [Bool.eq_iff_iff, deferred_filter, QueryPlan.query, satisfies_conjunction, List.all_eq_true]
  constructor
  · intro both condition listed
    rw [late condition listed]
    exact both.1 condition listed
  · intro all
    refine ⟨fun condition listed => ?_, deferred⟩
    rw [← late condition listed]
    exact all condition listed

include apart shaped

theorem deferred_scopes : plan.query.scopes engine (planTables engine database plan) =
    ((plan.deferred bindings.deferrals).query.scopes engine
      (planTables engine database (plan.deferred bindings.deferrals))).map
        (Scope.narrow plan.sees) := by
  have player : Catalog.playerTable.toList.head? ≠ some 't' := by decide
  have base := plan_table_base state bindings plan compiled engine database _ player
  have deferredBase := deferred_table_base engine database state bindings plan compiled
    bindings.deferrals _ player
  have unstaged := sees_other plan Catalog.playerTable fun stage staged named => by
    obtain ⟨group, joined, _, own⟩ := stage_alias state bindings plan compiled stage staged
    rw [own, placed_alias bindings group (ordered_placed bindings group joined)] at named
    exact alias_ne group.target.key _ player named
  have single (row : Row) : (Scope.single Catalog.playerTable row).narrow plan.sees =
      Scope.single Catalog.playerTable row := by
    rw [Scope.single, Scope.narrow_extend, Scope.narrow_empty, unstaged, narrow_whole]
  have joins : (plan.deferred bindings.deferrals).query.joins =
      (plan.joins.map (·.join)).map Join.outer := by
    show (plan.joins.map fun planned => { planned with join := planned.join.outer }).map (·.join) = _
    rw [List.map_map, List.map_map]
    rfl
  have distinct : ((plan.joins.map (·.join)).map Join.name).Nodup := by
    have names := plan_joins_map bindings.ordered (fun planned => planned.join.name) (·.aliasName)
      (fun _ group => join_table_name group) bindings.ordered .empty
    rw [List.map_map, compiled.joins]
    exact names ▸ ordered_distinct bindings
  have deferrable : ∀ join ∈ plan.joins.map (·.join), Deferrable (planTables engine database plan)
      (planTables engine database (plan.deferred bindings.deferrals)) plan.sees
        (due engine bindings.deferrals) join := by
    intro join listed
    obtain ⟨planned, member, rfl⟩ := List.mem_map.mp listed
    have ordered := member
    rw [compiled.joins] at ordered
    obtain ⟨group, joined, before, own⟩ := mem_plan_joins _ _ _ planned ordered
    exact join_deferrable engine database defaults state bindings plan compiled uses apart shaped planned
      group joined before own member
  have rejected := joins_rejected engine defaults state bindings plan compiled uses shaped
  have agree := filters_agree engine defaults state bindings plan compiled uses apart
  have source : plan.query.source = some ⟨Catalog.playerTable, none⟩ := congrArg some compiled.base
  have deferredSource : (plan.deferred bindings.deferrals).query.source =
      some ⟨Catalog.playerTable, none⟩ := congrArg some compiled.base
  rw [Query.scopes, Query.scopes, source, deferredSource, joins, sourceScopes, sourceScopes, base,
    deferredBase, join_all_flat_map, join_all_flat_map engine _ ((plan.joins.map _).map _),
    List.filter_flatMap, List.filter_flatMap, List.map_flatMap, List.flatMap_map, List.flatMap_map]
  refine List.flatMap_congr fun row _ => ?_
  have run := join_all_deferred engine _ _ plan.sees _
    (fun scope => satisfies engine [scope] plan.query.filter) _ _
    (Scope.single Catalog.playerTable row) deferrable distinct rejected fun scope passes _ =>
      agree scope passes
  rw [single] at run
  exact run

end

end

theorem deferring_keeps_rows (engine : Engine) (database : Tables) (defaults : Defaults)
    (limits : Limits) (document : Json.Value) (state : TableState) (bindings : Bindings)
    (plan : QueryPlan) (valid : TableState.ofJson limits document = .ok state)
    (ok : compile defaults limits state = .ok plan)
    (bound : boundUses defaults state = .ok bindings) (apart : AliasesApart bindings.keys) :
    plan.query.rows engine database = (plan.deferred bindings.deferrals).query.rows engine database ∧
    ∀ clause ∈ state.filters, clause.operator ≠ .isNull → ∀ (scopes : List Scope) (target : Expr),
      target.value engine scopes = .null →
        (filterCondition target clause.operator clause.operand).holds engine scopes = false := by
  have uses := bound_uses defaults state bindings bound
  have compiled := compiled_of_bound defaults limits state bindings plan bound ok
  have shaped := TableState.of_json_shaped limits document state valid
  have resolved := results_resolved defaults state bindings uses apart plan compiled
  constructor
  · rw [rows_eq, rows_eq]
    refine body_rows_narrow engine plan.sees _ _ _ _ rfl rfl ⟨rfl, rfl⟩ ?_ ?_
      (deferred_scopes engine database defaults state bindings plan compiled uses apart shaped)
    · intro key listed
      exact resolved_sees state bindings plan compiled key
        (resolved key (List.mem_append_right _ listed))
    · intro selection listed
      obtain ⟨output, member, rfl⟩ := List.mem_map.mp listed
      exact resolved_sees state bindings plan compiled output.expr (resolved output.expr
        (List.mem_append_left _ (List.mem_append_left _ (List.mem_map_of_mem member))))
  · intro clause listed other scopes target missing
    have strict : clause.operator.matchesMissing = false := by
      cases operator : clause.operator <;> first | rfl | exact absurd operator other
    refine Bool.eq_false_iff.mpr fun holds => ?_
    rw [filter_value engine _ _ _ _ (shaped clause listed), beq_iff_eq] at holds
    exact truth_given engine _ _ _ (shaped clause listed) holds strict missing

def pointsOverYards : Json.Value := .object [
  ("columns", .array [.string "fantasy_points", .string "rush_yards"]),
  ("where", .array [
    .object [("column_id", .string "rush_yards"), ("operator", .string ">"),
      ("value", .number (.integer 10))],
    .object [("column_id", .string "rush_yards"), ("operator", .string ">"),
      ("value", .number (.integer 5)), ("params", .object [("rate_type", .string "per_game")])],
    .object [("column_id", .string "rush_attempts"), ("operator", .string "IS NULL"),
      ("params", .object [("year", .number (.integer 2023))])]]),
  ("splits", .array [.string "year"])]

def pointsOverYardsState : TableState :=
  (TableState.ofJson .usual pointsOverYards).toOption.getD .empty

def pointsOverYardsUses : Bindings :=
  (boundUses .standard pointsOverYardsState).toOption.getD ⟨[], []⟩

def pointsOverYardsPlan : QueryPlan :=
  (compile .standard .usual pointsOverYardsState).toOption.getD
    ⟨[], ⟨"", none⟩, [], [], [], [], [], 0, 0⟩

theorem deferring_keeps_points_over_yards :
    TableState.ofJson .usual pointsOverYards = .ok pointsOverYardsState ∧
    compile .standard .usual pointsOverYardsState = .ok pointsOverYardsPlan ∧
    boundUses .standard pointsOverYardsState = .ok pointsOverYardsUses ∧
    AliasesApart pointsOverYardsUses.keys ∧ pointsOverYardsUses.deferrals.length = 1 ∧
    pointsOverYardsPlan.query.rows .plain twoPlayers =
      (pointsOverYardsPlan.deferred pointsOverYardsUses.deferrals).query.rows .plain twoPlayers := by
  have valid : TableState.ofJson .usual pointsOverYards = .ok pointsOverYardsState :=
    ok_of_is_ok _ _ (by decide +kernel)
  have ok : compile .standard .usual pointsOverYardsState = .ok pointsOverYardsPlan :=
    ok_of_is_ok _ _ (by decide +kernel)
  have bound : boundUses .standard pointsOverYardsState = .ok pointsOverYardsUses :=
    ok_of_is_ok _ _ (by decide +kernel)
  have apart : AliasesApart pointsOverYardsUses.keys := aliases_apart_of_dedup _ (by decide +kernel)
  exact ⟨valid, ok, bound, apart, by decide +kernel, (deferring_keeps_rows .plain twoPlayers .standard
    .usual pointsOverYards pointsOverYardsState pointsOverYardsUses pointsOverYardsPlan valid ok bound
    apart).1⟩

theorem join_order_single (group : Group) (primary : group.isDenominator = false) :
    joinOrder [group] = [group] := by
  have other : group.isDenominatorOf group.aliasName = false := by
    refine Bool.eq_false_iff.mpr fun divides => ?_
    rw [denominator_of_is group _ divides] at primary
    cases primary
  simp [joinOrder, sortGroups, primary, other]

theorem points_with_yards_ordered :
    pointsWithYardsUses.ordered = pointsWithYardsUses.table.groups := by
  have one : pointsWithYardsUses.table.groups.length = 1 := by decide +kernel
  have primary : ∀ group ∈ pointsWithYardsUses.table.groups, group.isDenominator = false := by
    decide +kernel
  obtain ⟨group, only⟩ := List.length_eq_one_iff.mp one
  rw [Bindings.ordered, only]
  exact join_order_single group (primary group (only ▸ List.mem_cons_self))

def pointsOfOne : Tables := fun table =>
  if table = "player" then [Row.ofList [("pid", .text "a")]]
  else if table = "scoring_format_player_seasonlogs" then
    [Row.ofList [("pid", .text "a"), ("year", .integer 2025),
      ("scoring_format", .text "2cac9d3d0bdc71c8"), ("points", .integer 10)]]
  else []

theorem points_escape_the_bound :
    TableState.ofJson .usual pointsWithYards = .ok pointsWithYardsState ∧
    compile .standard .usual pointsWithYardsState = .ok pointsWithYardsPlan ∧
    boundUses .standard pointsWithYardsState = .ok pointsWithYardsUses ∧
    pointsWithYardsPlan.query.rows .plain pointsOfOne = [[.text "a", .integer 10]] ∧
    (pointsWithYardsPlan.deferred pointsWithYardsUses.deferrals).query.rows .plain pointsOfOne =
      [] := by
  have compiled := points_with_yards_compiled.2
  have joins := compiled.joins
  have outputs := compiled.outputs
  have groupBy := compiled.groupBy
  rw [points_with_yards_ordered] at joins
  rw [Bindings.chain, points_with_yards_ordered] at outputs
  rw [outputs] at groupBy
  refine ⟨ok_of_is_ok _ _ (by decide +kernel), points_with_yards_compiled.1,
    ok_of_is_ok _ _ (by decide +kernel), ?_⟩
  simp only [rows_eq, QueryPlan.query, QueryPlan.deferred, points_with_yards_unstaged, List.map_nil,
    compiled.base, joins, compiled.filters, outputs, groupBy]
  constructor
  · decide +kernel
  · decide +kernel

end Plan

end StatTable
