import StatTable.Proofs.Filters.DeferredStages
import StatTable.Proofs.Outputs.Names
import StatTable.Proofs.Scoping.WellScoped
import StatTable.Proofs.Sql.Aggregates

set_option autoImplicit false

namespace StatTable

open Sql

namespace Scalar

@[simp] theorem to_expr_plain (s : Scalar) : s.toExpr.isAggregate = false := by
  cases s <;> exact Expr.literal_plain _

@[simp] theorem to_expr_enclosed (s : Scalar) : s.toExpr.isEnclosed = true := by
  cases s <;> exact Expr.literal_enclosed _

@[simp] theorem to_exprs_plain (items : List Scalar) :
    anyAggregate (items.map Scalar.toExpr) = false := by
  simp [any_aggregate_iff]

@[simp] theorem to_exprs_enclosed (items : List Scalar) :
    allEnclosed (items.map Scalar.toExpr) = true := by
  simp [all_enclosed_iff]

end Scalar

theorem ParamValue.condition_plain (column : Expr) (plain : column.isAggregate = false)
    (value : ParamValue) : (value.condition column).isAggregate = false := by
  unfold ParamValue.condition
  split <;> simp [plain]

theorem Attribute.expr_plain (source : Attribute) (table : String) :
    (source.expr table).isAggregate = false := by
  have joined (names : List String) (first : Expr) (plain : first.isAggregate = false) :
      (names.foldl (fun joined name =>
        .binary .concat (.binary .concat joined (.string " ")) (.field table name)) first).isAggregate =
          false := by
    induction names generalizing first with
    | nil => exact plain
    | cons name rest ih =>
        refine ih _ ?_
        simp [Expr.string, plain]
  exact joined source.rest _ (Expr.field_plain _ _)

theorem ratio_aggregate (num den : Expr) :
    (ratioExpr num den).isAggregate = (num.isAggregate || den.isAggregate) := by
  simp [ratioExpr, Expr.null_if_aggregate, Expr.integer]

theorem ratio_enclosed (num den : Expr) :
    (ratioExpr num den).isEnclosed = (num.isEnclosed && den.isEnclosed) := by
  simp [ratioExpr, Expr.null_if_enclosed, Expr.integer]

namespace Aggregate

theorem or_zero_plain (table column : String) : (orZero table column).isAggregate = false :=
  Expr.coalesce_plain _ (by simp [Expr.integer])

theorem total_plain (table : String) (columns : List String) (total : Expr)
    (plain : total.isAggregate = false) :
    (columns.foldl (fun total column => .binary .plus total (orZero table column)) total).isAggregate =
      false := by
  induction columns generalizing total with
  | nil => exact plain
  | cons column rest ih =>
      refine ih _ ?_
      rw [Expr.binary_aggregate, plain, or_zero_plain, Bool.or_false]

theorem expr_enclosed (table : String) (aggregate : Aggregate) :
    (aggregate.expr table).isAggregate = true ∧ (aggregate.expr table).isEnclosed = true := by
  -- By the tree: a ratio reads what its parts read, and they aggregate all of it.
  induction aggregate with
  | sum column => exact Expr.aggregate_of_plain _ _ _ (by decide +kernel) (Expr.field_plain _ _)
  | sumOf first rest =>
      exact Expr.aggregate_of_plain _ _ _ (by decide +kernel)
        (total_plain table rest _ (or_zero_plain table first))
  | count => exact Expr.aggregate_of_plain _ _ _ (by decide +kernel) rfl
  | countDistinct column =>
      exact Expr.aggregate_of_plain _ _ _ (by decide +kernel) (Expr.field_plain _ _)
  | ratio num den nums dens =>
      rw [Aggregate.expr, ratio_aggregate, ratio_enclosed, nums.1, nums.2, dens.2]
      exact ⟨rfl, rfl⟩

end Aggregate

namespace Plan

theorem operand_plain (operand : Option Operand) :
    (operandExpr operand).isAggregate = false ∧ (operandExpr operand).isEnclosed = true := by
  unfold operandExpr
  split <;> simp

theorem operands_plain (operand : Option Operand) :
    anyAggregate (operandExprs operand) = false ∧ allEnclosed (operandExprs operand) = true := by
  unfold operandExprs
  split <;> simp

theorem filter_condition_aggregate (target : Expr) (operator : FilterOperator)
    (operand : Option Operand) :
    (filterCondition target operator operand).isAggregate = target.isAggregate := by
  cases operator <;>
    simp [filterCondition, (operand_plain operand).1, (operands_plain operand).1]

theorem filter_condition_enclosed (target : Expr) (operator : FilterOperator)
    (operand : Option Operand) :
    (filterCondition target operator operand).isEnclosed = target.isEnclosed := by
  cases operator <;>
    simp [filterCondition, (operand_plain operand).2, (operands_plain operand).2]

theorem fixed_conditions_plain (relation : Relation) (table : String) :
    ∀ condition ∈ fixedConditions relation table, condition.isAggregate = false := by
  intro condition member
  obtain ⟨fixed, _, rfl⟩ := List.mem_map.mp member
  simp

theorem param_conditions_plain (relation : Relation) (params : Params) (table : String) :
    ∀ condition ∈ paramConditions relation params table, condition.isAggregate = false := by
  intro condition member
  obtain ⟨entry, _, made⟩ := List.mem_filterMap.mp member
  obtain ⟨column, _, rfl⟩ := Option.map_eq_some_iff.mp made
  exact ParamValue.condition_plain _ (Expr.field_plain _ _) _

-- A group that computes any aggregates under identifiers of their own, and decides any filters on
-- any aggregates.
structure Group.Aggregable (group : Group) : Prop where
  splits : group.splits.Nodup
  ids : (group.aggregates.map (·.1)).Nodup
  apart : ∀ entry ∈ group.aggregates, entry.1 ∉ Catalog.playerKey :: Split.all.map Split.name
  having : ∀ condition ∈ group.having, ∃ (table : String) (aggregate : Aggregate)
    (operator : FilterOperator) (operand : Option Operand),
      condition = filterCondition (aggregate.expr table) operator operand

namespace Stage

structure WellGrouped (stage : Stage) : Prop where
  keys : ∀ key ∈ stage.keys, key.expr.isAggregate = false
  aggregates : ∀ column ∈ stage.aggregates,
    column.expr.isAggregate = true ∧ column.expr.isEnclosed = true
  joins : ∀ join ∈ stage.joins, join.on.isAggregate = false
  conditions : ∀ condition ∈ stage.conditions, condition.isAggregate = false
  having : ∀ condition ∈ stage.having, condition.isEnclosed = true
  names : ((stage.keys ++ stage.aggregates).map (·.outputName)).Nodup

theorem query_well_grouped (stage : Stage) (grouped : stage.WellGrouped) :
    stage.query.WellGrouped where
  keys := by
    have kept : (stage.keys.map (·.expr)).filter (!·.isAggregate) = stage.keys.map (·.expr) :=
      List.filter_eq_self.mpr (List.forall_mem_map.mpr fun key member => by
        rw [grouped.keys key member, Bool.not_false])
    have dropped : (stage.aggregates.map (·.expr)).filter (!·.isAggregate) = [] :=
      List.filter_eq_nil_iff.mpr (List.forall_mem_map.mpr fun column member => by
        rw [(grouped.aggregates column member).1, Bool.not_true]
        exact Bool.false_ne_true)
    rw [Stage.query, List.map_append, List.filter_append, kept, dropped, List.append_nil]
  enclosed := by
    intro selection shown aggregated
    rcases List.mem_append.mp shown with key | column
    · rw [grouped.keys selection key] at aggregated
      cases aggregated
    · exact (grouped.aggregates selection column).2
  having := fun joined conjoined =>
    (Expr.conjunction_enclosed stage.having joined conjoined).mpr grouped.having
  rows := fun joined conjoined =>
    (Expr.conjunction_plain stage.conditions joined conjoined).mpr grouped.conditions
  joins := grouped.joins
  names := grouped.names

theorem keys_plain (relation : Relation) (splits : List Split) (table : String) :
    ∀ key ∈ keysOf relation splits table, key.expr.isAggregate = false := by
  intro key member
  rcases List.mem_cons.mp member with rfl | listed
  · exact Expr.field_plain _ _
  · obtain ⟨split, _, made⟩ := List.mem_filterMap.mp listed
    obtain ⟨column, _, rfl⟩ := Option.map_eq_some_iff.mp made
    exact Expr.field_plain _ _

theorem key_output_names (relation : Relation) (splits : List Split) (table : String) :
    (keysOf relation splits table).map (·.outputName) =
      (Catalog.playerKey :: (splits.filter fun split => (relation.splitColumn split).isSome).map
        Split.name).map some := by
  rw [keysOf, List.map_cons, List.map_cons]
  refine congrArg (some Catalog.playerKey :: ·) ?_
  induction splits with
  | nil => rfl
  | cons split rest ih =>
      cases held : relation.splitColumn split with
      | none =>
          rw [List.filterMap_cons_none (by rw [held]; rfl), List.filter_cons_of_neg (by simp [held])]
          exact ih
      | some column =>
          rw [List.filterMap_cons_some (by rw [held]; rfl), List.filter_cons_of_pos (by simp [held]),
            List.map_cons, List.map_cons, List.map_cons, ih]
          rfl

theorem split_name_injective (one other : Split) (same : one.name = other.name) : one = other := by
  injection OutputKind.label_injective (.split one) (.split other) same

theorem names_nodup (relation : Relation) (splits : List Split) (table : String) (ids : List String)
    (splitsNodup : splits.Nodup) (idsNodup : ids.Nodup)
    (apart : ∀ id ∈ ids, id ∉ Catalog.playerKey :: Split.all.map Split.name) :
    ((keysOf relation splits table).map (·.outputName) ++ ids.map some).Nodup := by
  have keys : (Catalog.playerKey :: (splits.filter fun split =>
      (relation.splitColumn split).isSome).map Split.name).Nodup := by
    refine List.nodup_cons.mpr ⟨fun listed => ?_, (splitsNodup.filter _).map split_name_injective⟩
    obtain ⟨split, _, named⟩ := List.mem_map.mp listed
    cases split <;> exact absurd named (by decide)
  rw [key_output_names, ← List.map_append]
  refine List.Nodup.map (Option.some_injective _) (List.nodup_append.mpr ⟨keys, idsNodup, ?_⟩)
  rintro name key id listed rfl
  refine apart name listed ?_
  rcases List.mem_cons.mp key with rfl | split
  · exact List.mem_cons_self
  · obtain ⟨own, _, rfl⟩ := List.mem_map.mp split
    refine List.mem_cons_of_mem _ (List.mem_map_of_mem ?_)
    cases own <;> decide

theorem row_conditions_plain (relation : Relation) (params : Params) (table : String) :
    ∀ condition ∈ rowConditions relation params table, condition.isAggregate = false := by
  rw [rowConditions, List.forall_mem_cons, List.forall_mem_append]
  refine ⟨?_, fixed_conditions_plain relation table, param_conditions_plain relation params table⟩
  rw [Expr.is_null_aggregate, Expr.field_plain]

theorem play_conditions_plain (rate : Rate) (params : Params) :
    ∀ condition ∈ playConditions rate params, condition.isAggregate = false := by
  intro condition member
  rcases List.mem_append.mp member with type | situation
  · obtain ⟨name, _, rfl⟩ := List.mem_map.mp type
    simp [Expr.string]
  · obtain ⟨key, _, made⟩ := List.mem_filterMap.mp situation
    obtain ⟨value, _, rfl⟩ := Option.map_eq_some_iff.mp made
    exact ParamValue.condition_plain _ (Expr.field_plain _ _) _

theorem fact_well_grouped (group : Group) (relation : Relation) (aggregable : group.Aggregable) :
    (ofFact group relation).WellGrouped where
  keys := keys_plain relation group.splits relation.table
  aggregates := by
    intro column member
    obtain ⟨entry, _, rfl⟩ := List.mem_map.mp member
    exact Aggregate.expr_enclosed relation.table entry.2
  joins := by simp [ofFact]
  conditions := row_conditions_plain relation group.params relation.table
  having := by
    intro condition member
    obtain ⟨table, aggregate, operator, operand, rfl⟩ := aggregable.having condition member
    rw [filter_condition_enclosed]
    exact (Aggregate.expr_enclosed table aggregate).2
  names := by
    have names := names_nodup relation group.splits relation.table (group.aggregates.map (·.1))
      aggregable.splits aggregable.ids (List.forall_mem_map.mpr aggregable.apart)
    rw [List.map_map] at names
    rw [ofFact, List.map_append, List.map_map]
    exact names

theorem aggregable_query (group : Group) (relation : Relation) (aggregable : group.Aggregable) :
    (ofFact group relation).query.WellGrouped :=
  query_well_grouped _ (fact_well_grouped group relation aggregable)

theorem denominator_well_grouped (group : Group) (rate : Rate) (splits : group.splits.Nodup) :
    (ofDenominator group rate).WellGrouped where
  keys := keys_plain Catalog.gamelogs group.splits gamesAlias
  aggregates := by
    rw [ofDenominator, List.forall_mem_singleton]
    split
    · exact Aggregate.expr_enclosed gamesAlias .count
    · exact Aggregate.expr_enclosed gamesAlias (.countDistinct Catalog.gameKey)
  joins := by
    intro join member
    rw [ofDenominator] at member
    split at member
    · obtain rfl := List.mem_singleton.mp member
      simp [teamPlays]
    · cases member
  conditions := by
    rw [ofDenominator, List.forall_mem_append]
    refine ⟨row_conditions_plain Catalog.gamelogs group.params gamesAlias, ?_⟩
    split
    · exact play_conditions_plain rate group.params
    · simp
  having := by simp [ofDenominator]
  names := by
    rw [ofDenominator, List.map_append]
    exact names_nodup Catalog.gamelogs group.splits gamesAlias [denominatorColumn] splits
      (List.nodup_singleton _) (by decide +kernel)

end Stage

theorem lagged_plain (ref : SplitRef) (value : Expr) (plain : value.isAggregate = false) :
    (SplitChain.lagged ref value).isAggregate = false := by
  unfold SplitChain.lagged
  cases ref.split with
  | week => exact plain
  | year =>
      dsimp only
      split
      · exact plain
      · rw [Expr.binary_aggregate, plain, Expr.integer, Expr.literal_plain, Bool.or_false]

theorem chain_conditions_plain (chain : SplitChain) (group : Group) :
    ∀ condition ∈ chain.conditions group, condition.isAggregate = false := by
  intro condition member
  obtain ⟨ref, _, made⟩ := List.mem_filterMap.mp member
  unfold SplitChain.condition? at made
  dsimp only at made
  split at made
  · cases made
  · obtain rfl := Option.some.inj made
    rw [Expr.eq_aggregate, Expr.field_plain, Bool.false_or]
    refine Expr.coalesce_plain _ ?_
    simp only [List.forall_mem_append, List.forall_mem_map, List.forall_mem_singleton]
    exact ⟨fun other _ => lagged_plain ref _ (resolved_plain other), Expr.field_plain _ _⟩

theorem tie_conditions_plain (ordered : List Group) (chain : SplitChain) (group : Group) :
    ∀ condition ∈ tieConditions ordered chain group, condition.isAggregate = false := by
  unfold tieConditions
  split
  · split
    · intro condition member
      obtain ⟨split, _, made⟩ := List.mem_filterMap.mp member
      obtain ⟨own, _, made⟩ := Option.bind_eq_some_iff.mp made
      obtain ⟨other, _, made⟩ := Option.bind_eq_some_iff.mp made
      obtain rfl := Option.some.inj made
      simp
    · simp
  · exact chain_conditions_plain chain group

theorem source_conditions_plain (group : Group) :
    ∀ condition ∈ sourceConditions group, condition.isAggregate = false := by
  unfold sourceConditions
  split
  · rename_i relation marketType _
    rw [directConditions, List.forall_mem_append, List.forall_mem_append, List.forall_mem_map]
    exact ⟨⟨param_conditions_plain relation group.params group.aliasName,
      fixed_conditions_plain relation group.aliasName⟩, fun type _ => by simp [Expr.string]⟩
  · simp

theorem entity_plain (group : Group) : (entityExpr group).isAggregate = false := by
  unfold entityExpr
  split <;> exact Expr.field_plain _ _

theorem join_plain (ordered : List Group) (chain : SplitChain) (group : Group) :
    (planJoin ordered chain group).join.on.isAggregate = false := by
  obtain ⟨joined, conjoined⟩ : ∃ joined,
      Expr.conjunction (joinConditions ordered chain group) = some joined := ⟨_, rfl⟩
  rw [planJoin, conjoined, Option.getD_some]
  refine (Expr.conjunction_plain _ joined conjoined).mpr ?_
  rw [joinConditions, List.forall_mem_cons, List.forall_mem_append]
  refine ⟨?_, source_conditions_plain group, tie_conditions_plain ordered chain group⟩
  rw [Expr.eq_aggregate, entity_plain, playerKeyExpr, Expr.field_plain, Bool.or_false]

theorem value_plain (table : GroupTable) (rate : Option Rate) (binding : Binding) :
    (binding.value table rate).isAggregate = false := by
  cases binding with
  | player source => exact Attribute.expr_plain source _
  | direct target column => exact Expr.field_plain _ _
  | fact target relation id aggregate =>
      unfold Binding.value Binding.normalize
      dsimp only
      split
      · rw [ratio_aggregate, Expr.field_plain, Expr.field_plain, Bool.or_false]
      · exact Expr.field_plain _ _

theorem leading_plain (splits : List Split) (chain : SplitChain) :
    ∀ output ∈ leadingOutputs splits chain, output.expr.isAggregate = false := by
  rw [leadingOutputs, List.forall_mem_cons]
  refine ⟨Expr.field_plain _ _, fun output listed => ?_⟩
  obtain ⟨split, _, made⟩ := List.mem_filterMap.mp listed
  obtain ⟨value, shown, rfl⟩ := Option.map_eq_some_iff.mp made
  exact output_plain chain split value shown

theorem condition_plain (table : GroupTable) (bound : BoundFilter) (condition : Expr)
    (late : bound.condition? table = some condition) : condition.isAggregate = false := by
  unfold BoundFilter.condition? at late
  split at late
  · cases late
  · rw [← Option.some.inj late, filter_condition_aggregate]
    exact value_plain table _ bound.binding

section

variable (defaults : Defaults) (state : TableState) (bindings : Bindings)
variable (uses : Uses defaults state bindings)

include uses

theorem ordered_splits_nodup (group : Group) (member : group ∈ bindings.ordered) :
    group.splits.Nodup := by
  have primaries (group : Group) (placed : group ∈ bindings.table.groups)
      (primary : group.isDenominator = false) : group.splits.Nodup := by
    obtain ⟨_, _, relation, reads⟩ :=
      primary_reads defaults state bindings uses group placed primary
    rw [show group.splits = _ from reads.splits]
    exact List.Nodup.filter _ (by decide)
  by_cases divides : group.isDenominator = true
  · obtain ⟨numerator, joined, primary, rate, same, _⟩ :=
      ordered_divides defaults state bindings uses group member divides
    rw [show group.splits = numerator.splits from congrArg Target.splits same]
    exact primaries numerator (ordered_placed bindings numerator joined) primary
  · exact primaries group (ordered_placed bindings group member) (by simpa using divides)

theorem computed_apart (group : Group) (placed : group ∈ bindings.table.groups) :
    ∀ entry ∈ group.aggregates, entry.1 ∉ Catalog.playerKey :: Split.all.map Split.name := by
  intro entry member
  obtain ⟨use, used, target, relation, reads, _⟩ :=
    table_lasting bindings _ (lasting_computed bindings) group placed entry member
  obtain ⟨spec, _, finds⟩ := use_finds defaults state bindings uses use used
  obtain ⟨_, id, _⟩ := binds_fact _ _ _ _ target relation entry.1 entry.2 finds.binds reads
  rw [id]
  exact ids_apart _ (lookup_mem _ _ finds.asks.column)

theorem ordered_aggregable (group : Group) (member : group ∈ bindings.ordered) :
    group.Aggregable where
  splits := ordered_splits_nodup defaults state bindings uses group member
  ids := table_lasting bindings _ (lasting_ids bindings) group
    (ordered_placed bindings group member)
  apart := computed_apart defaults state bindings uses group (ordered_placed bindings group member)
  having := by
    intro condition listed
    obtain ⟨bound, _, _, read, _, aggregate, _, _, _, rfl⟩ := table_lasting bindings _
      (lasting_having bindings) group (ordered_placed bindings group member) condition listed
    exact ⟨read.table, aggregate, _, _, rfl⟩

theorem stage_well_grouped (group : Group) (member : group ∈ bindings.ordered) (stage : Stage)
    (made : Stage.of? group = some stage) : stage.WellGrouped := by
  have aggregable := ordered_aggregable defaults state bindings uses group member
  unfold Stage.of? at made
  split at made
  · rename_i relation _
    exact Option.some.inj made ▸ Stage.fact_well_grouped group relation aggregable
  · cases made
  · exact Option.some.inj made ▸ Stage.denominator_well_grouped group _ aggregable.splits

end

end Plan

-- How the queries of a plan group their rows: each stage by its keys, the results by all they show.
structure QueryPlan.WellGrouped (plan : QueryPlan) : Prop where
  stages : ∀ stage ∈ plan.stages, stage.query.groupBy = stage.keys.map (·.expr) ∧
    (∀ column ∈ stage.aggregates, column.expr.isAggregate = true) ∧ stage.query.WellGrouped
  results : plan.query.WellGrouped
  keys : plan.query.groupBy = plan.outputs.map (·.expr)
  plain : ∀ expr ∈ plan.joins.map (·.join.on) ++ plan.resultExprs, expr.isAggregate = false

namespace Plan

section

variable (state : TableState) (bindings : Bindings) (plan : QueryPlan)
variable (compiled : Compiled state bindings plan)

include compiled

theorem outputs_plain : ∀ expr ∈ plan.outputs.map (·.expr), expr.isAggregate = false := by
  rw [compiled.outputs, List.forall_mem_map, List.forall_mem_append, List.forall_mem_map]
  exact ⟨leading_plain _ _, fun bound _ => value_plain bindings.table _ bound.binding⟩

theorem all_grouped : plan.groupBy = plan.outputs.map (·.expr) := by
  rw [compiled.groupBy]
  refine List.filter_eq_self.mpr fun expr member => ?_
  rw [outputs_plain state bindings plan compiled expr member, Bool.not_false]

theorem filters_plain : ∀ condition ∈ plan.filters, condition.isAggregate = false := by
  intro condition member
  rw [compiled.filters] at member
  obtain ⟨bound, _, late⟩ := List.mem_filterMap.mp member
  exact condition_plain bindings.table bound condition late

theorem joins_plain : ∀ condition ∈ plan.joins.map (·.join.on), condition.isAggregate = false := by
  refine List.forall_mem_map.mpr fun planned member => ?_
  rw [compiled.joins] at member
  obtain ⟨group, _, before, rfl⟩ := mem_plan_joins _ _ _ planned member
  exact join_plain bindings.ordered before group

theorem results_well_grouped (names : plan.outputNames.Nodup) : plan.query.WellGrouped where
  keys := by
    show plan.groupBy = ((plan.outputs.map QueryPlan.selection).map (·.expr)).filter _
    rw [List.map_map]
    exact compiled.groupBy
  enclosed := by
    intro selection shown aggregated
    obtain ⟨output, listed, rfl⟩ := List.mem_map.mp shown
    have plain := outputs_plain state bindings plan compiled output.expr (List.mem_map_of_mem listed)
    rw [QueryPlan.selection, plain] at aggregated
    cases aggregated
  having := fun condition none => by cases none
  rows := fun joined conjoined => (Expr.conjunction_plain plan.filters joined conjoined).mpr
    (filters_plain state bindings plan compiled)
  joins := List.forall_mem_map.mpr
    (List.forall_mem_map.mp (joins_plain state bindings plan compiled))
  names := by
    have same : plan.query.selections.map (·.outputName) = plan.outputNames.map some := by
      show (plan.outputs.map QueryPlan.selection).map _ = _
      rw [QueryPlan.outputNames, List.map_map, List.map_map]
      rfl
    rw [same]
    exact names.map (Option.some_injective _)

end

theorem compiled_well_grouped (defaults : Defaults) (limits : Limits) (state : TableState)
    (plan : QueryPlan) (ok : compile defaults limits state = .ok plan) :
    plan.WellGrouped ∧ ∀ (group : Group) (relation : Relation), group.Aggregable →
      (Stage.ofFact group relation).query.WellGrouped := by
  refine ⟨?_, Stage.aggregable_query⟩
  obtain ⟨requests, collected, _⟩ := (bind_ok _ _ _).mp ok
  obtain ⟨bindings, bound, compiled, _⟩ :=
    compile_ordered defaults limits state requests plan collected ok
  have uses := bound_uses defaults state bindings
    ((bind_ok _ _ _).mpr ⟨requests, collected, bound⟩)
  have outputs := outputs_plain state bindings plan compiled
  have keys := all_grouped state bindings plan compiled
  refine {
    stages := fun stage staged => ?_
    results := results_well_grouped state bindings plan compiled
      (output_names_nodup defaults state requests bindings plan collected bound compiled)
    keys := keys
    plain := ?_ }
  · obtain ⟨holder, joined, made⟩ := stage_holder state bindings plan compiled stage staged
    have grouped := stage_well_grouped defaults state bindings uses holder joined stage made
    exact ⟨rfl, fun column member => (grouped.aggregates column member).1,
      Stage.query_well_grouped stage grouped⟩
  · rw [QueryPlan.resultExprs, keys]
    simp only [List.forall_mem_append]
    exact ⟨joins_plain state bindings plan compiled,
      ⟨outputs, filters_plain state bindings plan compiled⟩, outputs⟩

def efficientRushers : TableState :=
  { TableState.empty with
    columns := [⟨"yards_per_carry", .empty⟩,
      ⟨"rush_yards", .ofList [(.rateType, .scalar (.text "per_game"))]⟩]
    filters := [⟨"yards_per_carry", .gt, some (.scalar (.integer 4)), .empty⟩,
      ⟨"rush_yards", .gte, some (.scalar (.integer 1)),
        .ofList [(.rateType, .scalar (.text "per_game"))]⟩]
    splits := [.year] }

def efficientRushersPlan : QueryPlan :=
  (compile .standard .usual efficientRushers).toOption.getD ⟨[], ⟨"", none⟩, [], [], [], [], [], 0, 0⟩

theorem efficient_rushers_grouped :
    compile .standard .usual efficientRushers = .ok efficientRushersPlan ∧
      efficientRushersPlan.WellGrouped := by
  have ok : compile .standard .usual efficientRushers = .ok efficientRushersPlan :=
    ok_of_is_ok _ _ (by decide +kernel)
  exact ⟨ok, (compiled_well_grouped .standard .usual efficientRushers efficientRushersPlan ok).1⟩

end Plan

end StatTable
