import StatTable.Proofs.Scoping.WellScoped
import StatTable.Proofs.Sql.QueryText
import StatTable.Proofs.Statements.Forms

set_option autoImplicit false

namespace StatTable

open Sql

section

variable (Choices : List Expr → Prop)

structure Plan.Stage.Formed (stage : Plan.Stage) : Prop where
  shown : ∀ selection ∈ stage.keys ++ stage.aggregates, selection.expr.Formed Choices
  joined : ∀ join ∈ stage.joins, join.on.Formed Choices
  conditions : ∀ condition ∈ stage.conditions, condition.Binds Choices testLevel
  having : ∀ condition ∈ stage.having, condition.Binds Choices testLevel

structure QueryPlan.Formed (plan : QueryPlan) : Prop where
  stages : ∀ stage ∈ plan.stages, stage.Formed Choices
  joins : ∀ planned ∈ plan.joins, planned.join.on.Formed Choices
  outputs : ∀ output ∈ plan.outputs, output.expr.Formed Choices
  filters : ∀ condition ∈ plan.filters, condition.Binds Choices testLevel
  groupBy : ∀ key ∈ plan.groupBy, key.Formed Choices
  orderBy : ∀ term ∈ plan.orderBy, term.expr.Formed Choices

def QueryPlan.exprs (plan : QueryPlan) : List Expr :=
  plan.stages.flatMap Plan.Stage.exprs ++ plan.joins.map (·.join.on) ++ plan.resultExprs ++
    plan.orderBy.map (·.expr)

theorem plan_exprs_formed (plan : QueryPlan) (formed : plan.Formed Choices) :
    ∀ expr ∈ plan.exprs, expr.Formed Choices := by
  simp only [QueryPlan.exprs, QueryPlan.resultExprs, List.forall_mem_append, List.forall_mem_map]
  refine ⟨⟨⟨fun expr member => ?_, formed.joins⟩, ⟨formed.outputs,
    fun condition member => (formed.filters condition member).2⟩, formed.groupBy⟩, formed.orderBy⟩
  obtain ⟨stage, staged, own⟩ := List.mem_flatMap.mp member
  have parts := formed.stages stage staged
  simp only [Plan.Stage.exprs, List.mem_append, List.mem_map] at own
  rcases own with ((⟨selection, listed, rfl⟩ | ⟨join, listed, rfl⟩) | condition) | having
  · exact parts.shown selection (List.mem_append.mpr listed)
  · exact parts.joined join listed
  · exact (parts.conditions expr condition).2
  · exact (parts.having expr having).2

theorem stage_query_formed (stage : Plan.Stage) (formed : stage.Formed Choices) :
    ∀ expr ∈ stage.query.exprs, expr.Formed Choices := by
  simp only [Plan.Stage.query, Query.exprs, exprsOfWiths, List.nil_append, List.forall_mem_append,
    List.forall_mem_map, List.map_nil, Option.mem_toList]
  refine ⟨⟨⟨⟨⟨List.forall_mem_append.mp formed.shown, formed.joined⟩, fun joined => ?_⟩,
    fun key member => ?_⟩, fun joined => ?_⟩, by simp⟩
  · exact conjunction_formed Choices stage.conditions joined formed.conditions
  · exact formed.shown key (List.mem_append_left _ member)
  · exact conjunction_formed Choices stage.having joined formed.having

theorem withs_formed (stages : List Plan.Stage)
    (formed : ∀ stage ∈ stages, stage.Formed Choices) :
    ∀ expr ∈ exprsOfWiths (stages.map fun stage => (stage.name, stage.query)),
      expr.Formed Choices := by
  induction stages with
  | nil => simp [exprsOfWiths]
  | cons stage rest ih =>
      obtain ⟨own, others⟩ := List.forall_mem_cons.mp formed
      rw [List.map_cons, exprsOfWiths, List.forall_mem_append]
      exact ⟨stage_query_formed Choices stage own, ih others⟩

theorem query_formed (plan : QueryPlan) (formed : plan.Formed Choices) :
    ∀ expr ∈ plan.query.exprs, expr.Formed Choices := by
  simp only [QueryPlan.query, Query.exprs, List.forall_mem_append, List.forall_mem_map,
    Option.mem_toList, Option.toList_none]
  refine ⟨⟨⟨⟨⟨⟨withs_formed Choices plan.stages formed.stages, formed.outputs⟩, formed.joins⟩,
    fun joined => ?_⟩, formed.groupBy⟩, by simp⟩, formed.orderBy⟩
  exact conjunction_formed Choices plan.filters joined formed.filters

namespace Plan

theorem keys_formed (relation : Relation) (splits : List Split) (table : String) :
    ∀ key ∈ Stage.keysOf relation splits table, key.expr.Formed Choices := by
  intro key member
  rcases List.mem_cons.mp member with rfl | listed
  · trivial
  · obtain ⟨split, _, made⟩ := List.mem_filterMap.mp listed
    obtain ⟨column, _, rfl⟩ := Option.map_eq_some_iff.mp made
    trivial

theorem row_conditions_tests (relation : Relation) (params : Params) (table : String)
    (choose : params.Choose Choices) : ∀ condition ∈ Stage.rowConditions relation params table,
      condition.Binds Choices testLevel := by
  simp only [Stage.rowConditions, List.forall_mem_cons, List.forall_mem_append]
  exact ⟨⟨Nat.le_refl _, field_binds Choices _ _ _ (by decide)⟩,
    fixed_conditions_tests Choices relation table,
    param_conditions_tests Choices relation params table choose⟩

theorem fact_formed (group : Group) (relation : Relation) (choose : group.params.Choose Choices)
    (having : ∀ condition ∈ group.having, condition.Binds Choices testLevel) :
    (Stage.ofFact group relation).Formed Choices where
  shown := by
    simp only [Stage.ofFact, List.forall_mem_append, List.forall_mem_map]
    exact ⟨keys_formed Choices relation _ _,
      fun entry _ => (aggregate_binds Choices relation.table entry.2).2⟩
  joined := by simp [Stage.ofFact]
  conditions := row_conditions_tests Choices relation group.params relation.table choose
  having := having

theorem fields_equal (leftTable left rightTable right : String) :
    (Expr.eq (.field leftTable left) (.field rightTable right)).Binds Choices testLevel :=
  binary_binds Choices .eq _ _ (field_binds Choices _ _ _ (by decide))
    (field_binds Choices _ _ _ (by decide))

theorem team_plays_formed : Stage.teamPlays.on.Formed Choices :=
  (binary_binds Choices .and _ _
    (binds_weaken Choices _ testLevel _ (fields_equal Choices _ _ _ _) (by decide))
    (fields_equal Choices _ _ _ _)).2

theorem play_conditions_tests (rate : Rate) (params : Params) (choose : params.Choose Choices) :
    ∀ condition ∈ Stage.playConditions rate params, condition.Binds Choices testLevel := by
  have column (name : String) := field_binds Choices testLevel Stage.playsAlias name (by decide)
  intro condition member
  rcases List.mem_append.mp member with type | situation
  · obtain ⟨name, _, rfl⟩ := List.mem_map.mp type
    exact binary_binds Choices .eq _ _ (column _) (literal_binds Choices _ _ (by decide))
  · obtain ⟨key, _, made⟩ := List.mem_filterMap.mp situation
    obtain ⟨value, given, rfl⟩ := Option.map_eq_some_iff.mp made
    exact param_test Choices _ value (column _) (choose key value given)

theorem denominator_formed (group : Group) (rate : Rate) (choose : group.params.Choose Choices) :
    (Stage.ofDenominator group rate).Formed Choices where
  shown := by
    simp only [Stage.ofDenominator, List.forall_mem_append, List.forall_mem_singleton]
    refine ⟨keys_formed Choices Catalog.gamelogs _ _, ?_⟩
    split
    · exact (aggregate_binds Choices Stage.gamesAlias .count).2
    · exact (aggregate_binds Choices Stage.gamesAlias (.countDistinct Catalog.gameKey)).2
  joined := by
    intro join member
    simp only [Stage.ofDenominator] at member
    split at member
    · obtain rfl := List.mem_singleton.mp member
      exact team_plays_formed Choices
    · cases member
  conditions := by
    simp only [Stage.ofDenominator, List.forall_mem_append]
    refine ⟨row_conditions_tests Choices Catalog.gamelogs group.params _ choose, ?_⟩
    split
    · exact play_conditions_tests Choices rate group.params choose
    · simp
  having := by simp [Stage.ofDenominator]

theorem resolved_binds (ref : SplitRef) : ref.resolved.Binds Choices Operator.plus.level := by
  have column := field_binds Choices Operator.plus.level ref.aliasName ref.column (by decide)
  unfold SplitRef.resolved
  cases ref.split with
  | week => exact column
  | year =>
      dsimp only
      split
      · exact column
      · exact binary_binds Choices .plus _ _ column (literal_binds Choices _ _ (by decide))

theorem lagged_binds (ref : SplitRef) (value : Expr)
    (binds : value.Binds Choices Operator.minus.level) :
    (SplitChain.lagged ref value).Binds Choices Operator.minus.level := by
  unfold SplitChain.lagged
  cases ref.split with
  | week => exact binds
  | year =>
      dsimp only
      split
      · exact binds
      · exact binary_binds Choices .minus _ _ binds (literal_binds Choices _ _ (by decide))

theorem chain_conditions_tests (chain : SplitChain) (group : Group) :
    ∀ condition ∈ chain.conditions group, condition.Binds Choices testLevel := by
  intro condition member
  obtain ⟨ref, _, made⟩ := List.mem_filterMap.mp member
  unfold SplitChain.condition? at made
  dsimp only at made
  split at made
  · cases made
  · obtain rfl := Option.some.inj made
    refine binary_binds Choices .eq _ _ (field_binds Choices _ _ _ (by decide))
      (call_binds Choices _ _ _ _ (by decide) (by decide) ?_)
    simp only [List.forall_mem_append, List.forall_mem_map, List.forall_mem_singleton]
    exact ⟨fun other _ => (lagged_binds Choices ref _ (resolved_binds Choices other)).2, trivial⟩

theorem output_formed (chain : SplitChain) (split : Split) (value : Expr)
    (shown : chain.output? split = some value) : value.Formed Choices := by
  have each : ∀ expr ∈ (chain.leading split).map (·.resolved), expr.Formed Choices :=
    List.forall_mem_map.mpr fun ref _ => (resolved_binds Choices ref).2
  unfold SplitChain.output? at shown
  split at shown
  · cases shown
  · rename_i only single
    obtain rfl := Option.some.inj shown
    exact each _ (single ▸ List.mem_singleton_self _)
  · obtain rfl := Option.some.inj shown
    exact (call_binds Choices 0 _ _ _ (by decide) (by decide) each).2

theorem denominator_conditions_tests (denominator numerator : Group) :
    ∀ condition ∈ denominatorConditions denominator numerator,
      condition.Binds Choices testLevel := by
  intro condition member
  obtain ⟨split, _, made⟩ := List.mem_filterMap.mp member
  obtain ⟨own, _, made⟩ := Option.bind_eq_some_iff.mp made
  obtain ⟨other, _, made⟩ := Option.bind_eq_some_iff.mp made
  obtain rfl := Option.some.inj made
  exact fields_equal Choices _ _ _ _

theorem tie_conditions_tests (ordered : List Group) (chain : SplitChain) (group : Group) :
    ∀ condition ∈ tieConditions ordered chain group, condition.Binds Choices testLevel := by
  unfold tieConditions
  split
  · split
    · exact denominator_conditions_tests Choices group _
    · simp
  · exact chain_conditions_tests Choices chain group

theorem source_conditions_tests (group : Group) (choose : group.params.Choose Choices) :
    ∀ condition ∈ sourceConditions group, condition.Binds Choices testLevel := by
  unfold sourceConditions
  split
  · rename_i relation marketType _
    simp only [directConditions, List.forall_mem_append, List.forall_mem_map]
    exact ⟨⟨param_conditions_tests Choices relation _ _ choose,
      fixed_conditions_tests Choices relation _⟩, fun type _ => binary_binds Choices .eq _ _
        (field_binds Choices _ _ _ (by decide)) (literal_binds Choices _ _ (by decide))⟩
  · simp

theorem entity_tests (group : Group) :
    (Expr.eq (entityExpr group) playerKeyExpr).Binds Choices testLevel := by
  unfold entityExpr
  split <;> exact fields_equal Choices _ _ _ _

theorem join_formed (ordered : List Group) (chain : SplitChain) (group : Group)
    (choose : group.params.Choose Choices) :
    (planJoin ordered chain group).join.on.Formed Choices := by
  obtain ⟨joined, conjoined⟩ : ∃ joined,
      Expr.conjunction (joinConditions ordered chain group) = some joined := ⟨_, rfl⟩
  rw [planJoin, conjoined, Option.getD_some]
  refine conjunction_formed Choices _ joined ?_ conjoined
  rw [joinConditions, List.forall_mem_cons, List.forall_mem_append]
  exact ⟨entity_tests Choices group, source_conditions_tests Choices group choose,
    tie_conditions_tests Choices ordered chain group⟩

theorem normalize_binds (table : GroupTable) (aliasName : String) (rate : Option Rate)
    (whole : Expr) (binds : whole.Binds Choices Operator.over.level) :
    (Binding.normalize table aliasName rate whole).Binds Choices Operator.over.level := by
  unfold Binding.normalize
  split
  · exact ratio_binds Choices _ _ binds (field_binds Choices 0 _ _ (by decide)).2
  · exact binds

theorem value_binds (table : GroupTable) (rate : Option Rate) (binding : Binding) :
    (binding.value table rate).Binds Choices Operator.over.level := by
  cases binding with
  | player source =>
      exact binds_weaken Choices _ _ _ (attribute_binds Choices source _) (by decide)
  | direct target column => exact field_binds Choices _ _ _ (by decide)
  | fact target relation id aggregate =>
      exact normalize_binds Choices table _ rate _ (field_binds Choices _ _ _ (by decide))

theorem leading_formed (splits : List Split) (chain : SplitChain) :
    ∀ output ∈ leadingOutputs splits chain, output.expr.Formed Choices := by
  intro output member
  rcases List.mem_cons.mp member with rfl | listed
  · trivial
  · obtain ⟨split, _, made⟩ := List.mem_filterMap.mp listed
    obtain ⟨value, shown, rfl⟩ := Option.map_eq_some_iff.mp made
    exact output_formed Choices chain split value shown

theorem condition_tests (table : GroupTable) (bound : BoundFilter) (condition : Expr)
    (chooses : bound.filter.operator.shape = .list →
      Choices (operandExprs bound.filter.operand))
    (late : bound.condition? table = some condition) : condition.Binds Choices testLevel := by
  unfold BoundFilter.condition? at late
  split at late
  · cases late
  · obtain rfl := Option.some.inj late
    exact filter_test Choices _ _ _ (binds_weaken Choices _ _ _
      (value_binds Choices table _ bound.binding) (by decide)) chooses

theorem order_formed (sorts : List SortClause) (selects : List Select) (leading : Nat)
    (terms : List Sql.Ordering) (ok : orderTerms sorts selects leading = .ok terms) :
    ∀ term ∈ terms, term.expr.Formed Choices := by
  obtain ⟨named, found, ok⟩ := (bind_ok _ _ _).mp ok
  rw [← Except.ok.inj ok, List.forall_mem_append, List.forall_mem_map]
  refine ⟨fun term member => ?_, fun _ _ => trivial⟩
  obtain ⟨clause, _, sorted⟩ := forall_right _ _ _ (map_m_ok _ _ _ found) term member
  unfold sortTerm at sorted
  split at sorted
  · rw [← Except.ok.inj sorted]
    trivial
  · cases sorted

structure Chosen (bindings : Bindings) : Prop where
  params : ∀ group ∈ bindings.ordered, group.params.Choose Choices
  filters : ∀ bound ∈ bindings.filters, bound.filter.operator.shape = .list →
    Choices (operandExprs bound.filter.operand)

section

variable (bindings : Bindings) (chosen : Chosen Choices bindings)

include chosen

theorem stage_formed (group : Group) (member : group ∈ bindings.ordered) (stage : Stage)
    (made : Stage.of? group = some stage) : stage.Formed Choices := by
  have choose := chosen.params group member
  unfold Stage.of? at made
  split at made
  · rename_i relation _
    obtain rfl := Option.some.inj made
    refine fact_formed Choices group relation choose fun condition listed => ?_
    obtain ⟨bound, used, target, read, id, aggregate, _, _, _, rfl⟩ := table_lasting bindings _
      (lasting_having bindings) group (ordered_placed bindings group member) condition listed
    exact filter_test Choices _ _ _ (binds_weaken Choices _ _ _
      (aggregate_binds Choices read.table aggregate) (by decide)) (chosen.filters bound used)
  · cases made
  · obtain rfl := Option.some.inj made
    exact denominator_formed Choices group _ choose

theorem compiled_formed (state : TableState) (plan : QueryPlan)
    (compiled : Compiled state bindings plan)
    (orders : ∀ term ∈ plan.orderBy, term.expr.Formed Choices) : plan.Formed Choices := by
  have outputs : ∀ output ∈ plan.outputs, output.expr.Formed Choices := by
    rw [compiled.outputs, List.forall_mem_append, List.forall_mem_map]
    exact ⟨leading_formed Choices _ _, fun bound _ => (value_binds Choices _ _ bound.binding).2⟩
  refine {
    stages := fun stage staged => ?_
    joins := fun planned member => ?_
    outputs := outputs
    filters := fun condition member => ?_
    groupBy := fun key member => ?_
    orderBy := orders }
  · obtain ⟨holder, joined, made⟩ := stage_holder state bindings plan compiled stage staged
    exact stage_formed Choices bindings chosen holder joined stage made
  · rw [compiled.joins] at member
    obtain ⟨group, joined, before, rfl⟩ := mem_plan_joins _ _ _ planned member
    exact join_formed Choices bindings.ordered before group (chosen.params group joined)
  · rw [compiled.filters] at member
    obtain ⟨bound, used, late⟩ := List.mem_filterMap.mp member
    exact condition_tests Choices bindings.table bound condition (chosen.filters bound used) late
  · rw [compiled.groupBy] at member
    obtain ⟨output, listed, rfl⟩ := List.mem_map.mp (List.mem_filter.mp member).1
    exact outputs output listed

end

theorem compile_formed (defaults : Defaults) (limits : Limits) (state : TableState)
    (plan : QueryPlan) (ok : compile defaults limits state = .ok plan)
    (chosen : ∀ bindings, boundUses defaults state = .ok bindings → Chosen Choices bindings) :
    plan.Formed Choices := by
  obtain ⟨bindings, bound, compiled⟩ := compile_compiled defaults limits state plan ok
  refine compiled_formed Choices bindings (chosen bindings bound) state plan compiled ?_
  obtain ⟨requests, _, ok⟩ := (bind_ok _ _ _).mp ok
  obtain ⟨others, _, ok⟩ := (bind_ok _ _ _).mp ok
  obtain ⟨terms, ordered, ok⟩ := (bind_ok _ _ _).mp ok
  rw [← Except.ok.inj ok]
  exact order_formed Choices _ _ _ terms ordered

end Plan

end

end StatTable
