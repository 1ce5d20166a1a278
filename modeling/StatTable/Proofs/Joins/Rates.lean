import StatTable.Proofs.Filters.Decisions
import StatTable.Proofs.Joins.Appearance
import StatTable.Proofs.Params.Defaults

set_option autoImplicit false

namespace StatTable

namespace Plan

-- The parameters that restrict games, and those that restrict the plays in them, with their columns.
def gameParams : List (ParamKey × String) :=
  [(.year, "year"), (.week, "week"), (.seasonType, "seas_type")]

def playParams : List (ParamKey × String) :=
  [(.down, "dwn"), (.quarter, "qtr"), (.yardsToGo, "ydstogo")]

def sharedParams (rate : Rate) : List (ParamKey × String) :=
  gameParams ++ if rate.countsTeamPlays then playParams else []

def conditionsOn (table : String) (columns : List (ParamKey × String)) (params : Params) :
    List Sql.Expr :=
  columns.filterMap fun own =>
    (params.get? own.1).map fun value => value.condition (.field table own.2)

namespace Need

variable (need : Need) (splits : List Split) (rate : Rate)

def quotient (id : String) : Sql.Expr :=
  .binary .over
    (.binary .times (.field need.aliasName id) (.literal (.binary (Binary64.ofInt 1))))
    (.nullIf (.field (need.ratioAlias rate) "rate_denominator") (.integer 0))

def ratioConditions : List Sql.Expr :=
  [.isNull true (.field "g" "pid"), .eq (.field "g" "active") (.literal (.bool true))] ++
    conditionsOn "g" gameParams need.params ++
    (rate.playType.toList.map fun type => .eq (.field "p" "play_type") (.string type)) ++
    if rate.countsTeamPlays then conditionsOn "p" playParams need.params else []

def ratioStage : Stage where
  name := need.ratioAlias rate
  source := ⟨"player_gamelogs", some "g"⟩
  joins := if rate.countsTeamPlays then [Stage.teamPlays] else []
  keys := ⟨.field "g" "pid", some "pid"⟩ ::
    splits.map fun split => ⟨.field "g" split.name, some split.name⟩
  aggregates := [⟨if rate.countsTeamPlays then .countRows else .countDistinct (.field "g" "esbid"),
    some "rate_denominator"⟩]
  conditions := need.ratioConditions rate
  having := []

def ratioTies : List Sql.Expr :=
  .eq (.field (need.ratioAlias rate) "pid") (.field "player" "pid") :: splits.map fun split =>
    .eq (.field (need.ratioAlias rate) split.name) (.field need.aliasName split.name)

end Need

-- A need that is aggregated is joined with its own denominator of a rate.
structure Divides (bindings : Bindings) (plan : QueryPlan) (need : Need) (splits : List Split)
    (rate : Rate) : Prop where
  numerator : ∃ planned stage, plan.joins.filter (·.aliasName == need.aliasName) = [planned] ∧
    planned.kind = "fact" ∧ planned.join.table = ⟨need.aliasName, none⟩ ∧
      plan.stages.filter (·.name == need.aliasName) = [stage] ∧
        stage.keys.map (·.aliasName) = some "pid" :: splits.map fun split => some split.name
  denominator : ∃ planned, plan.joins.filter (·.aliasName == need.ratioAlias rate) = [planned] ∧
    planned.kind = "rate" ∧ planned.join.table = ⟨need.ratioAlias rate, none⟩ ∧
      Sql.Expr.conjunction (need.ratioTies splits rate) = some planned.join.on
  stage : plan.stages.filter (·.name == need.ratioAlias rate) = [need.ratioStage splits rate]
  params : ∃ group ∈ bindings.ordered, group.aliasName = need.ratioAlias rate ∧
    ∀ key, group.params.get? key =
      if key ∈ (sharedParams rate).map (·.1) then need.params.get? key else none

-- What a use with a rate reads is divided by its denominator, and nothing else is read.
def ReadsQuotient (defaults : Defaults) (state : TableState) (bindings : Bindings)
    (plan : QueryPlan) (spec : ColumnSpec) (Reads : Sql.Expr → Prop) : Prop :=
  ∀ rate, rateOf spec.params = some rate → ∃ need relation,
    state.needFor? defaults spec = some need ∧ need.source = .fact relation ∧
      Divides bindings plan need (commonSplits (canonicalSplits state.splits) relation) rate ∧
        Reads (need.quotient rate spec.id)

structure DividesRates (defaults : Defaults) (state : TableState) (bindings : Bindings)
    (plan : QueryPlan) : Prop where
  shown : List.Forall₂ (fun spec output =>
    ReadsQuotient defaults state bindings plan spec (output.expr = ·)) state.shown
      plan.columns
  filters : ∀ clause ∈ state.filters, ReadsQuotient defaults state bindings plan
    ⟨clause.id, clause.params⟩ fun value => compared clause value ∈ plan.filters

def paramCondition? (relation : Relation) (params : Params) (table : String) (key : ParamKey) :
    Option Sql.Expr :=
  (params.get? key).bind fun value =>
    (paramColumn? relation key).map fun column => value.condition (.field table column)

theorem param_conditions_keys (relation : Relation) (params : Params) (table : String) :
    paramConditions relation params table =
      ParamKey.all.filterMap (paramCondition? relation params table) := by
  rw [paramConditions, Params.toList, List.filterMap_filterMap]
  refine congrArg (List.filterMap · ParamKey.all) (funext fun key => ?_)
  rw [paramCondition?]
  cases params.get? key <;> rfl

theorem shares_iff (rate : Rate) (key : ParamKey) :
    Target.scopesDenominator rate key = true ↔ key ∈ (sharedParams rate).map (·.1) := by
  cases rate <;> cases key <;> decide

theorem game_conditions (rate : Rate) (params : Params) (table : String) :
    paramConditions Catalog.gamelogs (params.filter (Target.scopesDenominator rate)) table =
      conditionsOn table gameParams params := by
  have keys : ParamKey.all = gameParams.map (·.1) ++ ParamKey.all.drop 3 := rfl
  have unknown : ∀ key ∈ ParamKey.all.drop 3, paramColumn? Catalog.gamelogs key = none := by decide
  have known : ∀ own ∈ gameParams, paramColumn? Catalog.gamelogs own.1 = some own.2 := by decide
  have shared : ∀ own ∈ gameParams, Target.scopesDenominator rate own.1 = true := by
    cases rate <;> decide
  have none : (ParamKey.all.drop 3).filterMap (paramCondition? Catalog.gamelogs
      (params.filter (Target.scopesDenominator rate)) table) = [] := by
    refine List.filterMap_eq_nil_iff.mpr fun key other => ?_
    rw [paramCondition?, unknown key other]
    cases (params.filter (Target.scopesDenominator rate)).get? key <;> rfl
  rw [param_conditions_keys, keys, List.filterMap_append, none, List.append_nil, List.filterMap_map]
  refine List.filterMap_congr fun own listed => ?_
  rw [Function.comp_apply, paramCondition?, Params.filter_kept _ _ _ (shared own listed),
    known own listed]
  cases params.get? own.1 <;> rfl

theorem situation_conditions (rate : Rate) (params : Params) :
    (if rate.countsTeamPlays then
        Stage.playConditions rate (params.filter (Target.scopesDenominator rate)) else []) =
      (rate.playType.toList.map fun type => .eq (.field "p" "play_type") (.string type)) ++
        if rate.countsTeamPlays then conditionsOn "p" playParams params else [] := by
  cases rate <;> rfl

theorem ratio_keys (splits : List Split) (table : String) :
    Stage.keysOf Catalog.gamelogs splits table = ⟨.field table "pid", some "pid"⟩ ::
      splits.map fun split => ⟨.field table split.name, some split.name⟩ := by
  have named : (fun split => (Catalog.gamelogs.splitColumn split).map fun column =>
      (⟨.field table column, some split.name⟩ : Sql.Selection)) =
        some ∘ fun split => ⟨.field table split.name, some split.name⟩ := by
    funext split
    cases split <;> rfl
  rw [Stage.keysOf, named, List.filterMap_eq_map]
  rfl

theorem ratio_stage (holder : Group) (target : Target) (rate : Rate)
    (named : holder.aliasName = (target.denominator rate).aliasName)
    (same : holder.target = target.denominator rate) :
    Stage.ofDenominator holder rate = target.need.ratioStage target.splits rate := by
  have params : holder.params = target.params.filter (Target.scopesDenominator rate) :=
    congrArg Target.params same
  have splits : holder.splits = target.splits := congrArg Target.splits same
  have conditions : Stage.rowConditions Catalog.gamelogs holder.params Stage.gamesAlias ++
      (if rate.countsTeamPlays then Stage.playConditions rate holder.params else []) =
        target.need.ratioConditions rate := by
    rw [Stage.rowConditions, params, game_conditions, situation_conditions, Need.ratioConditions,
      List.append_assoc]
    rfl
  rw [Stage.ofDenominator, conditions, splits, ratio_keys, named, ← need_ratio_alias]
  rfl

theorem keys_named (relation : Relation) (splits : List Split) (table : String)
    (carried : ∀ split ∈ splits, (relation.splitColumn split).isSome = true) :
    (Stage.keysOf relation splits table).map (·.aliasName) =
      some "pid" :: splits.map fun split => some split.name := by
  have named : splits.filterMap (fun split => (relation.splitColumn split).map fun _ =>
      some split.name) = splits.map fun split => some split.name := by
    rw [← List.filterMap_eq_map]
    refine List.filterMap_congr fun split member => ?_
    obtain ⟨column, held⟩ := Option.isSome_iff_exists.mp (carried split member)
    rw [held]
    rfl
  rw [Stage.keysOf, List.map_cons, List.map_filterMap, ← named]
  refine congrArg (_ :: List.filterMap · splits) (funext fun split => ?_)
  cases relation.splitColumn split <;> rfl

theorem own_ties (holder numerator : Group) (rate : Rate) (anchor : String) (relation : Relation)
    (own : holder.source = .denominator rate anchor) (source : numerator.source = .fact relation)
    (splits : numerator.splits = holder.splits) : denominatorConditions holder numerator =
      holder.splits.map fun split =>
        .eq (.field holder.aliasName split.name) (.field numerator.aliasName split.name) := by
  rw [denominatorConditions, ← List.filterMap_eq_map]
  refine List.filterMap_congr fun split member => ?_
  have carried : holder.splits.contains split = true := List.contains_iff_mem.mpr member
  rw [Group.splitColumn, Group.splitColumn, splits, if_pos carried, if_pos carried, own, source]
  rfl

theorem ratio_join_conditions (ordered : List Group) (distinct : Distinct ordered)
    (chain : SplitChain) (holder numerator : Group) (target : Target) (relation : Relation)
    (rate : Rate) (joined : numerator ∈ ordered) (named : numerator.aliasName = target.aliasName)
    (same : numerator.target = target) (fact : target.source = .fact relation)
    (holderNamed : holder.aliasName = (target.denominator rate).aliasName)
    (holderSame : holder.target = target.denominator rate) :
    joinConditions ordered chain holder = target.need.ratioTies target.splits rate := by
  have own : holder.source = .denominator rate target.aliasName := congrArg Target.source holderSame
  have source : numerator.source = .fact relation := (congrArg Target.source same).trans fact
  have splits : numerator.splits = target.splits := congrArg Target.splits same
  have holderSplits : holder.splits = target.splits := congrArg Target.splits holderSame
  have found : ordered.find? (·.aliasName == target.aliasName) = some numerator :=
    named ▸ find_alias ordered distinct numerator joined
  have ties : tieConditions ordered chain holder = target.splits.map fun split =>
      .eq (.field holder.aliasName split.name) (.field numerator.aliasName split.name) := by
    rw [tieConditions, own]
    dsimp only
    rw [found]
    dsimp only
    rw [own_ties holder numerator rate _ relation own source (splits.trans holderSplits.symm),
      holderSplits]
  rw [joinConditions, ties, sourceConditions, entityExpr, own, named, holderNamed, Need.ratioTies,
    need_ratio_alias, need_alias]
  rfl

theorem fact_splits (defaults : Defaults) (splits : List Split) (request : Request)
    (binding : Binding) (target : Target) (relation : Relation) (id : String) (aggregate : Aggregate)
    (binds : Binds defaults splits request binding)
    (reads : binding = .fact target relation id aggregate) :
    target.splits = commonSplits splits relation := by
  obtain ⟨other, kind, reading⟩ := binds_reads _ _ _ _ target binds (by rw [reads]; rfl)
  rw [(binds_fact _ _ _ _ target relation id aggregate binds reads).2.2] at kind
  obtain rfl := Option.some.inj kind
  exact reading.splits

section

variable (defaults : Defaults) (state : TableState) (bindings : Bindings) (plan : QueryPlan)
variable (compiled : Compiled state bindings plan) (uses : Uses defaults state bindings)
variable (apart : AliasesApart bindings.keys)

include compiled uses apart

theorem rate_divides (use : Use) (target : Target) (relation : Relation) (id : String)
    (aggregate : Aggregate) (rate : Rate) (used : use ∈ bindings.uses)
    (reads : use.binding = .fact target relation id aggregate) (rated : use.request.rate = some rate) :
    Divides bindings plan target.need target.splits rate := by
  obtain ⟨numerator, joined, named, same, holder, holderJoined, holderNamed, holderSame⟩ :=
    rated_ordered defaults state bindings uses apart use target relation id aggregate rate used reads
      rated
  obtain ⟨spec, _, finds⟩ := use_finds defaults state bindings uses use used
  have fact := (binds_fact _ _ _ _ target relation id aggregate finds.binds reads).1
  have source : numerator.source = .fact relation := (congrArg Target.source same).trans fact
  have splits : numerator.splits = target.splits := congrArg Target.splits same
  have own : holder.source = .denominator rate target.aliasName := congrArg Target.source holderSame
  have params : holder.params = target.params.filter (Target.scopesDenominator rate) :=
    congrArg Target.params holderSame
  have carried : ∀ split ∈ target.splits, (relation.splitColumn split).isSome = true := by
    intro split member
    rw [fact_splits _ _ _ _ target relation id aggregate finds.binds reads] at member
    exact (Bool.and_eq_true_iff.mp (List.mem_filter.mp member).2).2
  have ratioName : target.need.ratioAlias rate = holder.aliasName :=
    (need_ratio_alias target rate).trans holderNamed.symm
  have needName : target.need.aliasName = numerator.aliasName := (need_alias target).trans named.symm
  obtain ⟨before, numeratorJoin⟩ := group_joined state bindings plan compiled numerator joined
  obtain ⟨after, holderJoin⟩ := group_joined state bindings plan compiled holder holderJoined
  have numeratorStage := group_staged state bindings plan compiled numerator joined
    (Stage.ofFact numerator relation) (by rw [Stage.of?, source])
  have holderStage := group_staged state bindings plan compiled holder holderJoined
    (Stage.ofDenominator holder rate) (by rw [Stage.of?, own])
  rw [ratio_stage holder target rate holderNamed holderSame] at holderStage
  refine {
    numerator := ⟨_, _, needName ▸ numeratorJoin, ?_, ?_, needName ▸ numeratorStage, ?_⟩
    denominator := ⟨_, ratioName ▸ holderJoin, ?_, ?_, ?_⟩
    stage := ratioName ▸ holderStage
    params := ⟨holder, holderJoined, ratioName.symm, fun key => ?_⟩ }
  · rw [planJoin, source]
    rfl
  · rw [planJoin, joinTable, source, needName]
  · rw [Stage.ofFact, splits]
    exact keys_named relation target.splits relation.table carried
  · rw [planJoin, own]
    rfl
  · rw [planJoin, joinTable, own, ratioName]
  · rw [planJoin, ratio_join_conditions bindings.ordered (ordered_distinct bindings) after holder
      numerator target relation rate joined named same fact holderNamed holderSame]
    rfl
  · rw [params, Params.filter]
    exact if_congr (shares_iff rate key) rfl rfl

theorem use_divides (use : Use) (used : use ∈ bindings.uses) (spec : ColumnSpec)
    (finds : Finds defaults (canonicalSplits state.splits) spec use.request use.binding) :
    ReadsQuotient defaults state bindings plan spec
      (use.binding.value bindings.table use.request.rate = ·) := by
  intro rate asked
  have rated : use.request.rate = some rate := finds.asks.rate.trans asked
  obtain ⟨target, relation, id, aggregate, reads⟩ :=
    rated_target defaults state bindings uses use rate used rated
  have value := fact_value defaults state bindings uses apart use target relation id aggregate used
    reads
  have divides := rate_divides defaults state bindings plan compiled uses apart use target relation
    id aggregate rate used reads rated
  obtain ⟨fact, ids, _⟩ := binds_fact _ _ _ _ target relation id aggregate finds.binds reads
  have needed : state.needFor? defaults spec = some target.need := by
    rw [TableState.needFor?, finds_need _ _ _ _ _ finds, reads]
    rfl
  refine ⟨target.need, relation, needed, fact, ?_, ?_⟩
  · exact fact_splits _ _ _ _ target relation id aggregate finds.binds reads ▸ divides
  · rw [value, rated, ids, lookup_id _ _ finds.asks.column]
    rfl

end

theorem late_of_rated (bound : BoundFilter) (rate : Rate)
    (rated : bound.filter.request.rate = some rate) : ¬ bound.isEarly = true := by
  rw [BoundFilter.isEarly, rated]
  cases bound.binding <;> simp

theorem compiled_divides_rates (defaults : Defaults) (limits : Limits) (state : TableState)
    (bindings : Bindings) (plan : QueryPlan) (ok : compile defaults limits state = .ok plan)
    (bound : boundUses defaults state = .ok bindings) (apart : AliasesApart bindings.keys) :
    DividesRates defaults state bindings plan := by
  have uses := bound_uses defaults state bindings bound
  have compiled := compiled_of_bound defaults limits state bindings plan bound ok
  constructor
  · have columns : plan.columns = bindings.selects.map (columnOutput bindings.table) :=
      shown_columns compiled.outputs (show _ = (bindings.selects.map (·.select)).map Select.kind by
        rw [List.map_map, List.map_map]
        rfl)
    rw [columns, List.forall₂_map_right_iff]
    refine (forall_member _ _ _ uses.selects).imp fun spec bound both => ?_
    exact use_divides defaults state bindings plan compiled uses apart bound.use
      (bindings.select_uses bound both.2) spec both.1
  · intro clause listed rate asked
    obtain ⟨bound, member, asks, finds⟩ := forall_left _ _ _ uses.filters clause listed
    obtain ⟨need, relation, needed, source, divides, value⟩ := use_divides defaults state bindings
      plan compiled uses apart bound.use (bindings.filter_uses bound member)
      ⟨clause.id, clause.params⟩ finds rate asked
    refine ⟨need, relation, needed, source, divides, ?_⟩
    rw [compiled.filters, ← value]
    refine List.mem_filterMap.mpr ⟨bound, member, ?_⟩
    rw [BoundFilter.condition?, if_neg (late_of_rated bound rate (finds.asks.rate.trans asked)),
      compared, asks.operator, asks.operand]
    rfl

def thirdDownYards : TableState :=
  { TableState.empty with
    columns := [⟨"rush_yards", .ofList [(.down, .scalar (.integer 3)),
      (.rateType, .scalar (.text "per_team_rush_play"))]⟩]
    filters := [⟨"rush_tds", .gt, some (.scalar (.integer 1)),
      .ofList [(.rateType, .scalar (.text "per_game"))]⟩]
    splits := [.week] }

theorem third_downs_divided :
    compile .standard .usual thirdDownYards = .ok (planOf thirdDownYards) ∧
    boundUses .standard thirdDownYards = .ok (usesOf thirdDownYards) ∧
    AliasesApart (usesOf thirdDownYards).keys ∧
    (thirdDownYards.ratios .standard).length = 2 ∧
    DividesRates .standard thirdDownYards (usesOf thirdDownYards) (planOf thirdDownYards) := by
  have ok : compile .standard .usual thirdDownYards = .ok (planOf thirdDownYards) :=
    ok_of_is_ok _ _ (by decide +kernel)
  have bound : boundUses .standard thirdDownYards = .ok (usesOf thirdDownYards) :=
    ok_of_is_ok _ _ (by decide +kernel)
  have apart : AliasesApart (usesOf thirdDownYards).keys :=
    aliases_apart_of_dedup _ (by decide +kernel)
  exact ⟨ok, bound, apart, by decide +kernel,
    compiled_divides_rates .standard .usual thirdDownYards _ _ ok bound apart⟩

-- Yards for each game of a type of season, for which their alias, though cut from another hash, is
-- that of the points.
def pointsWithRatio : Json.Value := .object [("columns", .array [
  .object [("column_id", .string "fantasy_points"),
    ("params", .object [("scoring_format", .string "2cac9d3d0bdc71c8")])],
  .object [("column_id", .string "rush_yards"),
    ("params", .object [("rate_type", .string "per_game"),
      ("seas_type", .string "04842e7b46673abf")])]])]

def pointsWithRatioState : TableState :=
  (TableState.ofJson .usual pointsWithRatio).toOption.getD .empty

def asksSeason (stage : Stage) : Bool :=
  stage.conditions.any fun condition => condition.fields.contains ("g", "seas_type")

theorem ratio_asks_season (need : Need) (splits : List Split) (rate : Rate)
    (given : (need.params.get? .seasonType).isSome = true) :
    asksSeason (need.ratioStage splits rate) = true := by
  obtain ⟨value, named⟩ := Option.isSome_iff_exists.mp given
  refine List.any_eq_true.mpr ⟨value.condition (.field "g" "seas_type"), ?_, ?_⟩
  · refine List.mem_append_left _ (List.mem_append_left _ (List.mem_append_right _ ?_))
    exact List.mem_filterMap.mpr ⟨(.seasonType, "seas_type"), by decide, by rw [named]; rfl⟩
  · rw [param_condition_fields, Sql.Expr.fields_field]
    decide

theorem ratio_loses_its_season :
    TableState.ofJson .usual pointsWithRatio = .ok pointsWithRatioState ∧
    compile .standard .usual pointsWithRatioState = .ok (planOf pointsWithRatioState) ∧
    boundUses .standard pointsWithRatioState = .ok (usesOf pointsWithRatioState) ∧
    (∀ stage ∈ (planOf pointsWithRatioState).stages, asksSeason stage = false) ∧
    ¬ DividesRates .standard pointsWithRatioState (usesOf pointsWithRatioState)
      (planOf pointsWithRatioState) := by
  have ok : compile .standard .usual pointsWithRatioState = .ok (planOf pointsWithRatioState) :=
    ok_of_is_ok _ _ (by decide +kernel)
  have bound : boundUses .standard pointsWithRatioState = .ok (usesOf pointsWithRatioState) :=
    ok_of_is_ok _ _ (by decide +kernel)
  have compiled := compiled_of_bound .standard .usual _ _ _ bound ok
  have none : ∀ group ∈ (usesOf pointsWithRatioState).table.groups,
      ((Stage.of? group).all fun stage => !asksSeason stage) = true := by
    decide +kernel
  have unasked : ∀ stage ∈ (planOf pointsWithRatioState).stages, asksSeason stage = false := by
    intro stage staged
    obtain ⟨group, joined, made⟩ := stage_holder _ _ _ compiled stage staged
    have own := none group (ordered_placed _ group joined)
    rw [made] at own
    simpa using own
  refine ⟨ok_of_is_ok _ _ (by decide +kernel), ok, bound, unasked, fun divides => ?_⟩
  have asked : ∃ spec, pointsWithRatioState.shown[1]? = some spec ∧
      rateOf spec.params = some .perGame ∧
        ((pointsWithRatioState.needFor? .standard spec).all fun need =>
          (need.params.get? .seasonType).isSome) = true := ⟨_, rfl, by decide +kernel, by decide +kernel⟩
  obtain ⟨spec, held, rated, given⟩ := asked
  obtain ⟨_, _, reads⟩ := forall_get _ _ _ divides.shown 1 spec held
  obtain ⟨need, relation, needed, _, divided, _⟩ := reads .perGame rated
  rw [needed] at given
  have staged : need.ratioStage _ .perGame ∈ (planOf pointsWithRatioState).stages :=
    (List.mem_filter.mp (divided.stage ▸ List.mem_singleton_self _)).1
  have silent := unasked _ staged
  rw [ratio_asks_season need _ .perGame given] at silent
  cases silent

end Plan

end StatTable
