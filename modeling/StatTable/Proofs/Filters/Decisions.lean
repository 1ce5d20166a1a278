import StatTable.Plan.Query
import StatTable.Proofs.Joins.Shared
import StatTable.TableState.Reading

set_option autoImplicit false

namespace StatTable

namespace Plan

-- The condition that decides a clause: once all tables are joined, or while the rows of a need are
-- aggregated.
inductive Decision where
  | results (condition : Sql.Expr)
  | stage (need : Need) (condition : Sql.Expr)

namespace Decision

def result? : Decision → Option Sql.Expr
  | .results condition => some condition
  | .stage .. => none

def having? (name : String) : Decision → Option Sql.Expr
  | .results _ => none
  | .stage need condition => if need.aliasName = name then some condition else none

end Decision

def compared (clause : FilterClause) (value : Sql.Expr) : Sql.Expr :=
  filterCondition value clause.operator clause.operand

def Need.value (need : Need) (id : String) : Option Rate → Sql.Expr
  | none => .field need.aliasName id
  | some rate =>
      ratioExpr (.field need.aliasName id) (.field (need.ratioAlias rate) denominatorColumn)

end Plan

namespace TableState

open Plan

variable (defaults : Defaults) (state : TableState)

-- A clause on a column that is aggregated is decided in its stage, unless it names a rate or also
-- holds where there are no rows. It compares the aggregate there, and any other clause the column.
def decisionOf? (clause : FilterClause) : Option Decision := do
  let column ← Catalog.lookup clause.id
  match column.kind with
  | .player source => return .results (compared clause (source.expr Catalog.playerTable))
  | .materialized _ name | .market _ _ name => do
      let need ← state.needFor? defaults ⟨clause.id, clause.params⟩
      return .results (compared clause (.field need.aliasName name))
  | .fact relation aggregate => do
      let need ← state.needFor? defaults ⟨clause.id, clause.params⟩
      if comparedLate clause then
        return .results (compared clause (need.value clause.id (rateOf clause.params)))
      else return .stage need (compared clause (aggregate.expr relation.table))

def decisions : List Decision := state.filters.filterMap (state.decisionOf? defaults)

end TableState

namespace Plan

structure DecidesFilters (defaults : Defaults) (state : TableState) (plan : QueryPlan) : Prop where
  each : ∀ clause ∈ state.filters, ∃ decision, state.decisionOf? defaults clause = some decision
  results : plan.query.filter =
    Sql.Expr.conjunction ((state.decisions defaults).filterMap Decision.result?)
  grouped : plan.query.having = none
  stages : ∀ named ∈ plan.query.withs, named.2.having =
    Sql.Expr.conjunction ((state.decisions defaults).filterMap (Decision.having? named.1))
  -- The stage that decides a clause is the only one of its name, and aggregates the rows that the
  -- clause's column needs.
  own : ∀ need condition, .stage need condition ∈ state.decisions defaults →
    (plan.query.withs.map (·.1)).count need.aliasName = 1 ∧ ∃ relation stage,
      need.source = .fact relation ∧ stage ∈ plan.stages ∧ stage.name = need.aliasName ∧
        stage.source = ⟨relation.table, none⟩ ∧
          stage.conditions = Stage.rowConditions relation need.params relation.table
  counted : plan.filters.length + (plan.stages.map fun stage => stage.having.length).sum =
    state.filters.length

def BoundFilter.decision (table : GroupTable) (bound : BoundFilter) : Decision :=
  match bound.binding with
  | .fact target relation _ aggregate =>
      if bound.isEarly then .stage target.need (earlyCondition bound relation aggregate)
      else .results (filterCondition (bound.binding.value table bound.filter.request.rate)
        bound.filter.operator bound.filter.operand)
  | binding => .results (filterCondition (binding.value table bound.filter.request.rate)
      bound.filter.operator bound.filter.operand)

theorem decision_result (table : GroupTable) (bound : BoundFilter) :
    (bound.decision table).result? = bound.condition? table := by
  rw [BoundFilter.decision, BoundFilter.condition?, BoundFilter.isEarly]
  cases reads : bound.binding with
  | player source => rfl
  | direct target column => rfl
  | fact target relation id aggregate =>
      dsimp only
      split
      · rfl
      · rfl

theorem decision_having (table : GroupTable) (bound : BoundFilter) (aliasName : String) :
    (bound.decision table).having? aliasName = bound.having? aliasName := by
  rw [BoundFilter.decision, BoundFilter.having?]
  cases reads : bound.binding with
  | player source => rfl
  | direct target column => rfl
  | fact target relation id aggregate =>
      dsimp only
      by_cases early : bound.isEarly = true
      · rw [if_pos early, early, Bool.true_and, Decision.having?, need_alias]
        by_cases same : target.aliasName = aliasName
        · rw [if_pos same, if_pos (beq_iff_eq.mpr same)]
        · rw [if_neg same, if_neg (mt beq_iff_eq.mp same)]
      · rw [if_neg early, Bool.eq_false_iff.mpr early, Bool.false_and, if_neg Bool.false_ne_true]
        rfl

section

variable (defaults : Defaults) (state : TableState) (bindings : Bindings)
variable (uses : Uses defaults state bindings) (apart : AliasesApart bindings.keys)

include uses apart

theorem fact_value (use : Use) (target : Target) (relation : Relation) (id : String)
    (aggregate : Aggregate) (used : use ∈ bindings.uses)
    (reads : use.binding = .fact target relation id aggregate) :
    use.binding.value bindings.table use.request.rate = target.need.value id use.request.rate := by
  rw [reads, Binding.value]
  cases rated : use.request.rate with
  | none => rw [normalize_whole, Need.value, need_alias]
  | some rate =>
      obtain ⟨group, placed, named, _⟩ := use_served bindings use used target (by rw [reads]; rfl)
      have same := placed_target defaults state bindings uses apart group placed use target used
        (by rw [reads]; rfl) named
      have found := GroupTable.get_of_mem _ (table_distinct bindings) group placed
      rw [named] at found
      rw [normalize_rated _ _ rate _ group found, Need.value, need_alias, need_ratio_alias,
        denominator_of_target group target rate named same]

theorem decision_of_bound (clause : FilterClause) (bound : BoundFilter)
    (member : bound ∈ bindings.filters) (asks : FilterAsks clause bound.filter)
    (finds : Finds defaults (canonicalSplits state.splits) ⟨clause.id, clause.params⟩
      bound.filter.request bound.binding) :
    state.decisionOf? defaults clause = some (bound.decision bindings.table) := by
  have column := finds.asks.column
  have needs : state.needFor? defaults ⟨clause.id, clause.params⟩ =
      bound.binding.target?.map Target.need := finds_need _ _ _ _ _ finds
  have binds := finds.binds
  rw [TableState.decisionOf?, column, Option.bind_eq_bind, Option.bind_some, needs,
    BoundFilter.decision, asks.operator, asks.operand]
  cases reads : bound.binding with
  | player source =>
      rw [reads] at binds
      cases binds with
      | player _ kind =>
          rw [kind]
          rfl
  | direct target name =>
      rw [reads] at binds
      cases binds with
      | direct relation marketType _ params kind =>
          revert kind
          cases request : bound.filter.request.column.kind with
          | player source =>
              intro kind
              cases kind
          | fact own aggregate =>
              intro kind
              cases kind
          | materialized own name' =>
              intro kind
              cases kind
              rfl
          | market own type name' =>
              intro kind
              cases kind
              rfl
  | fact target relation id aggregate =>
      have value := fact_value defaults state bindings uses apart
        ⟨bound.filter.request, bound.binding⟩ target relation id aggregate
        (bindings.filter_uses bound member) reads
      obtain ⟨-, ids, kind⟩ := binds_fact _ _ _ _ target relation id aggregate binds reads
      have late := late_iff clause bound target relation id aggregate asks reads
      rw [lookup_id _ _ column] at ids
      dsimp only at ids value
      rw [reads] at value
      rw [kind]
      dsimp only
      -- A filter is decided early just where its clause is not compared late.
      by_cases early : bound.isEarly = true
      · have notLate : ¬ comparedLate clause = true := fun compared =>
          absurd (late.mpr compared) (by rw [early]; decide)
        rw [if_pos early, earlyCondition, asks.operator, asks.operand]
        simp only [Binding.target?, Option.map_some, Option.bind_eq_bind, Option.bind_some,
          if_neg notLate]
        rfl
      · have compared := late.mp (Bool.eq_false_iff.mpr early)
        rw [if_neg early, value, asks.asks.rate, ids]
        simp only [Binding.target?, Option.map_some, Option.bind_eq_bind, Option.bind_some,
          if_pos compared]
        rfl

end

theorem decisions_counted (names : List String) (decisions : List Decision)
    (staged : ∀ need condition, .stage need condition ∈ decisions → names.count need.aliasName = 1) :
    (decisions.filterMap Decision.result?).length +
      (names.map fun name => (decisions.filterMap (Decision.having? name)).length).sum =
        decisions.length := by
  induction decisions with
  | nil => simp
  | cons decision rest ih =>
      have counted := ih fun need condition member =>
        staged need condition (List.mem_cons_of_mem _ member)
      cases decision with
      | results condition =>
          have head : Decision.result? (.results condition) = some condition := rfl
          have same (name : String) : ((Decision.results condition :: rest).filterMap
              (Decision.having? name)).length = (rest.filterMap (Decision.having? name)).length := rfl
          rw [List.filterMap_cons_some head, List.length_cons, List.length_cons]
          simp only [same]
          omega
      | stage need condition =>
          have head : Decision.result? (.stage need condition) = none := rfl
          have one := staged need condition List.mem_cons_self
          have each (name : String) : ((Decision.stage need condition :: rest).filterMap
              (Decision.having? name)).length = (if need.aliasName = name then 1 else 0) +
                (rest.filterMap (Decision.having? name)).length := by
            by_cases own : need.aliasName = name
            · have due : Decision.having? name (.stage need condition) = some condition := if_pos own
              rw [List.filterMap_cons_some due, if_pos own, List.length_cons, Nat.add_comm]
            · have undue : Decision.having? name (.stage need condition) = none := if_neg own
              rw [List.filterMap_cons_none undue, if_neg own, Nat.zero_add]
          rw [List.filterMap_cons_none head, List.length_cons]
          simp only [each]
          rw [List.sum_map_add, sum_owned, one]
          omega

section

variable (defaults : Defaults) (state : TableState) (bindings : Bindings) (plan : QueryPlan)
variable (compiled : Compiled state bindings plan) (uses : Uses defaults state bindings)
variable (apart : AliasesApart bindings.keys)

include uses apart

theorem filters_decided {α : Type} (of : Decision → Option α) :
    (state.decisions defaults).filterMap of =
      bindings.filters.filterMap fun bound => of (bound.decision bindings.table) := by
  rw [TableState.decisions, List.filterMap_filterMap]
  refine filter_map_related _ _ _ _ _ uses.filters fun clause _ bound member related => ?_
  rw [decision_of_bound defaults state bindings uses apart clause bound member related.1 related.2]
  rfl

theorem each_decided (clause : FilterClause) (listed : clause ∈ state.filters) :
    ∃ bound ∈ bindings.filters,
      state.decisionOf? defaults clause = some (bound.decision bindings.table) := by
  obtain ⟨bound, member, asks, finds⟩ := forall_left _ _ _ uses.filters clause listed
  exact ⟨bound, member, decision_of_bound defaults state bindings uses apart clause bound member asks finds⟩

theorem having_fact (group : Group) (placed : group ∈ bindings.table.groups)
    (other : ∀ relation, group.source ≠ .fact relation) : group.having = [] := by
  cases having : group.having with
  | nil => rfl
  | cons condition rest =>
      obtain ⟨bound, member, target, relation, id, aggregate, reads, _, named, _⟩ :=
        table_lasting bindings _ (lasting_having bindings) group placed condition
          (having ▸ List.mem_cons_self)
      have use := bindings.filter_uses bound member
      have same := placed_target defaults state bindings uses apart group placed _ target use
        (by rw [reads]; rfl) named
      obtain ⟨spec, _, finds⟩ := use_finds defaults state bindings uses _ use
      exact absurd ((congrArg Target.source same).trans
        (binds_fact _ _ _ _ target relation id aggregate finds.binds reads).1) (other relation)

include compiled

theorem stage_having (stage : Stage) (staged : stage ∈ plan.stages) :
    stage.having = bindings.filters.filterMap (·.having? stage.name) := by
  obtain ⟨holder, joined, made⟩ := stage_holder state bindings plan compiled stage staged
  have placed := ordered_placed bindings holder joined
  rw [stage_name holder stage made, ← table_having bindings holder placed]
  rw [Stage.of?] at made
  cases source : holder.source with
  | direct relation marketType =>
      rw [source] at made
      cases made
  | fact relation =>
      rw [source] at made
      obtain rfl := Option.some.inj made
      rfl
  | denominator rate numerator =>
      have none := having_fact defaults state bindings uses apart holder placed fun relation fact => by
        rw [source] at fact
        cases fact
      rw [source] at made
      obtain rfl := Option.some.inj made
      exact none.symm

theorem stage_decides (stage : Stage) (staged : stage ∈ plan.stages) :
    stage.having = (state.decisions defaults).filterMap (Decision.having? stage.name) := by
  rw [stage_having defaults state bindings plan compiled uses apart stage staged,
    filters_decided defaults state bindings uses apart]
  exact congrArg (fun due => bindings.filters.filterMap due)
    (funext fun bound => (decision_having bindings.table bound stage.name).symm)

theorem decision_staged (need : Need) (condition : Sql.Expr)
    (member : .stage need condition ∈ state.decisions defaults) :
    (plan.stages.map (·.name)).count need.aliasName = 1 ∧ ∃ relation stage,
      need.source = .fact relation ∧ stage ∈ plan.stages ∧ stage.name = need.aliasName ∧
        stage.source = ⟨relation.table, none⟩ ∧
          stage.conditions = Stage.rowConditions relation need.params relation.table := by
  obtain ⟨clause, listed, here⟩ := List.mem_filterMap.mp member
  obtain ⟨bound, used, decision⟩ := each_decided defaults state bindings uses apart clause listed
  rw [here] at decision
  have own := Option.some.inj decision
  rw [BoundFilter.decision] at own
  cases reads : bound.binding with
  | player source =>
      rw [reads] at own
      cases own
  | direct target column =>
      rw [reads] at own
      cases own
  | fact target relation id aggregate =>
      rw [reads] at own
      dsimp only at own
      split at own
      · have use := bindings.filter_uses bound used
        obtain ⟨rfl, -⟩ := Decision.stage.inj own
        obtain ⟨spec, _, finds⟩ := use_finds defaults state bindings uses _ use
        have fact := (binds_fact _ _ _ _ target relation id aggregate finds.binds reads).1
        have needed := (need_found defaults state bindings uses target.need).mpr
          ⟨_, use, target, by rw [reads]; rfl, rfl⟩
        obtain ⟨group, joined, named, same⟩ :=
          need_joined defaults state bindings uses apart target.need needed
        have source : group.source = .fact relation := (congrArg Need.source same).trans fact
        have params : group.params = target.params := congrArg Need.params same
        have made : Stage.of? group = some (Stage.ofFact group relation) := by
          rw [Stage.of?, source]
        have staged : Stage.ofFact group relation ∈ plan.stages := by
          rw [compiled.stages]
          exact List.mem_filterMap.mpr ⟨group, joined, made⟩
        refine ⟨?_, relation, Stage.ofFact group relation, fact, staged, named, rfl, ?_⟩
        · rw [← named]
          exact List.count_eq_one_of_mem
            (stage_names_distinct state bindings plan compiled)
            (List.mem_map.mpr ⟨_, staged, rfl⟩)
        · rw [Stage.ofFact, params]
          rfl
      · cases own

end

theorem compiled_decides_filters (defaults : Defaults) (limits : Limits) (state : TableState)
    (bindings : Bindings) (plan : QueryPlan) (ok : compile defaults limits state = .ok plan)
    (bound : boundUses defaults state = .ok bindings) (apart : AliasesApart bindings.keys) :
    DecidesFilters defaults state plan := by
  have uses := bound_uses defaults state bindings bound
  have compiled := compiled_of_bound defaults limits state bindings plan bound ok
  have results : plan.filters = (state.decisions defaults).filterMap Decision.result? := by
    rw [compiled.filters, filters_decided defaults state bindings uses apart]
    exact congrArg (fun due => bindings.filters.filterMap due)
      (funext fun bound => (decision_result bindings.table bound).symm)
  have having := stage_decides defaults state bindings plan compiled uses apart
  have staged := decision_staged defaults state bindings plan compiled uses apart
  have names : plan.query.withs.map (·.1) = plan.stages.map (·.name) := by
    rw [QueryPlan.query, List.map_map]
    rfl
  refine {
    each := fun clause listed => ?_
    results := congrArg Sql.Expr.conjunction results
    grouped := rfl
    stages := fun named member => ?_
    own := fun need condition member => names ▸ staged need condition member
    counted := ?_ }
  · obtain ⟨bound, _, decision⟩ := each_decided defaults state bindings uses apart clause listed
    exact ⟨_, decision⟩
  · obtain ⟨stage, listed, rfl⟩ := List.mem_map.mp member
    exact congrArg Sql.Expr.conjunction (having stage listed)
  · have lengths : (state.decisions defaults).length = state.filters.length := by
      rw [TableState.decisions, List.length_filterMap_eq_countP]
      refine List.countP_eq_length.mpr fun clause listed => ?_
      obtain ⟨bound, _, decision⟩ := each_decided defaults state bindings uses apart clause listed
      rw [decision]
      rfl
    have sums : (plan.stages.map fun stage => stage.having.length) = (plan.stages.map (·.name)).map
        fun name => ((state.decisions defaults).filterMap (Decision.having? name)).length := by
      rw [List.map_map]
      exact List.map_congr_left fun stage listed => congrArg List.length (having stage listed)
    rw [results, sums, decisions_counted _ _ fun need condition member =>
      (staged need condition member).1, lengths]

def sixClauses : TableState :=
  { TableState.empty with
    columns := [⟨"rush_yards", .empty⟩]
    filters := [⟨"rush_yards", .gt, some (.scalar (.integer 100)), .empty⟩,
      ⟨"position", .eq, some (.scalar (.text "RB")), .empty⟩,
      ⟨"fantasy_points", .gte, some (.scalar (.integer 10)), .empty⟩,
      ⟨"rush_yards", .gt, some (.scalar (.integer 5)),
        .ofList [(.rateType, .scalar (.text "per_game"))]⟩,
      ⟨"rush_yards", .lt, some (.scalar (.integer 900)), .empty⟩,
      ⟨"rush_attempts", .isNull, none, .empty⟩] }

def sixClausesUses : Bindings := (boundUses .standard sixClauses).toOption.getD ⟨[], []⟩

def sixClausesPlan : QueryPlan :=
  (compile .standard .usual sixClauses).toOption.getD ⟨[], ⟨"", none⟩, [], [], [], [], [], 0, 0⟩

theorem six_clauses_decided :
    compile .standard .usual sixClauses = .ok sixClausesPlan ∧
    boundUses .standard sixClauses = .ok sixClausesUses ∧
    AliasesApart sixClausesUses.keys ∧
    DecidesFilters .standard sixClauses sixClausesPlan ∧
    sixClausesPlan.filters.length = 4 ∧
    (sixClausesPlan.stages.map fun stage => stage.having.length).sum = 2 := by
  have ok : compile .standard .usual sixClauses = .ok sixClausesPlan :=
    ok_of_is_ok _ _ (by decide +kernel)
  have bound : boundUses .standard sixClauses = .ok sixClausesUses :=
    ok_of_is_ok _ _ (by decide +kernel)
  have apart : AliasesApart sixClausesUses.keys := aliases_apart_of_dedup _ (by decide +kernel)
  have decides := compiled_decides_filters .standard .usual sixClauses sixClausesUses sixClausesPlan ok
    bound apart
  have late : sixClausesPlan.filters.length = 4 := by decide +kernel
  refine ⟨ok, bound, apart, decides, late, ?_⟩
  have counted : sixClausesPlan.filters.length +
      (sixClausesPlan.stages.map fun stage => stage.having.length).sum = 6 := decides.counted
  omega

-- Points under a scoring format and a bound on yards, for which the aliases, though cut from different
-- hashes, are the same.
def pointsWithYards : Json.Value := .object [
  ("columns", .array [.object [("column_id", .string "fantasy_points"),
    ("params", .object [("scoring_format", .string "2cac9d3d0bdc71c8")])]]),
  ("where", .array [.object [("column_id", .string "rush_yards"), ("operator", .string ">"),
    ("value", .number (.integer 100)),
    ("params", .object [("seas_type", .string "04842e7b46673abf")])]])]

def pointsWithYardsState : TableState :=
  (TableState.ofJson .usual pointsWithYards).toOption.getD .empty

def pointsWithYardsUses : Bindings :=
  (boundUses .standard pointsWithYardsState).toOption.getD ⟨[], []⟩

def pointsWithYardsPlan : QueryPlan :=
  (compile .standard .usual pointsWithYardsState).toOption.getD
    ⟨[], ⟨"", none⟩, [], [], [], [], [], 0, 0⟩

theorem points_with_yards_compiled :
    compile .standard .usual pointsWithYardsState = .ok pointsWithYardsPlan ∧
      Compiled pointsWithYardsState pointsWithYardsUses pointsWithYardsPlan := by
  have ok : compile .standard .usual pointsWithYardsState = .ok pointsWithYardsPlan :=
    ok_of_is_ok _ _ (by decide +kernel)
  have bound : boundUses .standard pointsWithYardsState = .ok pointsWithYardsUses :=
    ok_of_is_ok _ _ (by decide +kernel)
  exact ⟨ok, compiled_of_bound .standard .usual _ _ _ bound ok⟩

theorem points_with_yards_unstaged : pointsWithYardsPlan.stages = [] := by
  have direct : ∀ group ∈ pointsWithYardsUses.table.groups, group.source.kind = "direct" := by
    decide +kernel
  rw [points_with_yards_compiled.2.stages]
  refine List.filterMap_eq_nil_iff.mpr fun group joined => ?_
  have kind := direct group (ordered_placed pointsWithYardsUses group joined)
  rw [Stage.of?]
  cases source : group.source with
  | direct relation marketType => rfl
  | fact relation =>
      simp [source, Source.kind] at kind
  | denominator rate numerator =>
      simp [source, Source.kind] at kind

theorem points_lose_a_clause :
    TableState.ofJson .usual pointsWithYards = .ok pointsWithYardsState ∧
    compile .standard .usual pointsWithYardsState = .ok pointsWithYardsPlan ∧
    pointsWithYardsState.filters.length = 1 ∧
    pointsWithYardsPlan.query.filter = none ∧ pointsWithYardsPlan.query.withs = [] ∧
    ¬ DecidesFilters .standard pointsWithYardsState pointsWithYardsPlan := by
  have one : pointsWithYardsState.filters.length = 1 := by decide +kernel
  have late : pointsWithYardsPlan.filters = [] :=
    List.length_eq_zero_iff.mp (by decide +kernel)
  refine ⟨ok_of_is_ok _ _ (by decide +kernel), points_with_yards_compiled.1, one, ?_, ?_, ?_⟩
  · rw [QueryPlan.query, late]
    rfl
  · rw [QueryPlan.query, points_with_yards_unstaged]
    rfl
  · intro decides
    have counted := decides.counted
    rw [late, points_with_yards_unstaged, one] at counted
    cases counted

end Plan

end StatTable
