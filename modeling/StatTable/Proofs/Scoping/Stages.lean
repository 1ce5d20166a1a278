import StatTable.Plan.Stage
import StatTable.Proofs.Joins.Matching

set_option autoImplicit false

namespace StatTable.Plan

open Sql

theorem operand_fields (operand : Option Operand) : (operandExpr operand).fields = [] := by
  cases operand with
  | none => exact Expr.fields_literal _
  | some operand =>
      cases operand with
      | scalar s => exact scalar_fields s
      | list items =>
          cases items with
          | nil => exact Expr.fields_literal _
          | cons s rest => exact scalar_fields s

theorem operands_fields (operand : Option Operand) : fieldsOfEach (operandExprs operand) = [] := by
  cases operand with
  | none => rfl
  | some operand =>
      cases operand with
      | scalar s => simp [operandExprs, fieldsOfEach, scalar_fields]
      | list items => exact scalars_fields items

theorem filter_condition_fields (target : Expr) (operator : FilterOperator)
    (operand : Option Operand) : (filterCondition target operator operand).fields = target.fields := by
  cases operator <;> simp [filterCondition, Expr.fields, operand_fields, operands_fields]

theorem ratio_fields (num den : Expr) : (ratioExpr num den).fields = num.fields ++ den.fields := by
  simp [ratioExpr, Expr.nullIf, Expr.function, Expr.integer, Expr.fields, fieldsOfEach]

theorem or_zero_within (table column : String) :
    (Aggregate.orZero table column).Within (· = table) := by
  intro field read
  simp only [Aggregate.orZero, Expr.mem_fields_coalesce, List.mem_cons, List.not_mem_nil, or_false,
    exists_eq_or_imp, exists_eq_left, Expr.integer, Expr.fields_field, Expr.fields_literal] at read
  rw [read]

theorem sum_of_within (table : String) (rest : List String) (first : Expr)
    (within : first.Within (· = table)) : (rest.foldl (fun total column =>
      .binary .plus total (Aggregate.orZero table column)) first).Within (· = table) := by
  induction rest generalizing first with
  | nil => exact within
  | cons column rest ih =>
      refine ih _ fun field read => ?_
      rw [Expr.fields, List.mem_append] at read
      exact read.elim (within field) (or_zero_within table column field)

theorem aggregate_within (table : String) (aggregate : Aggregate) :
    (aggregate.expr table).Within (· = table) := by
  induction aggregate with
  | sum column => simp [Expr.Within, Aggregate.expr, Expr.sum, Expr.function, Expr.fields, fieldsOfEach]
  | sumOf first rest =>
      intro field read
      rw [Aggregate.expr, Expr.sum, Expr.function, Expr.fields, fieldsOfEach, fieldsOfEach,
        List.append_nil] at read
      exact sum_of_within table rest _ (or_zero_within table first) field read
  | count => simp [Expr.Within, Aggregate.expr, Expr.countRows, Expr.function, Expr.fields, fieldsOfEach]
  | countDistinct column =>
      simp [Expr.Within, Aggregate.expr, Expr.countDistinct, Expr.fields, fieldsOfEach]
  | ratio num den numIh denIh =>
      intro field read
      rw [Aggregate.expr, ratio_fields, List.mem_append] at read
      exact read.elim (numIh field) (denIh field)

theorem row_conditions_within (relation : Relation) (params : Params) (table : String) :
    ∀ condition ∈ Stage.rowConditions relation params table, condition.Within (· = table) := by
  intro condition member
  rcases List.mem_cons.mp member with rfl | listed
  · simp [Expr.Within, Expr.fields]
  · rcases List.mem_append.mp listed with fixed | param
    · exact fixed_conditions_within relation table condition fixed
    · exact param_conditions_within relation params table condition param

theorem keys_within (relation : Relation) (splits : List Split) (table : String) :
    ∀ key ∈ Stage.keysOf relation splits table, key.expr.Within (· = table) := by
  intro key member
  rcases List.mem_cons.mp member with rfl | listed
  · simp [Expr.Within]
  · obtain ⟨split, _, made⟩ := List.mem_filterMap.mp listed
    obtain ⟨column, _, rfl⟩ := Option.map_eq_some_iff.mp made
    simp [Expr.Within]

theorem play_conditions_within (rate : Rate) (params : Params) :
    ∀ condition ∈ Stage.playConditions rate params, condition.Within (· = Stage.playsAlias) := by
  intro condition member
  rcases List.mem_append.mp member with type | situation
  · obtain ⟨name, _, rfl⟩ := List.mem_map.mp type
    simp [Expr.Within, Expr.string]
  · obtain ⟨key, _, made⟩ := List.mem_filterMap.mp situation
    obtain ⟨value, _, rfl⟩ := Option.map_eq_some_iff.mp made
    simp [Expr.Within, param_condition_fields]

namespace Stage

def exprs (stage : Stage) : List Expr :=
  (stage.keys ++ stage.aggregates).map (·.expr) ++ stage.joins.map (·.on) ++ stage.conditions ++
    stage.having

def tables (stage : Stage) : List String :=
  stage.source.scopeName :: stage.joins.map (·.table.scopeName)

def shown (stage : Stage) : List (Option String) := stage.query.selections.map (·.outputName)

def Scoped (stage : Stage) : Prop :=
  (∀ join ∈ stage.joins, join.kind = .inner) ∧ ∀ expr ∈ stage.exprs, expr.Within (· ∈ stage.tables)

end Stage

theorem within_mono (expr : Expr) (Allowed Wider : String → Prop) (within : expr.Within Allowed)
    (wider : ∀ table, Allowed table → Wider table) : expr.Within Wider :=
  fun field read => wider _ (within field read)

theorem fact_scoped (group : Group) (relation : Relation)
    (having : ∀ condition ∈ group.having, condition.Within (· = relation.table)) :
    (Stage.ofFact group relation).Scoped := by
  refine ⟨by simp [Stage.ofFact], fun expr member => ?_⟩
  refine within_mono expr (· = relation.table) _ ?_ ?_
  · simp only [Stage.exprs, Stage.ofFact, List.map_append, List.mem_append, List.map_nil,
      List.not_mem_nil, or_false] at member
    rcases member with ((key | aggregate) | condition) | filter
    · obtain ⟨selection, listed, rfl⟩ := List.mem_map.mp key
      exact keys_within relation _ _ selection listed
    · obtain ⟨selection, listed, rfl⟩ := List.mem_map.mp aggregate
      obtain ⟨entry, _, rfl⟩ := List.mem_map.mp listed
      exact aggregate_within relation.table entry.2
    · exact row_conditions_within relation _ _ expr condition
    · exact having expr filter
  · rintro table rfl
    exact List.mem_cons_self

section

variable (group : Group) (rate : Rate) (plays : rate.countsTeamPlays = true)

include plays

theorem plays_joined : Stage.playsAlias ∈ (Stage.ofDenominator group rate).tables := by
  simp [Stage.tables, Stage.ofDenominator, plays, Stage.teamPlays, TableRef.scopeName]

theorem team_plays_within :
    Stage.teamPlays.on.Within (· ∈ (Stage.ofDenominator group rate).tables) := by
  have games : Stage.gamesAlias ∈ (Stage.ofDenominator group rate).tables := List.mem_cons_self
  have joined := plays_joined group rate plays
  intro field read
  simp only [Stage.teamPlays, Expr.and, Expr.fields, Expr.fields_eq, Expr.fields_field,
    List.mem_append, List.mem_singleton] at read
  rcases read with (rfl | rfl) | rfl | rfl
  · exact joined
  · exact games
  · exact joined
  · exact games

end

theorem denominator_scoped (group : Group) (rate : Rate) :
    (Stage.ofDenominator group rate).Scoped := by
  have games : ∀ expr : Expr, expr.Within (· = Stage.gamesAlias) →
      expr.Within (· ∈ (Stage.ofDenominator group rate).tables) := fun expr within =>
    within_mono expr _ _ within (by
      rintro table rfl
      exact List.mem_cons_self)
  refine ⟨fun join member => ?_, fun expr member => ?_⟩
  · unfold Stage.ofDenominator at member
    split at member
    · rw [List.mem_singleton.mp member]
      rfl
    · simp at member
  · simp only [Stage.exprs, List.map_append, List.mem_append] at member
    rcases member with (((key | aggregate) | on) | condition) | filter
    · obtain ⟨selection, listed, rfl⟩ := List.mem_map.mp key
      exact games _ (keys_within Catalog.gamelogs _ _ selection listed)
    · refine games _ ?_
      simp only [Stage.ofDenominator, List.map_cons, List.map_nil, List.mem_singleton] at aggregate
      rw [aggregate]
      split <;> simp [Expr.Within, Expr.countRows, Expr.countDistinct, Expr.function, Expr.fields,
        fieldsOfEach]
    · cases team : rate.countsTeamPlays with
      | false => simp [Stage.ofDenominator, team] at on
      | true =>
          obtain rfl : expr = Stage.teamPlays.on := by simpa [Stage.ofDenominator, team] using on
          exact team_plays_within group rate team
    · rcases List.mem_append.mp condition with row | play
      · exact games expr (row_conditions_within Catalog.gamelogs _ _ expr row)
      · cases team : rate.countsTeamPlays with
        | false => simp [team] at play
        | true =>
            rw [team, if_pos rfl] at play
            refine within_mono expr _ _ (play_conditions_within rate _ expr play) ?_
            rintro table rfl
            exact plays_joined group rate team
    · simp [Stage.ofDenominator] at filter

end StatTable.Plan
