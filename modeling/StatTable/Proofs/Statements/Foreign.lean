import StatTable.Proofs.Statements.Alike

set_option autoImplicit false

namespace StatTable

def understands (id : String) (key : ParamKey) : Bool :=
  key == .rateType ||
    ((Catalog.lookup id).bind fun column => column.kind.relation?).any (·.accepts key)

def AgreeOnUnderstood (id : String) (params others : Params) : Prop :=
  ∀ key, understands id key = true → params.get? key = others.get? key

structure ForeignColumns (one other : ColumnSpec) : Prop where
  id : one.id = other.id
  params : AgreeOnUnderstood one.id one.params other.params

structure ForeignFilters (one other : FilterClause) : Prop where
  id : one.id = other.id
  operator : one.operator = other.operator
  operand : one.operand = other.operand
  params : AgreeOnUnderstood one.id one.params other.params

structure ForeignSorts (one other : SortClause) : Prop where
  id : one.id = other.id
  occurrence : one.occurrence = other.occurrence
  descending : one.descending = other.descending
  params : AgreeOnUnderstood one.id one.params other.params

structure DifferInForeign (one other : TableState) : Prop where
  leading : List.Forall₂ ForeignColumns one.leading other.leading
  columns : List.Forall₂ ForeignColumns one.columns other.columns
  filters : List.Forall₂ ForeignFilters one.filters other.filters
  sorts : List.Forall₂ ForeignSorts one.sorts other.sorts
  splits : one.splits = other.splits
  offset : one.offset = other.offset
  limit : one.limit = other.limit

namespace Plan

theorem resolve_understood (relation : Relation) (splits : List Split) (defaults : Defaults)
    (params others : Params)
    (agree : ∀ key, relation.accepts key = true → params.get? key = others.get? key) :
    resolve relation splits defaults params = resolve relation splits defaults others := by
  have kept : params.filter relation.accepts = others.filter relation.accepts := by
    refine Params.ext fun key => ?_
    by_cases accepted : relation.accepts key = true
    · simp only [Params.filter, accepted, if_true, agree key accepted]
    · simp [Params.filter, accepted]
  unfold resolve
  rw [kept]

theorem foreign_same_use (defaults : Defaults) (splits : List Split) (id : String)
    (params others : Params) (agree : AgreeOnUnderstood id params others) :
    SameUse defaults splits id params others := by
  refine same_use defaults splits id params others (agree .rateType rfl)
    fun column relation found read => ?_
  refine resolve_understood relation _ defaults _ _ fun key accepted => ?_
  have same := agree key (by simp [understands, found, read, accepted])
  simp only [Params.erase, same]

theorem foreign_alike (defaults : Defaults) (one other : TableState)
    (differ : DifferInForeign one other) : AlikeStates defaults one other where
  leading := differ.leading.imp fun _ _ specs =>
    ⟨specs.id, foreign_same_use defaults _ _ _ _ specs.params⟩
  columns := differ.columns.imp fun _ _ specs =>
    ⟨specs.id, foreign_same_use defaults _ _ _ _ specs.params⟩
  filters := differ.filters.imp fun _ _ clauses => ⟨clauses.id, clauses.operator,
    clauses.operand, foreign_same_use defaults _ _ _ _ clauses.params⟩
  sorts := differ.sorts.imp fun _ _ clauses => ⟨clauses.id, clauses.occurrence,
    clauses.descending, foreign_same_use defaults _ _ _ _ clauses.params⟩
  splits := differ.splits
  offset := differ.offset
  limit := differ.limit

end Plan

theorem Statement.foreign_parameters_unread (options : Options) (one other : TableState)
    (differ : DifferInForeign one other) : ofState options one = ofState options other := by
  unfold ofState
  rw [Plan.compile_alike options.defaults options.limits one other
    (Plan.foreign_alike options.defaults one other differ)]

def quietState : TableState where
  leading := [⟨"player_name", .empty⟩]
  columns := [⟨"rush_yards", .ofList [(.year, .scalar (.integer 2023)),
    (.rateType, .scalar (.text "per_game"))]⟩]
  filters := [⟨"targets", .gte, some (.scalar (.integer 2)), .empty⟩]
  sorts := [⟨"fantasy_points", 0, true, .empty⟩]
  splits := [.year]
  offset := 0
  limit := none

def noisyState : TableState :=
  { quietState with
    leading := [⟨"player_name", .ofList [(.yearOffset, .scalar (.text "x"))]⟩]
    columns := [⟨"rush_yards", .ofList [(.year, .scalar (.integer 2023)), (.source, .list []),
      (.rateType, .scalar (.text "per_game"))]⟩]
    filters := [⟨"targets", .gte, some (.scalar (.integer 2)),
      .ofList [(.scoringFormat, .range (some (.integer 9)) (some (.integer 1)))]⟩]
    sorts := [⟨"fantasy_points", 0, true, .ofList [(.week, .list [])]⟩] }

theorem noisy_differs_in_foreign : DifferInForeign noisyState quietState where
  leading := .cons ⟨rfl, fun key => by cases key <;> decide +kernel⟩ .nil
  columns := .cons ⟨rfl, fun key => by cases key <;> decide +kernel⟩ .nil
  filters := .cons ⟨rfl, rfl, rfl, fun key => by cases key <;> decide +kernel⟩ .nil
  sorts := .cons ⟨rfl, rfl, rfl, fun key => by cases key <;> decide +kernel⟩ .nil
  splits := rfl
  offset := rfl
  limit := rfl

theorem Statement.noisy_as_quiet : ∃ statement,
    ofState .standard noisyState = .ok statement ∧ ofState .standard quietState = .ok statement := by
  have compiled : (ofState .standard quietState).isOk = true := by decide +kernel
  cases read : ofState .standard quietState with
  | error e =>
      rw [read] at compiled
      cases compiled
  | ok statement =>
      have same := foreign_parameters_unread .standard noisyState quietState noisy_differs_in_foreign
      exact ⟨statement, same.trans read, rfl⟩

end StatTable
