import StatTable.Catalog.Games
import StatTable.Catalog.Players
import StatTable.Catalog.Plays
import StatTable.Plan.Condition
import StatTable.Plan.Group
import StatTable.Plan.Request
import StatTable.Plan.Resolution

set_option autoImplicit false

namespace StatTable.Plan

structure Target where
  source : Source
  params : Params
  splits : List Split

inductive Binding where
  | player (source : Attribute)
  | direct (target : Target) (column : String)
  | fact (target : Target) (relation : Relation) (id : String) (aggregate : Aggregate)

def denominatorColumn : String := "rate_denominator"

def sourceName : Source → String
  | .fact relation => relation.name
  | .direct relation none => relation.name
  | .direct relation (some marketType) => relation.name ++ ":" ++ marketType
  | .denominator rate _ => rate.name

def sourceAnchor : Source → Option String
  | .denominator _ numerator => some numerator
  | _ => none

namespace Target

def key (target : Target) : GroupKey :=
  ⟨target.source.kind, sourceName target.source, target.params, sourceAnchor target.source⟩

def aliasName (target : Target) : String := target.key.aliasName

def group (target : Target) (firstSeen : Nat) : Group :=
  ⟨target.aliasName, target.source, target.params, target.splits, [], [], false, firstSeen⟩

-- Parameters that restrict the denominator of a rate as they do its numerator.
def scopesDenominator (rate : Rate) : ParamKey → Bool
  | .year | .week | .seasonType => true
  | key => rate.countsTeamPlays && Catalog.situationKeys.contains key

end Target

def Group.denominator (group : Group) (rate : Rate) : Target :=
  ⟨.denominator rate group.aliasName, group.params.filter (Target.scopesDenominator rate),
    group.splits⟩

def commonSplits (splits : List Split) (relation : Relation) : List Split :=
  Split.all.filter fun split => splits.contains split && (relation.splitColumn split).isSome

def onColumn {α : Type} (id : String) (result : Except ParamProblem α) : Except CompileError α :=
  result.mapError (.param id)

def bindDirect (defaults : Defaults) (splits : List Split) (request : Request)
    (relation : Relation) (marketType : Option String) : Except CompileError Target := do
  let common := commonSplits splits relation
  let params ← onColumn request.column.id (resolve relation common defaults request.params)
  let single ← onColumn request.column.id (requireSingleValues common params)
  return ⟨.direct relation marketType, single, common⟩

def bind (defaults : Defaults) (splits : List Split) (request : Request) :
    Except CompileError Binding :=
  match request.column.kind with
  | .player source => .ok (.player source)
  | .materialized relation column => do
      return .direct (← bindDirect defaults splits request relation none) column
  | .market relation marketType column => do
      return .direct (← bindDirect defaults splits request relation (some marketType)) column
  | .fact relation aggregate => do
      let common := commonSplits splits relation
      let params ← onColumn request.column.id (resolve relation common defaults request.params)
      return .fact ⟨.fact relation, params, common⟩ relation request.column.id aggregate

namespace Binding

def target? : Binding → Option Target
  | .player _ => none
  | .direct target _ | .fact target _ _ _ => some target

def normalize (table : GroupTable) (aliasName : String) (rate : Option Rate) (whole : Sql.Expr) :
    Sql.Expr :=
  match rate, table.get? aliasName with
  | some rate, some group =>
      ratioExpr whole (.field (group.denominator rate).aliasName denominatorColumn)
  | _, _ => whole

def value (table : GroupTable) (rate : Option Rate) : Binding → Sql.Expr
  | .player source => source.expr Catalog.playerTable
  | .direct target column => .field target.aliasName column
  | .fact target _ id _ =>
      normalize table target.aliasName rate (.field target.aliasName id)

end Binding

structure BoundSelect where
  select : Select
  binding : Binding

structure BoundFilter where
  filter : Filter
  binding : Binding

def BoundSelect.value (table : GroupTable) (bound : BoundSelect) : Sql.Expr :=
  bound.binding.value table bound.select.request.rate

namespace BoundFilter

-- A filter on an aggregate is decided while the rows are aggregated, unless it is on a rate or also
-- holds for players without rows.
def isEarly (bound : BoundFilter) : Bool :=
  match bound.binding with
  | .fact .. =>
      bound.filter.request.rate.isNone && !bound.filter.operator.matchesMissing
  | _ => false

def restricts (bound : BoundFilter) : Bool := !bound.filter.operator.matchesMissing

def condition? (table : GroupTable) (bound : BoundFilter) : Option Sql.Expr :=
  if bound.isEarly then none
  else
    some (filterCondition (bound.binding.value table bound.filter.request.rate)
      bound.filter.operator bound.filter.operand)

end BoundFilter

namespace GroupTable

def placeDenominator (table : GroupTable) (aliasName : String) (rate : Rate) : GroupTable :=
  match table.get? aliasName with
  | some group => table.insert ((group.denominator rate).group group.firstSeen)
  | none => table

def placeAggregate (table : GroupTable) (target : Target) (id : String) (aggregate : Aggregate)
    (rate : Option Rate) : GroupTable :=
  let required := table.update target.aliasName (Group.requireAggregate id aggregate)
  match rate with
  | some rate => required.placeDenominator target.aliasName rate
  | none => required

def placeTarget (table : GroupTable) (binding : Binding) (request : Request) : GroupTable :=
  match binding.target? with
  | some target => table.insert (target.group request.place)
  | none => table

def placeSelect (table : GroupTable) (bound : BoundSelect) : GroupTable :=
  let request := bound.select.request
  let placed := table.placeTarget bound.binding request
  match bound.binding with
  | .fact target _ id aggregate => placed.placeAggregate target id aggregate request.rate
  | _ => placed

def placeCondition (table : GroupTable) (bound : BoundFilter) : GroupTable :=
  match bound.binding with
  | .fact target relation id aggregate =>
      if bound.isEarly then
        let condition := filterCondition (aggregate.expr relation.table) bound.filter.operator
          bound.filter.operand
        table.update target.aliasName (Group.addHaving condition)
      else table.placeAggregate target id aggregate bound.filter.request.rate
  | _ => table

-- The groups that a filter reads. One that no player without rows can satisfy restricts its group.
def placeFilter (table : GroupTable) (bound : BoundFilter) : GroupTable :=
  let placed := (table.placeTarget bound.binding bound.filter.request).placeCondition bound
  match bound.binding.target? with
  | some target =>
      if bound.restricts then placed.update target.aliasName Group.restrict else placed
  | none => placed

end GroupTable

structure Bindings where
  selects : List BoundSelect
  filters : List BoundFilter

def Bindings.of (defaults : Defaults) (splits : List Split) (requests : Requests) :
    Except CompileError Bindings := do
  let selects ← requests.selects.mapM fun select =>
    (bind defaults splits select.request).map fun binding => (⟨select, binding⟩ : BoundSelect)
  let filters ← requests.filters.mapM fun filter =>
    (bind defaults splits filter.request).map fun binding => (⟨filter, binding⟩ : BoundFilter)
  return ⟨selects, filters⟩

def Bindings.table (bindings : Bindings) : GroupTable :=
  bindings.filters.foldl .placeFilter (bindings.selects.foldl .placeSelect .empty)

end StatTable.Plan
