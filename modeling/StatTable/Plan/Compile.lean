import StatTable.Plan.Basic
import StatTable.Plan.JoinOrder
import StatTable.Plan.SplitChain
import StatTable.Catalog.Markets

set_option autoImplicit false

namespace StatTable.Plan

def playerKeyExpr : Sql.Expr := .field Catalog.playerTable Catalog.playerKey

def entityExpr (group : Group) : Sql.Expr :=
  match group.source with
  | .direct relation _ => .field group.aliasName relation.entityColumn
  | .fact _ | .denominator .. => .field group.aliasName Catalog.playerKey

def joinTable (group : Group) : Sql.TableRef :=
  match group.source with
  | .direct relation _ => ⟨relation.table, some group.aliasName⟩
  | .fact _ | .denominator .. => ⟨group.aliasName, none⟩

def directConditions (group : Group) (relation : Relation) (marketType : Option String) :
    List Sql.Expr :=
  paramConditions relation group.params group.aliasName ++
    fixedConditions relation group.aliasName ++
    marketType.toList.map fun type => .eq (.field group.aliasName Catalog.marketType) (.string type)

def tieConditions (ordered : List Group) (chain : SplitChain) (group : Group) : List Sql.Expr :=
  match group.source with
  | .denominator _ numerator =>
      match ordered.find? (·.aliasName == numerator) with
      | some other => denominatorConditions group other
      | none => []
  | _ => chain.conditions group

def sourceConditions (group : Group) : List Sql.Expr :=
  match group.source with
  | .direct relation marketType => directConditions group relation marketType
  | _ => []

def joinConditions (ordered : List Group) (chain : SplitChain) (group : Group) : List Sql.Expr :=
  .eq (entityExpr group) playerKeyExpr ::
    (sourceConditions group ++ tieConditions ordered chain group)

def planJoin (ordered : List Group) (chain : SplitChain) (group : Group) : PlannedJoin :=
  let on := (Sql.Expr.conjunction (joinConditions ordered chain group)).getD
    (.isNull true playerKeyExpr)
  ⟨group.aliasName, group.source.kind, ⟨group.joinKind, joinTable group, on⟩⟩

-- A denominator follows its numerator and adds nothing to the chain.
def extendChain (chain : SplitChain) (group : Group) : SplitChain :=
  if group.isDenominator then chain else chain.place group

def planJoins (ordered : List Group) : SplitChain → List Group → List PlannedJoin
  | _, [] => []
  | chain, group :: rest =>
      planJoin ordered chain group :: planJoins ordered (extendChain chain group) rest

def leadingOutputs (splits : List Split) (chain : SplitChain) : List Output :=
  ⟨Catalog.playerKey, .entity, playerKeyExpr⟩ ::
    splits.filterMap fun split =>
      (chain.output? split).map fun value => ⟨split.name, .split split, value⟩

def columnOutput (table : GroupTable) (bound : BoundSelect) : Output :=
  ⟨bound.select.name, .column bound.select.request.column.id bound.select.occurrence,
    bound.value table⟩

def orderTerm (position : Nat) (descending : Bool) : Sql.Ordering :=
  ⟨.integer (Int64.ofNat position), some (if descending then .desc else .asc), some .last⟩

def sortTerm (selects : List Select) (leading : Nat) (clause : SortClause) :
    Except CompileError Sql.Ordering :=
  match findUse? clause.id clause.occurrence.toNat selects with
  | some index => .ok (orderTerm (leading + index + 1) clause.descending)
  | none => .error (.unknownSortOccurrence clause.id clause.occurrence)

-- The order of the rows: the clauses first, then the leading columns, which settle what the clauses
-- leave open.
def orderTerms (sorts : List SortClause) (selects : List Select) (leading : Nat) :
    Except CompileError (List Sql.Ordering) := do
  let terms ← sorts.mapM (sortTerm selects leading)
  return terms ++ (List.range leading).map fun index => orderTerm (index + 1) false

def canonicalSplits (splits : List Split) : List Split :=
  Split.all.filter splits.contains

def compile (defaults : Defaults) (limits : Limits) (state : TableState) :
    Except CompileError QueryPlan := do
  let requests ← Requests.ofState state
  let splits := canonicalSplits state.splits
  let bindings ← Bindings.of defaults splits requests
  let table := bindings.table
  let ordered := joinOrder table.groups
  let chain := ordered.foldl extendChain .empty
  let leading := leadingOutputs splits chain
  let outputs := leading ++ bindings.selects.map (columnOutput table)
  let orderBy ← orderTerms state.sorts requests.selects leading.length
  return {
    stages := ordered.filterMap Stage.of?
    base := ⟨Catalog.playerTable, none⟩
    joins := planJoins ordered .empty ordered
    outputs := outputs
    filters := bindings.filters.filterMap (·.condition? table)
    groupBy := (outputs.map (·.expr)).filter (!·.isAggregate)
    orderBy := orderBy
    limit := state.limit.getD limits.standard
    offset := state.offset }

end StatTable.Plan
