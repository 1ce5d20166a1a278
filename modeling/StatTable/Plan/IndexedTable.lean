import StatTable.Plan.Binding
import Std.Data.HashMap

set_option autoImplicit false

namespace StatTable.Plan

open Sql

structure IndexedTable where
  groups : List Group
  index : Std.HashMap String Nat

inductive Fault where
  | refused (error : CompileError)
  | unplaced (aliasName : String)

-- What is done to the groups stays done if binding stops later.
abbrev Binder := EStateM Fault IndexedTable

namespace IndexedTable

def empty : IndexedTable := ⟨[], ∅⟩

def table (indexed : IndexedTable) : GroupTable := ⟨indexed.groups⟩

def find? (indexed : IndexedTable) (aliasName : String) : Option (Nat × Group) := do
  let i ← indexed.index[aliasName]?
  let group ← indexed.groups[i]?
  return (i, group)

def insert (indexed : IndexedTable) (group : Group) : IndexedTable :=
  if indexed.index.contains group.aliasName then indexed
  else ⟨indexed.groups ++ [group], indexed.index.insert group.aliasName indexed.groups.length⟩

def modify (indexed : IndexedTable) (i : Nat) (change : Group → Group) : IndexedTable :=
  { indexed with groups := indexed.groups.modify i change }

end IndexedTable

namespace Binder

def find (aliasName : String) : Binder (Nat × Group) := do
  match (← get).find? aliasName with
  | some placed => return placed
  | none => throw (.unplaced aliasName)

def insert (group : Group) : Binder Unit := modify (·.insert group)

def update (aliasName : String) (change : Group → Group) : Binder Unit := do
  let (i, _) ← find aliasName
  modify (·.modify i change)

def place (defaults : Defaults) (splits : List Split) (request : Request) : Binder Binding :=
  match bind defaults splits request with
  | .error error => throw (.refused error)
  | .ok binding => do
      match binding.target? with
      | some target => insert (target.group request.place)
      | none => pure ()
      return binding

def placeDenominator (numerator : String) (rate : Rate) : Binder String := do
  let (_, group) ← find numerator
  let denominator : Target := ⟨.denominator rate numerator,
    group.params.filter (Target.scopesDenominator rate), group.splits⟩
  insert (denominator.group group.firstSeen)
  return denominator.aliasName

def readAggregate (target : Target) (id : String) (aggregate : Aggregate) (rate : Option Rate) :
    Binder Expr := do
  update target.aliasName (.requireAggregate id aggregate)
  let whole : Expr := .field target.aliasName id
  match rate with
  | some rate => do
      let denominator ← placeDenominator target.aliasName rate
      return ratioExpr whole (.field denominator denominatorColumn)
  | none => return whole

def bindValue (defaults : Defaults) (splits : List Split) (request : Request) : Binder Expr := do
  match ← place defaults splits request with
  | .player source => return source.expr Catalog.playerTable
  | .direct target column => return .field target.aliasName column
  | .fact target _ id aggregate => readAggregate target id aggregate request.rate

def bindCondition (filter : Filter) : Binding → Binder (Option Expr)
  | .player source => return some (filterCondition (source.expr Catalog.playerTable) filter.operator
      filter.operand)
  | .direct target column => return some (filterCondition (.field target.aliasName column)
      filter.operator filter.operand)
  | .fact target relation id aggregate =>
      if filter.request.rate.isSome || filter.operator.matchesMissing then do
        let value ← readAggregate target id aggregate filter.request.rate
        return some (filterCondition value filter.operator filter.operand)
      else do
        update target.aliasName (.addHaving
          (filterCondition (aggregate.expr relation.table) filter.operator filter.operand))
        return none

def bindFilter (defaults : Defaults) (splits : List Split) (filter : Filter) :
    Binder (Option Expr) := do
  let binding ← place defaults splits filter.request
  let condition ← bindCondition filter binding
  match binding.target? with
  | some target =>
      if !filter.operator.matchesMissing then update target.aliasName .restrict
  | none => pure ()
  return condition

end Binder

inductive Call where
  | value (select : Select)
  | filter (filter : Filter)

inductive BoundCall where
  | value (bound : BoundSelect)
  | filter (bound : BoundFilter)

namespace Call

def request : Call → Request
  | .value shown => shown.request
  | .filter tested => tested.request

def bound (binding : Binding) : Call → BoundCall
  | .value shown => .value ⟨shown, binding⟩
  | .filter tested => .filter ⟨tested, binding⟩

def run (defaults : Defaults) (splits : List Split) : Call → Binder (Option Expr)
  | .value shown => do return some (← Binder.bindValue defaults splits shown.request)
  | .filter tested => Binder.bindFilter defaults splits tested

end Call

namespace BoundCall

def binding : BoundCall → Binding
  | .value bound => bound.binding
  | .filter bound => bound.binding

def request : BoundCall → Request
  | .value bound => bound.select.request
  | .filter bound => bound.filter.request

def place (table : GroupTable) : BoundCall → GroupTable
  | .value bound => table.placeSelect bound
  | .filter bound => table.placeFilter bound

def reading? (table : GroupTable) : BoundCall → Option Expr
  | .value bound => some (bound.value table)
  | .filter bound => bound.condition? table

def select? : BoundCall → Option BoundSelect
  | .value bound => some bound
  | .filter _ => none

def filter? : BoundCall → Option BoundFilter
  | .value _ => none
  | .filter bound => some bound

end BoundCall

def Bindings.ofCalls (calls : List BoundCall) : Bindings :=
  ⟨calls.filterMap (·.select?), calls.filterMap (·.filter?)⟩

def Requests.calls (requests : Requests) : List Call :=
  requests.selects.map .value ++ requests.filters.map .filter

def reached (defaults : Defaults) (splits : List Split) (calls : List Call) : IndexedTable :=
  match calls.mapM (Call.run defaults splits) .empty with
  | .ok _ next | .error _ next => next

end StatTable.Plan
