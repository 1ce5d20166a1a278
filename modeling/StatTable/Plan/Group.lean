import StatTable.Catalog.Column
import StatTable.Plan.GroupKey
import StatTable.Sql.Query

set_option autoImplicit false

namespace StatTable.Plan

inductive Source where
  | fact (relation : Relation)
  | direct (relation : Relation) (marketType : Option String)
  | denominator (rate : Rate) (numerator : String)
deriving DecidableEq

def Source.kind : Source → String
  | .fact _ => "fact"
  | .direct .. => "direct"
  | .denominator .. => "rate"

structure Group where
  aliasName : String
  source : Source
  params : Params
  splits : List Split
  aggregates : List (String × Aggregate)
  having : List Sql.Expr
  -- Whether a filter rejects players without a row in the group.
  restricting : Bool
  firstSeen : Nat

namespace Group

def isDenominator (group : Group) : Bool :=
  match group.source with
  | .denominator .. => true
  | _ => false

def isDenominatorOf (group : Group) (aliasName : String) : Bool :=
  match group.source with
  | .denominator _ numerator => numerator == aliasName
  | _ => false

def joinKind (group : Group) : Sql.JoinKind :=
  if group.restricting then .inner else .left

def yearOffset (group : Group) : Int64 :=
  ((group.params.get? .yearOffset).bind ParamValue.toInt64?).getD 0

def splitColumn (group : Group) (split : Split) : Option String :=
  if group.splits.contains split then
    match group.source with
    | .direct relation _ => relation.splitColumn split
    | .fact _ | .denominator .. => some split.name
  else none

def requireAggregate (id : String) (aggregate : Aggregate) (group : Group) : Group :=
  if group.aggregates.any (·.1 == id) then group
  else { group with aggregates := group.aggregates ++ [(id, aggregate)] }

def addHaving (condition : Sql.Expr) (group : Group) : Group :=
  { group with having := group.having ++ [condition] }

def restrict (group : Group) : Group := { group with restricting := true }

end Group

structure GroupTable where
  groups : List Group

namespace GroupTable

def empty : GroupTable := ⟨[]⟩

def indexOf? (table : GroupTable) (aliasName : String) : Option Nat :=
  table.groups.findIdx? (·.aliasName == aliasName)

def get? (table : GroupTable) (aliasName : String) : Option Group :=
  (table.indexOf? aliasName).bind fun i => table.groups[i]?

def insert (table : GroupTable) (group : Group) : GroupTable :=
  match table.indexOf? group.aliasName with
  | some _ => table
  | none => ⟨table.groups ++ [group]⟩

def update (table : GroupTable) (aliasName : String) (change : Group → Group) : GroupTable :=
  match table.indexOf? aliasName with
  | some i => ⟨table.groups.modify i change⟩
  | none => table

end GroupTable

end StatTable.Plan
