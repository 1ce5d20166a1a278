import StatTable.Plan.Stage

set_option autoImplicit false

namespace StatTable

inductive OutputKind where
  | entity
  | split (dimension : Split)
  | column (id : String) (occurrence : Nat)
deriving DecidableEq

structure Output where
  name : String
  kind : OutputKind
  expr : Sql.Expr

structure PlannedJoin where
  aliasName : String
  kind : String
  join : Sql.Join

structure QueryPlan where
  stages : List Plan.Stage
  base : Sql.TableRef
  joins : List PlannedJoin
  outputs : List Output
  filters : List Sql.Expr
  groupBy : List Sql.Expr
  orderBy : List Sql.Ordering
  limit : UInt64
  offset : UInt64

namespace QueryPlan

def outputNames (plan : QueryPlan) : List String := plan.outputs.map (·.name)

def positionOf? (plan : QueryPlan) (id : String) (occurrence : Nat) : Option Nat :=
  (plan.outputs.findIdx? fun output => output.kind == .column id occurrence).map (· + 1)

def joinKindName : Sql.JoinKind → String
  | .inner => "inner"
  | .left => "left"

def joinJson (join : PlannedJoin) : Json.Value :=
  .object [("alias", .string join.aliasName), ("kind", .string join.kind),
    ("join_type", .string (joinKindName join.join.kind))]

def kindMembers : OutputKind → List (String × Json.Value)
  | .entity => [("type", .string "entity")]
  | .split dimension => [("type", .string "split"), ("dimension", .string dimension.name)]
  | .column id occurrence => [("type", .string "column"), ("column_id", .string id),
      ("occurrence", .number (.integer occurrence))]

def outputJson (output : Output) : Json.Value :=
  .object (("name", .string output.name) :: kindMembers output.kind)

def summary (plan : QueryPlan) : Json.Value :=
  .object [("stages", .array (plan.stages.map fun stage => .string stage.name)),
    ("joins", .array (plan.joins.map joinJson)),
    ("columns", .array (plan.outputs.map outputJson)),
    ("limit", .number (.integer plan.limit.toNat)),
    ("offset", .number (.integer plan.offset.toNat))]

end QueryPlan

end StatTable
