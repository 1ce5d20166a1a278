import StatTable.Catalog.Split
import StatTable.Param.Basic
import StatTable.TableState.Operator

set_option autoImplicit false

namespace StatTable

structure ColumnSpec where
  id : String
  params : Params

inductive Operand where
  | scalar (s : Scalar)
  | list (items : List Scalar)
deriving DecidableEq

structure FilterClause where
  id : String
  operator : FilterOperator
  operand : Option Operand
  params : Params

structure SortClause where
  id : String
  occurrence : UInt64
  descending : Bool
  params : Params

structure TableState where
  leading : List ColumnSpec
  columns : List ColumnSpec
  filters : List FilterClause
  sorts : List SortClause
  splits : List Split
  offset : UInt64
  limit : Option UInt64

structure Limits where
  standard : UInt64
  maximum : UInt64
deriving DecidableEq

def Limits.usual : Limits := ⟨500, 1000⟩

namespace TableState

def empty : TableState := ⟨[], [], [], [], [], 0, none⟩

def addLeading (state : TableState) (column : ColumnSpec) : TableState :=
  { state with leading := state.leading ++ [column] }

def addColumn (state : TableState) (column : ColumnSpec) : TableState :=
  { state with columns := state.columns ++ [column] }

def addFilter (state : TableState) (filter : FilterClause) : TableState :=
  { state with filters := state.filters ++ [filter] }

def addSort (state : TableState) (sort : SortClause) : TableState :=
  { state with sorts := state.sorts ++ [sort] }

def addSplit (state : TableState) (split : Split) : TableState :=
  { state with splits := state.splits ++ [split] }

def operandJson : Option Operand → Json.Value
  | none => .null
  | some (.scalar s) => s.toJson
  | some (.list items) => .array (items.map Scalar.toJson)

def columnJson (column : ColumnSpec) : Json.Value :=
  .ofMembers [("column_id", .string column.id), ("params", column.params.toJson)]

def filterJson (filter : FilterClause) : Json.Value :=
  .ofMembers [("column_id", .string filter.id), ("operator", .string filter.operator.text),
    ("value", operandJson filter.operand), ("params", filter.params.toJson)]

def sortJson (sort : SortClause) : Json.Value :=
  .ofMembers [("column_id", .string sort.id),
    ("column_index", .number (.integer sort.occurrence.toNat)), ("desc", .bool sort.descending),
    ("params", sort.params.toJson)]

def limitJson : Option UInt64 → Json.Value
  | some n => .number (.integer n.toNat)
  | none => .null

def toJson (state : TableState) : Json.Value :=
  .ofMembers [("prefix_columns", .array (state.leading.map columnJson)),
    ("columns", .array (state.columns.map columnJson)),
    ("where", .array (state.filters.map filterJson)),
    ("sort", .array (state.sorts.map sortJson)),
    ("splits", .array (state.splits.map fun split => .string split.name)),
    ("offset", .number (.integer state.offset.toNat)), ("limit", limitJson state.limit)]

end TableState

end StatTable
