import StatTable.Catalog.Rate
import StatTable.Catalog.Relation

set_option autoImplicit false

namespace StatTable

inductive DataType where
  | text
  | integer
  | decimal
deriving DecidableEq

def DataType.name : DataType → String
  | .text => "text"
  | .integer => "integer"
  | .decimal => "decimal"

structure Attribute where
  first : String
  rest : List String

inductive Aggregate where
  | sum (column : String)
  | sumOf (first : String) (rest : List String)
  | count
  | countDistinct (column : String)
  | ratio (num den : Aggregate)

def ratioExpr (num den : Sql.Expr) : Sql.Expr :=
  .binary .over (.binary .times num (.literal (.binary (Binary64.ofInt 1))))
    (.nullIf den (.integer 0))

namespace Attribute

def expr (source : Attribute) (table : String) : Sql.Expr :=
  source.rest.foldl
    (fun joined name =>
      .binary .concat (.binary .concat joined (.string " ")) (.field table name))
    (.field table source.first)

end Attribute

namespace Aggregate

def orZero (table column : String) : Sql.Expr :=
  .coalesce [.field table column, .integer 0]

def expr (table : String) : Aggregate → Sql.Expr
  | .sum column => .sum (.field table column)
  | .sumOf first rest =>
      .sum (rest.foldl (fun total column => .binary .plus total (orZero table column))
        (orZero table first))
  | .count => .countRows
  | .countDistinct column => .countDistinct (.field table column)
  | .ratio num den => ratioExpr (num.expr table) (den.expr table)

def isRatio : Aggregate → Bool
  | .ratio .. => true
  | _ => false

end Aggregate

inductive ColumnKind where
  | player (source : Attribute)
  | materialized (relation : Relation) (column : String)
  | fact (relation : Relation) (aggregate : Aggregate)
  | market (relation : Relation) (marketType column : String)

namespace ColumnKind

def name : ColumnKind → String
  | .player _ => "attribute"
  | .materialized .. => "materialized"
  | .fact .. => "fact"
  | .market .. => "market"

def relation? : ColumnKind → Option Relation
  | .player _ => none
  | .materialized relation _ | .fact relation _ | .market relation _ _ => some relation

end ColumnKind

structure Column where
  id : String
  label : String
  dataType : DataType
  kind : ColumnKind
  rates : List Rate

namespace Column

def player (id label first : String) (rest : List String) : Column :=
  ⟨id, label, .text, .player ⟨first, rest⟩, []⟩

def materialized (relation : Relation) (id label column : String) : Column :=
  ⟨id, label, .decimal, .materialized relation column, []⟩

def fact (relation : Relation) (id label : String) (aggregate : Aggregate) : Column :=
  ⟨id, label, if aggregate.isRatio then .decimal else .integer, .fact relation aggregate, []⟩

def market (relation : Relation) (id label marketType column : String) : Column :=
  ⟨id, label, .decimal, .market relation marketType column, []⟩

def ofType (column : Column) (dataType : DataType) : Column :=
  { column with dataType := dataType }

def withRates (column : Column) (rates : List Rate) : Column :=
  { column with rates := rates }

def splits (column : Column) : List Split :=
  match column.kind.relation? with
  | some relation => relation.splits
  | none => []

def supportsRate (column : Column) (rate : Rate) : Bool := column.rates.contains rate

end Column

end StatTable
