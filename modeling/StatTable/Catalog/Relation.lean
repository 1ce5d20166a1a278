import StatTable.Catalog.Defaults
import StatTable.Catalog.Split
import StatTable.Param.Basic

set_option autoImplicit false

namespace StatTable

-- A column that a parameter restricts, with the default of an absent parameter. Without a default
-- an absent parameter restricts nothing.
structure ParamColumn where
  key : ParamKey
  column : String
  default : Option Defaults.Field
deriving DecidableEq

structure FixedColumn where
  column : String
  value : Scalar
deriving DecidableEq

inductive WeekDefault where
  | allWeeks
  | fixed (week : Int64)
  | current
deriving DecidableEq

structure Relation where
  name : String
  table : String
  entityColumn : String
  yearColumn : Option String
  weekColumn : Option String
  weekDefault : WeekDefault
  params : List ParamColumn
  fixed : List FixedColumn
deriving DecidableEq

namespace Relation

def splitColumn (relation : Relation) : Split → Option String
  | .year => relation.yearColumn
  | .week => relation.weekColumn

def splits (relation : Relation) : List Split :=
  Split.all.filter fun split => (relation.splitColumn split).isSome

def accepts (relation : Relation) : ParamKey → Bool
  | .year | .yearOffset => relation.yearColumn.isSome
  | .week => relation.weekColumn.isSome
  | .rateType => false
  | key => relation.params.any (·.key == key)

end Relation

def seasonTypeColumn : ParamColumn := ⟨.seasonType, "seas_type", some .seasonType⟩

end StatTable
