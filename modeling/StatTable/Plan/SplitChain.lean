import StatTable.Plan.Group

/-
Split chains: how the split dimensions of joined groups hang together. A group that is joined takes
the values that the groups before it have in its dimensions, not those of the player table, so that
a player gets one row for each value and no products of rows.
-/

set_option autoImplicit false

namespace StatTable.Plan

structure SplitRef where
  split : Split
  aliasName : String
  column : String
  offset : Int64

structure SplitChain where
  placed : List SplitRef

namespace SplitRef

def isAnchored (ref : SplitRef) : Bool := ref.offset == 0

def resolved (ref : SplitRef) : Sql.Expr :=
  let column : Sql.Expr := .field ref.aliasName ref.column
  match ref.split with
  | .year =>
      if ref.offset = 0 then column else .binary .plus column (.integer ref.offset)
  | .week => column

end SplitRef

def splitRefs (group : Group) : List SplitRef :=
  group.splits.filterMap fun split =>
    (group.splitColumn split).map fun column => ⟨split, group.aliasName, column, group.yearOffset⟩

namespace SplitChain

def empty : SplitChain := ⟨[]⟩

def place (chain : SplitChain) (group : Group) : SplitChain :=
  ⟨chain.placed ++ splitRefs group⟩

-- The columns that hold a dimension; those that lag behind count only if all do.
def leading (chain : SplitChain) (split : Split) : List SplitRef :=
  let carrying := chain.placed.filter (·.split == split)
  match carrying.filter (·.isAnchored) with
  | [] => carrying
  | anchored => anchored

def lagged (ref : SplitRef) (value : Sql.Expr) : Sql.Expr :=
  match ref.split with
  | .year => if ref.offset = 0 then value else .binary .minus value (.integer ref.offset)
  | .week => value

-- The condition that a column has the value of the results in its dimension, as the most recently
-- joined group that has a row gives it; any value will do if none has.
def condition? (chain : SplitChain) (ref : SplitRef) : Option Sql.Expr :=
  let own : Sql.Expr := .field ref.aliasName ref.column
  match (chain.leading ref.split).reverse with
  | [] => none
  | refs =>
      let values := refs.map fun other => lagged ref other.resolved
      some (.eq own (.coalesce (values ++ [own])))

def conditions (chain : SplitChain) (group : Group) : List Sql.Expr :=
  (splitRefs group).filterMap chain.condition?

def output? (chain : SplitChain) (split : Split) : Option Sql.Expr :=
  match (chain.leading split).map (·.resolved) with
  | [] => none
  | [value] => some value
  | values => some (.coalesce values)

end SplitChain

def denominatorConditions (denominator numerator : Group) : List Sql.Expr :=
  denominator.splits.filterMap fun split => do
    let own ← denominator.splitColumn split
    let other ← numerator.splitColumn split
    return .eq (.field denominator.aliasName own) (.field numerator.aliasName other)

end StatTable.Plan
