import StatTable.Proofs.Groups.Keys
import StatTable.Proofs.Sql.Rows

/-
What a table state without dimensions says of a player, apart from any plan: the value that each
column has for the player, and which players the filters admit. A column is read from the player's
own row, from the one row that a relation has for the player, or from all rows that it has.
-/

set_option autoImplicit false

namespace StatTable

open Sql

def Scalar.value : Scalar → Value
  | .bool b => .bool b
  | .integer n => .integer n.toInt
  | .binary x => if x.isFinite then .binary x else .null
  | .text s => .text s

namespace Sql.Engine

variable (engine : Engine)

def quotient (num den : Value) : Value :=
  engine.computed .over (engine.computed .times num (.binary (Binary64.ofInt 1)))
    (engine.nullIf den (.integer 0))

def orZero (x : Value) : Value := if x = .null then .integer 0 else x

end Sql.Engine

section

variable (engine : Engine)

def ParamValue.allows (x : Value) : ParamValue → Bool
  | .scalar s => engine.equal x s.value
  | .list items => items.any fun s => engine.equal x s.value
  | .range min max => x != .null &&
      min.all (fun low => engine.comparison .gte x low.value == some true) &&
        max.all fun high => engine.comparison .lte x high.value == some true

namespace Relation

def fits (relation : Relation) (params : Params) (row : Row) : Bool :=
  relation.fixed.all (fun fixed => engine.equal (row fixed.column) fixed.value.value) &&
    params.toList.all fun entry => (Plan.paramColumn? relation entry.1).all fun column =>
      entry.2.allows engine (row column)

def keyColumns (relation : Relation) : List String :=
  relation.entityColumn :: (relation.yearColumn.toList ++ relation.weekColumn.toList ++
    relation.params.map (·.column) ++ relation.fixed.map (·.column))

end Relation

namespace Attribute

def value (source : Attribute) (player : Row) : Value :=
  source.rest.foldl (fun joined name =>
    engine.computed .concat (engine.computed .concat joined (.text " ")) (player name))
    (player source.first)

end Attribute

namespace Aggregate

def sumOfColumns (first : String) (rest : List String) (row : Row) : Value :=
  rest.foldl (fun total column => engine.computed .plus total (Engine.orZero (row column)))
    (Engine.orZero (row first))

def amount (rows : List Row) : Aggregate → Value
  | .sum column => engine.aggregated "SUM" false (rows.map (· column))
  | .sumOf first rest => engine.aggregated "SUM" false (rows.map (sumOfColumns engine first rest))
  | .count => .integer rows.length
  | .countDistinct column => engine.aggregated "COUNT" true (rows.map (· column))
  | .ratio num den => engine.quotient (num.amount rows) (den.amount rows)

end Aggregate

-- Whether a play is one by the player's team in a game, of a rate's kind and in the situation of the
-- parameters.
def isTeamPlay (rate : Rate) (params : Params) (game play : Row) : Bool :=
  engine.equal (play Catalog.gameKey) (game Catalog.gameKey) &&
    engine.equal (play Catalog.playOffense) (game Catalog.gamelogTeam) &&
    rate.playType.all (fun type => engine.equal (play Catalog.playType) (.text type)) &&
    Catalog.situationKeys.all fun key => (params.get? key).all fun value =>
      value.allows engine (play key.name)

variable (database : Tables)

def Relation.rowsOf (relation : Relation) (params : Params) (player : Value) : List Row :=
  (database relation.table).filter fun row =>
    engine.equal (row relation.entityColumn) player && relation.fits engine params row

def ofMarket (marketType : Option String) (row : Row) : Bool :=
  marketType.all fun type => engine.equal (row Catalog.marketType) (.text type)

def directValue (relation : Relation) (marketType : Option String) (column : String)
    (params : Params) (player : Value) : Value :=
  match (relation.rowsOf engine database params player).filter (ofMarket engine marketType) with
  | [] => .null
  | row :: _ => row column

def factValue (relation : Relation) (aggregate : Aggregate) (params : Params) (player : Value) :
    Value :=
  match relation.rowsOf engine database params player with
  | [] => .null
  | row :: rest => aggregate.amount engine (row :: rest)

def teamPlaysOf (rate : Rate) (params : Params) (game : Row) : List Row :=
  (database Catalog.playsTable).filter (isTeamPlay engine rate params game)

-- What a value is divided by: how many games the player has, or how many plays the team has in them.
def denominatorValue (rate : Rate) (params : Params) (player : Value) : Value :=
  let shared := params.filter (Plan.Target.scopesDenominator rate)
  let games := Catalog.gamelogs.rowsOf engine database shared player
  if rate.countsTeamPlays then
    match games.flatMap (teamPlaysOf engine database rate shared) with
    | [] => .null
    | play :: rest => .integer (play :: rest).length
  else
    match games with
    | [] => .null
    | game :: rest => engine.aggregated "COUNT" true ((game :: rest).map (· Catalog.gameKey))

def ColumnKind.valueFor (rate : Option Rate) (params : Relation → Params) (player : Row) :
    ColumnKind → Value
  | .player source => source.value engine player
  | .materialized relation column => directValue engine database relation none column
      (params relation) (player Catalog.playerKey)
  | .market relation marketType column => directValue engine database relation (some marketType)
      column (params relation) (player Catalog.playerKey)
  | .fact relation aggregate =>
      let whole := factValue engine database relation aggregate (params relation)
        (player Catalog.playerKey)
      match rate with
      | none => whole
      | some rate => engine.quotient whole
          (denominatorValue engine database rate (params relation) (player Catalog.playerKey))

end

def ColumnSpec.source? (spec : ColumnSpec) : Option Plan.Source :=
  (Catalog.lookup spec.id).bind (·.kind.source?)

namespace ColumnSpec

section

variable (engine : Engine) (database : Tables) (defaults : Defaults)

def resolved (spec : ColumnSpec) (relation : Relation) : Params :=
  (Plan.resolve relation [] defaults (spec.params.erase .rateType)).toOption.getD .empty

def valueFor (spec : ColumnSpec) (player : Row) : Value :=
  match Catalog.lookup spec.id with
  | none => .null
  | some column => column.kind.valueFor engine database (rateOf spec.params)
      (spec.resolved defaults) player

end

end ColumnSpec

section

variable (engine : Engine)

def FilterOperator.truth (x : Value) : FilterOperator → Option Operand → Truth
  | .isNull, _ => some (x == .null)
  | .isNotNull, _ => some (x != .null)
  | .eq, some (.scalar s) => engine.comparison .eq x s.value
  | .ne, some (.scalar s) => engine.comparison .ne x s.value
  | .gt, some (.scalar s) => engine.comparison .gt x s.value
  | .gte, some (.scalar s) => engine.comparison .gte x s.value
  | .lt, some (.scalar s) => engine.comparison .lt x s.value
  | .lte, some (.scalar s) => engine.comparison .lte x s.value
  | .isIn, some (.list items) => engine.amongTruth x (items.map Scalar.value)
  | .notIn, some (.list items) => (engine.amongTruth x (items.map Scalar.value)).map not
  | .like, some (.scalar s) => engine.pattern true x s.value
  | .notLike, some (.scalar s) => (engine.pattern true x s.value).map not
  | _, _ => none

def FilterClause.spec (clause : FilterClause) : ColumnSpec := ⟨clause.id, clause.params⟩

variable (database : Tables) (defaults : Defaults) (state : TableState)

namespace TableState

def admits (player : Row) : Bool :=
  state.filters.all fun clause => clause.operator.truth engine
    (clause.spec.valueFor engine database defaults player) clause.operand == some true

def rowsFor : List (List Value) :=
  ((database Catalog.playerTable).filter (state.admits engine database defaults)).map fun player =>
    player Catalog.playerKey ::
      state.shown.map fun spec => spec.valueFor engine database defaults player

end TableState

-- What a source that is read as it is must have: one row for a player and values of the key columns.
def Plan.Source.Keyed : Plan.Source → Prop
  | .direct relation marketType =>
      ((database relation.table).filter (ofMarket engine marketType)).Pairwise fun one other =>
        ∃ column ∈ relation.keyColumns, engine.equal (one column) (other column) = false
  | .fact _ | .denominator .. => True

structure TableState.WellKeyed : Prop where
  given : ∀ player ∈ database Catalog.playerTable, player Catalog.playerKey ≠ .null
  unique : (database Catalog.playerTable).Pairwise fun one other =>
    engine.equal (one Catalog.playerKey) (other Catalog.playerKey) = false
  keyed : ∀ spec ∈ state.requested, ∀ source ∈ spec.source?, source.Keyed engine database

instance (source : Plan.Source) : Decidable (source.Keyed engine database) :=
  match source with
  | .direct _ _ => inferInstanceAs (Decidable (List.Pairwise _ _))
  | .fact _ | .denominator .. => isTrue trivial

instance : Decidable (state.WellKeyed engine database) :=
  decidable_of_iff ((∀ player ∈ database Catalog.playerTable, player Catalog.playerKey ≠ .null) ∧
    ((database Catalog.playerTable).Pairwise fun one other =>
      engine.equal (one Catalog.playerKey) (other Catalog.playerKey) = false) ∧
    ∀ spec ∈ state.requested, ∀ source ∈ spec.source?, source.Keyed engine database)
    ⟨fun ⟨given, unique, keyed⟩ => ⟨given, unique, keyed⟩,
      fun keyed => ⟨keyed.given, keyed.unique, keyed.keyed⟩⟩

end

end StatTable
