import StatTable.Plan.Binding
import StatTable.Sql.Query

set_option autoImplicit false

namespace StatTable.Plan

structure Stage where
  name : String
  source : Sql.TableRef
  joins : List Sql.Join
  keys : List Sql.Selection
  aggregates : List Sql.Selection
  conditions : List Sql.Expr
  having : List Sql.Expr

namespace Stage

def query (stage : Stage) : Sql.Query where
  withs := []
  selections := stage.keys ++ stage.aggregates
  source := some stage.source
  joins := stage.joins
  filter := Sql.Expr.conjunction stage.conditions
  groupBy := stage.keys.map (·.expr)
  having := Sql.Expr.conjunction stage.having
  orderBy := []
  page := none

def keysOf (relation : Relation) (splits : List Split) (table : String) : List Sql.Selection :=
  ⟨.field table relation.entityColumn, some Catalog.playerKey⟩ ::
    splits.filterMap fun split =>
      (relation.splitColumn split).map fun column => ⟨.field table column, some split.name⟩

def rowConditions (relation : Relation) (params : Params) (table : String) : List Sql.Expr :=
  .isNull true (.field table relation.entityColumn) ::
    (fixedConditions relation table ++ paramConditions relation params table)

def ofFact (group : Group) (relation : Relation) : Stage where
  name := group.aliasName
  source := ⟨relation.table, none⟩
  joins := []
  keys := keysOf relation group.splits relation.table
  aggregates := group.aggregates.map fun (id, aggregate) =>
    ⟨aggregate.expr relation.table, some id⟩
  conditions := rowConditions relation group.params relation.table
  having := group.having

def gamesAlias : String := "g"

def playsAlias : String := "p"

def teamPlays : Sql.Join where
  kind := .inner
  table := ⟨Catalog.playsTable, some playsAlias⟩
  on := .and (.eq (.field playsAlias Catalog.gameKey) (.field gamesAlias Catalog.gameKey))
    (.eq (.field playsAlias Catalog.playOffense) (.field gamesAlias Catalog.gamelogTeam))

def playConditions (rate : Rate) (params : Params) : List Sql.Expr :=
  (rate.playType.toList.map fun type =>
    .eq (.field playsAlias Catalog.playType) (.string type)) ++
    Catalog.situationKeys.filterMap fun key =>
      (params.get? key).map fun value => value.condition (.field playsAlias key.name)

def ofDenominator (group : Group) (rate : Rate) : Stage where
  name := group.aliasName
  source := ⟨Catalog.gamelogs.table, some gamesAlias⟩
  joins := if rate.countsTeamPlays then [teamPlays] else []
  keys := keysOf Catalog.gamelogs group.splits gamesAlias
  aggregates := [⟨if rate.countsTeamPlays then .countRows
    else .countDistinct (.field gamesAlias Catalog.gameKey), some denominatorColumn⟩]
  conditions := rowConditions Catalog.gamelogs group.params gamesAlias ++
    if rate.countsTeamPlays then playConditions rate group.params else []
  having := []

def of? (group : Group) : Option Stage :=
  match group.source with
  | .fact relation => some (ofFact group relation)
  | .direct .. => none
  | .denominator rate _ => some (ofDenominator group rate)

end Stage

end StatTable.Plan
