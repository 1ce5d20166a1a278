import StatTable.Catalog.Column

set_option autoImplicit false

namespace StatTable.Catalog

def gamelogsTable : String := "player_gamelogs"

def gameKey : String := "esbid"

def gamelogTeam : String := "tm"

def gamelogs : Relation where
  name := "gamelogs"
  table := gamelogsTable
  entityColumn := "pid"
  yearColumn := some "year"
  weekColumn := some "week"
  weekDefault := .allWeeks
  params := [seasonTypeColumn]
  fixed := [⟨"active", .bool true⟩]

def gameColumns : List Column := [
  .fact gamelogs "games_played" "Games Played" (.countDistinct gameKey),
  (Column.fact gamelogs "total_yards" "Scrimmage + Passing Yards"
    (.sumOf "py" ["ry", "recy"])).withRates [.perGame],
  (Column.fact gamelogs "total_touchdowns" "Total TDs" (.sumOf "tdp" ["tdr", "tdrec"])).withRates
    [.perGame],
  (Column.fact gamelogs "fumbles_lost" "Fumbles Lost" (.sumOf "fuml" [])).withRates [.perGame]]

end StatTable.Catalog
