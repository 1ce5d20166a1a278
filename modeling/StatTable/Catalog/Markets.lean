import StatTable.Catalog.Column

set_option autoImplicit false

namespace StatTable.Catalog

def marketType : String := "market_type"

def marketRelation (name : String) (weekColumn : Option String) (weekDefault : WeekDefault) :
    Relation where
  name := name
  table := "prop_market_selections_index"
  entityColumn := "selection_pid"
  yearColumn := some "year"
  weekColumn := weekColumn
  weekDefault := weekDefault
  params := [⟨.source, "source_id", some .marketSource⟩]
  fixed := [⟨"time_type", .text "CLOSE"⟩]

def seasonMarkets : Relation := marketRelation "markets_season" none .allWeeks

def weeklyMarkets : Relation := marketRelation "markets_weekly" (some "week") .current

def marketLine : String := "selection_metric_line"

def marketOdds : String := "odds_american"

def marketColumns : List Column := [
  .market seasonMarkets "season_rushing_yards_line" "Season Rushing Yards Line"
    "SEASON_RUSHING_YARDS" marketLine,
  .market seasonMarkets "season_receiving_yards_line" "Season Receiving Yards Line"
    "SEASON_RECEIVING_YARDS" marketLine,
  .market seasonMarkets "season_passing_yards_line" "Season Passing Yards Line"
    "SEASON_PASSING_YARDS" marketLine,
  .market weeklyMarkets "game_rushing_yards_line" "Game Rushing Yards Line"
    "GAME_RUSHING_YARDS" marketLine,
  .market weeklyMarkets "game_receiving_yards_line" "Game Receiving Yards Line"
    "GAME_RECEIVING_YARDS" marketLine,
  .market weeklyMarkets "game_passing_yards_line" "Game Passing Yards Line"
    "GAME_PASSING_YARDS" marketLine,
  (Column.market weeklyMarkets "anytime_td_odds" "Anytime TD Odds" "ANYTIME_TOUCHDOWN"
    marketOdds).ofType .integer]

end StatTable.Catalog
