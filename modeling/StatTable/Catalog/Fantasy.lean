import StatTable.Catalog.Column

set_option autoImplicit false

namespace StatTable.Catalog

def seasonlogs : Relation where
  name := "scoring_format_seasonlogs"
  table := "scoring_format_player_seasonlogs"
  entityColumn := "pid"
  yearColumn := some "year"
  weekColumn := none
  weekDefault := .allWeeks
  params := [⟨.scoringFormat, "scoring_format", some .scoringFormat⟩]
  fixed := []

-- Projections of a week; week 0 holds those of the season.
def projections : Relation where
  name := "projections"
  table := "projections_index"
  entityColumn := "pid"
  yearColumn := some "year"
  weekColumn := some "week"
  weekDefault := .fixed 0
  params := [⟨.source, "sourceid", some .projectionSource⟩, seasonTypeColumn]
  fixed := []

def rankings : Relation where
  name := "rankings"
  table := "player_rankings_index"
  entityColumn := "pid"
  yearColumn := some "year"
  weekColumn := some "week"
  weekDefault := .fixed 0
  params := [⟨.source, "source_name", some .rankingSource⟩]
  fixed := [⟨"ranking_type", .text "PPR_REDRAFT"⟩]

def fantasyColumns : List Column := [
  .materialized seasonlogs "fantasy_points" "Fantasy Points" "points",
  .materialized seasonlogs "fantasy_points_per_game" "Fantasy Points / Game" "points_per_game",
  .materialized seasonlogs "fantasy_points_rank" "Fantasy Points Rank" "points_rnk",
  .materialized seasonlogs "fantasy_points_position_rank" "Fantasy Points Position Rank"
    "points_pos_rnk",
  .materialized projections "projected_pass_yards" "Projected Passing Yards" "py",
  .materialized projections "projected_rush_yards" "Projected Rushing Yards" "ry",
  .materialized projections "projected_receptions" "Projected Receptions" "rec",
  .materialized projections "projected_rec_yards" "Projected Receiving Yards" "recy",
  .materialized rankings "rank_avg" "Average Rank" "avg",
  .materialized rankings "rank_min" "Best Rank" "min",
  .materialized rankings "rank_max" "Worst Rank" "max"]

end StatTable.Catalog
