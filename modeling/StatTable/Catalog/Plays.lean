import StatTable.Catalog.Column

set_option autoImplicit false

namespace StatTable.Catalog

def playsTable : String := "nfl_plays"

def playOffense : String := "off"

def playType : String := "play_type"

def situationKeys : List ParamKey := [.down, .quarter, .yardsToGo]

def playRelation (name entityColumn type : String) : Relation where
  name := name
  table := playsTable
  entityColumn := entityColumn
  yearColumn := some "year"
  weekColumn := some "week"
  weekDefault := .allWeeks
  params := [seasonTypeColumn, ⟨.down, "dwn", none⟩, ⟨.quarter, "qtr", none⟩,
    ⟨.yardsToGo, "ydstogo", none⟩]
  fixed := [⟨playType, .text type⟩]

def rusherPlays : Relation := playRelation "plays_rusher" "bc_pid" "RUSH"

def targetPlays : Relation := playRelation "plays_target" "trg_pid" "PASS"

def passerPlays : Relation := playRelation "plays_passer" "psr_pid" "PASS"

def rushRates : List Rate := [.perGame, .perTeamPlay, .perTeamRushPlay]

def passRates : List Rate := [.perGame, .perTeamPlay, .perTeamPassPlay]

def rushColumns : List Column := [
  (Column.fact rusherPlays "rush_attempts" "Rush Attempts" .count).withRates rushRates,
  (Column.fact rusherPlays "rush_yards" "Rush Yards" (.sum "rush_yds")).withRates rushRates,
  (Column.fact rusherPlays "rush_tds" "Rush TDs" (.sum "td")).withRates rushRates,
  (Column.fact rusherPlays "rush_first_downs" "Rush First Downs" (.sum "first_down")).withRates
    rushRates,
  .fact rusherPlays "yards_per_carry" "Yards Per Carry" (.ratio (.sum "rush_yds") .count)]

def targetColumns : List Column := [
  (Column.fact targetPlays "targets" "Targets" .count).withRates passRates,
  (Column.fact targetPlays "receptions" "Receptions" (.sum "comp")).withRates passRates,
  (Column.fact targetPlays "rec_yards" "Receiving Yards" (.sum "recv_yds")).withRates passRates,
  (Column.fact targetPlays "rec_tds" "Receiving TDs" (.sum "td")).withRates passRates,
  (Column.fact targetPlays "air_yards" "Air Yards" (.sum "air_yds")).withRates passRates,
  .fact targetPlays "catch_rate" "Catch Rate" (.ratio (.sum "comp") .count)]

def passColumns : List Column := [
  (Column.fact passerPlays "pass_attempts" "Pass Attempts" .count).withRates passRates,
  (Column.fact passerPlays "completions" "Completions" (.sum "comp")).withRates passRates,
  (Column.fact passerPlays "pass_yards" "Passing Yards" (.sum "pass_yds")).withRates passRates,
  (Column.fact passerPlays "pass_tds" "Passing TDs" (.sum "td")).withRates passRates,
  (Column.fact passerPlays "pass_air_yards" "Passing Air Yards" (.sum "air_yds")).withRates
    passRates,
  .fact passerPlays "completion_pct" "Completion %" (.ratio (.sum "comp") .count)]

end StatTable.Catalog
