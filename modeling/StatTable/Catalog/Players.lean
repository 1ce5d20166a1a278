import StatTable.Catalog.Column

set_option autoImplicit false

namespace StatTable.Catalog

def playerTable : String := "player"

def playerKey : String := "pid"

def playerColumns : List Column := [
  .player "player_name" "Name" "fname" ["lname"],
  .player "first_name" "First Name" "fname" [],
  .player "last_name" "Last Name" "lname" [],
  .player "position" "Position" "pos" [],
  .player "team" "Team" "current_nfl_team" [],
  .player "birthdate" "Birthdate" "dob" [],
  (Column.player "height" "Height" "height" []).ofType .integer,
  (Column.player "weight" "Weight" "weight" []).ofType .integer,
  (Column.player "draft_year" "Draft Year" "nfl_draft_year" []).ofType .integer,
  (Column.player "draft_position" "Draft Position" "dpos" []).ofType .integer,
  .player "college" "College" "col" []]

end StatTable.Catalog
