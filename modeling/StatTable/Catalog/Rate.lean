set_option autoImplicit false

namespace StatTable

inductive Rate where
  | perGame
  | perTeamPlay
  | perTeamPassPlay
  | perTeamRushPlay
deriving DecidableEq

namespace Rate

def all : List Rate := [perGame, perTeamPlay, perTeamPassPlay, perTeamRushPlay]

def name : Rate → String
  | perGame => "per_game"
  | perTeamPlay => "per_team_play"
  | perTeamPassPlay => "per_team_pass_play"
  | perTeamRushPlay => "per_team_rush_play"

def playType : Rate → Option String
  | perTeamPassPlay => some "PASS"
  | perTeamRushPlay => some "RUSH"
  | perGame | perTeamPlay => none

def countsTeamPlays : Rate → Bool
  | perGame => false
  | perTeamPlay | perTeamPassPlay | perTeamRushPlay => true

structure Unknown where
  text : String

def Unknown.message (unknown : Unknown) : String :=
  "unknown rate type '" ++ unknown.text ++ "'"

def parse (text : String) : Except Unknown Rate :=
  match all.find? (·.name == text) with
  | some rate => .ok rate
  | none => .error ⟨text⟩

end Rate

end StatTable
