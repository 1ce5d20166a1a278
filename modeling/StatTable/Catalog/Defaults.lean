import StatTable.Scalar

set_option autoImplicit false

namespace StatTable

structure Defaults where
  year : Int64
  week : Int64
  seasonType : String
  scoringFormat : String
  projectionSource : String
  rankingSource : String
  marketSource : String
deriving DecidableEq

namespace Defaults

def standard : Defaults where
  year := 2025
  week := 1
  seasonType := "REG"
  scoringFormat := "ppr"
  projectionSource := "average"
  rankingSource := "fantasypros"
  marketSource := "draftkings"

inductive Field where
  | seasonType
  | scoringFormat
  | projectionSource
  | rankingSource
  | marketSource
deriving DecidableEq

def get (defaults : Defaults) : Field → Scalar
  | .seasonType => .text defaults.seasonType
  | .scoringFormat => .text defaults.scoringFormat
  | .projectionSource => .text defaults.projectionSource
  | .rankingSource => .text defaults.rankingSource
  | .marketSource => .text defaults.marketSource

end Defaults

end StatTable
