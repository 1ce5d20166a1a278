set_option autoImplicit false

namespace StatTable

inductive ParamKey where
  | year
  | week
  | seasonType
  | yearOffset
  | scoringFormat
  | source
  | rateType
  | down
  | quarter
  | yardsToGo
deriving DecidableEq

namespace ParamKey

def all : List ParamKey :=
  [year, week, seasonType, yearOffset, scoringFormat, source, rateType, down, quarter, yardsToGo]

def name : ParamKey → String
  | year => "year"
  | week => "week"
  | seasonType => "seas_type"
  | yearOffset => "year_offset"
  | scoringFormat => "scoring_format"
  | source => "source"
  | rateType => "rate_type"
  | down => "dwn"
  | quarter => "qtr"
  | yardsToGo => "ydstogo"

structure Unknown where
  text : String

def Unknown.message (unknown : Unknown) : String :=
  "unknown parameter '" ++ unknown.text ++ "'"

def parse (text : String) : Except Unknown ParamKey :=
  match all.find? (·.name == text) with
  | some key => .ok key
  | none => .error ⟨text⟩

end ParamKey

end StatTable
