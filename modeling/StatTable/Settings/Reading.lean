import StatTable.Settings.Basic
import StatTable.Toml.Reader

set_option autoImplicit false

namespace StatTable.Settings

abbrev Section : Type := List (String × Toml.Value)

def checkIgnored (fields : List String) (members : Toml.Members) : Option Section :=
  if Toml.membersFit (members.filter fun member => !fields.contains member.1) then some members
  else none

-- What a section gives to its fields. A date is a table with a single member, which is none of
-- them.
def sectionOf (fields : List String) : Option Toml.Value → Option Section
  | none | some .dateTime => some []
  | some (.table _ members) => checkIgnored fields members
  | some (.array items) => some (fields.zip items)
  | some (.tables elements) => some (fields.zip (elements.map (.table .header ·)))
  | some _ => none

def readField {α : Type} (read : Toml.Value → Option α) (standard : α) (name : String)
    (values : Section) : Option α :=
  match values.lookup name with
  | none => some standard
  | some value => read value

def text? : Toml.Value → Option String
  | .string s => some s
  | _ => none

def word? : Toml.Value → Option Int64
  | .integer n => toWord? n
  | _ => none

def count? : Toml.Value → Option UInt64
  | .integer n => if 0 ≤ n ∧ n < UInt64.size then some (UInt64.ofNat n.toNat) else none
  | _ => none

def dialectNamed? : String → Option Sql.Dialect
  | "postgres" => some .postgres
  | "sqlite" => some .sqlite
  | _ => none

-- A dialect is named by a string, or by the only key of a table that has nothing under it.
def dialect? : Toml.Value → Option Sql.Dialect
  | .string name => dialectNamed? name
  | .table _ [(name, .table _ [])] | .table _ [(name, .array [])] => dialectNamed? name
  | _ => none

def readQuery (value : Option Toml.Value) : Option QuerySettings := do
  let usual := standard.query
  let fields ← sectionOf ["default_limit", "max_limit", "dialect", "timeout_seconds"] value
  let limit ← readField count? usual.limits.standard "default_limit" fields
  let maximum ← readField count? usual.limits.maximum "max_limit" fields
  let dialect ← readField dialect? usual.dialect "dialect" fields
  let timeout ← readField (fun v => (count? v).map some) usual.timeout "timeout_seconds" fields
  return ⟨⟨limit, maximum⟩, dialect, timeout⟩

def readDefaults (value : Option Toml.Value) : Option Defaults := do
  let usual := standard.defaults
  let fields ← sectionOf ["year", "week", "seas_type", "scoring_format", "projection_source",
    "ranking_source", "market_source"] value
  let year ← readField word? usual.year "year" fields
  let week ← readField word? usual.week "week" fields
  let seasonType ← readField text? usual.seasonType "seas_type" fields
  let scoringFormat ← readField text? usual.scoringFormat "scoring_format" fields
  let projectionSource ← readField text? usual.projectionSource "projection_source" fields
  let rankingSource ← readField text? usual.rankingSource "ranking_source" fields
  let marketSource ← readField text? usual.marketSource "market_source" fields
  return ⟨year, week, seasonType, scoringFormat, projectionSource, rankingSource, marketSource⟩

def readStorage (value : Option Toml.Value) : Option (Option String) := do
  let fields ← sectionOf ["path"] value
  readField (fun v => (text? v).map some) none "path" fields

def ofMembers (document : Toml.Members) : Option Settings := do
  let members ← checkIgnored ["query", "defaults", "storage"] document
  return ⟨← readQuery (members.lookup "query"), ← readDefaults (members.lookup "defaults"),
    ← readStorage (members.lookup "storage")⟩

def ofToml (text : String) : Except Problem Settings :=
  match (Toml.read text).bind ofMembers with
  | some settings => check settings
  | none => .error .malformed

end StatTable.Settings
