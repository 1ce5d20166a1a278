import StatTable.Duration
import StatTable.FileTree
import StatTable.Settings.Template
import StatTable.Statement

set_option autoImplicit false

namespace StatTable

structure QuerySettings where
  limits : Limits
  dialect : Sql.Dialect
  timeout : Option UInt64

structure Settings where
  query : QuerySettings
  defaults : Defaults
  storagePath : Option String

namespace Settings

inductive Problem where
  | fileNotFound (path : String)
  | unreadable (problem : FileProblem)
  | malformed
  | missingVariable (name : String)
  | noStoragePath
  | zeroLimit
  | limitOverMaximum (limits : Limits)
  | zeroTimeout

def Problem.message : Problem → String
  | .fileNotFound path => "Config file not found: " ++ path
  | .unreadable problem => "Failed to read config file: " ++ problem.message
  | .malformed => "Failed to parse config file: malformed TOML or a value of the wrong type"
  | .missingVariable name => "Missing environment variable: " ++ name
  | .noStoragePath => "No storage path configured"
  | .zeroLimit => "Invalid configuration: query.default_limit must be positive"
  | .limitOverMaximum limits =>
      "Invalid configuration: query.default_limit (" ++ Text.decimal limits.standard.toNat ++
        ") exceeds query.max_limit (" ++ Text.decimal limits.maximum.toNat ++ ")"
  | .zeroTimeout => "Invalid configuration: query.timeout_seconds must be positive"

def standard : Settings := ⟨⟨.usual, default, none⟩, .standard, none⟩

def check (settings : Settings) : Except Problem Settings :=
  let limits := settings.query.limits
  if limits.standard = 0 then .error .zeroLimit
  else if limits.maximum < limits.standard then .error (.limitOverMaximum limits)
  else if settings.query.timeout = some 0 then .error .zeroTimeout
  else .ok settings

def options (settings : Settings) : Options :=
  ⟨settings.query.dialect, settings.defaults, settings.query.limits⟩

def deadline (settings : Settings) : Option Duration :=
  settings.query.timeout.map fun seconds => .ofSeconds seconds.toNat

def storageTemplate (settings : Settings) : Option Template :=
  settings.storagePath.map Template.parse

def expand (values : String → Option String) (template : Template) : Except Problem String :=
  (template.fill values).mapError .missingVariable

def resolvePath (values : String → Option String) (settings : Settings) :
    Except Problem String :=
  match settings.storageTemplate with
  | some template => expand values template
  | none => .error .noStoragePath

end Settings

end StatTable
