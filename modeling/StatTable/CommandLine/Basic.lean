import StatTable.Catalog.Basic
import StatTable.CommandLine.Help
import StatTable.CommandLine.Surroundings
import StatTable.Json.Printer
import StatTable.Settings.Reading
import StatTable.Store.Session

set_option autoImplicit false

namespace StatTable.CommandLine

inductive Fault where
  | usage
  | settings (problem : Settings.Problem)
  | unreadable (file : String) (problem : FileProblem)
  | notJson (file : String)
  | refused (refusal : Refusal)
  | invalid (problems : List TableState.Problem)
  | noDatabase (problem : Settings.Problem)
  | unopened (path : String) (problem : OpenProblem)
  | failed (failure : Failure)

def usageText : String :=
  "error: unexpected or missing arguments\n\n" ++ Level.usage .top ++
    "\n\nFor more information, try '--help'.\n"

def helpText : Option Level → Bool → String
  | some level, isLong => Help.ofLevel level isLong
  | none, _ => Help.ofHelp

def versionText : String := "statline 0.1.0\n"

def configurationError (problem : Settings.Problem) : String :=
  "Configuration error: " ++ problem.message

def Fault.message : Fault → String
  | .usage => usageText
  | .settings problem => configurationError problem ++ "\n"
  | .unreadable file problem => "Error reading file '" ++ file ++ "': " ++ problem.message ++ "\n"
  | .notJson file => "Error parsing '" ++ file ++ "': not a JSON text\n"
  | .refused refusal => refusal.message ++ "\n"
  | .invalid problems =>
      "Validation errors:\n" ++ String.join (problems.map fun p => "  " ++ p.line ++ "\n")
  | .noDatabase problem => configurationError problem ++ " (pass --db)\n"
  | .unopened path problem => "Error opening '" ++ path ++ "': " ++ problem.message ++ "\n"
  | .failed failure => failure.message ++ "\n"

def Fault.code : Fault → UInt32
  | .usage => 2
  | _ => 1

variable {m : Type → Type} [Monad m]

def leadsNowhere : FileProblem → Bool
  | .missing | .notDirectory | .nameTooLong | .zeroInPath => true
  | _ => false

def exists? (around : Surroundings m) (path : String) : m Bool := do
  match ← around.readFile path with
  | .ok _ => return true
  | .error problem => return !leadsNowhere problem

def settingsIn (around : Surroundings m) (path : String) :
    m (Except Settings.Problem Settings) := do
  match ← around.readFile path with
  | .ok text => return Settings.ofToml text
  | .error problem =>
      return .error (if leadsNowhere problem then .fileNotFound path else .unreadable problem)

def configDirectory (around : Surroundings m) : m (Option String) := do
  match (← around.readVariable "XDG_CONFIG_HOME").filter isAbsolute with
  | some directory => return some directory
  | none => return ((← around.readVariable "HOME").filter (· ≠ "")).map (· ++ "/.config")

def settingsFile (around : Surroundings m) (asked : Option String) : m (Option String) := do
  match asked.or (← around.readVariable "STATLINE_CONFIG") with
  | some path => return some path
  | none =>
      if ← exists? around "statline.toml" then return some "statline.toml"
      match ← configDirectory around with
      | none => return none
      | some directory =>
          let path := directory ++ "/statline/config.toml"
          return if ← exists? around path then some path else none

def loadSettings (around : Surroundings m) (asked : Option String) :
    m (Except Settings.Problem Settings) := do
  match ← settingsFile around asked with
  | some path => settingsIn around path
  | none => return .ok .standard

def readDocument (around : Surroundings m) (file : String) : m (Except Fault Json.Value) := do
  match ← around.readFile file with
  | .error problem => return .error (.unreadable file problem)
  | .ok text =>
      match Json.read text with
      | some document => return .ok document
      | none => return .error (.notJson file)

def display (form : OutputForm) (file : String) (statement : Statement) : String :=
  match form with
  | .sql => statement.text ++ "\n"
  | .verbose =>
      "-- statline compiled SQL\n-- Source: " ++ file ++ "\n-- Dialect: " ++
        statement.dialect.name ++ "\n-- Columns: " ++
        String.intercalate ", " statement.plan.outputNames ++ "\n\n" ++ statement.text ++ "\n"
  | .plan => statement.plan.summary.pretty ++ "\n"

def compile (settings : Settings) (file : String) (dialect : Option Sql.Dialect)
    (form : OutputForm) (document : Json.Value) : Except Fault String :=
  let options := { settings.options with dialect := dialect.getD settings.query.dialect }
  match Statement.ofJson options document with
  | .ok statement => .ok (display form file statement)
  | .error refusal => .error (.refused refusal)

def validate (settings : Settings) (file : String) (document : Json.Value) :
    Except Fault String :=
  match TableState.ofJson settings.query.limits document with
  | .ok state =>
      .ok ("OK: " ++ file ++ " is valid (" ++
        Text.decimal (state.leading.length + state.columns.length) ++ " columns, " ++
        Text.decimal state.filters.length ++ " filters)\n")
  | .error problems => .error (.invalid problems)

def databasePath (around : Surroundings m) (settings : Settings) :
    m (Except Settings.Problem String) := do
  let names := (settings.storageTemplate.map Template.names).getD []
  let values ← names.mapM fun name => do return (name, ← around.readVariable name)
  return settings.resolvePath fun name => (values.lookup name).join

def answer (store : Store) (settings : Settings) (document : Json.Value) : Except Fault String :=
  match Session.execute ⟨store, settings.defaults, settings.query.limits, settings.deadline⟩
      document with
  | .ok answer => .ok ((Json.Value.array answer.rows).pretty ++ "\n")
  | .error failure => .error (.failed failure)

def dashed (names : List String) : String :=
  if names.isEmpty then "-" else String.intercalate "," names

def columnLine (column : Column) : String :=
  "  - " ++ column.id ++ " (" ++ column.label ++ ") [" ++ column.kind.name ++ ", " ++
    column.dataType.name ++ "] splits: " ++ dashed (column.splits.map (·.name)) ++ " rates: " ++
    dashed (column.rates.map (·.name)) ++ "\n"

def listColumns (kind : Option String) : String :=
  match Catalog.ofKind kind with
  | [] => "No columns registered.\n"
  | columns => String.join (columns.map columnLine)

-- Carries out a command. Nothing is behind the database of the command `run` here: a statement that
-- gets that far is abandoned.
def perform (around : Surroundings m) (settings : Settings) :
    Command → m (Except Fault String)
  | .compile file dialect form => do
      return (← readDocument around file).bind (compile settings file dialect form)
  | .run file database => do
      match ← readDocument around file with
      | .error fault => return .error fault
      | .ok document =>
          let path ←
            match database with
            | some path => pure (.ok path)
            | none => databasePath around settings
          match path with
          | .error problem => return .error (.noDatabase problem)
          | .ok path =>
              match ← around.openDatabase path with
              | .error problem => return .error (.unopened path problem)
              | .ok () => return answer (.detached .sqlite) settings document
  | .validate file => do return (← readDocument around file).bind (validate settings file)
  | .columns kind => return .ok (listColumns kind)

def run (around : Surroundings m) (arguments : List String) : m (Except Fault String) := do
  match Invocation.parse arguments with
  | .error .usage => return .error .usage
  | .error (.help topic isLong) => return .ok (helpText topic isLong)
  | .error .version => return .ok versionText
  | .ok invocation =>
      match ← loadSettings around invocation.configFile with
      | .error problem => return .error (.settings problem)
      | .ok settings => perform around settings invocation.command

end StatTable.CommandLine
