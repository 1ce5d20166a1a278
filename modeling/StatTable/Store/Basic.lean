import StatTable.FileTree
import StatTable.Sql.Dialect
import StatTable.Store.Rows
import StatTable.Text.Decimal

set_option autoImplicit false

namespace StatTable

inductive StoreProblem where
  | poisoned
  | unsupportedValue (column : String)
  | abandoned

def StoreProblem.message : StoreProblem → String
  | .poisoned => "Storage connection is poisoned"
  | .unsupportedValue column => "Unsupported value in column '" ++ column ++ "'"
  | .abandoned => "Query abandoned before it started"

inductive OpenProblem where
  | directory (problem : FileProblem)
  | file (path : String)
  | zeroInPath (position : Nat)

def OpenProblem.message : OpenProblem → String
  | .directory problem => "IO error: " ++ problem.message
  | .file path => "SQLite error: unable to open database file: " ++ path
  | .zeroInPath position =>
      "SQLite error: nul byte found in provided data at position: " ++ Text.decimal position

inductive Reply where
  | rows (rows : Rows)
  | failed (problem : StoreProblem)
  | pending

structure Store where
  dialect : Sql.Dialect
  reply : String → Reply

def Store.detached (dialect : Sql.Dialect) : Store := ⟨dialect, fun _ => .failed .abandoned⟩

end StatTable
