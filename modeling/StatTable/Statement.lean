import StatTable.Json.Reader
import StatTable.Plan.Compile
import StatTable.Plan.Query
import StatTable.TableState.Reading

set_option autoImplicit false

namespace StatTable

structure Options where
  dialect : Sql.Dialect
  defaults : Defaults
  limits : Limits

def Options.standard : Options := ⟨default, .standard, .usual⟩

structure Statement where
  dialect : Sql.Dialect
  plan : QueryPlan

inductive Refusal where
  | notJson
  | invalid (problems : List TableState.Problem)
  | uncompilable (error : CompileError)

def Refusal.message : Refusal → String
  | .notJson => "Invalid JSON: not a JSON text"
  | .invalid problems => TableState.refusal (problems.map (·.line))
  | .uncompilable error => "Compilation failed: " ++ error.message

namespace Statement

def text (statement : Statement) : String :=
  statement.plan.query.text statement.dialect

def ofState (options : Options) (state : TableState) : Except CompileError Statement :=
  (Plan.compile options.defaults options.limits state).map fun plan => ⟨options.dialect, plan⟩

def ofJson (options : Options) (document : Json.Value) : Except Refusal Statement := do
  let state ← (TableState.ofJson options.limits document).mapError .invalid
  (ofState options state).mapError .uncompilable

def ofText (options : Options) (source : String) : Except Refusal Statement :=
  match Json.read source with
  | some document => ofJson options document
  | none => .error .notJson

end Statement

end StatTable
