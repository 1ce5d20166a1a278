import StatTable.Duration
import StatTable.Statement
import StatTable.Store.Basic

set_option autoImplicit false

namespace StatTable

structure Session where
  store : Store
  defaults : Defaults
  limits : Limits
  deadline : Option Duration

inductive Failure where
  | refused (refusal : Refusal)
  | store (problem : StoreProblem)
  | late (limit : Duration)
  | unanswered

def Failure.message : Failure → String
  | .refused refusal => refusal.message
  | .store problem => "Query failed: " ++ problem.message
  | .late limit => "Query exceeded " ++ limit.text
  | .unanswered => "Query never answered"

structure Answer where
  columns : List String
  rows : List Json.Value
  statement : String

namespace Session

def options (session : Session) : Options :=
  ⟨session.store.dialect, session.defaults, session.limits⟩

def awaitReply (deadline : Option Duration) : Reply → Except Failure Rows
  | .rows rows => .ok rows
  | .failed problem => .error (.store problem)
  | .pending =>
      match deadline with
      | some limit => .error (.late limit)
      | none => .error .unanswered

def execute (session : Session) (document : Json.Value) : Except Failure Answer := do
  let statement ← (Statement.ofJson session.options document).mapError .refused
  let text := statement.text
  let rows ← awaitReply session.deadline (session.store.reply text)
  return ⟨statement.plan.outputNames, rows.toMaps, text⟩

end Session

end StatTable
