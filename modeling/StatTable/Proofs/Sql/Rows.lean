import StatTable.Proofs.Lists
import StatTable.Proofs.Sql.Evaluation
import StatTable.Sql.Query

set_option autoImplicit false

namespace StatTable.Sql

abbrev Tables := String → List Row

def TableRef.scopeName (ref : TableRef) : String := ref.aliasName.getD ref.table

def Selection.outputName (selection : Selection) : Option String :=
  match selection.aliasName, selection.expr with
  | some name, _ => some name
  | none, .column _ name => some name
  | none, _ => none

def Row.ofCells (names : List (Option String)) (cells : List Value) : Row :=
  fun name => ((names.zip cells).lookup (some name)).getD .null

section

variable (engine : Engine) (tables : Tables)

def Join.matching (join : Join) (scope : Scope) : List Scope :=
  ((tables join.table.table).map (scope.extend join.table.scopeName)).filter fun extended =>
    join.on.holds engine [extended]

def Join.rows (join : Join) (scope : Scope) : List Scope :=
  match join.kind, join.matching engine tables scope with
  | .left, [] => [scope.extend join.table.scopeName Row.missing]
  | _, extended => extended

def joinAll (joins : List Join) (scopes : List Scope) : List Scope :=
  joins.foldl (fun scopes join => scopes.flatMap (join.rows engine tables)) scopes

-- A query without FROM has one row to compute its values on.
def sourceScopes : Option TableRef → List Scope
  | some ref => (tables ref.table).map (Scope.single ref.scopeName)
  | none => [Scope.empty]

def satisfies (group : List Scope) (condition : Option Expr) : Bool :=
  condition.all fun condition => condition.holds engine group

namespace Query

def scopes (query : Query) : List Scope :=
  (joinAll engine tables query.joins (sourceScopes tables query.source)).filter fun scope =>
    satisfies engine [scope] query.filter

def alike (query : Query) (one other : Scope) : Bool :=
  query.groupBy.all fun key => engine.same (key.value engine [one]) (key.value engine [other])

def isAggregated (query : Query) : Bool :=
  query.selections.any (·.expr.isAggregate) || query.having.isSome

-- The groups of rows. Without GROUP BY, aggregates take all rows together.
def groups (query : Query) (scopes : List Scope) : List (List Scope) :=
  if query.groupBy.isEmpty then
    if query.isAggregated then [scopes] else scopes.map fun scope => [scope]
  else
    (scopes.pwFilter fun one other => query.alike engine one other = false).map fun head =>
      scopes.filter (query.alike engine head)

def bodyRows (query : Query) : List (List Value) :=
  ((query.groups engine (query.scopes engine tables)).filter fun group =>
    satisfies engine group query.having).map fun group =>
      query.selections.map fun selection => selection.expr.value engine group

end Query

end

mutual

def Query.rows (engine : Engine) (tables : Tables) : Query → List (List Value)
  | query@⟨withs, _, _, _, _, _, _, _, _⟩ =>
      query.bodyRows engine (withTables engine tables withs)

def withTables (engine : Engine) (tables : Tables) : List (String × Query) → Tables
  | [] => tables
  | (name, query) :: rest =>
      let rows := (query.rows engine tables).map (Row.ofCells (query.selections.map (·.outputName)))
      withTables engine (Function.update tables name rows) rest

end

variable (engine : Engine) (tables : Tables)

theorem satisfies_conjunction (group : List Scope) (conditions : List Expr) :
    satisfies engine group (Expr.conjunction conditions) =
      conditions.all fun condition => condition.holds engine group := by
  cases joined : Expr.conjunction conditions with
  | none =>
      cases conditions with
      | nil => rfl
      | cons first rest => simp [Expr.conjunction] at joined
  | some condition =>
      rw [satisfies, Option.all_some, Bool.eq_iff_iff, List.all_eq_true]
      exact Expr.conjunction_holds engine group conditions condition joined

theorem join_all_nil (scopes : List Scope) : joinAll engine tables [] scopes = scopes := rfl

theorem join_all_cons (join : Join) (joins : List Join) (scopes : List Scope) :
    joinAll engine tables (join :: joins) scopes =
      joinAll engine tables joins (scopes.flatMap (join.rows engine tables)) := rfl

theorem join_all_flat_map (joins : List Join) (scopes : List Scope) :
    joinAll engine tables joins scopes =
      scopes.flatMap fun scope => joinAll engine tables joins [scope] := by
  induction joins generalizing scopes with
  | nil => simp [join_all_nil]
  | cons join joins ih =>
      rw [join_all_cons, ih, List.flatMap_assoc]
      apply List.flatMap_congr
      intro scope _
      rw [join_all_cons, List.flatMap_singleton, ← ih]

theorem rows_eq (query : Query) : query.rows engine tables =
    query.bodyRows engine (withTables engine tables query.withs) := by
  cases query
  rw [Query.rows]

end StatTable.Sql
