import StatTable.Proofs.Players.Clauses
import StatTable.Proofs.Statements.Plans

set_option autoImplicit false

namespace StatTable

open Sql

namespace Plan

theorem satisfiable_chooses (params checked : Params)
    (ok : requireSatisfiable params = .ok checked) : checked.Choose (· ≠ []) := by
  obtain rfl := require_satisfiable_ok params checked ok
  intro key value given
  unfold requireSatisfiable at ok
  dsimp only at ok
  split at ok
  · cases ok
  · rename_i none
    have satisfiable := List.findSome?_eq_none_iff.mp none (key, value)
      ((mem_to_list checked key value).mpr given)
    cases value with
    | scalar s => trivial
    | range min max => trivial
    | list items =>
        cases items with
        | nil => cases satisfiable
        | cons s rest => exact List.cons_ne_nil _ _

theorem resolved_chooses (relation : Relation) (splits : List Split) (defaults : Defaults)
    (params resolved : Params) (ok : resolve relation splits defaults params = .ok resolved) :
    resolved.Choose (· ≠ []) := by
  obtain ⟨_, _, ok⟩ := (bind_ok _ _ _).mp ok
  exact satisfiable_chooses _ resolved ok

theorem filter_choose (Choices : List Expr → Prop) (params : Params) (keep : ParamKey → Bool)
    (choose : params.Choose Choices) : (params.filter keep).Choose Choices := by
  intro key value given
  by_cases kept : keep key = true
  · exact choose key value (by simpa [Params.filter, kept] using given)
  · simp [Params.filter, kept] at given

section

variable (defaults : Defaults) (state : TableState) (bindings : Bindings)
variable (uses : Uses defaults state bindings)

include uses

theorem primary_chooses (group : Group) (placed : group ∈ bindings.table.groups)
    (primary : group.isDenominator = false) : group.params.Choose (· ≠ []) := by
  obtain ⟨_, _, relation, reads⟩ :=
    primary_reads defaults state bindings uses group placed primary
  exact resolved_chooses _ _ _ _ _ reads.resolved

theorem group_chooses (group : Group) (member : group ∈ bindings.ordered) :
    group.params.Choose (· ≠ []) := by
  by_cases divides : group.isDenominator = true
  · obtain ⟨numerator, joined, primary, rate, same, _⟩ :=
      ordered_divides defaults state bindings uses group member divides
    have params : group.params = numerator.params.filter (Target.scopesDenominator rate) :=
      congrArg Target.params same
    rw [params]
    exact filter_choose _ _ _ (primary_chooses defaults state bindings uses numerator
      (ordered_placed bindings numerator joined) primary)
  · exact primary_chooses defaults state bindings uses group (ordered_placed bindings group member)
      (by simpa using divides)

theorem lists_chosen (shaped : ∀ clause ∈ state.filters, clause.Shaped) :
    Chosen (· ≠ []) bindings where
  params := group_chooses defaults state bindings uses
  filters := by
    intro bound used list
    obtain ⟨clause, listed, asks, _⟩ := forall_right _ _ _ uses.filters bound used
    have fits := shaped clause listed
    rw [FilterClause.Shaped, ← asks.operator, ← asks.operand, list] at fits
    cases given : bound.filter.operand with
    | none =>
        rw [given] at fits
        cases fits
    | some operand =>
        rw [given] at fits
        cases operand with
        | scalar s => cases fits
        | list items => exact fun none => fits (List.map_eq_nil_iff.mp none)

end

theorem compiled_read_back (defaults : Defaults) (limits : Limits) (document : Json.Value)
    (state : TableState) (plan : QueryPlan) (valid : TableState.ofJson limits document = .ok state)
    (ok : compile defaults limits state = .ok plan) :
    ∀ dialect, ∀ expr ∈ plan.exprs ++ plan.query.exprs,
      Expr.parse (expr.tokens dialect) = some expr := by
  have shaped := TableState.of_json_shaped limits document state valid
  have formed := compile_formed (· ≠ []) defaults limits state plan ok fun bindings bound =>
    lists_chosen defaults state bindings (bound_uses defaults state bindings bound) shaped
  intro dialect expr member
  rcases List.mem_append.mp member with own | queried
  · exact parse_tokens dialect expr (plan_exprs_formed _ plan formed expr own)
  · exact parse_tokens dialect expr (query_formed _ plan formed expr queried)

def yardsApart : Json.Value :=
  .object [
    ("columns", .array [.string "fantasy_points", .object [("id", .string "rush_yards"),
      ("params", .object [("year_offset", .number (.integer (-1))),
        ("week", .object [("min", .number (.integer 1)), ("max", .number (.integer 9))])])]]),
    ("splits", .array [.string "year"]),
    ("where", .array [.object [("column_id", .string "player_name"), ("operator", .string "like"),
        ("value", .string "A%")],
      .object [("column_id", .string "rush_yards"), ("operator", .string ">"),
        ("value", .number (.integer (-5))),
        ("params", .object [("rate_type", .string "per_game")])]])]

def yardsApartState : TableState :=
  (TableState.ofJson .usual yardsApart).toOption.getD .empty

def yardsApartPlan : QueryPlan :=
  (compile .standard .usual yardsApartState).toOption.getD ⟨[], ⟨"", none⟩, [], [], [], [], [], 0, 0⟩

theorem yards_apart_read_back :
    TableState.ofJson .usual yardsApart = .ok yardsApartState ∧
    compile .standard .usual yardsApartState = .ok yardsApartPlan ∧
    ∀ dialect, ∀ expr ∈ yardsApartPlan.exprs ++ yardsApartPlan.query.exprs,
      Expr.parse (expr.tokens dialect) = some expr := by
  have valid : TableState.ofJson .usual yardsApart = .ok yardsApartState :=
    ok_of_is_ok _ _ (by decide +kernel)
  have ok : compile .standard .usual yardsApartState = .ok yardsApartPlan :=
    ok_of_is_ok _ _ (by decide +kernel)
  exact ⟨valid, ok, compiled_read_back .standard .usual yardsApart yardsApartState yardsApartPlan
    valid ok⟩

end Plan

end StatTable
