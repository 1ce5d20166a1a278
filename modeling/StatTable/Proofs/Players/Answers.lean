import StatTable.Proofs.Players.Filters
import StatTable.Proofs.Sql.Plain

set_option autoImplicit false

namespace StatTable.Plan

open Sql

section

variable (engine : Engine) (database : Tables) (player : Row)
variable (defaults : Defaults) (state : TableState) (bindings : Bindings) (plan : QueryPlan)
variable (whole : Unsplit defaults state bindings plan)

include whole

theorem select_value (decided : Decided engine database bindings player) (spec : ColumnSpec)
    (bound : BoundSelect) (member : bound ∈ bindings.selects)
    (finds : Finds defaults (canonicalSplits state.splits) spec bound.select.request bound.binding) :
    (bound.value bindings.table).value engine [scopeFor engine database bindings plan player] =
      spec.valueFor engine database defaults player := by
  exact use_value engine database player defaults state bindings plan whole decided _
    (bindings.select_uses bound member) spec (whole.dimensions ▸ finds)
    fun target relation id aggregate reads => select_provided bindings bound member target relation id
      aggregate reads

theorem output_values (decided : Decided engine database bindings player) :
    (plan.outputs.map fun output =>
      output.expr.value engine [scopeFor engine database bindings plan player]) =
    player Catalog.playerKey ::
      state.shown.map fun spec => spec.valueFor engine database defaults player := by
  have leading : leadingOutputs (canonicalSplits state.splits) bindings.chain =
      [⟨Catalog.playerKey, .entity, playerKeyExpr⟩] := by
    rw [whole.dimensions]
    rfl
  rw [whole.compiled.outputs, leading, List.singleton_append, List.map_cons, List.map_map]
  refine congrArg₂ List.cons ?_ ?_
  · rw [playerKeyExpr, Expr.field_value, List.headD_cons,
      scope_for_player engine database defaults state bindings plan whole player]
  · exact map_related _ _ _ _ _ whole.uses.selects fun spec bound member finds =>
      select_value engine database player defaults state bindings plan whole decided spec bound member
        finds

end

theorem unsplit_rows (engine : Engine) (database : Tables) (defaults : Defaults) (limits : Limits)
    (document : Json.Value) (state : TableState) (bindings : Bindings) (plan : QueryPlan)
    (valid : TableState.ofJson limits document = .ok state) (unsplit : state.splits = [])
    (ok : compile defaults limits state = .ok plan)
    (bound : boundUses defaults state = .ok bindings) (apart : AliasesApart bindings.keys)
    (keyed : state.WellKeyed engine database) :
    plan.query.rows engine database = state.rowsFor engine database defaults := by
  have whole : Unsplit defaults state bindings plan := {
    uses := bound_uses defaults state bindings bound
    compiled := compiled_of_bound defaults limits state bindings plan bound ok
    unsplit := unsplit
    apart := apart
    shaped := TableState.of_json_shaped limits document state valid }
  have admitted : survives engine database bindings plan = state.admits engine database defaults :=
    funext fun player => survives_eq engine database player defaults state bindings plan whole
  rw [plan_rows engine database defaults state bindings plan whole keyed, admitted, TableState.rowsFor]
  refine List.map_congr_left fun player member => ?_
  exact output_values engine database player defaults state bindings plan whole
    (admitted_decided engine database player defaults state bindings plan whole
      (List.mem_filter.mp member).2)

def pointsOfTargets : Json.Value := .object [
  ("columns", .array [.string "fantasy_points", .object [("column_id", .string "rush_yards"),
    ("params", .object [("rate_type", .string "per_game")])]]),
  ("where", .array [.object [("column_id", .string "targets"), ("operator", .string ">="),
    ("value", .number (.integer 2))]])]

def pointsOfTargetsState : TableState :=
  (TableState.ofJson .usual pointsOfTargets).toOption.getD .empty

def pointsOfTargetsUses : Bindings :=
  (boundUses .standard pointsOfTargetsState).toOption.getD ⟨[], []⟩

def pointsOfTargetsPlan : QueryPlan :=
  (compile .standard .usual pointsOfTargetsState).toOption.getD
    ⟨[], ⟨"", none⟩, [], [], [], [], [], 0, 0⟩

def Row.ofList (cells : List (String × Value)) : Row := fun name => (cells.lookup name).getD .null

def twoPlayers : Tables := fun table =>
  let season : List (String × Value) := [("year", .integer 2025), ("seas_type", .text "REG")]
  let target := Row.ofList (("trg_pid", .text "a") :: ("play_type", .text "PASS") :: season)
  let run (yards : Int) :=
    Row.ofList (("bc_pid", .text "a") :: ("play_type", .text "RUSH") :: ("rush_yds", .integer yards) ::
      season)
  if table = "player" then [Row.ofList [("pid", .text "a")], Row.ofList [("pid", .text "b")]]
  else if table = "scoring_format_player_seasonlogs" then
    [Row.ofList [("pid", .text "a"), ("year", .integer 2025), ("scoring_format", .text "ppr"),
      ("points", .integer 20)]]
  else if table = "player_gamelogs" then
    [Row.ofList (("pid", .text "a") :: ("active", .bool true) :: ("esbid", .integer 1) :: season)]
  else if table = "nfl_plays" then
    [run 7, target, run 5, target,
      Row.ofList (("trg_pid", .text "b") :: ("play_type", .text "PASS") :: season)]
  else []

theorem rows_of_two_players :
    TableState.ofJson .usual pointsOfTargets = .ok pointsOfTargetsState ∧
    pointsOfTargetsState.splits = [] ∧
    compile .standard .usual pointsOfTargetsState = .ok pointsOfTargetsPlan ∧
    boundUses .standard pointsOfTargetsState = .ok pointsOfTargetsUses ∧
    AliasesApart pointsOfTargetsUses.keys ∧ pointsOfTargetsState.WellKeyed .plain twoPlayers ∧
    pointsOfTargetsPlan.query.rows .plain twoPlayers =
      [[.text "a", .integer 20, .binary (Binary64.ofInt 12)]] := by
  have valid : TableState.ofJson .usual pointsOfTargets = .ok pointsOfTargetsState :=
    ok_of_is_ok _ _ (by decide +kernel)
  have unsplit : pointsOfTargetsState.splits = [] := by decide +kernel
  have ok : compile .standard .usual pointsOfTargetsState = .ok pointsOfTargetsPlan :=
    ok_of_is_ok _ _ (by decide +kernel)
  have bound : boundUses .standard pointsOfTargetsState = .ok pointsOfTargetsUses :=
    ok_of_is_ok _ _ (by decide +kernel)
  have apart : AliasesApart pointsOfTargetsUses.keys := aliases_apart_of_nodup _ (by decide +kernel)
  have keyed : pointsOfTargetsState.WellKeyed .plain twoPlayers := by decide +kernel
  have said : pointsOfTargetsState.rowsFor .plain twoPlayers .standard =
      [[.text "a", .integer 20, .binary (Binary64.ofInt 12)]] := by decide +kernel
  exact ⟨valid, unsplit, ok, bound, apart, keyed, (unsplit_rows .plain twoPlayers .standard .usual
    pointsOfTargets pointsOfTargetsState pointsOfTargetsUses pointsOfTargetsPlan valid unsplit ok bound
    apart keyed).trans said⟩

-- Fantasy points under two scoring formats for which the aliases, though cut from different hashes, are
-- the same.
def pointsOfFormats : Json.Value := .object [("columns", .array
  (["8d743dc4ee8d4f57", "29a0d053a6e0a434"].map fun format => .object [
    ("column_id", .string "fantasy_points"),
    ("params", .object [("scoring_format", .string format)])]))]

def pointsOfFormatsState : TableState :=
  (TableState.ofJson .usual pointsOfFormats).toOption.getD .empty

def pointsOfFormatsUses : Bindings :=
  (boundUses .standard pointsOfFormatsState).toOption.getD ⟨[], []⟩

def pointsOfFormatsPlan : QueryPlan :=
  (compile .standard .usual pointsOfFormatsState).toOption.getD
    ⟨[], ⟨"", none⟩, [], [], [], [], [], 0, 0⟩

def twoFormats : Tables := fun table =>
  let points (format : String) (n : Int) := Row.ofList [("pid", .text "a"), ("year", .integer 2025),
    ("scoring_format", .text format), ("points", .integer n)]
  if table = "player" then [Row.ofList [("pid", .text "a")]]
  else if table = "scoring_format_player_seasonlogs" then
    [points "8d743dc4ee8d4f57" 10, points "29a0d053a6e0a434" 20]
  else []

def fieldOf? : Expr → Option (String × String)
  | .column (some table) name => some (table, name)
  | _ => none

theorem field_of (expr : Expr) (field : String × String) (same : fieldOf? expr = some field) :
    expr = .field field.1 field.2 := by
  unfold fieldOf? at same
  split at same
  · rw [← Option.some.inj same]
    rfl
  · simp at same

theorem formats_share_a_column (engine : Engine) (database : Tables) :
    ∀ cells ∈ pointsOfFormatsPlan.query.rows engine database, cells[1]? = cells[2]? := by
  have ok : compile .standard .usual pointsOfFormatsState = .ok pointsOfFormatsPlan :=
    ok_of_is_ok _ _ (by decide +kernel)
  have bound : boundUses .standard pointsOfFormatsState = .ok pointsOfFormatsUses :=
    ok_of_is_ok _ _ (by decide +kernel)
  have compiled := compiled_of_bound .standard .usual pointsOfFormatsState pointsOfFormatsUses
    pointsOfFormatsPlan bound ok
  have unsplit : pointsOfFormatsState.splits = [] := by decide +kernel
  have fields : pointsOfFormatsUses.selects.map
      (fun bound => fieldOf? (bound.value pointsOfFormatsUses.table)) =
        [some ("t3518fdb048509ebb", "points"), some ("t3518fdb048509ebb", "points")] := by
    decide +kernel
  obtain ⟨first, others, selects, firstField, others'⟩ := List.map_eq_cons_iff.mp fields
  obtain ⟨second, rest, selects', secondField, rest'⟩ := List.map_eq_cons_iff.mp others'
  obtain rfl := List.map_eq_nil_iff.mp rest'
  have outputs : pointsOfFormatsPlan.outputs = [⟨Catalog.playerKey, .entity, playerKeyExpr⟩,
      columnOutput pointsOfFormatsUses.table first, columnOutput pointsOfFormatsUses.table second] := by
    rw [compiled.outputs, selects, selects', unsplit]
    rfl
  intro cells member
  rw [rows_eq] at member
  obtain ⟨group, _, rfl⟩ := List.mem_map.mp member
  show ((pointsOfFormatsPlan.outputs.map QueryPlan.selection).map _)[1]? =
    ((pointsOfFormatsPlan.outputs.map QueryPlan.selection).map _)[2]?
  have firstValue : (columnOutput pointsOfFormatsUses.table first).expr = _ :=
    field_of _ _ firstField
  have secondValue : (columnOutput pointsOfFormatsUses.table second).expr = _ :=
    field_of _ _ secondField
  simp [outputs, QueryPlan.selection, firstValue, secondValue]

theorem formats_share_a_row :
    TableState.ofJson .usual pointsOfFormats = .ok pointsOfFormatsState ∧
    pointsOfFormatsState.splits = [] ∧
    compile .standard .usual pointsOfFormatsState = .ok pointsOfFormatsPlan ∧
    pointsOfFormatsState.WellKeyed .plain twoFormats ∧
    pointsOfFormatsState.rowsFor .plain twoFormats .standard =
      [[.text "a", .integer 10, .integer 20]] ∧
    pointsOfFormatsPlan.query.rows .plain twoFormats ≠
      pointsOfFormatsState.rowsFor .plain twoFormats .standard := by
  have said : pointsOfFormatsState.rowsFor .plain twoFormats .standard =
      [[.text "a", .integer 10, .integer 20]] := by decide +kernel
  refine ⟨ok_of_is_ok _ _ (by decide +kernel), by decide +kernel, ok_of_is_ok _ _ (by decide +kernel),
    by decide +kernel, said, fun same => ?_⟩
  have shared := formats_share_a_column .plain twoFormats
  rw [same, said] at shared
  simp at shared

end StatTable.Plan
