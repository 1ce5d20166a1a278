import StatTable.Proofs.Players.Stages

set_option autoImplicit false

namespace StatTable.Plan

open Sql

section

variable (engine : Engine) (database : Tables) (group : Group) (rate : Rate) (player : Value)

theorem play_conditions_hold (scope : Scope) :
    ((Stage.playConditions rate group.params).all fun condition => condition.holds engine [scope]) =
    (rate.playType.all (fun type =>
      engine.equal (scope Stage.playsAlias Catalog.playType) (.text type)) &&
      Catalog.situationKeys.all fun key => (group.params.get? key).all fun value =>
        value.allows engine (scope Stage.playsAlias key.name)) := by
  rw [Stage.playConditions, List.all_append]
  congr 1
  · cases rate.playType with
    | none => rfl
    | some type => simp
  · induction Catalog.situationKeys with
    | nil => rfl
    | cons key rest ih =>
        rw [List.all_cons, ← ih]
        cases held : group.params.get? key with
        | none => simp [held]
        | some value => simp [held, allows_holds]

theorem team_plays_hold (scope : Scope) : Stage.teamPlays.on.holds engine [scope] =
    (engine.equal (scope Stage.playsAlias Catalog.gameKey) (scope Stage.gamesAlias Catalog.gameKey) &&
      engine.equal (scope Stage.playsAlias Catalog.playOffense)
        (scope Stage.gamesAlias Catalog.gamelogTeam)) := by
  rw [Bool.eq_iff_iff, Bool.and_eq_true, Stage.teamPlays, Expr.and_holds, Expr.eq_holds, Expr.eq_holds,
    Expr.field_value, Expr.field_value, Expr.field_value, Expr.field_value]
  rfl

theorem play_counts (plays : rate.countsTeamPlays = true) (scope : Scope) :
    ((engine.equal (scope Stage.gamesAlias Catalog.gamelogs.entityColumn) player &&
      satisfies engine [scope] (Stage.ofDenominator group rate).query.filter) &&
      Stage.teamPlays.on.holds engine [scope]) =
    ((engine.equal (scope Stage.gamesAlias Catalog.gamelogs.entityColumn) player &&
      Catalog.gamelogs.fits engine group.params (scope Stage.gamesAlias)) &&
      isTeamPlay engine rate group.params (scope Stage.gamesAlias) (scope Stage.playsAlias)) := by
  have conditions : (Stage.ofDenominator group rate).conditions =
      Stage.rowConditions Catalog.gamelogs group.params Stage.gamesAlias ++
        Stage.playConditions rate group.params := by
    simp [Stage.ofDenominator, plays]
  have filter : satisfies engine [scope] (Stage.ofDenominator group rate).query.filter = _ :=
    satisfies_conjunction engine _ (Stage.ofDenominator group rate).conditions
  have hold := row_conditions_hold engine Catalog.gamelogs group.params Stage.gamesAlias scope player
  rw [Bool.and_comm] at hold
  rw [filter, conditions, List.all_append, ← Bool.and_assoc, hold, play_conditions_hold,
    team_plays_hold, isTeamPlay]
  ac_rfl

theorem game_rows_with (games : rate.countsTeamPlays = false) :
    (Stage.ofDenominator group rate).query.rowsWith engine database Stage.gamesAlias
      Catalog.gamelogs.entityColumn player =
    (Catalog.gamelogs.rowsOf engine database group.params player).map
      (Scope.single Stage.gamesAlias) :=
  relation_rows_with engine database _ ⟨Catalog.gamelogs.table, some Stage.gamesAlias⟩
    Catalog.gamelogs group.params player rfl rfl (by simp [Stage.query, Stage.ofDenominator, games])
    (by simp [Stage.query, Stage.ofDenominator, games, TableRef.scopeName])

theorem play_rows_with (plays : rate.countsTeamPlays = true) :
    (Stage.ofDenominator group rate).query.rowsWith engine database Stage.gamesAlias
      Catalog.gamelogs.entityColumn player =
    (Catalog.gamelogs.rowsOf engine database group.params player).flatMap fun game =>
      (teamPlaysOf engine database rate group.params game).map
        ((Scope.single Stage.gamesAlias game).extend Stage.playsAlias) := by
  have joins : (Stage.ofDenominator group rate).query.joins = [Stage.teamPlays] := by
    simp [Stage.query, Stage.ofDenominator, plays]
  unfold Query.rowsWith Query.scopes
  rw [joins, join_all_cons, join_all_nil]
  show ((List.flatMap _ (List.map (Scope.single Stage.gamesAlias)
    (database Catalog.gamelogs.table))).filter _).filter _ = _
  rw [List.filter_filter, List.filter_flatMap, List.flatMap_map]
  refine flat_map_kept (fun game => engine.equal (game Catalog.gamelogs.entityColumn) player &&
    Catalog.gamelogs.fits engine group.params game) _ _ _ fun game _ => ?_
  show (((database Catalog.playsTable).map ((Scope.single Stage.gamesAlias game).extend
    Stage.playsAlias)).filter _).filter _ = _
  rw [List.filter_filter, List.filter_map]
  have apart : Stage.gamesAlias ≠ Stage.playsAlias := by decide
  have counts : ∀ play, _ := fun play => play_counts engine group rate player plays
    ((Scope.single Stage.gamesAlias game).extend Stage.playsAlias play)
  simp only [Scope.extend_self, Scope.extend_other _ _ _ _ apart, Scope.single_self] at counts
  cases keep : engine.equal (game Catalog.gamelogs.entityColumn) player &&
      Catalog.gamelogs.fits engine group.params game with
  | true =>
      rw [if_pos rfl, teamPlaysOf]
      refine congrArg _ (List.filter_congr fun play _ => ?_)
      have own := counts play
      rw [keep, Bool.true_and] at own
      simp only [Function.comp_apply, Scope.extend_other _ _ _ _ apart, Scope.single_self]
      exact own
  | false =>
      rw [if_neg (by simp), List.map_eq_nil_iff]
      refine List.filter_eq_nil_iff.mpr fun play _ => ?_
      have own := counts play
      rw [keep, Bool.false_and] at own
      simp only [Function.comp_apply, Scope.extend_other _ _ _ _ apart, Scope.single_self, own]
      simp

variable (unsplit : group.splits = [])

include unsplit

theorem denominator_keys : (Stage.ofDenominator group rate).keys =
    [⟨.field Stage.gamesAlias Catalog.gamelogs.entityColumn, some Catalog.playerKey⟩] := by
  simp [Stage.ofDenominator, Stage.keysOf, unsplit]

theorem denominator_names :
    (Stage.ofDenominator group rate).query.selections.map (·.outputName) =
      [some Catalog.playerKey, some denominatorColumn] := by
  rw [Stage.query, denominator_keys group rate unsplit]
  rfl

theorem denominator_stage_rows :
    ((Stage.ofDenominator group rate).query.tableRows engine database).filter
      (fun row => engine.equal (row Catalog.playerKey) player) =
    if !((Stage.ofDenominator group rate).query.rowsWith engine database Stage.gamesAlias
        Catalog.gamelogs.entityColumn player).isEmpty then
      [(Stage.ofDenominator group rate).query.rowOf engine
        ((Stage.ofDenominator group rate).query.rowsWith engine database Stage.gamesAlias
          Catalog.gamelogs.entityColumn player)]
    else [] := by
  have keys := denominator_keys group rate unsplit
  have distinct : ((Stage.ofDenominator group rate).query.selections.map (·.outputName)).Nodup := by
    rw [denominator_names group rate unsplit]
    decide
  rw [Query.keyed_rows engine database _ distinct Stage.gamesAlias Catalog.gamelogs.entityColumn
    Catalog.playerKey (Stage.ofDenominator group rate).aggregates
    (by rw [Stage.query, keys, List.singleton_append]) (by rw [Stage.query, keys]; rfl) player]
  have having : ∀ rows, satisfies engine rows (Stage.ofDenominator group rate).query.having = true :=
    fun _ => rfl
  rw [having, Bool.and_true]

theorem denominator_row_cell (rows : List Scope) :
    (Stage.ofDenominator group rate).query.rowOf engine rows denominatorColumn =
      if rate.countsTeamPlays then .integer rows.length
      else engine.aggregated "COUNT" true (rows.map fun scope =>
        scope Stage.gamesAlias Catalog.gameKey) := by
  have distinct : ((Stage.ofDenominator group rate).query.selections.map (·.outputName)).Nodup := by
    rw [denominator_names group rate unsplit]
    decide
  rw [Query.row_of_cell engine _ distinct
    ⟨if rate.countsTeamPlays then .countRows
      else .countDistinct (.field Stage.gamesAlias Catalog.gameKey), some denominatorColumn⟩
    (List.mem_append_right _ (by simp [Stage.ofDenominator])) denominatorColumn rfl]
  by_cases plays : rate.countsTeamPlays = true
  · rw [if_pos plays, if_pos plays, count_rows_value]
  · rw [if_neg plays, if_neg plays, Expr.countDistinct, aggregate_call engine rows _ _ _ (by decide)]
    exact congrArg _ (List.map_congr_left fun scope _ => Expr.field_value engine [scope] _ _)

theorem denominator_stage_value (params : Params)
    (shared : group.params = params.filter (Target.scopesDenominator rate)) :
    ((((Stage.ofDenominator group rate).query.tableRows engine database).filter
      fun row => engine.equal (row Catalog.playerKey) player).headD Row.missing) denominatorColumn =
    denominatorValue engine database rate params player := by
  rw [denominator_stage_rows engine database group rate player unsplit, denominatorValue, ← shared]
  cases plays : rate.countsTeamPlays with
  | true =>
      rw [play_rows_with engine database group rate player plays, if_pos rfl]
      generalize Catalog.gamelogs.rowsOf engine database group.params player = games
      have length : (games.flatMap fun game => (teamPlaysOf engine database rate group.params
          game).map ((Scope.single Stage.gamesAlias game).extend Stage.playsAlias)).length =
          (games.flatMap (teamPlaysOf engine database rate group.params)).length := by
        simp [List.length_flatMap]
      generalize (games.flatMap fun game => (teamPlaysOf engine database rate group.params
        game).map ((Scope.single Stage.gamesAlias game).extend Stage.playsAlias)) = pairs at length ⊢
      cases counted : games.flatMap (teamPlaysOf engine database rate group.params) with
      | nil =>
          rw [counted] at length
          rw [List.eq_nil_of_length_eq_zero length]
          rfl
      | cons play rest =>
          cases pairs with
          | nil => simp [counted] at length
          | cons pair others =>
              have cell := denominator_row_cell engine group rate unsplit (pair :: others)
              rw [plays, if_pos rfl, length, counted] at cell
              exact cell
  | false =>
      rw [game_rows_with engine database group rate player plays]
      cases Catalog.gamelogs.rowsOf engine database group.params player with
      | nil => rfl
      | cons game rest =>
          have cell := denominator_row_cell engine group rate unsplit
            ((game :: rest).map (Scope.single Stage.gamesAlias))
          rw [plays, if_neg (by simp), List.map_map] at cell
          refine cell.trans (congrArg _ (List.map_congr_left fun row _ => ?_))
          rw [Function.comp_apply, Scope.single_self]

end

end StatTable.Plan
