import StatTable.Proofs.Splits.Results
import StatTable.Proofs.Sql.Plain

/-
The main result on dimensions: a player has at most one row for each combination of their values, as
long as no request moves the year and each joined group has at most one row of its own for each.
-/

set_option autoImplicit false

namespace StatTable.Plan

open Sql

section

variable (engine : Engine) (tables : Tables) (state : TableState) (bindings : Bindings)
variable (plan : QueryPlan) (player : Row)
variable (compiled : Compiled state bindings plan) (joinable : Joinable bindings.ordered)
variable (unshifted : Unshifted (refsOf bindings.ordered))

theorem chain_placed : bindings.chain.placed = refsOf bindings.ordered :=
  chain_after_placed bindings.ordered

include compiled unshifted

theorem apart_differ (asked : ∀ group ∈ bindings.ordered, ∀ split ∈ group.splits,
      split ∈ canonicalSplits state.splits) (splits : List Split) (one other : Scope)
    (oneAgree : Agree engine one (refsOf bindings.ordered))
    (otherAgree : Agree engine other (refsOf bindings.ordered))
    (apart : ApartIn engine (refsOf bindings.ordered) splits one other) :
    DifferIn engine plan splits one other := by
  obtain ⟨first, firstMember, second, secondMember, same, listed, oneGiven, otherGiven, different⟩ :=
    apart
  rw [← chain_placed bindings] at unshifted oneAgree otherAgree firstMember secondMember
  obtain ⟨value, shown, oneEqual⟩ :=
    output_given engine bindings.chain one unshifted oneAgree first firstMember oneGiven
  obtain ⟨value', shown', otherEqual⟩ :=
    output_given engine bindings.chain other unshifted otherAgree second secondMember otherGiven
  rw [← same, shown] at shown'
  obtain rfl := Option.some.inj shown'
  obtain ⟨group, placed, _, own⟩ :=
    (mem_refs_of bindings.ordered first).mp (chain_placed bindings ▸ firstMember)
  obtain ⟨split, carried, _, _, rfl⟩ := (mem_split_refs group first).mp own
  refine ⟨_, split_output_mem state bindings plan compiled split value (asked group placed split carried)
    shown, split, listed, rfl, (engine.equal_given _ _ oneEqual).1,
    (engine.equal_given _ _ otherEqual).1, ?_⟩
  refine Bool.eq_false_iff.mpr fun equal => ?_
  have back := engine.equal_trans _ _ _ (engine.equal_symm _ _ oneEqual)
    (engine.equal_trans _ _ _ equal otherEqual)
  rw [different] at back
  exact absurd back (by simp)

include joinable

theorem partial_rows_partial (once : ∀ group ∈ bindings.ordered, group.OffersOnce engine tables player)
    (count : Nat) :
    (∀ scope ∈ partialRows engine tables plan player count,
      Partial engine player (refsOf bindings.ordered) (bindings.ordered.drop count) scope) ∧
    (partialRows engine tables plan player count).Pairwise
      (ApartIn engine (refsOf bindings.ordered) Split.all) := by
  unfold partialRows
  rw [compiled.joins]
  refine run_partial engine tables player bindings.ordered joinable unshifted once bindings.ordered [] rfl
    count _ ?_ (List.pairwise_singleton _ _)
  intro scope member
  obtain rfl := List.mem_singleton.mp member
  refine ⟨Scope.single_self _ _, fun group placed => ?_, fun one oneMember => ?_⟩
  · rw [Scope.single, Scope.extend_other _ _ _ _ (joinable.apart group placed)]
    rfl
  · intro other _ _ given
    obtain ⟨group, placed, _, own⟩ := (mem_refs_of bindings.ordered one).mp oneMember
    refine absurd ?_ given
    rw [cell, split_ref_alias group one own, Scope.single,
      Scope.extend_other _ _ _ _ (joinable.apart group placed)]
    rfl

theorem lacking_spreads (group : Group) (placed : group ∈ bindings.ordered) (scope : Scope)
    (row : Row) (output : Output) (member : output ∈ plan.outputs) (split : Split)
    (kind : output.kind = .split split) (lacks : split ∉ group.splits) :
    output.expr.value engine [scope.extend group.aliasName row] = output.expr.value engine [scope] := by
  have shown := split_output_eq state bindings plan compiled output split member kind
  rw [← chain_placed bindings] at unshifted
  rw [output_value engine bindings.chain _ split output.expr shown,
    output_value engine bindings.chain _ split output.expr shown]
  refine congrArg Engine.firstGiven (List.map_congr_left fun ref leads => ?_)
  obtain ⟨refPlaced, same⟩ := (mem_leading_unshifted bindings.chain unshifted split ref).mp leads
  rw [resolved_cell engine _ ref (unshifted ref refPlaced),
    resolved_cell engine _ ref (unshifted ref refPlaced)]
  refine ref_cell_other scope group.aliasName row ref fun named => lacks ?_
  obtain ⟨holder, holderPlaced, _, own⟩ :=
    (mem_refs_of bindings.ordered ref).mp (chain_placed bindings ▸ refPlaced)
  obtain rfl := distinct_eq bindings.ordered joinable.distinct holder group holderPlaced placed
    ((split_ref_alias holder ref own).symm.trans named)
  obtain ⟨carried, listed, _, _, rfl⟩ := (mem_split_refs holder ref).mp own
  exact same ▸ listed

variable (asked : ∀ group ∈ bindings.ordered, ∀ split ∈ group.splits,
  split ∈ canonicalSplits state.splits)
variable (once : ∀ group ∈ bindings.ordered, group.OffersOnce engine tables player)

include asked once

theorem partial_rows_differ (count : Nat) :
    (partialRows engine tables plan player count).Pairwise (DifferIn engine plan Split.all) := by
  obtain ⟨partly, apart⟩ := partial_rows_partial engine tables state bindings plan player compiled
    joinable unshifted once count
  refine apart.imp_of_mem fun {one other} oneMember otherMember different => ?_
  exact apart_differ engine state bindings plan compiled unshifted asked Split.all one other
    (partly one oneMember).agree (partly other otherMember).agree different

variable (count : Nat) (planned : PlannedJoin) (group : Group) (scope : Scope)
variable (plannedAt : plan.joins[count]? = some planned)
variable (groupAt : bindings.ordered[count]? = some group)
variable (member : scope ∈ partialRows engine tables plan player count)

include plannedAt groupAt member

-- A join makes of one row only rows that differ in the dimensions of its group.
theorem join_differs :
    (planned.join.rows engine tables scope).Pairwise (DifferIn engine plan group.splits) := by
  have placed := List.mem_of_getElem? groupAt
  obtain ⟨partly, _⟩ := partial_rows_partial engine tables state bindings plan player compiled
    joinable unshifted once count
  have before := partly scope member
  rw [compiled.joins, plan_joins_get, groupAt] at plannedAt
  obtain rfl := Option.some.inj plannedAt
  obtain ⟨bound, rfl⟩ := List.getElem?_eq_some_iff.mp groupAt
  have order : bindings.ordered = bindings.ordered.take count ++
      bindings.ordered[count] :: bindings.ordered.drop (count + 1) := by
    rw [← List.drop_eq_getElem_cons, List.take_append_drop]
  rw [List.drop_eq_getElem_cons bound] at before
  have agree := fun joined joinedMember => (step_partial engine tables player _ _ _ _ order joinable
    unshifted scope joined before joinedMember).agree
  refine (step_pairwise engine tables player _ _ _ _ order joinable scope before.player
    (once _ placed)).imp_of_mem fun {one other} oneMember otherMember different => ?_
  exact apart_differ engine state bindings plan compiled unshifted asked _ one other
    (agree one oneMember) (agree other otherMember) different

omit asked in
theorem join_spreads (joined : Scope) (joinedMember : joined ∈ planned.join.rows engine tables scope)
    (output : Output) (outputMember : output ∈ plan.outputs) (split : Split)
    (kind : output.kind = .split split) (lacks : split ∉ group.splits) :
    output.expr.value engine [joined] = output.expr.value engine [scope] := by
  have placed := List.mem_of_getElem? groupAt
  obtain ⟨partly, _⟩ := partial_rows_partial engine tables state bindings plan player compiled
    joinable unshifted once count
  rw [compiled.joins, plan_joins_get, groupAt] at plannedAt
  obtain rfl := Option.some.inj plannedAt
  obtain ⟨row, rfl, _⟩ := mem_join_rows engine tables player _ _ _ scope joined
    (partly scope member).player (joinable.apart _ placed) joinedMember
  exact lacking_spreads engine state bindings plan compiled joinable unshifted _ placed scope row output
    outputMember split kind lacks

end

-- However many tables have been joined, the rows of a player differ in a dimension that both have. A
-- joined group makes of a row only rows that differ in its own dimensions, and leaves the others as
-- they are. So no two results of the player show the same in all dimensions.
theorem rows_differ_in_splits (engine : Engine) (tables : Tables) (defaults : Defaults)
    (limits : Limits) (state : TableState) (bindings : Bindings) (plan : QueryPlan) (player : Row)
    (unshifted : ∀ spec ∈ state.requested, spec.params.get? .yearOffset = none)
    (ok : compile defaults limits state = .ok plan)
    (bound : boundUses defaults state = .ok bindings)
    (once : ∀ group ∈ bindings.ordered, group.OffersOnce engine tables player) :
    (∀ count, (partialRows engine tables plan player count).Pairwise
      (DifferIn engine plan Split.all)) ∧
    (∀ (count : Nat) (planned : PlannedJoin) (group : Group), plan.joins[count]? = some planned →
      bindings.ordered[count]? = some group →
      ∀ scope ∈ partialRows engine tables plan player count,
        (planned.join.rows engine tables scope).Pairwise (DifferIn engine plan group.splits) ∧
        ∀ joined ∈ planned.join.rows engine tables scope, ∀ output ∈ plan.outputs, ∀ split,
          output.kind = .split split → split ∉ group.splits →
            output.expr.value engine [joined] = output.expr.value engine [scope]) ∧
    (resultGroups engine tables plan player).Pairwise fun one other =>
      ¬ List.Forall₂ (fun x y => engine.same x y = true) (splitTuple engine plan one)
        (splitTuple engine plan other) := by
  have uses := bound_uses defaults state bindings bound
  have compiled := compiled_of_bound defaults limits state bindings plan bound ok
  have joinable := ordered_joinable defaults state bindings uses
  have anchored := ordered_unshifted defaults state bindings uses unshifted
  have asked := ordered_splits defaults state bindings uses
  have differ := partial_rows_differ engine tables state bindings plan player compiled joinable anchored
    asked once
  refine ⟨differ, fun count planned group plannedAt groupAt scope member => ⟨?_, ?_⟩, ?_⟩
  · exact join_differs engine tables state bindings plan player compiled joinable anchored asked once
      count planned group scope plannedAt groupAt member
  · exact join_spreads engine tables state bindings plan player compiled joinable anchored once count
      planned group scope plannedAt groupAt member
  · refine results_apart state bindings plan compiled engine _ ?_
    exact List.Pairwise.sublist List.filter_sublist (differ plan.joins.length)

def pointsAndRushes : TableState :=
  { TableState.empty with
    columns := [⟨"fantasy_points", .empty⟩, ⟨"rush_yards", .empty⟩], splits := [.year] }

def pointsAndRushesUses : Bindings :=
  (boundUses .standard pointsAndRushes).toOption.getD ⟨[], []⟩

def pointsAndRushesPlan : QueryPlan :=
  (compile .standard .usual pointsAndRushes).toOption.getD ⟨[], ⟨"", none⟩, [], [], [], [], [], 0, 0⟩

def seasonRow (year : Int) (other : Value) : Row := fun name =>
  if name = "pid" then .text "p1" else if name = "year" then .integer year else other

def twoSeasonsPlayed : Tables := fun table =>
  if table = Catalog.seasonlogs.table then
    [seasonRow 2022 (.text "ppr"), seasonRow 2023 (.text "ppr"), seasonRow 2023 (.text "std")]
  else [seasonRow 2023 (.integer 12)]

theorem rows_differ_in_two_seasons :
    (∀ spec ∈ pointsAndRushes.requested, spec.params.get? .yearOffset = none) ∧
    compile .standard .usual pointsAndRushes = .ok pointsAndRushesPlan ∧
    boundUses .standard pointsAndRushes = .ok pointsAndRushesUses ∧
    (∀ group ∈ pointsAndRushesUses.ordered,
      group.OffersOnce .plain twoSeasonsPlayed (seasonRow 0 .null)) ∧
    (∀ count, (partialRows .plain twoSeasonsPlayed pointsAndRushesPlan (seasonRow 0 .null)
      count).Pairwise (DifferIn .plain pointsAndRushesPlan Split.all)) ∧
    (resultGroups .plain twoSeasonsPlayed pointsAndRushesPlan (seasonRow 0 .null)).Pairwise
      fun one other => ¬ List.Forall₂ (fun x y => Engine.plain.same x y = true)
        (splitTuple .plain pointsAndRushesPlan one) (splitTuple .plain pointsAndRushesPlan other) := by
  have unshifted : ∀ spec ∈ pointsAndRushes.requested, spec.params.get? .yearOffset = none := by
    decide
  have ok : compile .standard .usual pointsAndRushes = .ok pointsAndRushesPlan :=
    ok_of_is_ok _ _ (by decide +kernel)
  have bound : boundUses .standard pointsAndRushes = .ok pointsAndRushesUses :=
    ok_of_is_ok _ _ (by decide +kernel)
  have placed : ∀ group ∈ pointsAndRushesUses.table.groups,
      group.OffersOnce .plain twoSeasonsPlayed (seasonRow 0 .null) := by
    decide +kernel
  have once : ∀ group ∈ pointsAndRushesUses.ordered,
      group.OffersOnce .plain twoSeasonsPlayed (seasonRow 0 .null) :=
    fun group member => placed group (ordered_placed _ group member)
  have differ := rows_differ_in_splits .plain twoSeasonsPlayed .standard .usual pointsAndRushes
    pointsAndRushesUses pointsAndRushesPlan (seasonRow 0 .null) unshifted ok bound once
  exact ⟨unshifted, ok, bound, once, differ.1, differ.2.2⟩

end StatTable.Plan
