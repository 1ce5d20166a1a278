import StatTable.Plan.Query
import StatTable.Proofs.Sql.Aggregates
import StatTable.Proofs.Sql.Grouping
import StatTable.Proofs.Joins.Staged
import StatTable.Proofs.Params.Resolution
import StatTable.Proofs.Splits.Chain

set_option autoImplicit false

namespace StatTable.Plan

open Sql

section

variable (defaults : Defaults) (state : TableState) (bindings : Bindings)
variable (uses : Uses defaults state bindings)

include uses

theorem ordered_joinable : Joinable bindings.ordered where
  distinct := ordered_distinct bindings
  apart := by
    intro group member
    rw [placed_alias bindings group (ordered_placed bindings group member)]
    exact alias_ne _ _ (by decide)
  columns := ordered_split_column defaults state bindings uses
  divides := by
    intro group member divides
    obtain ⟨numerator, placed, primary, rate, same, _⟩ :=
      ordered_divides defaults state bindings uses group member divides
    exact ⟨numerator, placed, primary, rate, congrArg Target.source same,
      congrArg Target.splits same⟩

theorem ordered_unshifted
    (unshifted : ∀ spec ∈ state.requested, spec.params.get? .yearOffset = none) :
    Unshifted (refsOf bindings.ordered) := by
  intro ref member
  obtain ⟨group, placed, primary, own⟩ := (mem_refs_of _ ref).mp member
  obtain ⟨spec, requested, relation, reads⟩ := primary_reads defaults state bindings uses group
    (ordered_placed bindings group placed) primary
  have absent : (spec.params.erase .rateType).get? .yearOffset = none := by
    simp [Params.erase, unshifted spec requested]
  have resolved := resolve_unshifted relation _ defaults _ _ absent reads.resolved
  obtain ⟨_, _, _, _, rfl⟩ := (mem_split_refs group ref).mp own
  show ((group.target.params.get? .yearOffset).bind ParamValue.toInt64?).getD 0 = 0
  rw [resolved]
  rfl

theorem ordered_splits (group : Group) (member : group ∈ bindings.ordered) (split : Split)
    (carried : split ∈ group.splits) : split ∈ canonicalSplits state.splits := by
  have primaryCase : ∀ group ∈ bindings.ordered, group.isDenominator = false →
      split ∈ group.splits → split ∈ canonicalSplits state.splits := by
    intro group member primary carried
    obtain ⟨_, _, relation, reads⟩ := primary_reads defaults state bindings uses group
      (ordered_placed bindings group member) primary
    have listed : split ∈ commonSplits (canonicalSplits state.splits) relation :=
      reads.splits ▸ carried
    simp only [commonSplits, List.mem_filter, Bool.and_eq_true] at listed
    exact List.contains_iff_mem.mp listed.2.1
  cases divides : group.isDenominator with
  | false => exact primaryCase group member divides carried
  | true =>
      obtain ⟨numerator, placed, primary, rate, same, _⟩ :=
        ordered_divides defaults state bindings uses group member divides
      have splits : group.splits = numerator.splits := congrArg Target.splits same
      exact primaryCase numerator placed primary (splits ▸ carried)

end

section

variable (engine : Engine) (chain : SplitChain) (scope : Scope)

theorem output_value (split : Split) (value : Expr) (shown : chain.output? split = some value) :
    value.value engine [scope] = Engine.firstGiven
      ((chain.leading split).map fun ref => ref.resolved.value engine [scope]) := by
  have values : (chain.leading split).map (fun ref => ref.resolved.value engine [scope]) =
      ((chain.leading split).map (·.resolved)).map fun expr => expr.value engine [scope] := by
    rw [List.map_map]
    rfl
  unfold SplitChain.output? at shown
  rw [values]
  generalize (chain.leading split).map (·.resolved) = exprs at shown ⊢
  cases exprs with
  | nil => simp at shown
  | cons first rest =>
      cases rest with
      | nil =>
          obtain rfl := Option.some.inj shown
          by_cases missing : first.value engine [scope] = .null <;>
            simp [Engine.firstGiven, missing]
      | cons second rest =>
          obtain rfl := Option.some.inj shown
          rw [Expr.coalesce_value]

theorem output_given (unshifted : Unshifted chain.placed) (agree : Agree engine scope chain.placed)
    (ref : SplitRef) (placed : ref ∈ chain.placed) (given : cell scope ref ≠ .null) :
    ∃ value, chain.output? ref.split = some value ∧
      engine.equal (value.value engine [scope]) (cell scope ref) = true := by
  have leads := (mem_leading_unshifted chain unshifted ref.split ref).mpr ⟨placed, rfl⟩
  have shown : ∃ value, chain.output? ref.split = some value := by
    unfold SplitChain.output?
    cases refs : chain.leading ref.split with
    | nil => simp [refs] at leads
    | cons first rest =>
        cases rest with
        | nil => exact ⟨_, rfl⟩
        | cons second rest => exact ⟨_, rfl⟩
  obtain ⟨value, shown⟩ := shown
  refine ⟨value, shown, ?_⟩
  have cells : (chain.leading ref.split).map (fun ref => ref.resolved.value engine [scope]) =
      (chain.leading ref.split).map (cell scope) := by
    refine List.map_congr_left fun other member => ?_
    exact resolved_cell engine scope other
      (unshifted other ((mem_leading_unshifted chain unshifted _ other).mp member).1)
  have found := first_given_mem ((chain.leading ref.split).map (cell scope)) []
    ⟨_, List.mem_map_of_mem leads, given⟩
  rw [output_value engine chain scope ref.split value shown, cells]
  rw [List.append_nil] at found
  obtain ⟨other, otherLeads, held⟩ := List.mem_map.mp found.1
  obtain ⟨otherPlaced, same⟩ := (mem_leading_unshifted chain unshifted _ other).mp otherLeads
  rw [← held] at found ⊢
  exact agree other otherPlaced ref placed same found.2 given

end

def partialRows (engine : Engine) (tables : Tables) (plan : QueryPlan) (player : Row) (count : Nat) :
    List Scope :=
  joinAll engine tables ((plan.joins.take count).map (·.join))
    [Scope.single Catalog.playerTable player]

-- Two rows show different values in one of some dimensions, and none of the values is missing.
def DifferIn (engine : Engine) (plan : QueryPlan) (splits : List Split) (one other : Scope) : Prop :=
  ∃ output ∈ plan.outputs, ∃ split ∈ splits, output.kind = .split split ∧
    output.expr.value engine [one] ≠ .null ∧ output.expr.value engine [other] ≠ .null ∧
      engine.equal (output.expr.value engine [one]) (output.expr.value engine [other]) = false

def resultGroups (engine : Engine) (tables : Tables) (plan : QueryPlan) (player : Row) :
    List (List Scope) :=
  plan.query.groups engine ((partialRows engine tables plan player plan.joins.length).filter
    fun scope => satisfies engine [scope] plan.query.filter)

def isSplitOutput (output : Output) : Bool :=
  match output.kind with
  | .split _ => true
  | .entity | .column .. => false

def splitTuple (engine : Engine) (plan : QueryPlan) (group : List Scope) : List Value :=
  (plan.outputs.filter isSplitOutput).map fun output => output.expr.value engine group

section

variable (state : TableState) (bindings : Bindings) (plan : QueryPlan)
variable (compiled : Compiled state bindings plan)

include compiled

theorem split_output_mem (split : Split) (value : Expr)
    (asked : split ∈ canonicalSplits state.splits) (shown : bindings.chain.output? split = some value) :
    (⟨split.name, .split split, value⟩ : Output) ∈ plan.outputs := by
  rw [compiled.outputs, leadingOutputs]
  refine List.mem_append_left _ (List.mem_cons_of_mem _ ?_)
  exact List.mem_filterMap.mpr ⟨split, asked, by rw [shown]; rfl⟩

theorem split_output_eq (output : Output) (split : Split) (member : output ∈ plan.outputs)
    (kind : output.kind = .split split) : bindings.chain.output? split = some output.expr := by
  rw [compiled.outputs, leadingOutputs, List.mem_append, List.mem_cons] at member
  rcases member with (rfl | leading) | column
  · simp at kind
  · obtain ⟨asked, _, made⟩ := List.mem_filterMap.mp leading
    obtain ⟨value, shown, rfl⟩ := Option.map_eq_some_iff.mp made
    obtain rfl : asked = split := by simpa using kind
    exact shown
  · obtain ⟨bound, _, rfl⟩ := List.mem_map.mp column
    simp [columnOutput] at kind

omit compiled in
theorem resolved_plain (ref : SplitRef) : ref.resolved.isAggregate = false := by
  unfold SplitRef.resolved
  cases ref.split with
  | week => rfl
  | year =>
      dsimp only
      split <;> rfl

omit compiled in
theorem output_plain (chain : SplitChain) (split : Split) (value : Expr)
    (shown : chain.output? split = some value) : value.isAggregate = false := by
  have each : ∀ expr ∈ (chain.leading split).map (·.resolved), expr.isAggregate = false :=
    List.forall_mem_map.mpr fun ref _ => resolved_plain ref
  unfold SplitChain.output? at shown
  split at shown
  · cases shown
  · rename_i only single
    obtain rfl := Option.some.inj shown
    exact each _ (single ▸ List.mem_singleton_self _)
  · obtain rfl := Option.some.inj shown
    exact Expr.coalesce_plain _ each

theorem split_output_plain (output : Output) (split : Split) (member : output ∈ plan.outputs)
    (kind : output.kind = .split split) : output.expr.isAggregate = false :=
  output_plain bindings.chain split output.expr
    (split_output_eq state bindings plan compiled output split member kind)

theorem split_output_grouped (output : Output) (split : Split) (member : output ∈ plan.outputs)
    (kind : output.kind = .split split) : output.expr ∈ plan.query.groupBy := by
  show output.expr ∈ plan.groupBy
  rw [compiled.groupBy]
  refine List.mem_filter.mpr ⟨List.mem_map_of_mem member, ?_⟩
  rw [split_output_plain state bindings plan compiled output split member kind]
  rfl

theorem grouped : plan.query.groupBy ≠ [] := by
  show plan.groupBy ≠ []
  rw [compiled.groupBy, compiled.outputs, leadingOutputs]
  refine List.ne_nil_of_mem (a := playerKeyExpr) (List.mem_filter.mpr ⟨by simp, rfl⟩)

theorem results_apart (engine : Engine) (scopes : List Scope)
    (apart : scopes.Pairwise (DifferIn engine plan Split.all)) :
    (plan.query.groups engine scopes).Pairwise fun one other =>
      ¬ List.Forall₂ (fun x y => engine.same x y = true) (splitTuple engine plan one)
        (splitTuple engine plan other) := by
  rw [plan.query.groups_apart engine scopes (grouped state bindings plan compiled),
    List.pairwise_map]
  · refine apart.imp fun {one other} differ same => ?_
    obtain ⟨output, member, split, _, kind, given, _, different⟩ := differ
    unfold splitTuple at same
    rw [List.forall₂_map_left_iff, List.forall₂_map_right_iff, List.forall₂_same] at same
    have alike := same output (List.mem_filter.mpr ⟨member, by rw [isSplitOutput, kind]⟩)
    rw [engine.same_of_given _ _ given, different] at alike
    exact absurd alike (by simp)
  · refine apart.imp fun {one other} differ => ?_
    obtain ⟨output, member, split, _, kind, given, _, different⟩ := differ
    exact plan.query.not_alike engine one other output.expr
      (split_output_grouped state bindings plan compiled output split member kind) given different

end

end StatTable.Plan
