import StatTable.Proofs.Groups.Keys

set_option autoImplicit false

namespace StatTable.Plan

theorem plan_joins_get (ordered groups : List Group) (chain : SplitChain) (count : Nat) :
    (planJoins ordered chain groups)[count]? = (groups[count]?).map
      (planJoin ordered ((groups.take count).foldl extendChain chain)) := by
  induction groups generalizing chain count with
  | nil => rfl
  | cons group rest ih =>
      cases count with
      | zero => rfl
      | succ count =>
          rw [planJoins, List.getElem?_cons_succ, List.getElem?_cons_succ, ih, List.take_succ_cons,
            List.foldl_cons]

def Source.relation? : Source → Option Relation
  | .fact relation | .direct relation _ => some relation
  | .denominator .. => none

theorem sources_tables : ∀ source ∈ Catalog.sources,
    source.relation?.all (fun relation => relation.table.toList.head? != some 't') = true := by
  decide +kernel

theorem mem_plan_joins (ordered groups : List Group) (chain : SplitChain) (planned : PlannedJoin)
    (member : planned ∈ planJoins ordered chain groups) :
    ∃ group ∈ groups, ∃ before, planned = planJoin ordered before group := by
  obtain ⟨count, held⟩ := List.mem_iff_getElem?.mp member
  rw [plan_joins_get] at held
  obtain ⟨group, found, rfl⟩ := Option.map_eq_some_iff.mp held
  exact ⟨group, List.mem_of_getElem? found, _, rfl⟩

theorem plan_joins_map {α : Type} (ordered : List Group) (of : PlannedJoin → α) (own : Group → α)
    (same : ∀ chain group, of (planJoin ordered chain group) = own group) (groups : List Group)
    (chain : SplitChain) : (planJoins ordered chain groups).map of = groups.map own := by
  induction groups generalizing chain with
  | nil => rfl
  | cons group rest ih => rw [planJoins, List.map_cons, List.map_cons, ih, same]

theorem stage_name (group : Group) (stage : Stage) (made : Stage.of? group = some stage) :
    stage.name = group.aliasName := by
  unfold Stage.of? at made
  split at made
  · rw [← Option.some.inj made]
    rfl
  · simp at made
  · rw [← Option.some.inj made]
    rfl

theorem stage_table (group : Group) (stage : Stage) (made : Stage.of? group = some stage) :
    (joinTable group).table = group.aliasName := by
  unfold Stage.of? at made
  unfold joinTable
  cases source : group.source with
  | direct relation marketType => simp [source] at made
  | fact relation => rfl
  | denominator rate numerator => rfl

theorem stage_names (groups : List Group) : (groups.filterMap Stage.of?).map (·.name) =
    (groups.filter fun group => (Stage.of? group).isSome).map (·.aliasName) := by
  induction groups with
  | nil => rfl
  | cons group rest ih =>
      cases made : Stage.of? group with
      | none => simp [made, ih]
      | some stage => simp [made, ih, stage_name group stage made]

theorem stage_names_distinct (state : TableState) (bindings : Bindings) (plan : QueryPlan)
    (compiled : Compiled state bindings plan) : (plan.stages.map (·.name)).Nodup := by
  rw [compiled.stages, stage_names]
  exact (ordered_distinct bindings).sublist (List.filter_sublist.map _)

theorem placed_alias (bindings : Bindings) (group : Group) (member : group ∈ bindings.table.groups) :
    group.aliasName = group.target.aliasName := by
  cases table_origin bindings group member with
  | read _ _ _ _ named same => rw [same, named]
  | divides _ _ _ _ _ _ _ _ _ _ _ _ named same => rw [same, named]

theorem placed_source (defaults : Defaults) (state : TableState) (bindings : Bindings)
    (uses : Uses defaults state bindings) (group : Group) (placed : group ∈ bindings.table.groups)
    (primary : group.isDenominator = false) : group.source ∈ Catalog.sources := by
  cases table_origin bindings group placed with
  | read use target used reads named same =>
      obtain ⟨spec, _, finds⟩ := use_finds defaults state bindings uses use used
      rw [show group.source = target.source from congrArg Target.source same]
      exact finds_source _ _ _ _ _ target finds reads
  | divides use target relation id aggregate rate numerator used reads rated numeratorPlaced numbers
      named same =>
      have source : group.source = .denominator rate numerator.aliasName := congrArg Target.source same
      rw [(denominator_source group).mpr ⟨_, _, source⟩] at primary
      exact absurd primary (by simp)

theorem placed_table (defaults : Defaults) (state : TableState) (bindings : Bindings)
    (uses : Uses defaults state bindings) (group : Group) (placed : group ∈ bindings.table.groups)
    (relation : Relation) (reads : group.source.relation? = some relation) :
    relation.table.toList.head? ≠ some 't' := by
  have primary : group.isDenominator = false := by
    cases source : group.source with
    | denominator rate numerator => simp [source, Source.relation?] at reads
    | fact own => simp [Group.isDenominator, source]
    | direct own marketType => simp [Group.isDenominator, source]
  have apart := sources_tables _ (placed_source defaults state bindings uses group placed primary)
  rw [reads] at apart
  simpa using apart

end StatTable.Plan
