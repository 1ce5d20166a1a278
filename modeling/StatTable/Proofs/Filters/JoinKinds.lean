import StatTable.Proofs.Filters.Decisions

set_option autoImplicit false

namespace StatTable

namespace TableState

open Plan

-- A clause that reads a need and holds for no player without rows in it.
def Requires (defaults : Defaults) (state : TableState) (need : Need) (clause : FilterClause) : Prop :=
  clause.operator ≠ .isNull ∧ state.needFor? defaults ⟨clause.id, clause.params⟩ = some need

instance (defaults : Defaults) (state : TableState) (need : Need) (clause : FilterClause) :
    Decidable (state.Requires defaults need clause) :=
  inferInstanceAs (Decidable (_ ∧ _))

end TableState

namespace Plan

structure JoinsFollowFilters (defaults : Defaults) (state : TableState) (plan : QueryPlan) : Prop where
  needed : ∀ planned ∈ plan.joins, planned.kind = "rate" ∨ ∃ need ∈ state.needs defaults,
    planned.kind = need.source.kind ∧ planned.aliasName = need.aliasName
  inner : ∀ planned ∈ plan.joins, ∀ need ∈ state.needs defaults, planned.kind = need.source.kind →
    planned.aliasName = need.aliasName →
      (planned.join.kind = .inner ↔ ∃ clause ∈ state.filters, state.Requires defaults need clause)
  outer : ∀ planned ∈ plan.joins, ∀ need ∈ state.needs defaults, planned.kind = need.source.kind →
    planned.aliasName = need.aliasName →
      (planned.join.kind = .left ↔ ∀ clause ∈ state.filters, ¬ state.Requires defaults need clause)
  rates : ∀ planned ∈ plan.joins, planned.kind = "rate" → planned.join.kind = .left

theorem matches_missing_iff (operator : FilterOperator) :
    operator.matchesMissing = true ↔ operator = .isNull := by
  cases operator <;> simp [FilterOperator.matchesMissing]

theorem join_kind_inner (group : Group) : group.joinKind = .inner ↔ group.restricting = true := by
  rw [Group.joinKind]
  cases group.restricting <;> simp

theorem left_iff_not_inner (kind : Sql.JoinKind) : kind = .left ↔ ¬ kind = .inner := by
  cases kind <;> simp

theorem requires_iff (defaults : Defaults) (state : TableState) (clause : FilterClause)
    (bound : BoundFilter) (asks : FilterAsks clause bound.filter)
    (finds : Finds defaults (canonicalSplits state.splits) ⟨clause.id, clause.params⟩
      bound.filter.request bound.binding) (need : Need) :
    state.Requires defaults need clause ↔
      bound.restricts = true ∧ ∃ target, bound.binding.target? = some target ∧ target.need = need := by
  rw [TableState.Requires, TableState.needFor?, finds_need _ _ _ _ _ finds, ← asks.operator,
    BoundFilter.restricts, Bool.not_eq_true', ← Bool.not_eq_true, matches_missing_iff,
    Option.map_eq_some_iff]

section

variable (defaults : Defaults) (state : TableState) (bindings : Bindings)
variable (uses : Uses defaults state bindings) (apart : AliasesApart bindings.keys)

include uses apart

theorem restricting_iff (group : Group) (placed : group ∈ bindings.table.groups) (need : Need)
    (needed : need ∈ state.needs defaults) (named : group.aliasName = need.aliasName) :
    group.restricting = true ↔ ∃ clause ∈ state.filters, state.Requires defaults need clause := by
  rw [table_restricting bindings group placed, List.any_eq_true]
  constructor
  · rintro ⟨bound, member, restricts⟩
    obtain ⟨clause, listed, asks, finds⟩ := forall_right _ _ _ uses.filters bound member
    obtain ⟨rejects, reads⟩ := Bool.and_eq_true_iff.mp restricts
    obtain ⟨target, found, under⟩ := (Option.any_eq_true _ _).mp reads
    refine ⟨clause, listed, (requires_iff defaults state clause bound asks finds need).mpr
      ⟨rejects, target, found, ?_⟩⟩
    have read := (need_found defaults state bindings uses target.need).mpr
      ⟨_, bindings.filter_uses bound member, target, found, rfl⟩
    refine need_alias_injective defaults state bindings uses apart _ _ read needed ?_
    rw [need_alias, beq_iff_eq.mp under, named]
  · rintro ⟨clause, listed, requires⟩
    obtain ⟨bound, member, asks, finds⟩ := forall_left _ _ _ uses.filters clause listed
    obtain ⟨rejects, target, found, rfl⟩ :=
      (requires_iff defaults state clause bound asks finds need).mp requires
    refine ⟨bound, member, Bool.and_eq_true_iff.mpr ⟨rejects, ?_⟩⟩
    rw [found, Option.any_some, beq_iff_eq, named, need_alias]

-- No filter restricts a denominator: what filters read are facts or rows as they are.
theorem denominator_unrestricted (group : Group) (placed : group ∈ bindings.table.groups)
    (kind : group.source.kind = "rate") : group.restricting = false := by
  rw [table_restricting bindings group placed, List.any_eq_false]
  intro bound member restricts
  obtain ⟨target, found, under⟩ := (Option.any_eq_true _ _).mp (Bool.and_eq_true_iff.mp restricts).2
  have used := bindings.filter_uses bound member
  have same := placed_target defaults state bindings uses apart group placed _ target used found
    (beq_iff_eq.mp under).symm
  refine use_target_kind defaults state bindings uses _ target used found ?_
  rw [← same]
  exact kind

end

theorem compiled_joins_follow_filters (defaults : Defaults) (limits : Limits) (state : TableState)
    (bindings : Bindings) (plan : QueryPlan) (ok : compile defaults limits state = .ok plan)
    (bound : boundUses defaults state = .ok bindings) (apart : AliasesApart bindings.keys) :
    JoinsFollowFilters defaults state plan := by
  have uses := bound_uses defaults state bindings bound
  have compiled := compiled_of_bound defaults limits state bindings plan bound ok
  have planned_group : ∀ planned ∈ plan.joins, ∃ group ∈ bindings.ordered,
      planned.kind = group.source.kind ∧ planned.aliasName = group.aliasName ∧
        planned.join.kind = group.joinKind := by
    intro planned member
    rw [compiled.joins] at member
    obtain ⟨group, joined, before, rfl⟩ := mem_plan_joins _ _ _ planned member
    exact ⟨group, joined, rfl, rfl, rfl⟩
  have inner : ∀ planned ∈ plan.joins, ∀ need ∈ state.needs defaults,
      planned.kind = need.source.kind → planned.aliasName = need.aliasName →
        (planned.join.kind = .inner ↔
          ∃ clause ∈ state.filters, state.Requires defaults need clause) := by
    intro planned member need needed _ named
    obtain ⟨group, joined, _, names, kinds⟩ := planned_group planned member
    rw [kinds, join_kind_inner]
    exact restricting_iff defaults state bindings uses apart group
      (ordered_placed bindings group joined) need needed (names.symm.trans named)
  refine ⟨fun planned member => ?_, inner, fun planned member need needed kinds named => ?_,
    fun planned member rate => ?_⟩
  · obtain ⟨group, joined, kinds, names, _⟩ := planned_group planned member
    cases joined_needed defaults state bindings uses apart group joined with
    | inl reads =>
        obtain ⟨need, needed, same, under⟩ := reads
        exact .inr ⟨need, needed, kinds.trans same.symm, names.trans under.symm⟩
    | inr divides =>
        obtain ⟨_, _, rate, _⟩ := divides
        exact .inl (kinds.trans rate)
  · rw [left_iff_not_inner, inner planned member need needed kinds named]
    exact ⟨fun none clause listed requires => none ⟨clause, listed, requires⟩,
      fun none ⟨clause, listed, requires⟩ => none clause listed requires⟩
  · obtain ⟨group, joined, kinds, _, joinKinds⟩ := planned_group planned member
    rw [joinKinds, Group.joinKind, denominator_unrestricted defaults state bindings uses apart group
      (ordered_placed bindings group joined) (kinds.symm.trans rate)]
    rfl

def rateAndGap : TableState :=
  { TableState.empty with
    columns := [⟨"fantasy_points", .empty⟩]
    filters := [⟨"rush_yards", .gt, some (.scalar (.integer 5)),
        .ofList [(.rateType, .scalar (.text "per_game"))]⟩,
      ⟨"fantasy_points", .isNull, none, .empty⟩] }

def rateAndGapUses : Bindings := (boundUses .standard rateAndGap).toOption.getD ⟨[], []⟩

def rateAndGapPlan : QueryPlan :=
  (compile .standard .usual rateAndGap).toOption.getD ⟨[], ⟨"", none⟩, [], [], [], [], [], 0, 0⟩

theorem rate_restricts_its_numerator :
    compile .standard .usual rateAndGap = .ok rateAndGapPlan ∧
    boundUses .standard rateAndGap = .ok rateAndGapUses ∧
    AliasesApart rateAndGapUses.keys ∧
    JoinsFollowFilters .standard rateAndGap rateAndGapPlan ∧
    ∀ planned ∈ rateAndGapPlan.joins, planned.join.kind = .inner ↔ planned.kind = "fact" := by
  have ok : compile .standard .usual rateAndGap = .ok rateAndGapPlan :=
    ok_of_is_ok _ _ (by decide +kernel)
  have bound : boundUses .standard rateAndGap = .ok rateAndGapUses :=
    ok_of_is_ok _ _ (by decide +kernel)
  have apart : AliasesApart rateAndGapUses.keys := aliases_apart_of_dedup _ (by decide +kernel)
  have follows := compiled_joins_follow_filters .standard .usual rateAndGap rateAndGapUses
    rateAndGapPlan ok bound apart
  have facts : ∀ need ∈ rateAndGap.needs .standard, (∃ clause ∈ rateAndGap.filters,
      rateAndGap.Requires .standard need clause) ↔ need.source.kind = "fact" := by decide +kernel
  refine ⟨ok, bound, apart, follows, fun planned member => ?_⟩
  cases follows.needed planned member with
  | inl rate =>
      rw [follows.rates planned member rate, rate]
      decide
  | inr reads =>
      obtain ⟨need, needed, kinds, named⟩ := reads
      rw [follows.inner planned member need needed kinds named, facts need needed, kinds]

theorem points_restricted_by_yards :
    TableState.ofJson .usual pointsWithYards = .ok pointsWithYardsState ∧
    compile .standard .usual pointsWithYardsState = .ok pointsWithYardsPlan ∧
    (∃ planned ∈ pointsWithYardsPlan.joins, ∃ need ∈ pointsWithYardsState.needs .standard,
      planned.kind = need.source.kind ∧ planned.aliasName = need.aliasName ∧
        planned.join.kind = .inner ∧ ∀ clause ∈ pointsWithYardsState.filters,
          ¬ pointsWithYardsState.Requires .standard need clause) ∧
    ¬ JoinsFollowFilters .standard pointsWithYardsState pointsWithYardsPlan := by
  have stray : ∃ planned ∈ pointsWithYardsPlan.joins,
      ∃ need ∈ pointsWithYardsState.needs .standard,
        planned.kind = need.source.kind ∧ planned.aliasName = need.aliasName ∧
          planned.join.kind = .inner ∧ ∀ clause ∈ pointsWithYardsState.filters,
            ¬ pointsWithYardsState.Requires .standard need clause := by decide +kernel
  refine ⟨ok_of_is_ok _ _ (by decide +kernel), points_with_yards_compiled.1, stray, fun follows => ?_⟩
  obtain ⟨planned, member, need, needed, kinds, named, inner, none⟩ := stray
  obtain ⟨clause, listed, requires⟩ :=
    (follows.inner planned member need needed kinds named).mp inner
  exact none clause listed requires

end Plan

end StatTable
