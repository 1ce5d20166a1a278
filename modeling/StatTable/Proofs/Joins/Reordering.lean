import StatTable.Proofs.Joins.Appearance
import StatTable.TableState.Reading

set_option autoImplicit false

namespace StatTable.Plan

def Group.Precedes (one other : Group) : Prop :=
  (one.restricting = true ∧ other.restricting = false) ∨
    one.restricting = other.restricting ∧ (other.splits.length < one.splits.length ∨
      one.splits.length = other.splits.length ∧
        (one.splits.map Split.rank < other.splits.map Split.rank ∨
          one.splits = other.splits ∧ one.firstSeen < other.firstSeen))

def denominatorsOf (groups : List Group) (numerator : Group) : List Group :=
  groups.filter (·.isDenominatorOf numerator.aliasName)

-- An order in which each group stands once, unless it divides a denominator, and is followed by its own
-- denominators without a gap.
structure Reorders (groups ordered : List Group) : Prop where
  distinct : ordered.Nodup
  members : ∀ group, group ∈ ordered ↔ group ∈ groups ∧
    ∀ rate aliasName, group.source = .denominator rate aliasName →
      ∃ numerator ∈ groups, numerator.aliasName = aliasName ∧ numerator.isDenominator = false
  runs : ∀ group ∈ ordered, group.isDenominator = true → ∃ numerator rate before after,
    group.source = .denominator rate numerator.aliasName ∧ numerator.isDenominator = false ∧
      group ∈ denominatorsOf groups numerator ∧
        ordered = before ++ numerator :: (denominatorsOf groups numerator ++ after)
  ascends : (ordered.filter (!·.isDenominator)).Pairwise Group.Precedes

theorem rank_injective : Function.Injective Split.rank := by
  intro one other same
  revert same
  cases one <;> cases other <;> decide

theorem precedes_of_order (one other : Group) (before : (one.compareOrder other).isLE = true)
    (apart : one.firstSeen ≠ other.firstSeen) : one.Precedes other := by
  rw [Group.compareOrder, Ordering.isLE_then_iff_or, Ordering.isLE_then_iff_or,
    Ordering.isLE_then_iff_or, Nat.compare_eq_lt, Nat.compare_eq_eq, Nat.isLE_compare,
    Std.compare_eq_iff_eq, Std.compare_eq_iff_eq] at before
  rcases before with restricted | ⟨alike, more | ⟨lengths, earlier | ⟨same, place⟩⟩⟩
  · refine .inl ?_
    revert restricted
    cases one.restricting <;> cases other.restricting <;> decide
  · exact .inr ⟨Bool.not_inj alike, .inl more⟩
  · exact .inr ⟨Bool.not_inj alike, .inr ⟨lengths.symm, .inl (ranks_less _ _ earlier)⟩⟩
  · have splits := List.map_injective_iff.mpr rank_injective same
    exact .inr ⟨Bool.not_inj alike, .inr ⟨lengths.symm, .inr ⟨splits,
      Nat.lt_of_le_of_ne place apart⟩⟩⟩

theorem join_order_block (groups : List Group) (numerator : Group)
    (member : numerator ∈ sortGroups groups) : ∃ before after,
      joinOrder groups = before ++ numerator :: (denominatorsOf groups numerator ++ after) := by
  obtain ⟨front, back, split⟩ := List.append_of_mem member
  refine ⟨front.flatMap fun group => group :: denominatorsOf groups group,
    back.flatMap fun group => group :: denominatorsOf groups group, ?_⟩
  rw [joinOrder, split, List.flatMap_append, List.flatMap_cons]
  rfl

theorem mem_join_order_iff (groups : List Group) (group : Group) :
    group ∈ joinOrder groups ↔ group ∈ groups ∧
      ∀ rate aliasName, group.source = .denominator rate aliasName →
        ∃ numerator ∈ groups, numerator.aliasName = aliasName ∧ numerator.isDenominator = false := by
  rw [mem_join_order]
  refine and_congr_right fun _ => ?_
  cases source : group.source with
  | fact relation => simp [Group.isDenominator, source]
  | direct relation marketType => simp [Group.isDenominator, source]
  | denominator rate aliasName =>
      constructor
      · rintro (primary | ⟨numerator, placed, primary, divides⟩) rate' aliasName' same
        · simp [Group.isDenominator, source] at primary
        · obtain ⟨_, own⟩ := (denominator_of_source _ _).mp divides
          rw [source, same] at own
          exact ⟨numerator, placed, by injection own with _ named; exact named.symm, primary⟩
      · intro anchored
        obtain ⟨numerator, placed, rfl, primary⟩ := anchored rate aliasName rfl
        exact .inr ⟨numerator, placed, primary, (denominator_of_source _ _).mpr ⟨rate, source⟩⟩

theorem join_order_reorders (bindings : Bindings) (count : Nat)
    (ordered : InPlaces (bindings.sequence count)) :
    Reorders bindings.table.groups bindings.ordered := by
  have distinct := table_distinct bindings
  refine {
    distinct := join_order_nodup _ distinct
    members := mem_join_order_iff _
    runs := fun group member divides => ?_
    ascends := ?_ }
  · obtain ⟨placed, primary | ⟨numerator, numeratorPlaced, primary, anchored⟩⟩ :=
      (mem_join_order _ group).mp member
    · rw [divides] at primary
      cases primary
    · obtain ⟨rate, source⟩ := (denominator_of_source _ _).mp anchored
      obtain ⟨before, after, order⟩ := join_order_block _ numerator
        ((mem_sort_groups _ numerator).mpr ⟨numeratorPlaced, primary⟩)
      exact ⟨numerator, rate, before, after, source, primary,
        List.mem_filter.mpr ⟨placed, anchored⟩, order⟩
  · rw [Bindings.ordered, join_order_primary]
    refine ((sort_groups_ordered _).and (sort_groups_nodup _ distinct)).imp_of_mem ?_
    intro one other oneMember otherMember both
    obtain ⟨onePlaced, onePrimary⟩ := (mem_sort_groups _ one).mp oneMember
    obtain ⟨otherPlaced, otherPrimary⟩ := (mem_sort_groups _ other).mp otherMember
    refine precedes_of_order one other both.1 fun same => both.2 ?_
    exact first_seen_apart bindings count ordered one other onePlaced otherPlaced onePrimary
      otherPrimary same

section

variable (defaults : Defaults) (state : TableState) (bindings : Bindings)
variable (uses : Uses defaults state bindings) (apart : AliasesApart bindings.keys)

include uses apart

-- What a denominator divides is a group of facts, and so no denominator itself.
theorem placed_joined (group : Group) (placed : group ∈ bindings.table.groups) :
    group ∈ bindings.ordered := by
  rcases table_genuine defaults state bindings uses apart group placed with ⟨use, member,
    ⟨target, reads, named, same⟩ | ⟨target, relation, id, aggregate, rate, reads, rated, named, same⟩⟩
  · exact (served_ordered defaults state bindings uses apart use target member reads group placed
      named).1
  · obtain ⟨_, _, _, _, holder, holderJoined, holderNamed, _⟩ := rated_ordered defaults state bindings
      uses apart use target relation id aggregate rate member reads rated
    obtain rfl := distinct_eq _ (table_distinct bindings) holder group
      (ordered_placed bindings holder holderJoined) placed (holderNamed.trans named.symm)
    exact holderJoined

theorem ordered_perm : bindings.ordered.Perm bindings.table.groups := by
  have distinct := table_distinct bindings
  refine (List.perm_ext_iff_of_nodup (join_order_nodup _ distinct) (.of_map _ distinct)).mpr
    fun group => ?_
  exact ⟨ordered_placed bindings group, placed_joined defaults state bindings uses apart group⟩

end

theorem joins_reorder_groups (defaults : Defaults) (state : TableState) (bindings : Bindings)
    (bound : boundUses defaults state = .ok bindings) :
    Reorders bindings.table.groups (joinOrder bindings.table.groups) ∧
      (AliasesApart bindings.keys →
        (joinOrder bindings.table.groups).Perm bindings.table.groups) := by
  have ordered := in_places_of_range bindings _ (bound_in_places defaults state bindings bound)
  exact ⟨join_order_reorders bindings _ ordered,
    ordered_perm defaults state bindings (bound_uses defaults state bindings bound)⟩

def yardsByTwoRates : TableState :=
  { TableState.empty with
    columns := [⟨"fantasy_points", .empty⟩,
      ⟨"rush_yards", .ofList [(.rateType, .scalar (.text "per_game"))]⟩,
      ⟨"rush_tds", .ofList [(.rateType, .scalar (.text "per_team_play"))]⟩]
    filters := [⟨"targets", .gt, some (.scalar (.integer 5)), .empty⟩]
    splits := [.year, .week] }

theorem two_rates_reordered :
    boundUses .standard yardsByTwoRates = .ok (usesOf yardsByTwoRates) ∧
    AliasesApart (usesOf yardsByTwoRates).keys ∧
    Reorders (usesOf yardsByTwoRates).table.groups
      (joinOrder (usesOf yardsByTwoRates).table.groups) ∧
    (joinOrder (usesOf yardsByTwoRates).table.groups).Perm
      (usesOf yardsByTwoRates).table.groups := by
  have bound : boundUses .standard yardsByTwoRates = .ok (usesOf yardsByTwoRates) :=
    ok_of_is_ok _ _ (by decide +kernel)
  have apart : AliasesApart (usesOf yardsByTwoRates).keys :=
    aliases_apart_of_dedup _ (by decide +kernel)
  obtain ⟨reorders, perm⟩ := joins_reorder_groups .standard yardsByTwoRates _ bound
  exact ⟨bound, apart, reorders, perm apart⟩

-- Touchdowns under a type of season for which their alias, though cut from another hash, is that of
-- the denominator of the yards.
def touchdownsForYards : Json.Value := .object [("columns", .array [
  .object [("column_id", .string "rush_yards"),
    ("params", .object [("rate_type", .string "per_game"), ("seas_type", .string "nuwlvefk6rcep")])],
  .object [("column_id", .string "rush_tds"),
    ("params", .object [("rate_type", .string "per_game"), ("seas_type", .string "dv3gjavssxs5u")])]])]

def touchdownsForYardsState : TableState :=
  (TableState.ofJson .usual touchdownsForYards).toOption.getD .empty

theorem touchdowns_lose_a_group :
    TableState.ofJson .usual touchdownsForYards = .ok touchdownsForYardsState ∧
    compile .standard .usual touchdownsForYardsState = .ok (planOf touchdownsForYardsState) ∧
    boundUses .standard touchdownsForYardsState = .ok (usesOf touchdownsForYardsState) ∧
    ∃ group ∈ (usesOf touchdownsForYardsState).table.groups,
      group ∉ joinOrder (usesOf touchdownsForYardsState).table.groups := by
  refine ⟨ok_of_is_ok _ _ (by decide +kernel), ok_of_is_ok _ _ (by decide +kernel),
    ok_of_is_ok _ _ (by decide +kernel), ?_⟩
  have both : ((usesOf touchdownsForYardsState).table.groups.any
        (·.isDenominatorOf "t664bc83a65d358ad") &&
      (usesOf touchdownsForYardsState).table.groups.all fun group =>
        group.aliasName != "t664bc83a65d358ad" || group.isDenominator) = true := by
    decide +kernel
  obtain ⟨lost, divides⟩ := Bool.and_eq_true_iff.mp both
  obtain ⟨group, placed, own⟩ := List.any_eq_true.mp lost
  obtain ⟨rate, source⟩ := (denominator_of_source _ _).mp own
  refine ⟨group, placed, fun joined => ?_⟩
  obtain ⟨numerator, numeratorPlaced, named, primary⟩ :=
    ((mem_join_order_iff _ group).mp joined).2 rate _ source
  have divided := List.all_eq_true.mp divides numerator numeratorPlaced
  rw [named, primary] at divided
  cases divided

end StatTable.Plan
