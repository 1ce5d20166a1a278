import StatTable.Proofs.Groups.Permuted
import StatTable.Proofs.Groups.Places
import StatTable.Proofs.Joins.Staged
import StatTable.Proofs.Outputs.Ordering

set_option autoImplicit false

namespace StatTable

namespace QueryPlan

def tables (plan : QueryPlan) : List String :=
  (plan.joins.filter (·.kind != "rate")).map (·.aliasName)

end QueryPlan

namespace Plan

instance : Std.TransCmp Group.compareOrder := by
  have same : Group.compareOrder = compareLex (compareOn fun group : Group => !group.restricting)
      (compareLex (fun one other => compareOn (fun group : Group => group.splits.length) other one)
        (compareLex (compareOn fun group => group.splits.map Split.rank)
          (compareOn (·.firstSeen)))) := rfl
  rw [same]
  infer_instance

theorem order_trans (a b c : Group) (first : (a.compareOrder b).isLE = true)
    (second : (b.compareOrder c).isLE = true) : (a.compareOrder c).isLE = true :=
  Std.TransCmp.isLE_trans first second

theorem order_swap (a b : Group) : b.compareOrder a = (a.compareOrder b).swap :=
  Std.OrientedCmp.eq_swap

theorem order_total (a b : Group) :
    ((a.compareOrder b).isLE || (b.compareOrder a).isLE) = true := by
  rw [order_swap a b]
  cases a.compareOrder b <;> rfl

theorem equal_places (a b : Group) (forth : (a.compareOrder b).isLE = true)
    (back : (b.compareOrder a).isLE = true) : a.firstSeen = b.firstSeen := by
  rw [order_swap a b] at back
  have equal := Ordering.eq_eq_of_isLE_of_isLE_swap forth back
  simp only [Group.compareOrder, Ordering.then_eq_eq] at equal
  exact Nat.compare_eq_eq.mp equal.2.2.2

theorem sort_groups_ordered (groups : List Group) :
    (sortGroups groups).Pairwise fun one other => (one.compareOrder other).isLE = true :=
  List.pairwise_mergeSort order_trans order_total _

theorem sort_groups_unique (groups ordered : List Group)
    (same : ordered.Perm (groups.filter (!·.isDenominator)))
    (ascends : ordered.Pairwise fun one other => one.compareOrder other = .lt) :
    sortGroups groups = ordered := by
  have perm : (sortGroups groups).Perm ordered := (List.mergeSort_perm _ _).trans same.symm
  have apart : ordered.Pairwise fun one other => one.compareOrder other ≠ .eq :=
    ascends.imp fun less equal => by rw [less] at equal; cases equal
  have symmetric : Std.Symm fun one other : Group => one.compareOrder other ≠ .eq :=
    ⟨fun one other differ equal => differ (by rw [order_swap other one, equal]; rfl)⟩
  refine List.Perm.eq_of_pairwise (fun one other oneMember otherMember forth back => ?_)
    (sort_groups_ordered groups) (ascends.imp fun less => by rw [less]; rfl) perm
  by_contra differ
  rw [order_swap one other] at back
  exact apart.forall (perm.mem_iff.mp oneMember) otherMember differ
    (Ordering.eq_eq_of_isLE_of_isLE_swap forth back)

theorem tied_order (one other : Group) (restricting : one.restricting = other.restricting)
    (splits : one.splits = other.splits) :
    one.compareOrder other = compare one.firstSeen other.firstSeen := by
  simp only [Group.compareOrder, restricting, splits, Std.ReflCmp.compare_self, Ordering.eq_then]

section

variable (bindings : Bindings) (count : Nat) (ordered : InPlaces (bindings.sequence count))

include ordered

theorem ties_in_places : (sortGroups bindings.table.groups).Pairwise fun one other =>
    one.restricting = other.restricting → one.splits = other.splits →
      one.firstSeen < other.firstSeen := by
  have nodup := sort_groups_nodup bindings.table.groups (table_distinct bindings)
  refine ((sort_groups_ordered bindings.table.groups).and nodup).imp_of_mem ?_
  intro one other oneMember otherMember both restricting splits
  obtain ⟨onePlaced, onePrimary⟩ := (mem_sort_groups _ one).mp oneMember
  obtain ⟨otherPlaced, otherPrimary⟩ := (mem_sort_groups _ other).mp otherMember
  obtain ⟨before, differ⟩ := both
  rw [tied_order one other restricting splits, Nat.isLE_compare] at before
  refine Nat.lt_of_le_of_ne before fun same => differ ?_
  exact first_seen_apart bindings count ordered one other onePlaced otherPlaced onePrimary
    otherPrimary same

end

theorem join_order_primary (groups : List Group) :
    (joinOrder groups).filter (!·.isDenominator) = sortGroups groups := by
  have block (group : Group) (member : group ∈ sortGroups groups) :
      (group :: groups.filter (·.isDenominatorOf group.aliasName)).filter (!·.isDenominator) =
        [group] := by
    have primary := ((mem_sort_groups groups group).mp member).2
    rw [List.filter_cons_of_pos (by rw [primary]; rfl), List.filter_eq_nil_iff.mpr]
    intro other listed
    rw [denominator_of_is other group.aliasName (List.mem_filter.mp listed).2]
    exact Bool.false_ne_true
  rw [joinOrder, List.filter_flatMap, List.flatMap_congr block, List.flatMap_singleton']

theorem denominator_kind (group : Group) :
    (group.source.kind != "rate") = !group.isDenominator := by
  unfold Group.isDenominator
  cases group.source <;> rfl

theorem compiled_tables (state : TableState) (bindings : Bindings) (plan : QueryPlan)
    (compiled : Compiled state bindings plan) :
    plan.tables = (sortGroups bindings.table.groups).map (·.aliasName) := by
  have pairs := plan_joins_map bindings.ordered (fun planned => (planned.kind, planned.aliasName))
    (fun group => (group.source.kind, group.aliasName)) (fun _ _ => rfl) bindings.ordered .empty
  have names (joins : List PlannedJoin) :
      (joins.filter (·.kind != "rate")).map (·.aliasName) =
        ((joins.map fun planned => (planned.kind, planned.aliasName)).filter
          (·.1 != "rate")).map (·.2) := by
    rw [List.filter_map, List.map_map]
    rfl
  have primary : bindings.ordered.filter (fun group => group.source.kind != "rate") =
      sortGroups bindings.table.groups := by
    rw [← join_order_primary]
    exact List.filter_congr fun group _ => denominator_kind group
  rw [QueryPlan.tables, compiled.joins, names, pairs, List.filter_map, List.map_map, ← primary]
  rfl

theorem tables_of_ordered (defaults : Defaults) (limits : Limits) (state : TableState)
    (bindings : Bindings) (plan : QueryPlan) (ordered : List Group) (names : List String)
    (bound : boundUses defaults state = .ok bindings) (ok : compile defaults limits state = .ok plan)
    (same : ordered.Perm bindings.table.groups)
    (ascends : (∀ group ∈ ordered, group.isDenominator = false) ∧
      (ordered.Pairwise fun one other => one.compareOrder other = .lt) ∧
        ordered.map (·.aliasName) = names) : plan.tables = names := by
  obtain ⟨primary, ascends, named⟩ := ascends
  have all : ordered.Perm (bindings.table.groups.filter (!·.isDenominator)) := by
    rwa [List.filter_eq_self.mpr fun group placed => by
      rw [primary group (same.mem_iff.mpr placed)]; rfl]
  rw [compiled_tables _ _ _ (compiled_of_bound defaults limits state bindings plan bound ok),
    sort_groups_unique _ ordered all ascends, named]

-- What the order of joining sees of a group.
def Group.bare (group : Group) : Group := { group with aggregates := [], having := [] }

-- The group of a use, as far as the order of joining sees it, if the use is the first to read it.
def standing (filters : List BoundFilter) (use : Use) (target : Target) : Group :=
  { target.group use.request.place with
    restricting := filters.any (·.restrictsAlias target.aliasName) }

def standings (bindings : Bindings) : List Group :=
  (sortGroups bindings.table.groups).map Group.bare

theorem bare_of_target (group : Group) (target : Target) (same : group.target = target)
    (named : group.aliasName = target.aliasName) :
    group.bare = { target.group group.firstSeen with restricting := group.restricting } := by
  subst same
  rw [Target.group, ← named]
  rfl

section

variable (defaults : Defaults) (splits : List Split) (bindings : Bindings)
variable (known : ∀ use ∈ bindings.uses, Known defaults splits use)
variable (apart : AliasesApart bindings.keys)

include known apart

theorem bare_standing (group : Group) (placed : group ∈ bindings.table.groups)
    (primary : group.isDenominator = false) (use : Use) (target : Target)
    (reads : use.binding.target? = some target) (named : group.aliasName = target.aliasName)
    (first : bindings.uses.find? (·.readsAlias target.aliasName) = some use) :
    group.bare = standing bindings.filters use target := by
  have place := table_first bindings group placed primary
  rw [named, first, Option.map_some] at place
  have same := known_target defaults splits bindings known apart group placed use target
    (List.mem_of_find?_eq_some first) reads named
  rw [bare_of_target group target same named, table_restricting bindings group placed, named,
    ← Option.some.inj place]
  rfl

theorem mem_standings_iff (group : Group) : group ∈ standings bindings ↔
    ∃ use target, use.binding.target? = some target ∧
      bindings.uses.find? (·.readsAlias target.aliasName) = some use ∧
        group = standing bindings.filters use target := by
  rw [standings, List.mem_map]
  constructor
  · rintro ⟨held, member, rfl⟩
    obtain ⟨placed, primary⟩ := (mem_sort_groups _ held).mp member
    obtain ⟨use, found, _⟩ := Option.map_eq_some_iff.mp (table_first bindings held placed primary)
    obtain ⟨target, reads, named⟩ := (reads_alias_iff _ _).mp (List.find?_some found)
    rw [← named] at found
    exact ⟨use, target, reads, found, bare_standing defaults splits bindings known apart held placed
      primary use target reads named.symm found⟩
  · rintro ⟨use, target, reads, first, rfl⟩
    have member := List.mem_of_find?_eq_some first
    obtain ⟨held, placed, named, _⟩ := use_served bindings use member target reads
    have same := known_target defaults splits bindings known apart held placed use target member reads
      named
    have primary : held.isDenominator = false := by
      have kind := known_target_kind defaults splits bindings known use target member reads
      have source : held.source = target.source := congrArg Target.source same
      rw [← Bool.not_eq_true', ← denominator_kind, source]
      exact bne_iff_ne.mpr kind
    exact ⟨held, (mem_sort_groups _ held).mpr ⟨placed, primary⟩, bare_standing defaults splits bindings
      known apart held placed primary use target reads named first⟩

end

theorem standings_nodup (bindings : Bindings) : (standings bindings).Nodup := by
  refine List.Nodup.of_map (·.aliasName) ?_
  rw [standings, List.map_map]
  refine (sort_groups_nodup _ (table_distinct bindings)).map_on fun one oneMember other otherMember => ?_
  exact distinct_eq _ (table_distinct bindings) one other ((mem_sort_groups _ one).mp oneMember).1
    ((mem_sort_groups _ other).mp otherMember).1

theorem standings_ordered (bindings : Bindings) :
    (standings bindings).Pairwise fun one other => (one.compareOrder other).isLE = true :=
  List.pairwise_map.mpr (sort_groups_ordered bindings.table.groups)

theorem standings_apart (bindings : Bindings) (count : Nat)
    (ordered : InPlaces (bindings.sequence count)) (one other : Group)
    (oneMember : one ∈ standings bindings) (otherMember : other ∈ standings bindings)
    (forth : (one.compareOrder other).isLE = true) (back : (other.compareOrder one).isLE = true) :
    one = other := by
  obtain ⟨group, member, rfl⟩ := List.mem_map.mp oneMember
  obtain ⟨held, heldMember, rfl⟩ := List.mem_map.mp otherMember
  obtain ⟨placed, primary⟩ := (mem_sort_groups _ group).mp member
  obtain ⟨heldPlaced, heldPrimary⟩ := (mem_sort_groups _ held).mp heldMember
  rw [first_seen_apart bindings count ordered group held placed heldPlaced primary heldPrimary
    (equal_places group.bare held.bare forth back)]

structure AddsReaders (one other : Bindings) : Prop where
  uses : ∀ use ∈ one.uses, use ∈ other.uses
  filters : other.filters = one.filters
  first : ∀ aliasName,
    other.uses.find? (·.readsAlias aliasName) = one.uses.find? (·.readsAlias aliasName)

theorem standings_kept (defaults : Defaults) (splits : List Split) (one other : Bindings)
    (count : Nat) (known : ∀ use ∈ other.uses, Known defaults splits use)
    (apart : AliasesApart other.keys) (ordered : InPlaces (one.sequence count))
    (adds : AddsReaders one other) : standings other = standings one := by
  have oneKnown (use : Use) (member : use ∈ one.uses) := known use (adds.uses use member)
  have keys (key : GroupKey) (member : key ∈ one.keys) : key ∈ other.keys := by
    obtain ⟨use, used, own⟩ := List.mem_flatMap.mp member
    exact List.mem_flatMap.mpr ⟨use, adds.uses use used, own⟩
  have oneApart : AliasesApart one.keys := fun key listed key' listed' =>
    apart key (keys key listed) key' (keys key' listed')
  have same (group : Group) : group ∈ standings other ↔ group ∈ standings one := by
    rw [mem_standings_iff defaults splits other known apart,
      mem_standings_iff defaults splits one oneKnown oneApart]
    simp only [adds.first, adds.filters]
  refine List.Perm.eq_of_pairwise (fun group held member heldMember => ?_) (standings_ordered other)
    (standings_ordered one) ((List.perm_ext_iff_of_nodup (standings_nodup other)
      (standings_nodup one)).mpr same)
  exact standings_apart one count ordered group held ((same group).mp member) heldMember

theorem bound_in_places (defaults : Defaults) (state : TableState) (bindings : Bindings)
    (bound : boundUses defaults state = .ok bindings) :
    (bindings.sequence state.listed.length).map (·.request.place) =
      List.range bindings.uses.length := by
  obtain ⟨requests, collected, ok⟩ := (bind_ok _ _ _).mp bound
  exact bound_sequence _ _ requests bindings _ ok (of_state_sequence state requests collected)

theorem in_places_of_range (bindings : Bindings) (count : Nat)
    (numbered : (bindings.sequence count).map (·.request.place) = List.range bindings.uses.length) :
    InPlaces (bindings.sequence count) := by
  rw [InPlaces, ← List.pairwise_map (f := fun use : Use => use.request.place), numbered]
  exact List.pairwise_lt_range

theorem more_sorts_bound (defaults : Defaults) (state : TableState) (more : List SortClause)
    (bindings further : Bindings) (bound : boundUses defaults state = .ok bindings)
    (boundFurther : boundUses defaults { state with sorts := state.sorts ++ more } = .ok further) :
    bindings.selects <+: further.selects ∧ further.filters = bindings.filters := by
  obtain ⟨requests, collected, ok⟩ := (bind_ok _ _ _).mp bound
  obtain ⟨others, collectedFurther, okFurther⟩ := (bind_ok _ _ _).mp boundFurther
  have sorted : Sorted requests more others := by
    refine sorts_sorted requests others more ?_
    rw [of_state_more, collected] at collectedFurther
    exact collectedFurther
  have fewer := (bindings_of_ok _ _ _ _).mpr (bindings_of_fewer defaults _ others requests further
    ((bindings_of_ok _ _ _ _).mp okFurther) sorted.selects sorted.filters.symm)
  obtain rfl := Except.ok.inj (ok.symm.trans fewer)
  exact ⟨List.take_prefix _ _, rfl⟩

theorem adds_readers (defaults : Defaults) (state : TableState) (more : List SortClause)
    (bindings further : Bindings) (bound : boundUses defaults state = .ok bindings)
    (boundFurther : boundUses defaults { state with sorts := state.sorts ++ more } = .ok further)
    (covered : ∀ aliasName, ReadBy further.shown aliasName → ReadBy bindings.shown aliasName) :
    AddsReaders bindings further := by
  obtain ⟨⟨rest, grown⟩, filters⟩ :=
    more_sorts_bound defaults state more bindings further bound boundFurther
  have shown : further.shown = bindings.shown ++ rest.map BoundSelect.use := by
    rw [Bindings.shown, ← grown, List.map_append]
    rfl
  have compared : further.compared = bindings.compared := by
    rw [Bindings.compared, filters]
    rfl
  refine ⟨fun use member => ?_, filters, fun aliasName => ?_⟩
  · rw [uses_split, shown, compared, List.append_assoc, List.mem_append, List.mem_append]
    exact (List.mem_append.mp member).imp_right .inr
  · rw [uses_split, uses_split, shown, compared, List.find?_append, List.find?_append,
      List.find?_append]
    cases first : bindings.shown.find? (·.readsAlias aliasName) with
    | some use => rw [Option.some_or]
    | none =>
        have unread : ¬ ReadBy further.shown aliasName := fun read => by
          have some := (read_by_iff _ _).mp (covered aliasName read)
          rw [first] at some
          cases some
        have none : (rest.map BoundSelect.use).find? (·.readsAlias aliasName) = none := by
          refine List.find?_eq_none.mpr fun use member own => unread ⟨use, ?_, own⟩
          rw [shown]
          exact List.mem_append_right _ member
        rw [none, Option.none_or]

-- The uses of a table state in its order, and the groups that are joined, by their places.
structure StandInPlaces (state : TableState) (bindings : Bindings) (plan : QueryPlan) : Prop where
  asked : List.Forall₂ (fun spec use => Asks spec.id spec.params use.request) state.listed
    (bindings.asked state.listed.length)
  compared : List.Forall₂ (fun clause use => Asks clause.id clause.params use.request) state.filters
    bindings.compared
  ordering : ∃ added, TableState.OrderOnly state.listed state.sorts added ∧
    List.Forall₂ (fun spec use => Asks spec.id spec.params use.request) added
      (bindings.ordering state.listed.length)
  numbered : (bindings.sequence state.listed.length).map (·.request.place) =
    List.range bindings.uses.length
  stands : ∀ group ∈ bindings.table.groups, group.isDenominator = false →
    StandsAt bindings state.listed.length group
  tables : plan.tables = (sortGroups bindings.table.groups).map (·.aliasName)
  ties : (sortGroups bindings.table.groups).Pairwise fun one other =>
    one.restricting = other.restricting → one.splits = other.splits →
      one.firstSeen < other.firstSeen

theorem stand_in_places (defaults : Defaults) (state : TableState) (bindings : Bindings)
    (plan : QueryPlan) (bound : boundUses defaults state = .ok bindings)
    (compiled : Compiled state bindings plan) : StandInPlaces state bindings plan := by
  have uses := bound_uses defaults state bindings bound
  have numbered := bound_in_places defaults state bindings bound
  have ordered := in_places_of_range bindings _ numbered
  obtain ⟨added, shown, only⟩ := state.shown_grows
  have selects : List.Forall₂ (fun spec use => Asks spec.id spec.params use.request)
      (state.listed ++ added) bindings.shown := by
    rw [← shown, Bindings.shown, List.forall₂_map_right_iff]
    exact uses.selects.imp fun _ _ finds => finds.asks
  have asked := List.forall₂_take state.listed.length selects
  have ordering := List.forall₂_drop state.listed.length selects
  rw [List.take_left, Bindings.shown, ← List.map_take] at asked
  rw [List.drop_left, Bindings.shown, ← List.map_drop] at ordering
  exact {
    asked := asked
    compared := List.forall₂_map_right_iff.mpr (uses.filters.imp fun _ _ finds => finds.2.asks)
    ordering := ⟨added, only, ordering⟩
    numbered := numbered
    stands := group_stands bindings _ ordered
    tables := compiled_tables state bindings plan compiled
    ties := ties_in_places bindings _ ordered }

-- Further clauses of the order leave the groups in their order where the columns that are shown read
-- them already. Distinct keys are assumed to have distinct aliases, cut from a hash as they are.
theorem groups_in_places (defaults : Defaults) (limits : Limits) :
    (∀ state plan, compile defaults limits state = .ok plan →
      ∃ bindings, boundUses defaults state = .ok bindings ∧ StandInPlaces state bindings plan) ∧
    ∀ (state : TableState) (more : List SortClause) (bindings further : Bindings)
      (plan later : QueryPlan), boundUses defaults state = .ok bindings →
      boundUses defaults { state with sorts := state.sorts ++ more } = .ok further →
      AliasesApart further.keys →
      (∀ aliasName, ReadBy further.shown aliasName → ReadBy bindings.shown aliasName) →
      compile defaults limits state = .ok plan →
      compile defaults limits { state with sorts := state.sorts ++ more } = .ok later →
        later.tables = plan.tables := by
  constructor
  · intro state plan ok
    obtain ⟨bindings, bound, compiled⟩ := compile_compiled defaults limits state plan ok
    exact ⟨bindings, bound, stand_in_places defaults state bindings plan bound compiled⟩
  · intro state more bindings further plan later bound boundFurther apart covered ok okLater
    have adds := adds_readers defaults state more bindings further bound boundFurther covered
    have known := uses_known defaults _ further (bound_uses defaults _ further boundFurther)
    have ordered := in_places_of_range bindings _ (bound_in_places defaults state bindings bound)
    have kept := standings_kept defaults _ bindings further _ known apart ordered adds
    have names (bindings : Bindings) : (sortGroups bindings.table.groups).map (·.aliasName) =
        (standings bindings).map (·.aliasName) := by
      rw [standings, List.map_map]
      rfl
    rw [compiled_tables _ _ _ (compiled_of_bound defaults limits state bindings plan bound ok),
      compiled_tables _ _ _ (compiled_of_bound defaults limits _ further later boundFurther okLater),
      names, names, kept]

def yardsShown : TableState :=
  { TableState.empty with
    columns := [⟨"rush_yards", .empty⟩]
    filters := [⟨"rec_yards", .gt, some (.scalar (.integer 50)), .empty⟩] }

def touchdownsFirst : List SortClause := [⟨"rush_tds", 0, true, .empty⟩]

def yardsByTouchdowns : TableState :=
  { yardsShown with sorts := yardsShown.sorts ++ touchdownsFirst }

def noPlan : QueryPlan := ⟨[], ⟨"", none⟩, [], [], [], [], [], 0, 0⟩

def usesOf (state : TableState) : Bindings :=
  (boundUses .standard state).toOption.getD ⟨[], []⟩

def planOf (state : TableState) : QueryPlan :=
  (compile .standard .usual state).toOption.getD noPlan

theorem read_by_of_keys (one other : List Use)
    (keys : (other.all fun use => use.binding.target?.all fun target =>
      one.any fun first => first.binding.target?.any (·.key == target.key)) = true)
    (aliasName : String) (read : ReadBy other aliasName) : ReadBy one aliasName := by
  obtain ⟨use, member, own⟩ := read
  obtain ⟨target, reads, rfl⟩ := (reads_alias_iff aliasName use).mp own
  have covered := List.all_eq_true.mp keys use member
  rw [reads, Option.all_some] at covered
  obtain ⟨first, firstMember, same⟩ := List.any_eq_true.mp covered
  obtain ⟨target', reads', key⟩ := Option.any_eq_true _ _ |>.mp same
  exact ⟨first, firstMember, (reads_alias_iff _ first).mpr
    ⟨target', reads', congrArg GroupKey.aliasName (beq_iff_eq.mp key)⟩⟩

theorem touchdowns_move_nothing :
    compile .standard .usual yardsShown = .ok (planOf yardsShown) ∧
    compile .standard .usual yardsByTouchdowns = .ok (planOf yardsByTouchdowns) ∧
    AliasesApart (usesOf yardsByTouchdowns).keys ∧
    StandInPlaces yardsShown (usesOf yardsShown) (planOf yardsShown) ∧
    (planOf yardsByTouchdowns).tables = (planOf yardsShown).tables := by
  have ok : compile .standard .usual yardsShown = .ok (planOf yardsShown) :=
    ok_of_is_ok _ _ (by decide +kernel)
  have okLater : compile .standard .usual yardsByTouchdowns = .ok (planOf yardsByTouchdowns) :=
    ok_of_is_ok _ _ (by decide +kernel)
  have bound : boundUses .standard yardsShown = .ok (usesOf yardsShown) :=
    ok_of_is_ok _ _ (by decide +kernel)
  have boundFurther : boundUses .standard yardsByTouchdowns = .ok (usesOf yardsByTouchdowns) :=
    ok_of_is_ok _ _ (by decide +kernel)
  have apart : AliasesApart (usesOf yardsByTouchdowns).keys :=
    aliases_apart_of_dedup _ (by decide +kernel)
  have covered := read_by_of_keys (usesOf yardsShown).shown (usesOf yardsByTouchdowns).shown
    (by decide +kernel)
  have laws := groups_in_places .standard .usual
  obtain ⟨bindings, bindingsOk, stand⟩ := laws.1 yardsShown _ ok
  obtain rfl := Except.ok.inj (bound.symm.trans bindingsOk)
  exact ⟨ok, okLater, apart, stand, laws.2 yardsShown touchdownsFirst _ _ _ _ bound boundFurther apart
    covered ok okLater⟩

def yardsFiltered : TableState :=
  { TableState.empty with
    filters := [⟨"rush_yards", .gt, some (.scalar (.integer 100)), .empty⟩,
      ⟨"rec_yards", .gt, some (.scalar (.integer 50)), .empty⟩] }

def yardsFilteredByTouchdowns : TableState :=
  { yardsFiltered with sorts := yardsFiltered.sorts ++ touchdownsFirst }

theorem touchdowns_move_yards :
    compile .standard .usual yardsFiltered = .ok (planOf yardsFiltered) ∧
    compile .standard .usual yardsFilteredByTouchdowns =
      .ok (planOf yardsFilteredByTouchdowns) ∧
    boundUses .standard yardsFilteredByTouchdowns = .ok (usesOf yardsFilteredByTouchdowns) ∧
    (∃ group ∈ (usesOf yardsFilteredByTouchdowns).table.groups, group.isDenominator = false ∧
      ¬ IsLeast (placesOf (usesOf yardsFilteredByTouchdowns).uses group.aliasName)
        group.firstSeen) ∧
    (planOf yardsFiltered).tables = ["tebfd8f75c6cd28ba", "t9703569aed42b0a0"] ∧
    (planOf yardsFilteredByTouchdowns).tables = ["t9703569aed42b0a0", "tebfd8f75c6cd28ba"] := by
  have ok : compile .standard .usual yardsFiltered = .ok (planOf yardsFiltered) :=
    ok_of_is_ok _ _ (by decide +kernel)
  have okLater : compile .standard .usual yardsFilteredByTouchdowns =
      .ok (planOf yardsFilteredByTouchdowns) := ok_of_is_ok _ _ (by decide +kernel)
  have bound : boundUses .standard yardsFilteredByTouchdowns =
      .ok (usesOf yardsFilteredByTouchdowns) := ok_of_is_ok _ _ (by decide +kernel)
  have tables := tables_of_ordered .standard .usual yardsFiltered (usesOf yardsFiltered) _
    (usesOf yardsFiltered).table.groups ["tebfd8f75c6cd28ba", "t9703569aed42b0a0"]
    (ok_of_is_ok _ _ (by decide +kernel)) ok (.refl _) (by decide +kernel)
  have tablesLater := tables_of_ordered .standard .usual yardsFilteredByTouchdowns _ _
    (usesOf yardsFilteredByTouchdowns).table.groups.reverse ["t9703569aed42b0a0", "tebfd8f75c6cd28ba"]
    bound okLater (List.reverse_perm _) (by decide +kernel)
  refine ⟨ok, okLater, bound, ?_, tables, tablesLater⟩
  have moved : (usesOf yardsFilteredByTouchdowns).table.groups.any (fun group =>
      !group.isDenominator && (usesOf yardsFilteredByTouchdowns).compared.any
        (·.readsAlias group.aliasName) && ((usesOf yardsFilteredByTouchdowns).ordering 0).any
          (·.readsAlias group.aliasName)) = true := by decide +kernel
  obtain ⟨group, placed, read⟩ := List.any_eq_true.mp moved
  rw [Bool.and_eq_true, Bool.and_eq_true, Bool.not_eq_true', List.any_eq_true, List.any_eq_true]
    at read
  obtain ⟨⟨primary, compared⟩, ordering⟩ := read
  have numbered := bound_in_places .standard yardsFilteredByTouchdowns _ bound
  have stands := group_stands _ _ (in_places_of_range _ _ numbered) group placed primary
  refine ⟨group, placed, primary, fun least => ?_⟩
  obtain ⟨_, asked, _⟩ := stands.earliest_iff.mp least compared ordering
  cases asked

end Plan

end StatTable
