import Mathlib.Order.Bounds.Basic
import StatTable.Proofs.Groups.Service
import StatTable.Proofs.Outputs.Uses

set_option autoImplicit false

namespace StatTable.Plan

def BoundSelect.use (bound : BoundSelect) : Use := ⟨bound.select.request, bound.binding⟩

def BoundFilter.use (bound : BoundFilter) : Use := ⟨bound.filter.request, bound.binding⟩

def Use.readsAlias (aliasName : String) (use : Use) : Bool :=
  use.binding.target?.any (·.aliasName == aliasName)

theorem reads_alias_iff (aliasName : String) (use : Use) : use.readsAlias aliasName = true ↔
    ∃ target, use.binding.target? = some target ∧ target.aliasName = aliasName := by
  simp [Use.readsAlias, Option.any_eq_true]

-- What a table holds once some uses have been bound, one after the other: a group for each of them,
-- with the place of the first one that reads it.
structure Settled (done : List Use) (table : GroupTable) : Prop where
  distinct : Distinct table.groups
  held : ∀ use ∈ done, ∀ aliasName, use.readsAlias aliasName = true →
    ∃ group ∈ table.groups, group.aliasName = aliasName
  first : ∀ group ∈ table.groups, group.isDenominator = false →
    (done.find? (·.readsAlias group.aliasName)).map (·.request.place) = some group.firstSeen

theorem denominator_of_target_eq (one other : Group) (same : one.target = other.target) :
    one.isDenominator = other.isDenominator := by
  have sources : one.source = other.source := congrArg Target.source same
  rw [Group.isDenominator, Group.isDenominator, sources]

section

variable (done : List Use) (table : GroupTable) (settled : Settled done table)

include settled

theorem settled_update (aliasName : String) (change : Group → Group) (keeps : Keeps change)
    (place : ∀ group, (change group).firstSeen = group.firstSeen) :
    Settled done (table.update aliasName change) := by
  refine ⟨table.update_distinct _ _ keeps settled.distinct, ?_, ?_⟩
  · intro use member other reads
    obtain ⟨group, placed, named⟩ := settled.held use member other reads
    refine ⟨_, table.mem_update_of_mem aliasName change settled.distinct group placed, ?_⟩
    split
    · exact (keeps.aliasName group).trans named
    · exact named
  · intro group member primary
    rcases table.mem_update _ _ settled.distinct group member with old | ⟨before, old, _, rfl⟩
    · exact settled.first group old primary
    · rw [keeps.aliasName, place]
      rw [denominator_of_target_eq _ before (keeps.target before)] at primary
      exact settled.first before old primary

theorem settled_denominator (target : Target) (firstSeen : Nat)
    (divides : (target.group firstSeen).isDenominator = true) :
    Settled done (table.insert (target.group firstSeen)) := by
  refine ⟨table.insert_distinct _ settled.distinct, ?_, ?_⟩
  · intro use member other reads
    obtain ⟨group, placed, named⟩ := settled.held use member other reads
    exact ⟨group, table.mem_insert_of_mem _ group placed, named⟩
  · intro group member primary
    rcases table.mem_insert _ group member with old | rfl
    · exact settled.first group old primary
    · rw [divides] at primary
      cases primary

theorem settled_aggregate (target : Target) (id : String) (aggregate : Aggregate)
    (rate : Option Rate) : Settled done (table.placeAggregate target id aggregate rate) := by
  have required := settled_update done table settled target.aliasName _ (keeps_require id aggregate)
    fun group => by unfold Group.requireAggregate; split <;> rfl
  cases rate with
  | none => exact required
  | some rate =>
      rw [GroupTable.placeAggregate, GroupTable.placeDenominator]
      split
      · exact settled_denominator done _ required _ _ rfl
      · exact required

theorem settled_target (use : Use) :
    Settled (done ++ [use]) (table.placeTarget use.binding use.request) := by
  have kept (group : Group) (placed : group ∈ table.groups) (primary : group.isDenominator = false) :
      ((done ++ [use]).find? (·.readsAlias group.aliasName)).map (·.request.place) =
        some group.firstSeen := by
    obtain ⟨first, found, place⟩ := Option.map_eq_some_iff.mp (settled.first group placed primary)
    rw [List.find?_append, found, Option.some_or, Option.map_some, place]
  rw [GroupTable.placeTarget]
  cases reads : use.binding.target? with
  | none =>
      refine ⟨settled.distinct, ?_, kept⟩
      rw [List.forall_mem_append, List.forall_mem_singleton]
      refine ⟨settled.held, fun aliasName own => ?_⟩
      rw [Use.readsAlias, reads] at own
      cases own
  | some target =>
      refine ⟨table.insert_distinct _ settled.distinct, ?_, ?_⟩
      · rw [List.forall_mem_append, List.forall_mem_singleton]
        constructor
        · intro other member aliasName own
          obtain ⟨group, placed, named⟩ := settled.held other member aliasName own
          exact ⟨group, table.mem_insert_of_mem _ group placed, named⟩
        · intro aliasName own
          obtain ⟨other, same, named⟩ := (reads_alias_iff aliasName use).mp own
          obtain rfl := Option.some.inj (reads.symm.trans same)
          obtain ⟨group, placed, own⟩ := table.exists_insert (target.group use.request.place)
          exact ⟨group, placed, own.trans named⟩
      · intro group member primary
        rw [GroupTable.insert_groups] at member
        split at member
        · exact kept group member primary
        · rename_i absent
          rcases List.mem_append.mp member with old | new
          · exact kept group old primary
          · obtain rfl := List.mem_singleton.mp new
            have unread : done.find? (·.readsAlias target.aliasName) = none := by
              refine List.find?_eq_none.mpr fun other member own => absent ?_
              exact settled.held other member target.aliasName own
            have own : use.readsAlias target.aliasName = true :=
              (reads_alias_iff _ use).mpr ⟨target, reads, rfl⟩
            have name : (target.group use.request.place).aliasName = target.aliasName := rfl
            rw [name, List.find?_append, unread, Option.none_or, List.find?_cons_of_pos own]
            rfl

theorem settled_select (bound : BoundSelect) :
    Settled (done ++ [bound.use]) (table.placeSelect bound) := by
  have placed := settled_target done table settled bound.use
  rw [GroupTable.placeSelect]
  split
  · exact settled_aggregate _ _ placed _ _ _ _
  · exact placed

theorem settled_condition (bound : BoundFilter) : Settled done (table.placeCondition bound) := by
  rw [GroupTable.placeCondition]
  split
  · split
    · exact settled_update done table settled _ _ (keeps_having _) fun _ => rfl
    · exact settled_aggregate done table settled _ _ _ _
  · exact settled

theorem settled_filter (bound : BoundFilter) :
    Settled (done ++ [bound.use]) (table.placeFilter bound) := by
  have placed := settled_condition _ _ (settled_target done table settled bound.use) bound
  rw [GroupTable.placeFilter]
  split
  · split
    · exact settled_update _ _ placed _ _ keeps_restrict fun _ => rfl
    · exact placed
  · exact placed

end

theorem settled_fold {α : Type} (place : GroupTable → α → GroupTable) (use : α → Use)
    (step : ∀ done table item, Settled done table → Settled (done ++ [use item]) (place table item))
    (items : List α) (done : List Use) (table : GroupTable) (settled : Settled done table) :
    Settled (done ++ items.map use) (items.foldl place table) := by
  induction items generalizing done table with
  | nil => simpa using settled
  | cons item rest ih =>
      have next := ih _ _ (step done table item settled)
      rwa [List.append_assoc, List.singleton_append] at next

theorem table_settled (bindings : Bindings) : Settled bindings.uses bindings.table := by
  have start : Settled [] .empty := ⟨List.nodup_nil, by simp, by simp [GroupTable.empty]⟩
  have selected := settled_fold .placeSelect BoundSelect.use
    (fun done table bound settled => settled_select done table settled bound) bindings.selects [] _
    start
  exact settled_fold .placeFilter BoundFilter.use
    (fun done table bound settled => settled_filter done table settled bound) bindings.filters _ _
    selected

theorem table_first (bindings : Bindings) (group : Group) (placed : group ∈ bindings.table.groups)
    (primary : group.isDenominator = false) :
    (bindings.uses.find? (·.readsAlias group.aliasName)).map (·.request.place) =
      some group.firstSeen :=
  (table_settled bindings).first group placed primary

namespace Requests

-- The requests as a table state names them: for the columns it asks for, of its filters, and for
-- the columns that only its order needs.
def sequence (requests : Requests) (asked : Nat) : List Request :=
  (requests.selects.take asked).map (·.request) ++ requests.filters.map (·.request) ++
    (requests.selects.drop asked).map (·.request)

end Requests

theorem sequence_length (requests : Requests) (asked : Nat) :
    (requests.sequence asked).length = requests.selects.length + requests.filters.length := by
  simp only [Requests.sequence, List.length_append, List.length_map, List.length_take,
    List.length_drop]
  omega

def InSequence (asked : Nat) (requests : Requests) : Prop :=
  (requests.sequence asked).map (·.place) =
    List.range (requests.selects.length + requests.filters.length)

theorem in_sequence_added (asked : Nat) (requests added : Requests) (request : Request)
    (grown : added.sequence asked = requests.sequence asked ++ [request])
    (place : request.place = requests.selects.length + requests.filters.length)
    (held : InSequence asked requests) : InSequence asked added := by
  have length : added.selects.length + added.filters.length =
      requests.selects.length + requests.filters.length + 1 := by
    rw [← sequence_length added asked, grown, List.length_append, sequence_length,
      List.length_singleton]
  rw [InSequence, grown, length, List.map_append, held, List.range_succ, ← place]
  rfl

theorem add_select_sequence (asked : Nat) (requests added : Requests) (spec : ColumnSpec)
    (within : asked ≤ requests.selects.length) (held : InSequence asked requests)
    (ok : requests.addSelect spec = .ok added) :
    asked ≤ added.selects.length ∧ InSequence asked added := by
  obtain ⟨request, read, ok⟩ := (bind_ok _ _ _).mp ok
  have place := request_placed _ _ _ request read
  rw [← Except.ok.inj ok]
  refine ⟨?_, in_sequence_added asked requests _ request ?_ place held⟩
  · rw [List.length_append]
    exact Nat.le_add_right_of_le within
  · rw [Requests.sequence, List.take_append_of_le_length within, List.drop_append_of_le_length within,
      List.map_append, ← List.append_assoc]
    rfl

theorem add_filter_sequence (asked : Nat) (requests added : Requests) (clause : FilterClause)
    (all : asked = requests.selects.length) (held : InSequence asked requests)
    (ok : requests.addFilter clause = .ok added) :
    added.selects = requests.selects ∧ InSequence asked added := by
  obtain ⟨filter, read, ok⟩ := (bind_ok _ _ _).mp ok
  obtain ⟨request, asks, made⟩ := (bind_ok _ _ _).mp read
  have own : filter.request = request := by
    split at made
    · rw [← Except.ok.inj made]
    · cases made
  have place := request_placed _ _ _ request asks
  rw [← Except.ok.inj ok]
  refine ⟨rfl, in_sequence_added asked requests _ request ?_ place held⟩
  simp [Requests.sequence, own, all]

theorem add_sort_sequence (asked : Nat) (requests added : Requests) (clause : SortClause)
    (within : asked ≤ requests.selects.length) (held : InSequence asked requests)
    (ok : requests.addSort clause = .ok added) :
    asked ≤ added.selects.length ∧ InSequence asked added := by
  cases add_sort_adds requests added clause ok with
  | found => exact ⟨within, held⟩
  | added _ _ _ _ made => exact add_select_sequence asked requests added _ within held made

theorem of_state_sequence (state : TableState) (requests : Requests)
    (ok : Requests.ofState state = .ok requests) : InSequence state.listed.length requests := by
  obtain ⟨selected, selectsOk, ok⟩ := (bind_ok _ _ _).mp ok
  obtain ⟨filtered, filtersOk, sortsOk⟩ := (bind_ok _ _ _).mp ok
  have selects := fold_collects Requests.addSelect (fun done spec => done ++ [spec])
    (fun done requests => requests.selects.length = done.length ∧ requests.filters = [] ∧
      InSequence 0 requests) (fun done requests spec added held step => by
        obtain ⟨counted, unfiltered, front⟩ := held
        obtain ⟨request, _, grown⟩ := add_select_ok requests added spec step
        refine ⟨?_, ?_, (add_select_sequence 0 requests added spec (Nat.zero_le _) front step).2⟩
        · rw [grown, List.length_append, List.length_append, counted]
          rfl
        · rw [grown]
          exact unfiltered)
    state.listed [] ⟨[], []⟩ selected ⟨rfl, rfl, rfl⟩ selectsOk
  rw [fold_append, List.nil_append] at selects
  obtain ⟨counted, unfiltered, front⟩ := selects
  have start : InSequence selected.selects.length selected := by
    simpa [InSequence, Requests.sequence, unfiltered] using front
  have filters := fold_collects Requests.addFilter (fun _ _ => ())
    (fun _ requests => requests.selects = selected.selects ∧
      InSequence selected.selects.length requests) (fun _ requests clause added held step => by
        obtain ⟨same, next⟩ := add_filter_sequence _ requests added clause (held.1 ▸ rfl) held.2 step
        exact ⟨same.trans held.1, next⟩)
    state.filters () selected filtered ⟨rfl, start⟩ filtersOk
  have sorts := fold_collects Requests.addSort (fun _ _ => ())
    (fun _ requests => selected.selects.length ≤ requests.selects.length ∧
      InSequence selected.selects.length requests) (fun _ requests clause added held step =>
        add_sort_sequence _ requests added clause held.1 held.2 step)
    state.sorts () filtered requests ⟨filters.1 ▸ Nat.le_refl _, filters.2⟩ sortsOk
  exact counted ▸ sorts.2

namespace Bindings

def asked (bindings : Bindings) (count : Nat) : List Use :=
  (bindings.selects.take count).map BoundSelect.use

def compared (bindings : Bindings) : List Use := bindings.filters.map BoundFilter.use

def ordering (bindings : Bindings) (count : Nat) : List Use :=
  (bindings.selects.drop count).map BoundSelect.use

def shown (bindings : Bindings) : List Use := bindings.selects.map BoundSelect.use

end Bindings

theorem shown_split (bindings : Bindings) (count : Nat) :
    bindings.shown = bindings.asked count ++ bindings.ordering count := by
  rw [Bindings.asked, Bindings.ordering, ← List.map_append, List.take_append_drop]
  rfl

theorem uses_split (bindings : Bindings) : bindings.uses = bindings.shown ++ bindings.compared := rfl

def Bindings.sequence (bindings : Bindings) (count : Nat) : List Use :=
  bindings.asked count ++ bindings.compared ++ bindings.ordering count

theorem mem_sequence (bindings : Bindings) (count : Nat) (use : Use) :
    use ∈ bindings.sequence count ↔ use ∈ bindings.uses := by
  rw [uses_split, shown_split bindings count, Bindings.sequence]
  simp only [List.mem_append]
  tauto

theorem bound_sequence (defaults : Defaults) (splits : List Split) (requests : Requests)
    (bindings : Bindings) (count : Nat) (ok : Bindings.of defaults splits requests = .ok bindings)
    (held : InSequence count requests) :
    (bindings.sequence count).map (·.request.place) = List.range bindings.uses.length := by
  obtain ⟨selects, filters⟩ := bound_requests defaults splits requests bindings ok
  have length : bindings.uses.length = requests.selects.length + requests.filters.length := by
    rw [← selects, ← filters, uses_split, List.length_append, Bindings.shown, Bindings.compared]
    simp only [List.length_map]
  rw [length, ← held, Requests.sequence, ← selects, ← filters, Bindings.sequence, Bindings.asked,
    Bindings.compared, Bindings.ordering]
  simp only [List.map_append, List.map_map, ← List.map_take, ← List.map_drop]
  rfl

def ReadBy (uses : List Use) (aliasName : String) : Prop :=
  ∃ use ∈ uses, use.readsAlias aliasName = true

def placesOf (uses : List Use) (aliasName : String) : Set Nat :=
  { place | ∃ use ∈ uses, use.readsAlias aliasName = true ∧ use.request.place = place }

def InPlaces (uses : List Use) : Prop :=
  uses.Pairwise fun one other => one.request.place < other.request.place

theorem read_by_iff (uses : List Use) (aliasName : String) :
    ReadBy uses aliasName ↔ (uses.find? (·.readsAlias aliasName)).isSome = true :=
  List.find?_isSome.symm

theorem first_least (uses : List Use) (aliasName : String) (use : Use) (ordered : InPlaces uses)
    (found : uses.find? (·.readsAlias aliasName) = some use) :
    IsLeast (placesOf uses aliasName) use.request.place := by
  obtain ⟨reads, before, after, rfl, others⟩ := List.find?_eq_some_iff_append.mp found
  refine ⟨⟨use, List.mem_append_right _ List.mem_cons_self, reads, rfl⟩, ?_⟩
  rintro place ⟨other, member, own, rfl⟩
  rcases List.mem_append.mp member with earlier | later
  · exact absurd own (by simpa using others other earlier)
  · rcases List.mem_cons.mp later with rfl | behind
    · exact Nat.le_refl _
    · exact ((List.pairwise_cons.mp (List.pairwise_append.mp ordered).2.1).1 other behind).le

-- Where a group stands among the uses that read it. It stands at the earliest of them unless a filter
-- and the order read it, but no column that is asked for.
structure StandsAt (bindings : Bindings) (count : Nat) (group : Group) : Prop where
  shown : ReadBy bindings.shown group.aliasName →
    IsLeast (placesOf bindings.shown group.aliasName) group.firstSeen
  compared : ¬ ReadBy bindings.shown group.aliasName →
    IsLeast (placesOf bindings.compared group.aliasName) group.firstSeen
  earliest_iff : IsLeast (placesOf bindings.uses group.aliasName) group.firstSeen ↔
    (ReadBy bindings.compared group.aliasName → ReadBy (bindings.ordering count) group.aliasName →
      ReadBy (bindings.asked count) group.aliasName)

theorem places_congr (one other : List Use) (same : ∀ use, use ∈ one ↔ use ∈ other)
    (aliasName : String) : placesOf one aliasName = placesOf other aliasName := by
  simp only [placesOf, same]

section

variable (bindings : Bindings) (count : Nat) (ordered : InPlaces (bindings.sequence count))

include ordered

theorem shown_in_places : InPlaces bindings.shown := by
  rw [shown_split bindings count]
  refine ordered.sublist ?_
  rw [Bindings.sequence, List.append_assoc]
  exact (List.sublist_append_right _ _).append_left _

theorem compared_in_places : InPlaces bindings.compared := by
  refine ordered.sublist ?_
  rw [Bindings.sequence, List.append_assoc]
  exact (List.sublist_append_left _ _).trans (List.sublist_append_right _ _)

theorem compared_before (early late : Use) (compares : early ∈ bindings.compared)
    (orders : late ∈ bindings.ordering count) : early.request.place < late.request.place :=
  (List.pairwise_append.mp ordered).2.2 early (List.mem_append_right _ compares) late orders

-- The use that is bound first is the earliest one unless it is there for the order only, and a filter
-- reads the same.
theorem first_earliest_iff (aliasName : String) (first : Use)
    (found : bindings.uses.find? (·.readsAlias aliasName) = some first) :
    IsLeast (placesOf bindings.uses aliasName) first.request.place ↔
      (ReadBy bindings.compared aliasName → ReadBy (bindings.ordering count) aliasName →
        ReadBy (bindings.asked count) aliasName) := by
  have front : (bindings.sequence count).find? (·.readsAlias aliasName) =
      (((bindings.asked count).find? (·.readsAlias aliasName)).or
        (bindings.compared.find? (·.readsAlias aliasName))).or
          ((bindings.ordering count).find? (·.readsAlias aliasName)) := by
    rw [Bindings.sequence, List.find?_append, List.find?_append]
  have least (use : Use) (own : (bindings.sequence count).find? (·.readsAlias aliasName) = some use) :=
    first_least _ _ use ordered own
  rw [uses_split, shown_split bindings count, List.find?_append, List.find?_append] at found
  rw [places_congr _ _ (fun use => (mem_sequence bindings count use).symm), read_by_iff, read_by_iff,
    read_by_iff]
  -- What is asked for is bound first and stands first. Filters stand before the uses that only the
  -- order needs, but are bound behind them.
  cases asked : (bindings.asked count).find? (·.readsAlias aliasName) with
  | some use =>
      rw [asked, Option.some_or, Option.some_or] at found front
      exact iff_of_true (Option.some.inj found ▸ least use front) fun _ _ => rfl
  | none =>
      rw [asked, Option.none_or] at found front
      cases orders : (bindings.ordering count).find? (·.readsAlias aliasName) with
      | none =>
          rw [orders, Option.none_or] at found
          rw [found, Option.some_or] at front
          exact iff_of_true (least first front) fun _ none => by cases none
      | some late =>
          rw [orders, Option.some_or] at found
          obtain rfl := Option.some.inj found
          cases compares : bindings.compared.find? (·.readsAlias aliasName) with
          | none =>
              rw [compares, orders, Option.none_or] at front
              exact iff_of_true (least late front) fun none => by cases none
          | some early =>
              rw [compares, Option.some_or] at front
              have before := compared_before bindings count ordered early late
                (List.mem_of_find?_eq_some compares) (List.mem_of_find?_eq_some orders)
              exact iff_of_false (fun own => before.ne' (own.unique (least early front)))
                fun both => by cases both rfl rfl

theorem group_stands (group : Group) (placed : group ∈ bindings.table.groups)
    (primary : group.isDenominator = false) : StandsAt bindings count group := by
  obtain ⟨first, found, place⟩ := Option.map_eq_some_iff.mp (table_first bindings group placed primary)
  have earliest := first_earliest_iff bindings count ordered group.aliasName first found
  rw [uses_split, List.find?_append] at found
  rw [place] at earliest
  refine ⟨fun read => ?_, fun unread => ?_, earliest⟩
  · rw [read_by_iff] at read
    obtain ⟨use, own⟩ := Option.isSome_iff_exists.mp read
    rw [own, Option.some_or] at found
    rw [← place, ← Option.some.inj found]
    exact first_least _ _ use (shown_in_places bindings count ordered) own
  · rw [read_by_iff, Option.not_isSome_iff_eq_none] at unread
    rw [unread, Option.none_or] at found
    rw [← place]
    exact first_least _ _ first (compared_in_places bindings count ordered) found

theorem first_seen_apart (one other : Group) (onePlaced : one ∈ bindings.table.groups)
    (otherPlaced : other ∈ bindings.table.groups) (onePrimary : one.isDenominator = false)
    (otherPrimary : other.isDenominator = false) (same : one.firstSeen = other.firstSeen) :
    one = other := by
  obtain ⟨use, found, place⟩ := Option.map_eq_some_iff.mp
    (table_first bindings one onePlaced onePrimary)
  obtain ⟨use', found', place'⟩ := Option.map_eq_some_iff.mp
    (table_first bindings other otherPlaced otherPrimary)
  have member (use : Use) (aliasName : String)
      (found : bindings.uses.find? (·.readsAlias aliasName) = some use) :
      use ∈ bindings.sequence count :=
    (mem_sequence bindings count use).mpr (List.mem_of_find?_eq_some found)
  have own : use = use' := by
    refine List.inj_on_of_nodup_map (f := fun use : Use => use.request.place) ?_ (member _ _ found)
      (member _ _ found') (place.trans (same.trans place'.symm))
    exact List.pairwise_map.mpr (ordered.imp fun before => before.ne)
  obtain ⟨target, reads, named⟩ := (reads_alias_iff _ _).mp (List.find?_some found)
  obtain ⟨target', reads', named'⟩ := (reads_alias_iff _ _).mp (List.find?_some found')
  rw [own, reads'] at reads
  refine distinct_eq _ (table_distinct bindings) one other onePlaced otherPlaced ?_
  rw [← named, ← named', Option.some.inj reads]

end

end StatTable.Plan
