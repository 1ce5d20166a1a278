import StatTable.Proofs.Groups.Service

set_option autoImplicit false

namespace StatTable.Plan

namespace BoundFilter

def having? (aliasName : String) (bound : BoundFilter) : Option Sql.Expr :=
  match bound.binding with
  | .fact target relation _ aggregate =>
      if bound.isEarly && target.aliasName == aliasName then
        some (earlyCondition bound relation aggregate)
      else none
  | _ => none

def restrictsAlias (aliasName : String) (bound : BoundFilter) : Bool :=
  bound.restricts && bound.binding.target?.any (·.aliasName == aliasName)

end BoundFilter

structure Carries (conditions : String → List Sql.Expr) (restricted : String → Bool)
    (table : GroupTable) : Prop where
  distinct : Distinct table.groups
  having : ∀ group ∈ table.groups, group.having = conditions group.aliasName
  restricting : ∀ group ∈ table.groups, group.restricting = restricted group.aliasName
  absent : ∀ aliasName, (∀ group ∈ table.groups, group.aliasName ≠ aliasName) →
    conditions aliasName = [] ∧ restricted aliasName = false

section

variable (conditions : String → List Sql.Expr) (restricted : String → Bool) (table : GroupTable)
variable (carries : Carries conditions restricted table)

include carries

theorem carries_insert (target : Target) (firstSeen : Nat)  :
    Carries conditions restricted (table.insert (target.group firstSeen)) := by
  have fresh : ∀ group ∈ (table.insert (target.group firstSeen)).groups, group ∈ table.groups ∨
      group = target.group firstSeen ∧ conditions group.aliasName = [] ∧
        restricted group.aliasName = false := by
    intro group member
    by_cases taken : ∃ other ∈ table.groups, other.aliasName = (target.group firstSeen).aliasName
    · rw [GroupTable.insert_groups, if_pos taken] at member
      exact .inl member
    · cases table.mem_insert _ group member with
      | inl old => exact .inl old
      | inr new =>
          subst new
          exact .inr ⟨rfl, carries.absent _ fun other otherMember same =>
            taken ⟨other, otherMember, same⟩⟩
  refine ⟨table.insert_distinct _ carries.distinct, ?_, ?_, ?_⟩
  · intro group member
    cases fresh group member with
    | inl old => exact carries.having group old
    | inr new =>
        obtain ⟨rfl, none, _⟩ := new
        exact none.symm
  · intro group member
    cases fresh group member with
    | inl old => exact carries.restricting group old
    | inr new =>
        obtain ⟨rfl, _, none⟩ := new
        exact none.symm
  · intro aliasName none
    exact carries.absent aliasName fun group member =>
      none group (table.mem_insert_of_mem _ group member)

theorem carries_update (aliasName : String) (change : Group → Group) (keeps : Keeps change)
    (further : String → List Sql.Expr) (narrower : String → Bool)
    (having : ∀ group, group.having = conditions group.aliasName → group.aliasName = aliasName →
      (change group).having = further group.aliasName)
    (restricting : ∀ group, group.restricting = restricted group.aliasName →
      group.aliasName = aliasName → (change group).restricting = narrower group.aliasName)
    (others : ∀ other, other ≠ aliasName →
      further other = conditions other ∧ narrower other = restricted other)
    (present : ∃ group ∈ table.groups, group.aliasName = aliasName) :
    Carries further narrower (table.update aliasName change) := by
  have named (group : Group) : (if group.aliasName = aliasName then change group else group).aliasName =
      group.aliasName := by
    split
    · exact keeps.aliasName group
    · rfl
  refine ⟨table.update_distinct _ _ keeps carries.distinct, ?_, ?_, ?_⟩
  · intro group member
    rw [table.update_groups _ _ carries.distinct] at member
    obtain ⟨before, old, rfl⟩ := List.mem_map.mp member
    rw [named before]
    by_cases hit : before.aliasName = aliasName
    · rw [if_pos hit]
      exact having before (carries.having before old) hit
    · rw [if_neg hit, carries.having before old, (others _ hit).1]
  · intro group member
    rw [table.update_groups _ _ carries.distinct] at member
    obtain ⟨before, old, rfl⟩ := List.mem_map.mp member
    rw [named before]
    by_cases hit : before.aliasName = aliasName
    · rw [if_pos hit]
      exact restricting before (carries.restricting before old) hit
    · rw [if_neg hit, carries.restricting before old, (others _ hit).2]
  · intro other none
    have unchanged : ∀ group ∈ table.groups, group.aliasName ≠ other := by
      intro group member same
      refine none _ (table.mem_update_of_mem aliasName change carries.distinct group member) ?_
      rw [named group, same]
    have differs : other ≠ aliasName := by
      rintro rfl
      obtain ⟨group, member, same⟩ := present
      exact unchanged group member same
    rw [(others other differs).1, (others other differs).2]
    exact carries.absent other unchanged

theorem carries_require (aliasName id : String) (aggregate : Aggregate) :
    Carries conditions restricted (table.update aliasName (.requireAggregate id aggregate)) := by
  by_cases present : ∃ group ∈ table.groups, group.aliasName = aliasName
  · apply carries_update conditions restricted table carries aliasName _ (keeps_require id aggregate)
    · intro group held _
      rw [require_having, held]
    · intro group held _
      rw [require_restricting, held]
    · exact fun other _ => ⟨rfl, rfl⟩
    · exact present
  · have absent : table.indexOf? aliasName = none :=
      (table.index_none aliasName).mpr fun group member same => present ⟨group, member, same⟩
    rw [GroupTable.update, absent]
    exact carries

theorem carries_aggregate (target : Target) (id : String) (aggregate : Aggregate)
    (rate : Option Rate) :
    Carries conditions restricted (table.placeAggregate target id aggregate rate) := by
  have required := carries_require conditions restricted table carries target.aliasName id aggregate
  cases rate with
  | none => exact required
  | some rate =>
      rw [GroupTable.placeAggregate, GroupTable.placeDenominator]
      split
      · exact carries_insert conditions restricted _ required _ _
      · exact required

theorem carries_target (binding : Binding) (request : Request) :
    Carries conditions restricted (table.placeTarget binding request) := by
  rw [GroupTable.placeTarget]
  cases binding.target? with
  | none => exact carries
  | some target => exact carries_insert conditions restricted table carries target request.place

theorem carries_select (bound : BoundSelect) :
    Carries conditions restricted (table.placeSelect bound) := by
  have placed := carries_target conditions restricted table carries bound.binding
    bound.select.request
  rw [GroupTable.placeSelect]
  cases reads : bound.binding with
  | player source =>
      rw [reads] at placed
      exact placed
  | direct target column =>
      rw [reads] at placed
      exact placed
  | fact target relation id aggregate =>
      rw [reads] at placed
      exact carries_aggregate conditions restricted _ placed target id aggregate _

theorem carries_condition (bound : BoundFilter)
    (present : ∀ target, bound.binding.target? = some target →
      ∃ group ∈ table.groups, group.aliasName = target.aliasName) :
    Carries (fun aliasName => conditions aliasName ++ (bound.having? aliasName).toList) restricted
      (table.placeCondition bound) := by
  have unchanged (none : ∀ aliasName, bound.having? aliasName = none) :
      (fun aliasName => conditions aliasName ++ (bound.having? aliasName).toList) = conditions := by
    funext aliasName
    rw [none aliasName, Option.toList_none, List.append_nil]
  rw [GroupTable.placeCondition]
  cases reads : bound.binding with
  | player source =>
      rw [unchanged fun aliasName => by rw [BoundFilter.having?, reads]]
      exact carries
  | direct target column =>
      rw [unchanged fun aliasName => by rw [BoundFilter.having?, reads]]
      exact carries
  | fact target relation id aggregate =>
      dsimp only
      by_cases early : bound.isEarly = true
      · rw [if_pos early]
        have due : bound.having? target.aliasName =
            some (earlyCondition bound relation aggregate) := by
          rw [BoundFilter.having?, reads]
          dsimp only
          rw [early, beq_self_eq_true, Bool.and_self, if_pos rfl]
        apply carries_update conditions restricted table carries target.aliasName _ (keeps_having _)
        · intro group held named
          rw [named, due, Group.addHaving, held, named]
          rfl
        · exact fun group held _ => held
        · intro other differs
          have none : bound.having? other = none := by
            rw [BoundFilter.having?, reads]
            dsimp only
            rw [if_neg]
            intro both
            exact differs (beq_iff_eq.mp (Bool.and_eq_true_iff.mp both).2).symm
          rw [none, Option.toList_none, List.append_nil]
          exact ⟨rfl, rfl⟩
        · exact present target (by rw [reads]; rfl)
      · rw [if_neg early, unchanged]
        · exact carries_aggregate conditions restricted table carries target id aggregate _
        · intro aliasName
          rw [BoundFilter.having?, reads]
          dsimp only
          rw [if_neg]
          intro both
          exact early (Bool.and_eq_true_iff.mp both).1

theorem carries_restrict (aliasName : String)
    (present : ∃ group ∈ table.groups, group.aliasName = aliasName) :
    Carries conditions (fun other => restricted other || aliasName == other)
      (table.update aliasName .restrict) := by
  apply carries_update conditions restricted table carries aliasName _ keeps_restrict
  · exact fun group held _ => held
  · intro group _ named
    rw [named, beq_self_eq_true, Bool.or_true]
    rfl
  · intro other differs
    rw [beq_eq_false_iff_ne.mpr (Ne.symm differs), Bool.or_false]
    exact ⟨rfl, rfl⟩
  · exact present

theorem carries_filter (bindings : Bindings) (bound : BoundFilter)
    (member : bound ∈ bindings.filters) :
    Carries (fun aliasName => conditions aliasName ++ (bound.having? aliasName).toList)
      (fun aliasName => restricted aliasName || bound.restrictsAlias aliasName)
      (table.placeFilter bound) := by
  have placed := carries_target conditions restricted table carries bound.binding
    bound.filter.request
  have serves (target : Target) (reads : bound.binding.target? = some target) :=
    place_target_serves table target bound.binding bound.filter.request reads
  have conditioned := carries_condition conditions restricted _ placed bound fun target reads => by
    obtain ⟨group, groupMember, named, _⟩ := serves target reads
    exact ⟨group, groupMember, named⟩
  rw [GroupTable.placeFilter]
  have unchanged (none : ∀ aliasName, bound.restrictsAlias aliasName = false) :
      (fun aliasName => restricted aliasName || bound.restrictsAlias aliasName) = restricted := by
    funext aliasName
    rw [none aliasName, Bool.or_false]
  cases reads : bound.binding.target? with
  | none =>
      rw [unchanged]
      · exact conditioned
      · intro aliasName
        rw [BoundFilter.restrictsAlias, reads, Option.any_none, Bool.and_false]
  | some target =>
      dsimp only
      by_cases restricts : bound.restricts = true
      · rw [if_pos restricts]
        have same : (fun aliasName => restricted aliasName || bound.restrictsAlias aliasName) =
            fun aliasName => restricted aliasName || target.aliasName == aliasName := by
          funext aliasName
          rw [BoundFilter.restrictsAlias, restricts, reads, Option.any_some, Bool.true_and]
        obtain ⟨group, groupMember, named, _⟩ := place_condition_serves bindings bound member _
          target.aliasName placed.distinct (serves target reads)
        rw [same]
        exact carries_restrict _ restricted _ conditioned target.aliasName
          ⟨group, groupMember, named⟩
      · rw [if_neg restricts, unchanged]
        · exact conditioned
        · intro aliasName
          rw [BoundFilter.restrictsAlias, Bool.eq_false_iff.mpr restricts, Bool.false_and]

end

theorem carries_empty : Carries (fun _ => []) (fun _ => false) .empty where
  distinct := List.nodup_nil
  having := fun _ member => absurd member List.not_mem_nil
  restricting := fun _ member => absurd member List.not_mem_nil
  absent := fun _ _ => ⟨rfl, rfl⟩

theorem carries_selects (conditions : String → List Sql.Expr) (restricted : String → Bool)
    (selects : List BoundSelect) (table : GroupTable)
    (carries : Carries conditions restricted table) :
    Carries conditions restricted (selects.foldl .placeSelect table) := by
  induction selects generalizing table with
  | nil => exact carries
  | cons bound rest ih => exact ih _ (carries_select conditions restricted table carries bound)

theorem carries_filters (bindings : Bindings) (filters : List BoundFilter)
    (members : ∀ bound ∈ filters, bound ∈ bindings.filters)
    (conditions : String → List Sql.Expr) (restricted : String → Bool) (table : GroupTable)
    (carries : Carries conditions restricted table) :
    Carries (fun aliasName => conditions aliasName ++ filters.filterMap (·.having? aliasName))
      (fun aliasName => restricted aliasName || filters.any (·.restrictsAlias aliasName))
      (filters.foldl .placeFilter table) := by
  induction filters generalizing conditions restricted table with
  | nil =>
      have conditionsSame : (fun aliasName => conditions aliasName ++
          ([] : List BoundFilter).filterMap (·.having? aliasName)) = conditions :=
        funext fun _ => List.append_nil _
      have restrictedSame : (fun aliasName => restricted aliasName ||
          ([] : List BoundFilter).any (·.restrictsAlias aliasName)) = restricted :=
        funext fun _ => Bool.or_false _
      rw [conditionsSame, restrictedSame]
      exact carries
  | cons bound rest ih =>
      have step := carries_filter conditions restricted table carries bindings bound
        (members bound List.mem_cons_self)
      have rested := ih (fun other member => members other (List.mem_cons_of_mem _ member)) _ _ _ step
      have conditionsSame : (fun aliasName => conditions aliasName ++
          (bound :: rest).filterMap (·.having? aliasName)) = fun aliasName =>
          conditions aliasName ++ (bound.having? aliasName).toList ++
            rest.filterMap (·.having? aliasName) := by
        funext aliasName
        rw [List.append_assoc]
        cases due : bound.having? aliasName with
        | none => rw [List.filterMap_cons_none due, Option.toList_none, List.nil_append]
        | some condition => rw [List.filterMap_cons_some due, Option.toList_some, List.singleton_append]
      have restrictedSame : (fun aliasName => restricted aliasName ||
          (bound :: rest).any (·.restrictsAlias aliasName)) = fun aliasName =>
          (restricted aliasName || bound.restrictsAlias aliasName) ||
            rest.any (·.restrictsAlias aliasName) := by
        funext aliasName
        rw [List.any_cons, Bool.or_assoc]
      rw [conditionsSame, restrictedSame]
      exact rested

section

variable (bindings : Bindings)

theorem table_carries : Carries (fun aliasName => bindings.filters.filterMap (·.having? aliasName))
    (fun aliasName => bindings.filters.any (·.restrictsAlias aliasName)) bindings.table := by
  have selected := carries_selects _ _ bindings.selects .empty carries_empty
  have filtered := carries_filters bindings bindings.filters (fun _ member => member) _ _ _ selected
  exact filtered

theorem table_having (group : Group) (member : group ∈ bindings.table.groups) :
    group.having = bindings.filters.filterMap (·.having? group.aliasName) :=
  (table_carries bindings).having group member

theorem table_restricting (group : Group) (member : group ∈ bindings.table.groups) :
    group.restricting = bindings.filters.any (·.restrictsAlias group.aliasName) :=
  (table_carries bindings).restricting group member

end

def Required (bindings : Bindings) (aliasName id : String) : Prop :=
  (∃ bound ∈ bindings.selects, ∃ target relation aggregate,
    bound.binding = .fact target relation id aggregate ∧ aliasName = target.aliasName) ∨
  ∃ bound ∈ bindings.filters, bound.isEarly = false ∧ ∃ target relation aggregate,
    bound.binding = .fact target relation id aggregate ∧ aliasName = target.aliasName

structure Frugal (bindings : Bindings) (table : GroupTable) : Prop where
  distinct : Distinct table.groups
  required : ∀ group ∈ table.groups, ∀ id, computesId id group → Required bindings group.aliasName id

section

variable (bindings : Bindings) (table : GroupTable) (frugal : Frugal bindings table)

include frugal

theorem frugal_insert (target : Target) (firstSeen : Nat) :
    Frugal bindings (table.insert (target.group firstSeen)) := by
  refine ⟨table.insert_distinct _ frugal.distinct, fun group member id computes => ?_⟩
  cases table.mem_insert _ group member with
  | inl old => exact frugal.required group old id computes
  | inr new =>
      subst new
      exact absurd computes List.not_mem_nil

theorem frugal_update (aliasName : String) (change : Group → Group) (keeps : Keeps change)
    (further : ∀ group id, group.aliasName = aliasName → computesId id (change group) →
      computesId id group ∨ Required bindings aliasName id) :
    Frugal bindings (table.update aliasName change) := by
  refine ⟨table.update_distinct _ _ keeps frugal.distinct, fun group member id computes => ?_⟩
  rcases table.mem_update _ _ frugal.distinct group member with old | ⟨before, old, named, rfl⟩
  · exact frugal.required group old id computes
  · rw [keeps.aliasName]
    cases further before id named computes with
    | inl known => exact frugal.required before old id known
    | inr required => exact named.symm ▸ required

theorem frugal_aggregate (target : Target) (id : String) (aggregate : Aggregate)
    (rate : Option Rate) (required : Required bindings target.aliasName id) :
    Frugal bindings (table.placeAggregate target id aggregate rate) := by
  have added : Frugal bindings
      (table.update target.aliasName (.requireAggregate id aggregate)) := by
    apply frugal_update bindings table frugal _ _ (keeps_require id aggregate)
    intro group other named computes
    rw [Group.requireAggregate] at computes
    split at computes
    · exact .inl computes
    · rw [computesId, List.map_append] at computes
      cases List.mem_append.mp computes with
      | inl old => exact .inl old
      | inr new =>
          obtain rfl : other = id := List.mem_singleton.mp new
          exact .inr required
  cases rate with
  | none => exact added
  | some rate =>
      rw [GroupTable.placeAggregate, GroupTable.placeDenominator]
      split
      · exact frugal_insert bindings _ added _ _
      · exact added

theorem frugal_target (binding : Binding) (request : Request) :
    Frugal bindings (table.placeTarget binding request) := by
  rw [GroupTable.placeTarget]
  cases binding.target? with
  | none => exact frugal
  | some target => exact frugal_insert bindings table frugal target request.place

theorem frugal_select (bound : BoundSelect) (member : bound ∈ bindings.selects) :
    Frugal bindings (table.placeSelect bound) := by
  have placed := frugal_target bindings table frugal bound.binding bound.select.request
  rw [GroupTable.placeSelect]
  cases reads : bound.binding with
  | player source =>
      rw [reads] at placed
      exact placed
  | direct target column =>
      rw [reads] at placed
      exact placed
  | fact target relation id aggregate =>
      rw [reads] at placed
      exact frugal_aggregate bindings _ placed target id aggregate _
        (.inl ⟨bound, member, target, relation, aggregate, reads, rfl⟩)

theorem frugal_condition (bound : BoundFilter) (member : bound ∈ bindings.filters) :
    Frugal bindings (table.placeCondition bound) := by
  rw [GroupTable.placeCondition]
  cases reads : bound.binding with
  | player source => exact frugal
  | direct target column => exact frugal
  | fact target relation id aggregate =>
      dsimp only
      by_cases early : bound.isEarly = true
      · rw [if_pos early]
        exact frugal_update bindings table frugal _ _ (keeps_having _)
          fun group other _ computes => .inl computes
      · rw [if_neg early]
        exact frugal_aggregate bindings table frugal target id aggregate _
          (.inr ⟨bound, member, Bool.eq_false_iff.mpr early, target, relation, aggregate, reads, rfl⟩)

theorem frugal_filter (bound : BoundFilter) (member : bound ∈ bindings.filters) :
    Frugal bindings (table.placeFilter bound) := by
  have placed := frugal_target bindings table frugal bound.binding bound.filter.request
  have conditioned := frugal_condition bindings _ placed bound member
  rw [GroupTable.placeFilter]
  cases bound.binding.target? with
  | none => exact conditioned
  | some target =>
      dsimp only
      split
      · exact frugal_update bindings _ conditioned _ _ keeps_restrict
          fun group other _ computes => .inl computes
      · exact conditioned

end

section

variable (bindings : Bindings)

theorem table_frugal : Frugal bindings bindings.table := by
  have selected : Frugal bindings (bindings.selects.foldl .placeSelect .empty) := by
    refine List.foldlRecOn (motive := Frugal bindings) bindings.selects _
      ⟨List.nodup_nil, fun _ member => absurd member List.not_mem_nil⟩ ?_
    exact fun table frugal bound member => frugal_select bindings table frugal bound member
  refine List.foldlRecOn (motive := Frugal bindings) bindings.filters _ selected ?_
  exact fun table frugal bound member => frugal_filter bindings table frugal bound member

theorem computes_iff_required (group : Group) (placed : group ∈ bindings.table.groups)
    (id : String) : computesId id group ↔ Required bindings group.aliasName id := by
  constructor
  · exact (table_frugal bindings).required group placed id
  · intro required
    have served : Serves bindings.table.groups group.aliasName (computesId id) := by
      rcases required with ⟨bound, member, target, relation, aggregate, reads, named⟩ |
        ⟨bound, member, late, target, relation, aggregate, reads, named⟩
      · rw [named]
        exact (select_provided bindings bound member target relation id aggregate reads).1
      · rw [named]
        exact (late_filter_provided bindings bound member target relation id aggregate reads late).1
    obtain ⟨other, otherPlaced, named, computes⟩ := served
    rw [← distinct_eq _ (table_distinct bindings) other group otherPlaced placed named]
    exact computes

end

end StatTable.Plan
