import StatTable.Proofs.Players.Values

set_option autoImplicit false

namespace StatTable.Plan

open Sql

theorem quotient_missing (engine : Engine) (den : Value) : engine.quotient .null den = .null := by
  simp [Engine.quotient, Engine.computed]

theorem early_strict (bound : BoundFilter) (early : bound.isEarly = true) :
    bound.filter.request.rate = none ∧ bound.restricts = true := by
  unfold BoundFilter.isEarly at early
  split at early
  · obtain ⟨plain, strict⟩ := Bool.and_eq_true_iff.mp early
    exact ⟨by simpa using plain, strict⟩
  · simp at early

section

variable (engine : Engine) (database : Tables) (player : Row)
variable (defaults : Defaults) (state : TableState) (bindings : Bindings) (plan : QueryPlan)
variable (whole : Unsplit defaults state bindings plan)

def clauseHolds (clause : FilterClause) : Bool :=
  clause.operator.truth engine (clause.spec.valueFor engine database defaults player)
    clause.operand == some true

structure Clause (clause : FilterClause) (bound : BoundFilter) : Prop where
  listed : clause ∈ state.filters
  member : bound ∈ bindings.filters
  operator : bound.filter.operator = clause.operator
  operand : bound.filter.operand = clause.operand
  finds : Finds defaults [] clause.spec bound.filter.request bound.binding

include whole

theorem clause_related (clause : FilterClause) (bound : BoundFilter) (listed : clause ∈ state.filters)
    (member : bound ∈ bindings.filters) (related : FilterAsks clause bound.filter ∧
      Finds defaults (canonicalSplits state.splits) ⟨clause.id, clause.params⟩ bound.filter.request
        bound.binding) : Clause defaults state bindings clause bound := by
  exact ⟨listed, member, related.1.operator, related.1.operand, whole.dimensions ▸ related.2⟩

theorem clause_of_filter (bound : BoundFilter) (member : bound ∈ bindings.filters) :
    ∃ clause, Clause defaults state bindings clause bound := by
  obtain ⟨clause, listed, related⟩ := forall_right _ _ _ whole.uses.filters bound member
  exact ⟨clause, clause_related defaults state bindings plan whole clause bound listed member related⟩

theorem filter_of_clause (clause : FilterClause) (listed : clause ∈ state.filters) :
    ∃ bound, Clause defaults state bindings clause bound := by
  obtain ⟨bound, member, related⟩ := forall_left _ _ _ whole.uses.filters clause listed
  exact ⟨bound, clause_related defaults state bindings plan whole clause bound listed member related⟩

variable (clause : FilterClause) (bound : BoundFilter)
variable (asked : Clause defaults state bindings clause bound)

include asked

theorem clause_shaped : bound.filter.operator.shape.Fits bound.filter.operand := by
  rw [asked.operator, asked.operand]
  exact whole.shaped clause asked.listed

theorem early_condition_holds (target : Target) (relation : Relation) (id : String)
    (aggregate : Aggregate) (reads : bound.binding = .fact target relation id aggregate)
    (group : Group) (same : group.target = target) (early : bound.isEarly = true)
    (some : relation.rowsOf engine database group.params (player Catalog.playerKey) ≠ []) :
    (earlyCondition bound relation aggregate).holds engine
      ((relation.rowsOf engine database group.params (player Catalog.playerKey)).map
        (Scope.single relation.table)) = clauseHolds engine database player defaults clause := by
  obtain ⟨_, value⟩ := fact_value_for engine database player defaults clause.spec bound.filter.request
    target relation id aggregate (reads ▸ asked.finds) group same
  rw [(early_strict bound early).1, ColumnKind.valueFor] at value
  rw [earlyCondition, filter_value engine _ _ _ _
      (clause_shaped defaults state bindings plan whole clause bound asked), over_rows_value, clauseHolds,
    value, asked.operator, asked.operand, overRows, factValue]
  cases rows : relation.rowsOf engine database group.params (player Catalog.playerKey) with
  | nil => exact absurd rows some
  | cons row rest => rfl

theorem late_condition_holds (decided : Decided engine database bindings player)
    (late : bound.isEarly = false) :
    (filterCondition (bound.binding.value bindings.table bound.filter.request.rate)
      bound.filter.operator bound.filter.operand).holds engine
        [scopeFor engine database bindings plan player] =
      clauseHolds engine database player defaults clause := by
  have value := use_value engine database player defaults state bindings plan whole decided _
    (bindings.filter_uses bound asked.member) clause.spec asked.finds
    fun target relation id aggregate reads => late_filter_provided bindings bound asked.member target
      relation id aggregate reads late
  rw [filter_value engine _ _ _ _ (clause_shaped defaults state bindings plan whole clause bound asked),
    value, clauseHolds, asked.operator, asked.operand]

theorem value_without_row (decided : Decided engine database bindings player) (target : Target)
    (reads : bound.binding.target? = some target) (group : Group) (joined : group ∈ bindings.ordered)
    (named : group.aliasName = target.aliasName) (same : group.target = target)
    (none : group.offered engine (planTables engine database plan) player = []) :
    clause.spec.valueFor engine database defaults player = .null := by
  have use := bindings.filter_uses bound asked.member
  cases binding : bound.binding with
  | player source => simp [binding, Binding.target?] at reads
  | direct own column =>
      obtain rfl : own = target := by simpa [binding, Binding.target?] using reads
      rw [← direct_use_value engine database player defaults state bindings plan whole _ use clause.spec
        asked.finds own column binding,
        field_for engine database player bindings plan group joined _ column named, Group.rowFor, none]
      rfl
  | fact own relation id aggregate =>
      obtain rfl : own = target := by simpa [binding, Binding.target?] using reads
      obtain ⟨source, value⟩ := fact_value_for engine database player defaults clause.spec
        bound.filter.request own relation id aggregate (binding ▸ asked.finds) group same
      have nothing : factValue engine database relation aggregate group.params
          (player Catalog.playerKey) = .null := by
        rw [fact_offered engine database player defaults state bindings plan whole group joined relation
          source] at none
        have passes := decided group joined relation source
        unfold factValue
        cases rows : relation.rowsOf engine database group.params (player Catalog.playerKey) with
        | nil => rfl
        | cons row rest =>
            rw [rows] at none passes
            rw [passes (by simp)] at none
            exact absurd none (by simp)
      rw [value]
      cases bound.filter.request.rate with
      | none => rw [ColumnKind.valueFor, nothing]
      | some rate => rw [ColumnKind.valueFor, nothing, quotient_missing]

end

section

variable (engine : Engine) (database : Tables) (player : Row)
variable (defaults : Defaults) (state : TableState) (bindings : Bindings) (plan : QueryPlan)
theorem clause_restricts (clause : FilterClause) (bound : BoundFilter)
    (asked : Clause defaults state bindings clause bound) (target : Target)
    (reads : bound.binding.target? = some target) (restricts : bound.restricts = true) (group : Group)
    (joined : group ∈ bindings.ordered) (named : group.aliasName = target.aliasName) :
    group.restricting = true := by
  obtain ⟨held, placed, heldNamed, restricting⟩ :=
    restriction_kept bindings bound asked.member target reads restricts
  obtain rfl := distinct_eq _ (table_distinct bindings) held group placed
    (ordered_placed bindings group joined) (heldNamed.trans named.symm)
  exact restricting

theorem kept_offers (survived : survives engine database bindings plan player = true) (group : Group)
    (joined : group ∈ bindings.ordered) (restricting : group.restricting = true) :
    group.offered engine (planTables engine database plan) player ≠ [] := by
  have kept := List.all_eq_true.mp (Bool.and_eq_true_iff.mp survived).1 group joined
  rw [Group.keeps, restricting, Bool.true_and] at kept
  intro none
  rw [none] at kept
  exact absurd kept (by simp)

variable (whole : Unsplit defaults state bindings plan)

include whole

theorem fact_kept (group : Group) (joined : group ∈ bindings.ordered) (relation : Relation)
    (source : group.source = .fact relation)
    (offers : group.offered engine (planTables engine database plan) player ≠ []) :
    relation.rowsOf engine database group.params (player Catalog.playerKey) ≠ [] ∧
      havingPasses engine database group relation (player Catalog.playerKey) = true := by
  rw [fact_offered engine database player defaults state bindings plan whole group joined relation
    source] at offers
  split at offers
  · rename_i both
    obtain ⟨some, passes⟩ := Bool.and_eq_true_iff.mp both
    exact ⟨by simpa using some, passes⟩
  · exact absurd rfl offers

theorem survivor_decided (survived : survives engine database bindings plan player = true) :
    Decided engine database bindings player := by
  intro group joined relation source some
  by_cases free : group.having = []
  · rw [havingPasses, free]
    rfl
  · obtain ⟨condition, listed⟩ := List.exists_mem_of_ne_nil _ free
    obtain ⟨bound, member, target, relation', id, aggregate, reads, early, named, _⟩ :=
      table_lasting bindings _ (lasting_having bindings) group (ordered_placed bindings group joined)
        condition listed
    obtain ⟨clause, asked⟩ := clause_of_filter defaults state bindings plan whole bound member
    have restricting := clause_restricts defaults state bindings clause bound asked target
      (by rw [reads]; rfl) (early_strict bound early).2 group joined named
    have offers := kept_offers engine database player bindings plan survived group
      joined restricting
    exact (fact_kept engine database player defaults state bindings plan whole group joined relation
      source offers).2

theorem admitted_decided (admitted : state.admits engine database defaults player = true) :
    Decided engine database bindings player := by
  intro group joined relation source some
  refine List.all_eq_true.mpr fun condition listed => ?_
  obtain ⟨bound, member, target, relation', id, aggregate, reads, early, named, rfl⟩ :=
    table_lasting bindings _ (lasting_having bindings) group (ordered_placed bindings group joined)
      condition listed
  obtain ⟨clause, asked⟩ := clause_of_filter defaults state bindings plan whole bound member
  have same := (served_ordered defaults state bindings whole.uses whole.apart _ target
    (bindings.filter_uses bound member) (by rw [reads]; rfl) group
    (ordered_placed bindings group joined) named).2
  have sources := (fact_value_for engine database player defaults clause.spec bound.filter.request target
    relation' id aggregate (reads ▸ asked.finds) group same).1
  rw [source] at sources
  obtain rfl : relation = relation' := by injection sources
  rw [early_condition_holds engine database player defaults state bindings plan whole clause bound asked
    target relation id aggregate reads group same early some]
  exact List.all_eq_true.mp admitted clause asked.listed

theorem survivor_admitted (survived : survives engine database bindings plan player = true) :
    state.admits engine database defaults player = true := by
  have decided := survivor_decided engine database player defaults state bindings plan whole survived
  refine List.all_eq_true.mpr fun clause listed => ?_
  obtain ⟨bound, asked⟩ := filter_of_clause defaults state bindings plan whole clause listed
  show clauseHolds engine database player defaults clause = true
  cases early : bound.isEarly with
  | false =>
      rw [← late_condition_holds engine database player defaults state bindings plan whole clause bound
        asked decided early]
      refine List.all_eq_true.mp (Bool.and_eq_true_iff.mp survived).2 _ ?_
      rw [whole.compiled.filters]
      exact List.mem_filterMap.mpr ⟨bound, asked.member, by simp [BoundFilter.condition?, early]⟩
  | true =>
      have fact : ∃ target relation id aggregate, bound.binding = .fact target relation id aggregate := by
        unfold BoundFilter.isEarly at early
        split at early
        · exact ⟨_, _, _, _, ‹_›⟩
        · simp at early
      obtain ⟨target, relation, id, aggregate, reads⟩ := fact
      have use := bindings.filter_uses bound asked.member
      obtain ⟨group, placed, named, condition⟩ :=
        early_filter_kept bindings bound asked.member target relation id aggregate reads early
      obtain ⟨joined, same⟩ := served_ordered defaults state bindings whole.uses whole.apart _ target use
        (by rw [reads]; rfl) group placed named
      have restricting := clause_restricts defaults state bindings clause bound asked target
        (by rw [reads]; rfl) (early_strict bound early).2 group joined named
      have source := (fact_value_for engine database player defaults clause.spec bound.filter.request
        target relation id aggregate (reads ▸ asked.finds) group same).1
      obtain ⟨some, passes⟩ := fact_kept engine database player defaults state bindings plan whole group
        joined relation source (kept_offers engine database player bindings plan survived group
          joined restricting)
      rw [← early_condition_holds engine database player defaults state bindings plan whole clause bound
        asked target relation id aggregate reads group same early some]
      exact List.all_eq_true.mp passes _ condition

theorem admitted_survives (admitted : state.admits engine database defaults player = true) :
    survives engine database bindings plan player = true := by
  have decided := admitted_decided engine database player defaults state bindings plan whole admitted
  refine Bool.and_eq_true_iff.mpr ⟨List.all_eq_true.mpr fun group joined => ?_,
    List.all_eq_true.mpr fun condition listed => ?_⟩
  · cases restricting : group.restricting with
    | false => rw [Group.keeps, restricting]; rfl
    | true =>
        have placed := ordered_placed bindings group joined
        obtain ⟨bound, member, target, reads, restricts, named⟩ :=
          table_lasting bindings _ (lasting_restricting bindings) group placed restricting
        obtain ⟨clause, asked⟩ := clause_of_filter defaults state bindings plan whole bound member
        have same := (served_ordered defaults state bindings whole.uses whole.apart _ target
          (bindings.filter_uses bound member) reads group placed named).2
        have holds := List.all_eq_true.mp admitted clause asked.listed
        have given := truth_given engine _ clause.operator clause.operand
          (whole.shaped clause asked.listed) (by simpa using holds)
          (by simpa [BoundFilter.restricts, asked.operator] using restricts)
        rw [Group.keeps, restricting, Bool.true_and, Bool.not_eq_true', List.isEmpty_eq_false_iff]
        intro none
        exact given (value_without_row engine database player defaults state bindings plan whole clause
          bound asked decided target reads group joined named same none)
  · rw [whole.compiled.filters] at listed
    obtain ⟨bound, member, made⟩ := List.mem_filterMap.mp listed
    obtain ⟨clause, asked⟩ := clause_of_filter defaults state bindings plan whole bound member
    cases early : bound.isEarly with
    | true => simp [BoundFilter.condition?, early] at made
    | false =>
        have same : filterCondition (bound.binding.value bindings.table bound.filter.request.rate)
            bound.filter.operator bound.filter.operand = condition := by
          simpa [BoundFilter.condition?, early] using made
        rw [← same, late_condition_holds engine database player defaults state bindings plan whole clause
          bound asked decided early]
        exact List.all_eq_true.mp admitted clause asked.listed

theorem survives_eq : survives engine database bindings plan player =
    state.admits engine database defaults player :=
  Bool.eq_iff_iff.mpr
    ⟨survivor_admitted engine database player defaults state bindings plan whole,
      admitted_survives engine database player defaults state bindings plan whole⟩

end

end StatTable.Plan
