import Mathlib.Data.List.Dedup
import Mathlib.Data.List.Perm.Lattice
import StatTable.Proofs.Groups.Filters
import StatTable.Proofs.Groups.KeyText
import StatTable.Proofs.Joins.Served
import StatTable.Proofs.Joins.Staged
import StatTable.Proofs.Scoping.WellScoped

set_option autoImplicit false

namespace StatTable

instance : DecidableEq Params := fun a b =>
  decidable_of_iff (a.toList = b.toList) ⟨Params.to_list_injective a b, congrArg _⟩

instance : DecidableEq GroupKey := fun a b =>
  decidable_of_iff (a.kind = b.kind ∧ a.relation = b.relation ∧ a.params = b.params ∧
    a.anchor = b.anchor) (by
      cases a
      cases b
      rw [GroupKey.mk.injEq])

namespace Plan

theorem aliases_apart_of_dedup (keys : List GroupKey)
    (distinct : (keys.dedup.map (·.aliasName)).Nodup) : AliasesApart keys :=
  fun one oneMember other otherMember =>
    aliases_apart_of_nodup keys.dedup distinct one (List.mem_dedup.mpr oneMember) other
      (List.mem_dedup.mpr otherMember)

-- What a use reads, whatever it is called in the statement: a relation that is aggregated or read as
-- it is, perhaps for one market type, and the parameters that are resolved for it.
structure Need where
  source : Source
  params : Params

instance : DecidableEq Need := fun a b =>
  decidable_of_iff (a.source = b.source ∧ a.params = b.params) (by
    cases a
    cases b
    rw [Need.mk.injEq])

namespace Need

def target (need : Need) : Target := ⟨need.source, need.params, []⟩

def aliasName (need : Need) : String := need.target.aliasName

def ratioAlias (need : Need) (rate : Rate) : String := (need.target.denominator rate).aliasName

end Need

def Target.need (target : Target) : Need := ⟨target.source, target.params⟩

theorem need_alias (target : Target) : target.need.aliasName = target.aliasName :=
  congrArg GroupKey.aliasName (show target.need.target.key = target.key from rfl)

theorem need_ratio_alias (target : Target) (rate : Rate) :
    target.need.ratioAlias rate = (target.denominator rate).aliasName :=
  congrArg GroupKey.aliasName
    (show (target.need.target.denominator rate).key = (target.denominator rate).key from rfl)

def needOf? (defaults : Defaults) (splits : List Split) (spec : ColumnSpec) : Option Need := do
  let column ← Catalog.lookup spec.id
  let source ← column.kind.source?
  let relation ← source.relation?
  let params ← (resolve relation (commonSplits splits relation) defaults
    (spec.params.erase .rateType)).toOption
  return ⟨source, params⟩

def comparedLate (clause : FilterClause) : Bool :=
  (rateOf clause.params).isSome || clause.operator.matchesMissing

end Plan

namespace TableState

open Plan

variable (defaults : Defaults) (state : TableState)

def needFor? (spec : ColumnSpec) : Option Need :=
  needOf? defaults (canonicalSplits state.splits) spec

def needAt? (place : Nat) : Option Need := state.requested[place]?.bind (state.needFor? defaults)

def needs : List Need := state.requested.filterMap (state.needFor? defaults)

def ratios : List (Need × Rate) := state.requested.filterMap fun spec =>
  (state.needFor? defaults spec).bind fun need => (rateOf spec.params).map fun rate => (need, rate)

def readIds (need : Need) : List String :=
  (state.shown.filter fun spec => state.needFor? defaults spec = some need).map (·.id) ++
    (state.filters.filter fun clause => comparedLate clause &&
      state.needFor? defaults ⟨clause.id, clause.params⟩ = some need).map (·.id)

end TableState

namespace Plan

def boundJoin? (bindings : Bindings) (plan : QueryPlan) (place : Nat) : Option Nat :=
  bindings.uses[place]?.bind fun use => use.binding.target?.bind fun target =>
    plan.joins.findIdx? (·.aliasName == target.aliasName)

structure SharesJoins (defaults : Defaults) (state : TableState) (bindings : Bindings)
    (plan : QueryPlan) : Prop where
  attributes : ∀ spec ∈ state.requested, state.needFor? defaults spec = none ↔
    ∃ column source, Catalog.lookup spec.id = some column ∧ column.kind = .player source
  bound : ∀ place need, state.needAt? defaults place = some need →
    ∃ count planned, boundJoin? bindings plan place = some count ∧
      plan.joins[count]? = some planned ∧ planned.kind = need.source.kind
  shared : ∀ place other one two, state.needAt? defaults place = some one →
    state.needAt? defaults other = some two →
      (boundJoin? bindings plan place = boundJoin? bindings plan other ↔ one = two)
  distinct : (plan.joins.map (·.aliasName)).Nodup
  joins : (plan.joins.map fun planned => (planned.kind, planned.aliasName)).Perm
    ((state.needs defaults).dedup.map (fun need => (need.source.kind, need.aliasName)) ++
      (state.ratios defaults).dedup.map fun ratio => ("rate", ratio.1.ratioAlias ratio.2))
  count : plan.joins.length = (state.needs defaults).dedup.length +
    (state.ratios defaults).dedup.length
  stages : plan.stages.map (·.name) = (plan.joins.filter fun planned =>
    planned.kind == "fact" || planned.kind == "rate").map (·.aliasName)
  computed : ∀ stage ∈ plan.stages, ∀ need ∈ state.needs defaults, need.source.kind = "fact" →
    stage.name = need.aliasName → (stage.aggregates.map (·.aliasName)).Perm
      ((state.readIds defaults need).dedup.map some)

theorem rated_fact : ∀ column ∈ Catalog.columns, column.rates = [] ∨
    ∃ relation aggregate, column.kind = .fact relation aggregate := by
  have listed : ∀ column ∈ Catalog.columns, (column.rates.isEmpty || column.kind.name == "fact") = true := by
    decide +kernel
  intro column member
  cases Bool.or_eq_true_iff.mp (listed column member) with
  | inl none => exact .inl (List.isEmpty_iff.mp none)
  | inr named =>
      cases kind : column.kind with
      | fact relation aggregate => exact .inr ⟨relation, aggregate, rfl⟩
      | player source => simp [kind, ColumnKind.name] at named
      | materialized relation own => simp [kind, ColumnKind.name] at named
      | market relation marketType own => simp [kind, ColumnKind.name] at named

theorem finds_need (defaults : Defaults) (splits : List Split) (spec : ColumnSpec)
    (request : Request) (binding : Binding) (finds : Finds defaults splits spec request binding) :
    needOf? defaults splits spec = binding.target?.map Target.need := by
  have column := finds.asks.column
  have others := finds.asks.others
  rw [needOf?, column, ← others]
  cases finds.binds with
  | player source kind =>
      rw [Option.bind_eq_bind, Option.bind_some, kind]
      rfl
  | direct relation marketType own params kind resolved single =>
      have source : request.column.kind.source? = some (.direct relation marketType) := by
        revert kind
        cases request.column.kind with
        | player source => intro kind; cases kind
        | fact relation' aggregate => intro kind; cases kind
        | materialized relation' column' => intro kind; cases kind; rfl
        | market relation' marketType' column' => intro kind; cases kind; rfl
      simp only [Option.bind_eq_bind, Option.bind_some, source, Source.relation?, resolved,
        Except.toOption]
      rfl
  | fact relation aggregate params kind resolved =>
      simp only [Option.bind_eq_bind, Option.bind_some, kind, ColumnKind.source?, Source.relation?,
        resolved, Except.toOption]
      rfl

theorem target_none_iff (defaults : Defaults) (splits : List Split) (request : Request)
    (binding : Binding) (binds : Binds defaults splits request binding) :
    binding.target? = none ↔ ∃ source, request.column.kind = .player source := by
  cases binds with
  | player source kind => exact ⟨fun _ => ⟨source, kind⟩, fun _ => rfl⟩
  | direct _ _ _ _ kind _ _ =>
      refine ⟨nofun, fun ⟨source, own⟩ => ?_⟩
      rw [own] at kind
      cases kind
  | fact _ _ _ kind _ =>
      refine ⟨nofun, fun ⟨source, own⟩ => ?_⟩
      rw [own] at kind
      cases kind

theorem late_iff (clause : FilterClause) (bound : BoundFilter) (target : Target)
    (relation : Relation) (id : String) (aggregate : Aggregate)
    (asks : FilterAsks clause bound.filter)
    (reads : bound.binding = .fact target relation id aggregate) :
    bound.isEarly = false ↔ comparedLate clause = true := by
  rw [BoundFilter.isEarly, reads, comparedLate, ← asks.asks.rate, ← asks.operator]
  dsimp only
  cases bound.filter.request.rate with
  | none => cases bound.filter.operator.matchesMissing <;> decide
  | some rate => cases bound.filter.operator.matchesMissing <;> simp

section

variable (defaults : Defaults) (state : TableState) (bindings : Bindings)
variable (uses : Uses defaults state bindings)

include uses

theorem uses_found : List.Forall₂ (fun spec (use : Use) =>
    Finds defaults (canonicalSplits state.splits) spec use.request use.binding) state.requested
    bindings.uses := by
  refine List.rel_append ?_ ?_
  · exact List.forall₂_map_right_iff.mpr uses.selects
  · refine List.forall₂_map_left_iff.mpr (List.forall₂_map_right_iff.mpr ?_)
    exact uses.filters.imp fun _ _ both => both.2

theorem use_at (place : Nat) (spec : ColumnSpec) (held : state.requested[place]? = some spec) :
    ∃ use : Use, bindings.uses[place]? = some use ∧
      Finds defaults (canonicalSplits state.splits) spec use.request use.binding :=
  forall_get _ _ _ (uses_found defaults state bindings uses) place spec held

theorem needed_use (place : Nat) (need : Need) (needed : state.needAt? defaults place = some need) :
    ∃ use target, bindings.uses[place]? = some use ∧ use ∈ bindings.uses ∧
      use.binding.target? = some target ∧ target.need = need := by
  obtain ⟨spec, held, needs⟩ := Option.bind_eq_some_iff.mp needed
  obtain ⟨use, useHeld, finds⟩ := use_at defaults state bindings uses place spec held
  rw [TableState.needFor?, finds_need _ _ _ _ _ finds] at needs
  obtain ⟨target, reads, same⟩ := Option.map_eq_some_iff.mp needs
  exact ⟨use, target, useHeld, List.mem_of_getElem? useHeld, reads, same⟩

theorem need_found (need : Need) : need ∈ state.needs defaults ↔
    ∃ use ∈ bindings.uses, ∃ target, use.binding.target? = some target ∧ target.need = need := by
  constructor
  · intro member
    obtain ⟨spec, requested, needs⟩ := List.mem_filterMap.mp member
    obtain ⟨place, held⟩ := List.mem_iff_getElem?.mp requested
    obtain ⟨use, target, _, used, reads, same⟩ := needed_use defaults state bindings uses place need
      (Option.bind_eq_some_iff.mpr ⟨spec, held, needs⟩)
    exact ⟨use, used, target, reads, same⟩
  · rintro ⟨use, used, target, reads, rfl⟩
    obtain ⟨spec, requested, finds⟩ := use_finds defaults state bindings uses use used
    refine List.mem_filterMap.mpr ⟨spec, requested, ?_⟩
    rw [TableState.needFor?, finds_need _ _ _ _ _ finds, reads]
    rfl

theorem rated_target (use : Use) (rate : Rate) (used : use ∈ bindings.uses)
    (rated : use.request.rate = some rate) :
    ∃ target relation id aggregate, use.binding = .fact target relation id aggregate := by
  obtain ⟨spec, _, finds⟩ := use_finds defaults state bindings uses use used
  have supported := finds.asks.supported rate rated
  obtain ⟨relation, aggregate, kind⟩ : ∃ relation aggregate,
      use.request.column.kind = .fact relation aggregate := by
    cases rated_fact _ (lookup_mem _ _ finds.asks.column) with
    | inl none =>
        rw [Column.supportsRate, none] at supported
        cases supported
    | inr fact => exact fact
  have binds := finds.binds
  generalize use.binding = binding at binds ⊢
  cases binds with
  | player _ other =>
      rw [kind] at other
      cases other
  | direct _ _ _ _ other =>
      rw [kind] at other
      cases other
  | fact _ _ _ _ _ => exact ⟨_, _, _, _, rfl⟩

theorem ratio_found (need : Need) (rate : Rate) : (need, rate) ∈ state.ratios defaults ↔
    ∃ use ∈ bindings.uses, ∃ target relation id aggregate,
      use.binding = .fact target relation id aggregate ∧ use.request.rate = some rate ∧
        target.need = need := by
  constructor
  · intro member
    obtain ⟨spec, requested, made⟩ := List.mem_filterMap.mp member
    obtain ⟨place, held⟩ := List.mem_iff_getElem?.mp requested
    obtain ⟨other, needs, rates⟩ := Option.bind_eq_some_iff.mp made
    obtain ⟨other', rated, same⟩ := Option.map_eq_some_iff.mp rates
    obtain ⟨rfl, rfl⟩ := Prod.mk.inj same
    obtain ⟨use, useHeld, finds⟩ := use_at defaults state bindings uses place spec held
    have used := List.mem_of_getElem? useHeld
    have asked := finds.asks.rate.trans rated
    obtain ⟨target, relation, id, aggregate, reads⟩ :=
      rated_target defaults state bindings uses use _ used asked
    rw [TableState.needFor?, finds_need _ _ _ _ _ finds, reads] at needs
    exact ⟨use, used, target, relation, id, aggregate, reads, asked, Option.some.inj needs⟩
  · rintro ⟨use, used, target, relation, id, aggregate, reads, rated, rfl⟩
    obtain ⟨spec, requested, finds⟩ := use_finds defaults state bindings uses use used
    refine List.mem_filterMap.mpr ⟨spec, requested, ?_⟩
    rw [TableState.needFor?, finds_need _ _ _ _ _ finds, reads, ← finds.asks.rate, rated]
    rfl

theorem attributes_need (spec : ColumnSpec) (requested : spec ∈ state.requested) :
    state.needFor? defaults spec = none ↔
      ∃ column source, Catalog.lookup spec.id = some column ∧ column.kind = .player source := by
  obtain ⟨place, held⟩ := List.mem_iff_getElem?.mp requested
  obtain ⟨use, _, finds⟩ := use_at defaults state bindings uses place spec held
  rw [TableState.needFor?, finds_need _ _ _ _ _ finds, Option.map_eq_none_iff,
    target_none_iff _ _ _ _ finds.binds]
  simp [finds.asks.column]

omit uses in
theorem fact_need (spec : ColumnSpec) (use : Use) (need : Need)
    (finds : Finds defaults (canonicalSplits state.splits) spec use.request use.binding)
    (needed : state.needFor? defaults spec = some need) (kind : need.source.kind = "fact") :
    ∃ target relation aggregate, use.binding = .fact target relation spec.id aggregate ∧
      target.need = need := by
  rw [TableState.needFor?, finds_need _ _ _ _ _ finds] at needed
  obtain ⟨target, reads, rfl⟩ := Option.map_eq_some_iff.mp needed
  have binds := finds.binds
  cases bound : use.binding with
  | player source =>
      rw [bound] at reads
      cases reads
  | direct own column =>
      rw [bound] at reads binds
      cases binds with
      | direct relation marketType _ params =>
          obtain rfl := Option.some.inj reads
          have kinds : "direct" = "fact" := kind
          exact absurd kinds (by decide)
  | fact own relation id aggregate =>
      rw [bound] at reads binds
      obtain rfl := Option.some.inj reads
      have named := (binds_fact _ _ _ _ own relation id aggregate binds rfl).2.1
      rw [lookup_id _ _ finds.asks.column] at named
      exact ⟨own, relation, aggregate, by rw [named], rfl⟩

theorem need_kind (need : Need) (needed : need ∈ state.needs defaults) : need.source.kind ≠ "rate" := by
  obtain ⟨use, used, target, reads, rfl⟩ := (need_found defaults state bindings uses need).mp needed
  exact use_target_kind defaults state bindings uses use target used reads

variable (apart : AliasesApart bindings.keys)

include apart

theorem need_alias_injective (one two : Need) (oneNeeded : one ∈ state.needs defaults)
    (twoNeeded : two ∈ state.needs defaults) (same : one.aliasName = two.aliasName) : one = two := by
  obtain ⟨use, used, target, reads, rfl⟩ := (need_found defaults state bindings uses one).mp oneNeeded
  obtain ⟨other, otherUsed, target', reads', rfl⟩ :=
    (need_found defaults state bindings uses two).mp twoNeeded
  have keys : target.key = target'.key := by
    by_contra differ
    exact apart _ (use_key bindings use target used reads) _
      (use_key bindings other target' otherUsed reads') differ same
  rw [use_target_eq defaults state bindings uses use other target target' used otherUsed reads reads'
    keys]

theorem ratio_alias_injective (one two : Need × Rate) (oneNeeded : one ∈ state.ratios defaults)
    (twoNeeded : two ∈ state.ratios defaults)
    (same : one.1.ratioAlias one.2 = two.1.ratioAlias two.2) : one = two := by
  obtain ⟨need, rate⟩ := one
  obtain ⟨need', rate'⟩ := two
  obtain ⟨use, used, target, relation, id, aggregate, reads, rated, rfl⟩ :=
    (ratio_found defaults state bindings uses need rate).mp oneNeeded
  obtain ⟨other, otherUsed, target', relation', id', aggregate', reads', rated', rfl⟩ :=
    (ratio_found defaults state bindings uses need' rate').mp twoNeeded
  have keys : (target.denominator rate).key = (target'.denominator rate').key := by
    by_contra differ
    exact apart _ (denominator_key bindings use target relation id aggregate rate used reads rated) _
      (denominator_key bindings other target' relation' id' aggregate' rate' otherUsed reads' rated')
      differ same
  have rates : rate = rate' := by
    have names : rate.name = rate'.name := congrArg GroupKey.relation keys
    revert names
    cases rate <;> cases rate' <;> decide
  have anchors : some target.aliasName = some target'.aliasName := congrArg GroupKey.anchor keys
  have needs := need_alias_injective defaults state bindings uses apart target.need target'.need
    ((need_found defaults state bindings uses _).mpr ⟨use, used, target, by rw [reads]; rfl, rfl⟩)
    ((need_found defaults state bindings uses _).mpr
      ⟨other, otherUsed, target', by rw [reads']; rfl, rfl⟩) (Option.some.inj anchors)
  rw [rates, needs]

theorem need_joined (need : Need) (needed : need ∈ state.needs defaults) :
    ∃ group ∈ bindings.ordered, group.aliasName = need.aliasName ∧ group.target.need = need := by
  obtain ⟨use, used, target, reads, rfl⟩ := (need_found defaults state bindings uses need).mp needed
  obtain ⟨group, placed, named, _⟩ := use_served bindings use used target reads
  obtain ⟨joined, same⟩ := served_ordered defaults state bindings uses apart use target used reads
    group placed named
  exact ⟨group, joined, named, congrArg Target.need same⟩

theorem ratio_joined (need : Need) (rate : Rate) (needed : (need, rate) ∈ state.ratios defaults) :
    ∃ group ∈ bindings.ordered, group.aliasName = need.ratioAlias rate ∧
      group.source.kind = "rate" := by
  obtain ⟨use, used, target, relation, id, aggregate, reads, rated, rfl⟩ :=
    (ratio_found defaults state bindings uses need rate).mp needed
  obtain ⟨_, _, _, _, holder, joined, named, same⟩ := rated_ordered defaults state bindings uses apart
    use target relation id aggregate rate used reads rated
  refine ⟨holder, joined, named.trans (need_ratio_alias target rate).symm, ?_⟩
  rw [show holder.source = (target.denominator rate).source from congrArg Target.source same]
  rfl

theorem joined_needed (group : Group) (joined : group ∈ bindings.ordered) :
    (∃ need ∈ state.needs defaults, need.source.kind = group.source.kind ∧
      need.aliasName = group.aliasName) ∨
    ∃ ratio ∈ state.ratios defaults, group.source.kind = "rate" ∧
      ratio.1.ratioAlias ratio.2 = group.aliasName := by
  have genuine := table_genuine defaults state bindings uses apart group
    (ordered_placed bindings group joined)
  rcases genuine with ⟨use, used, ⟨target, reads, named, same⟩ |
    ⟨target, relation, id, aggregate, rate, reads, rated, named, same⟩⟩
  · refine .inl ⟨target.need, ?_, ?_, named.symm⟩
    · exact (need_found defaults state bindings uses _).mpr ⟨use, used, target, reads, rfl⟩
    · exact congrArg (fun target : Target => target.source.kind) same.symm
  · refine .inr ⟨(target.need, rate), ?_, ?_, named.symm⟩
    · exact (ratio_found defaults state bindings uses _ rate).mpr
        ⟨use, used, target, relation, id, aggregate, reads, rated, rfl⟩
    · exact congrArg (fun target : Target => target.source.kind) same

theorem required_iff (group : Group) (need : Need)
    (needed : need ∈ state.needs defaults) (kind : need.source.kind = "fact")
    (named : group.aliasName = need.aliasName) (id : String) :
    Required bindings group.aliasName id ↔ id ∈ state.readIds defaults need := by
  have same (use : Use) (used : use ∈ bindings.uses) (target : Target)
      (reads : use.binding.target? = some target) (under : group.aliasName = target.aliasName) :
      target.need = need := by
    refine need_alias_injective defaults state bindings uses apart _ _
      ((need_found defaults state bindings uses _).mpr ⟨use, used, target, reads, rfl⟩) needed ?_
    rw [need_alias, ← under, named]
  constructor
  · rintro (⟨bound, member, target, relation, aggregate, reads, under⟩ |
      ⟨bound, member, late, target, relation, aggregate, reads, under⟩)
    · obtain ⟨spec, shown, finds⟩ := forall_right _ _ _ uses.selects bound member
      have own := same _ (bindings.select_uses bound member) target (by rw [reads]; rfl) under
      have ids := (binds_fact _ _ _ _ target relation id aggregate finds.binds reads).2.1
      rw [lookup_id _ _ finds.asks.column] at ids
      refine List.mem_append_left _ (List.mem_map.mpr ⟨spec, List.mem_filter.mpr ⟨shown, ?_⟩,
        ids.symm⟩)
      rw [TableState.needFor?, finds_need _ _ _ _ _ finds, reads, decide_eq_true_iff]
      exact congrArg some own
    · obtain ⟨clause, listed, asks, finds⟩ := forall_right _ _ _ uses.filters bound member
      have own := same _ (bindings.filter_uses bound member) target (by rw [reads]; rfl) under
      have ids := (binds_fact _ _ _ _ target relation id aggregate finds.binds reads).2.1
      rw [lookup_id _ _ finds.asks.column] at ids
      refine List.mem_append_right _ (List.mem_map.mpr ⟨clause, List.mem_filter.mpr ⟨listed, ?_⟩,
        ids.symm⟩)
      rw [TableState.needFor?, finds_need _ _ _ _ _ finds, reads, Bool.and_eq_true,
        decide_eq_true_iff]
      exact ⟨(late_iff clause bound target relation id aggregate asks
        reads).mp late, congrArg some own⟩
  · intro read
    cases List.mem_append.mp read with
    | inl shown =>
        obtain ⟨spec, kept, rfl⟩ := List.mem_map.mp shown
        obtain ⟨listed, needs⟩ := List.mem_filter.mp kept
        rw [decide_eq_true_iff] at needs
        obtain ⟨bound, member, finds⟩ := forall_left _ _ _ uses.selects spec listed
        obtain ⟨target, relation, aggregate, reads, rfl⟩ := fact_need defaults state spec
          ⟨bound.select.request, bound.binding⟩ need finds needs kind
        exact .inl ⟨bound, member, target, relation, aggregate, reads,
          named.trans (need_alias target)⟩
    | inr compared =>
        obtain ⟨clause, kept, rfl⟩ := List.mem_map.mp compared
        obtain ⟨listed, both⟩ := List.mem_filter.mp kept
        rw [Bool.and_eq_true, decide_eq_true_iff] at both
        obtain ⟨bound, member, asks, finds⟩ := forall_left _ _ _ uses.filters clause listed
        obtain ⟨target, relation, aggregate, reads, rfl⟩ := fact_need defaults state _
          ⟨bound.filter.request, bound.binding⟩ need finds both.2 kind
        have late := (late_iff clause bound target relation clause.id
          aggregate asks reads).mpr both.1
        exact .inr ⟨bound, member, late, target, relation, aggregate, reads,
          named.trans (need_alias target)⟩

theorem groups_perm :
    (bindings.ordered.map fun group => (group.source.kind, group.aliasName)).Perm
      ((state.needs defaults).dedup.map (fun need => (need.source.kind, need.aliasName)) ++
        (state.ratios defaults).dedup.map fun ratio => ("rate", ratio.1.ratioAlias ratio.2)) := by
  apply (List.perm_ext_iff_of_nodup ?_ ?_).mpr
  · rintro ⟨kind, aliasName⟩
    constructor
    · intro member
      obtain ⟨group, joined, same⟩ := List.mem_map.mp member
      obtain ⟨rfl, rfl⟩ := Prod.mk.inj same
      rcases joined_needed defaults state bindings uses apart group joined with
        ⟨need, needed, kinds, named⟩ | ⟨ratio, needed, kinds, named⟩
      · exact List.mem_append_left _
          (List.mem_map.mpr ⟨need, List.mem_dedup.mpr needed, by rw [kinds, named]⟩)
      · exact List.mem_append_right _
          (List.mem_map.mpr ⟨ratio, List.mem_dedup.mpr needed, by rw [kinds, named]⟩)
    · intro member
      cases List.mem_append.mp member with
      | inl first =>
          obtain ⟨need, needed, same⟩ := List.mem_map.mp first
          obtain ⟨group, joined, named, own⟩ := need_joined defaults state bindings uses apart need
            (List.mem_dedup.mp needed)
          refine List.mem_map.mpr ⟨group, joined, ?_⟩
          rw [← same, named, ← own]
          rfl
      | inr second =>
          obtain ⟨⟨need, rate⟩, needed, same⟩ := List.mem_map.mp second
          obtain ⟨group, joined, named, kinds⟩ := ratio_joined defaults state bindings uses apart need
            rate (List.mem_dedup.mp needed)
          exact List.mem_map.mpr ⟨group, joined, by rw [← same, named, kinds]⟩
  · have names : ((bindings.ordered.map fun group =>
        (group.source.kind, group.aliasName)).map Prod.snd).Nodup := by
      rw [List.map_map]
      exact ordered_distinct bindings
    exact List.Nodup.of_map _ names
  · refine List.nodup_append.mpr ⟨?_, ?_, ?_⟩
    · refine (List.nodup_dedup _).map_on fun one oneMember two twoMember same => ?_
      exact need_alias_injective defaults state bindings uses apart one two
        (List.mem_dedup.mp oneMember) (List.mem_dedup.mp twoMember) (Prod.mk.inj same).2
    · refine (List.nodup_dedup _).map_on fun one oneMember two twoMember same => ?_
      exact ratio_alias_injective defaults state bindings uses apart one two
        (List.mem_dedup.mp oneMember) (List.mem_dedup.mp twoMember) (Prod.mk.inj same).2
    · intro one oneMember other otherMember same
      obtain ⟨need, needed, rfl⟩ := List.mem_map.mp oneMember
      obtain ⟨ratio, _, rfl⟩ := List.mem_map.mp otherMember
      exact need_kind defaults state bindings uses need (List.mem_dedup.mp needed)
        (Prod.mk.inj same).1

end

theorem joins_pairs (state : TableState) (bindings : Bindings) (plan : QueryPlan)
    (compiled : Compiled state bindings plan) :
    plan.joins.map (fun planned => (planned.kind, planned.aliasName)) =
      bindings.ordered.map fun group => (group.source.kind, group.aliasName) := by
  rw [compiled.joins]
  exact plan_joins_map bindings.ordered _ _ (fun _ _ => rfl) _ _

theorem stages_joined (state : TableState) (bindings : Bindings) (plan : QueryPlan)
    (compiled : Compiled state bindings plan) :
    plan.stages.map (·.name) = (plan.joins.filter fun planned =>
      planned.kind == "fact" || planned.kind == "rate").map (·.aliasName) := by
  have staged (group : Group) : (Stage.of? group).isSome =
      (group.source.kind == "fact" || group.source.kind == "rate") := by
    rw [Stage.of?]
    cases group.source with
    | fact relation => rfl
    | direct relation marketType => rfl
    | denominator rate numerator => rfl
  have pairs (planned : List PlannedJoin) : (planned.filter fun planned =>
      planned.kind == "fact" || planned.kind == "rate").map (·.aliasName) =
        ((planned.map fun planned => (planned.kind, planned.aliasName)).filter fun pair =>
          pair.1 == "fact" || pair.1 == "rate").map (·.2) := by
    rw [List.filter_map, List.map_map]
    rfl
  rw [compiled.stages, stage_names, pairs, joins_pairs state bindings plan compiled, List.filter_map,
    List.map_map]
  exact congrArg (List.map _) (List.filter_congr fun group _ => staged group)

section

variable (defaults : Defaults) (state : TableState) (bindings : Bindings) (plan : QueryPlan)
variable (compiled : Compiled state bindings plan) (uses : Uses defaults state bindings)

include compiled

theorem joins_alias_nodup : (plan.joins.map (·.aliasName)).Nodup := by
  rw [joins_names state bindings plan compiled]
  exact ordered_distinct bindings

theorem group_staged (group : Group) (joined : group ∈ bindings.ordered) (stage : Stage)
    (made : Stage.of? group = some stage) :
    plan.stages.filter (·.name == group.aliasName) = [stage] := by
  have staged : stage ∈ plan.stages := by
    rw [compiled.stages]
    exact List.mem_filterMap.mpr ⟨group, joined, made⟩
  rw [← stage_name group stage made]
  exact filter_named Stage.name _ stage (stage_names_distinct state bindings plan compiled) staged

theorem group_joined (group : Group) (joined : group ∈ bindings.ordered) :
    ∃ before, plan.joins.filter (·.aliasName == group.aliasName) =
      [planJoin bindings.ordered before group] := by
  obtain ⟨place, held⟩ := List.mem_iff_getElem?.mp joined
  have listed := plan_joins_get bindings.ordered bindings.ordered .empty place
  rw [held, ← compiled.joins] at listed
  exact ⟨_, filter_named PlannedJoin.aliasName _ _
    (joins_alias_nodup state bindings plan compiled) (List.mem_of_getElem? listed)⟩

theorem find_join (group : Group) (joined : group ∈ bindings.ordered) :
    ∃ count planned, plan.joins.findIdx? (·.aliasName == group.aliasName) = some count ∧
      plan.joins[count]? = some planned ∧ planned.aliasName = group.aliasName ∧
        planned.kind = group.source.kind := by
  have listed : (group.source.kind, group.aliasName) ∈
      plan.joins.map fun planned => (planned.kind, planned.aliasName) := by
    rw [joins_pairs state bindings plan compiled]
    exact List.mem_map_of_mem joined
  obtain ⟨planned, member, same⟩ := List.mem_map.mp listed
  obtain ⟨kinds, names⟩ := Prod.mk.inj same
  cases found : plan.joins.findIdx? (·.aliasName == group.aliasName) with
  | none =>
      have absent := List.findIdx?_eq_none_iff.mp found planned member
      rw [names, beq_self_eq_true] at absent
      cases absent
  | some count =>
      obtain ⟨bounded, hit, _⟩ := List.findIdx?_eq_some_iff_getElem.mp found
      have own : plan.joins[count].aliasName = group.aliasName := beq_iff_eq.mp hit
      have only : plan.joins[count] = planned :=
        List.inj_on_of_nodup_map (joins_alias_nodup state bindings plan compiled)
          (List.getElem_mem bounded) member (own.trans names.symm)
      exact ⟨count, planned, rfl, by rw [List.getElem?_eq_getElem bounded, only], names, kinds⟩

include uses

variable (apart : AliasesApart bindings.keys)

include apart

theorem need_bound (place : Nat) (need : Need) (needed : state.needAt? defaults place = some need) :
    ∃ count planned, boundJoin? bindings plan place = some count ∧
      plan.joins[count]? = some planned ∧ planned.aliasName = need.aliasName ∧
        planned.kind = need.source.kind := by
  obtain ⟨use, target, held, used, reads, rfl⟩ :=
    needed_use defaults state bindings uses place need needed
  obtain ⟨group, joined, named, own⟩ := need_joined defaults state bindings uses apart target.need
    ((need_found defaults state bindings uses _).mpr ⟨use, used, target, reads, rfl⟩)
  obtain ⟨count, planned, found, heldJoin, names, kinds⟩ :=
    find_join state bindings plan compiled group joined
  refine ⟨count, planned, ?_, heldJoin, names.trans named, ?_⟩
  · rw [boundJoin?, held, Option.bind_some, reads, Option.bind_some]
    rw [named] at found
    exact found
  · rw [kinds, ← own]
    rfl

theorem need_shared (place other : Nat) (one two : Need)
    (first : state.needAt? defaults place = some one)
    (second : state.needAt? defaults other = some two) :
    boundJoin? bindings plan place = boundJoin? bindings plan other ↔ one = two := by
  obtain ⟨use, target, held, used, reads, rfl⟩ :=
    needed_use defaults state bindings uses place one first
  obtain ⟨use', target', held', used', reads', rfl⟩ :=
    needed_use defaults state bindings uses other two second
  have needed := (need_found defaults state bindings uses _).mpr ⟨use, used, target, reads, rfl⟩
  have needed' := (need_found defaults state bindings uses _).mpr ⟨use', used', target', reads', rfl⟩
  obtain ⟨count, planned, bound, heldJoin, named, _⟩ :=
    need_bound defaults state bindings plan compiled uses apart place _ first
  obtain ⟨count', planned', bound', heldJoin', named', _⟩ :=
    need_bound defaults state bindings plan compiled uses apart other _ second
  constructor
  · intro same
    rw [bound, bound'] at same
    obtain rfl := Option.some.inj same
    rw [heldJoin] at heldJoin'
    obtain rfl := Option.some.inj heldJoin'
    exact need_alias_injective defaults state bindings uses apart _ _ needed needed'
      (named.symm.trans named')
  · intro same
    have names : target.aliasName = target'.aliasName := by
      rw [← need_alias target, same, need_alias target']
    rw [boundJoin?, boundJoin?, held, held', Option.bind_some, Option.bind_some, reads, reads',
      Option.bind_some, Option.bind_some, names]

theorem stage_computes (stage : Stage) (staged : stage ∈ plan.stages) (need : Need)
    (needed : need ∈ state.needs defaults) (kind : need.source.kind = "fact")
    (named : stage.name = need.aliasName) :
    (stage.aggregates.map (·.aliasName)).Perm ((state.readIds defaults need).dedup.map some) := by
  obtain ⟨holder, joined, made⟩ := stage_holder state bindings plan compiled stage staged
  have holderNamed : holder.aliasName = need.aliasName := (stage_name holder stage made).symm.trans named
  have placed := ordered_placed bindings holder joined
  obtain ⟨group, groupJoined, groupNamed, own⟩ :=
    need_joined defaults state bindings uses apart need needed
  obtain rfl := distinct_eq _ (ordered_distinct bindings) group holder groupJoined joined
    (groupNamed.trans holderNamed.symm)
  have source : group.source.kind = "fact" := by
    rw [← own] at kind
    exact kind
  have aggregates : stage.aggregates.map (·.aliasName) =
      (group.aggregates.map (·.1)).map some := by
    rw [Stage.of?] at made
    cases held : group.source with
    | direct relation marketType =>
        rw [held] at made
        cases made
    | denominator rate numerator =>
        rw [held] at source
        exact absurd source (by decide : "rate" ≠ "fact")
    | fact relation =>
        rw [held] at made
        obtain rfl := Option.some.inj made
        rw [Stage.ofFact, List.map_map, List.map_map]
        rfl
  rw [aggregates]
  refine List.Perm.map some ((List.perm_ext_iff_of_nodup ?_ (List.nodup_dedup _)).mpr fun id => ?_)
  · exact table_lasting bindings _ (lasting_ids bindings) group placed
  · rw [List.mem_dedup, ← required_iff defaults state bindings uses apart group need needed kind
      holderNamed id]
    exact computes_iff_required bindings group placed id

end

theorem compiled_shares_joins (defaults : Defaults) (limits : Limits) (state : TableState)
    (bindings : Bindings) (plan : QueryPlan) (ok : compile defaults limits state = .ok plan)
    (bound : boundUses defaults state = .ok bindings) (apart : AliasesApart bindings.keys) :
    SharesJoins defaults state bindings plan := by
  have uses := bound_uses defaults state bindings bound
  have compiled := compiled_of_bound defaults limits state bindings plan bound ok
  have perm : (plan.joins.map fun planned => (planned.kind, planned.aliasName)).Perm
      ((state.needs defaults).dedup.map (fun need => (need.source.kind, need.aliasName)) ++
        (state.ratios defaults).dedup.map fun ratio => ("rate", ratio.1.ratioAlias ratio.2)) := by
    rw [joins_pairs state bindings plan compiled]
    exact groups_perm defaults state bindings uses apart
  refine {
    attributes := attributes_need defaults state bindings uses
    bound := fun place need needed => ?_
    shared := need_shared defaults state bindings plan compiled uses apart
    distinct := joins_alias_nodup state bindings plan compiled
    joins := perm
    count := ?_
    stages := stages_joined state bindings plan compiled
    computed := stage_computes defaults state bindings plan compiled uses apart }
  · obtain ⟨count, planned, held, heldJoin, _, kinds⟩ :=
      need_bound defaults state bindings plan compiled uses apart place need needed
    exact ⟨count, planned, held, heldJoin, kinds⟩
  · have lengths := perm.length_eq
    rw [List.length_map, List.length_append, List.length_map, List.length_map] at lengths
    exact lengths

def yardsThrice : TableState :=
  { TableState.empty with
    columns := [⟨"rush_yards", .empty⟩,
      ⟨"rush_yards", .ofList [(.rateType, .scalar (.text "per_game"))]⟩,
      ⟨"rush_attempts", .ofList [(.year, .scalar (.integer 2023))]⟩]
    filters := [⟨"rush_yards", .gt, some (.scalar (.integer 100)), .empty⟩] }

def yardsThriceUses : Bindings := (boundUses .standard yardsThrice).toOption.getD ⟨[], []⟩

def yardsThricePlan : QueryPlan :=
  (compile .standard .usual yardsThrice).toOption.getD ⟨[], ⟨"", none⟩, [], [], [], [], [], 0, 0⟩

theorem yards_share_a_join :
    compile .standard .usual yardsThrice = .ok yardsThricePlan ∧
    boundUses .standard yardsThrice = .ok yardsThriceUses ∧
    AliasesApart yardsThriceUses.keys ∧
    SharesJoins .standard yardsThrice yardsThriceUses yardsThricePlan ∧
    yardsThricePlan.joins.length = 3 := by
  have ok : compile .standard .usual yardsThrice = .ok yardsThricePlan :=
    ok_of_is_ok _ _ (by decide +kernel)
  have bound : boundUses .standard yardsThrice = .ok yardsThriceUses :=
    ok_of_is_ok _ _ (by decide +kernel)
  have apart : AliasesApart yardsThriceUses.keys := aliases_apart_of_dedup _ (by decide +kernel)
  have shares := compiled_shares_joins .standard .usual yardsThrice yardsThriceUses yardsThricePlan ok
    bound apart
  have count : (yardsThrice.needs .standard).dedup.length +
      (yardsThrice.ratios .standard).dedup.length = 3 := by decide +kernel
  exact ⟨ok, bound, apart, shares, shares.count.trans count⟩

end Plan

end StatTable
