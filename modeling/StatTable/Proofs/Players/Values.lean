import StatTable.Proofs.Joins.Served
import StatTable.Proofs.Players.Rows

set_option autoImplicit false

namespace StatTable.Plan

open Sql

def Decided (engine : Engine) (database : Tables) (bindings : Bindings) (player : Row) : Prop :=
  ∀ group ∈ bindings.ordered, ∀ relation, group.source = .fact relation →
    relation.rowsOf engine database group.params (player Catalog.playerKey) ≠ [] →
      havingPasses engine database group relation (player Catalog.playerKey) = true

theorem resolved_params (defaults : Defaults) (spec : ColumnSpec) (relation : Relation)
    (target : Target) (reads : Reads defaults [] (spec.params.erase .rateType) relation target) :
    spec.resolved defaults relation = target.params := by
  have resolved : resolve relation [] defaults (spec.params.erase .rateType) = .ok target.params :=
    reads.resolved
  rw [ColumnSpec.resolved, resolved]
  rfl

theorem direct_kind_value (engine : Engine) (database : Tables) (rate : Option Rate)
    (params : Relation → Params) (player : Row) (kind : ColumnKind) (relation : Relation)
    (marketType : Option String) (column : String)
    (direct : directSource? kind = some (relation, marketType, column)) :
    kind.relation? = some relation ∧ kind.valueFor engine database rate params player =
      directValue engine database relation marketType column (params relation)
        (player Catalog.playerKey) := by
  cases kind with
  | player => simp [directSource?] at direct
  | fact => simp [directSource?] at direct
  | materialized held name =>
      obtain ⟨rfl, rfl, rfl⟩ : held = relation ∧ none = marketType ∧ name = column := by
        simpa [directSource?] using direct
      exact ⟨rfl, rfl⟩
  | market held type name =>
      obtain ⟨rfl, rfl, rfl⟩ : held = relation ∧ some type = marketType ∧ name = column := by
        simpa [directSource?] using direct
      exact ⟨rfl, rfl⟩

section

variable (engine : Engine) (database : Tables) (player : Row)
variable (defaults : Defaults) (state : TableState) (bindings : Bindings) (plan : QueryPlan)
variable (whole : Unsplit defaults state bindings plan)

include whole

theorem unsplit_finds (use : Use) (member : use ∈ bindings.uses) :
    ∃ spec ∈ state.requested, Finds defaults [] spec use.request use.binding := by
  obtain ⟨spec, requested, finds⟩ := use_finds defaults state bindings whole.uses use member
  exact ⟨spec, requested, whole.dimensions ▸ finds⟩

theorem computed_aggregate (group : Group) (member : group ∈ bindings.ordered) (spec : ColumnSpec)
    (request : Request) (target : Target) (relation : Relation) (id : String) (aggregate : Aggregate)
    (finds : Finds defaults [] spec request (.fact target relation id aggregate))
    (computes : computesId id group) : (id, aggregate) ∈ group.aggregates := by
  obtain ⟨entry, listed, rfl⟩ := List.mem_map.mp computes
  obtain ⟨use, used, target', relation', reads, _⟩ := table_lasting bindings _
    (lasting_computed bindings) group (ordered_placed bindings group member) entry listed
  obtain ⟨spec', _, finds'⟩ := unsplit_finds defaults state bindings plan whole use used
  obtain ⟨_, ids, kind⟩ := binds_fact _ _ _ _ target relation entry.1 aggregate finds.binds rfl
  obtain ⟨_, ids', kind'⟩ := binds_fact _ _ _ _ target' relation' entry.1 entry.2 finds'.binds reads
  have found := finds.asks.column
  have found' := finds'.asks.column
  rw [← lookup_id _ _ found, ← ids] at found
  rw [← lookup_id _ _ found', ← ids', found] at found'
  rw [← Option.some.inj found', kind] at kind'
  injection kind' with _ aggregates
  rwa [aggregates]

theorem fact_row_value (decided : Decided engine database bindings player) (group : Group)
    (member : group ∈ bindings.ordered) (relation : Relation) (source : group.source = .fact relation)
    (id : String) (aggregate : Aggregate) (computed : (id, aggregate) ∈ group.aggregates) :
    group.rowFor engine (planTables engine database plan) player id =
      factValue engine database relation aggregate group.params (player Catalog.playerKey) := by
  have ids := ordered_ids defaults state bindings plan whole group member
  have cell := fact_row_cell engine database group relation (player Catalog.playerKey)
    (ordered_unsplit defaults state bindings plan whole group member) ids.1 ids.2 id aggregate computed
  have passes := decided group member relation source
  rw [Group.rowFor, fact_offered engine database player defaults state bindings plan whole group member
    relation source, factValue]
  rw [overRows] at cell
  cases rows : relation.rowsOf engine database group.params (player Catalog.playerKey) with
  | nil => rfl
  | cons row rest =>
      rw [rows] at passes cell
      rw [passes (by simp)]
      exact cell

theorem denominator_row_value (group holder : Group) (joined : holder ∈ bindings.ordered)
    (rate : Rate) (divides : holder.target = group.denominator rate) :
    holder.rowFor engine (planTables engine database plan) player denominatorColumn =
      denominatorValue engine database rate group.params (player Catalog.playerKey) := by
  have source : holder.source = .denominator rate group.aliasName := congrArg Target.source divides
  have params : holder.params = group.params.filter (Target.scopesDenominator rate) :=
    congrArg Target.params divides
  rw [Group.rowFor, denominator_offered engine database player defaults state bindings plan whole holder
    joined rate group.aliasName source]
  exact denominator_stage_value engine database holder rate _
    (ordered_unsplit defaults state bindings plan whole holder joined) group.params params

theorem direct_row_value (group : Group) (member : group ∈ bindings.ordered) (relation : Relation)
    (marketType : Option String) (source : group.source = .direct relation marketType)
    (column : String) :
    group.rowFor engine (planTables engine database plan) player column =
      directValue engine database relation marketType column group.params
        (player Catalog.playerKey) := by
  rw [Group.rowFor, direct_offered engine database player defaults state bindings plan whole group member
    relation marketType source, directValue]
  cases (relation.rowsOf engine database group.params (player Catalog.playerKey)).filter
    (ofMarket engine marketType) <;> rfl

omit whole in
theorem field_for (group : Group) (member : group ∈ bindings.ordered) (aliasName column : String)
    (named : group.aliasName = aliasName) : (Expr.field aliasName column).value engine
      [scopeFor engine database bindings plan player] =
    group.rowFor engine (planTables engine database plan) player column := by
  rw [Expr.field_value, List.headD_cons, ← named,
    scope_for_group engine database bindings plan player group member]

theorem direct_use_value (use : Use) (member : use ∈ bindings.uses) (spec : ColumnSpec)
    (finds : Finds defaults [] spec use.request use.binding) (target : Target) (column : String)
    (reads : use.binding = .direct target column) :
    (Expr.field target.aliasName column).value engine
      [scopeFor engine database bindings plan player] =
    spec.valueFor engine database defaults player := by
  have targets : use.binding.target? = some target := by rw [reads]; rfl
  obtain ⟨group, placed, named, _⟩ := use_served bindings use member target targets
  obtain ⟨joined, same⟩ := served_ordered defaults state bindings whole.uses whole.apart use target
    member targets group placed named
  obtain ⟨relation, kindRelation, reading⟩ := finds_reads _ _ _ _ _ target finds targets
  have params := resolved_params defaults spec relation target reading
  have groupParams : group.params = target.params := congrArg Target.params same
  rw [field_for engine database player bindings plan group joined _ column named,
    ColumnSpec.valueFor, finds.asks.column]
  have binds := finds.binds
  rw [reads] at binds
  cases binds with
  | direct relation' marketType column' params' kind =>
      rw [direct_row_value engine database player defaults state bindings plan whole group joined
        relation' marketType (congrArg Target.source same), groupParams]
      obtain ⟨relations, value⟩ := direct_kind_value engine database (rateOf spec.params)
        (spec.resolved defaults) player _ relation' marketType column kind
      rw [relations] at kindRelation
      obtain rfl := Option.some.inj kindRelation
      exact (value.trans (by rw [params])).symm

omit whole in
theorem fact_value_for (spec : ColumnSpec) (request : Request) (target : Target)
    (relation : Relation) (id : String) (aggregate : Aggregate)
    (finds : Finds defaults [] spec request (.fact target relation id aggregate)) (group : Group)
    (same : group.target = target) :
    group.source = .fact relation ∧ spec.valueFor engine database defaults player =
      (ColumnKind.fact relation aggregate).valueFor engine database request.rate
        (fun _ => group.params) player := by
  obtain ⟨sources, _, kind⟩ := binds_fact _ _ _ _ target relation id aggregate finds.binds rfl
  obtain ⟨relation', kindRelation, reading⟩ := finds_reads _ _ _ _ _ target finds rfl
  rw [kind] at kindRelation
  obtain rfl := Option.some.inj kindRelation
  have params : spec.resolved defaults relation = group.params :=
    (resolved_params defaults spec relation target reading).trans
      (congrArg Target.params same).symm
  refine ⟨(congrArg Target.source same).trans sources, ?_⟩
  rw [ColumnSpec.valueFor, finds.asks.column, ← finds.asks.rate]
  dsimp only
  rw [kind]
  cases request.rate with
  | none => rw [ColumnKind.valueFor, ColumnKind.valueFor, params]
  | some rate => rw [ColumnKind.valueFor, ColumnKind.valueFor, params]

theorem fact_use_value (decided : Decided engine database bindings player) (use : Use)
    (member : use ∈ bindings.uses) (spec : ColumnSpec)
    (finds : Finds defaults [] spec use.request use.binding) (target : Target) (relation : Relation)
    (id : String) (aggregate : Aggregate) (reads : use.binding = .fact target relation id aggregate)
    (provides : Provides target.aliasName id use.request.rate bindings.table) :
    (use.binding.value bindings.table use.request.rate).value engine
      [scopeFor engine database bindings plan player] =
    spec.valueFor engine database defaults player := by
  obtain ⟨group, joined, named, same, computes⟩ := fact_ordered defaults state bindings whole.uses
    whole.apart use target relation id aggregate member reads provides.1
  obtain ⟨source, value⟩ := fact_value_for engine database player defaults spec use.request target
    relation id aggregate (reads ▸ finds) group same
  have computed := computed_aggregate defaults state bindings plan whole group joined spec use.request
    target relation id aggregate (reads ▸ finds) computes
  have field := (field_for engine database player bindings plan group joined _ id named).trans
    (fact_row_value engine database player defaults state bindings plan whole decided group joined
      relation source id aggregate computed)
  rw [value, reads, Binding.value]
  cases rated : use.request.rate with
  | none => rw [normalize_whole, field, ColumnKind.valueFor]
  | some rate =>
      obtain ⟨holder, holderJoined, holderNamed, divides⟩ := denominator_ordered defaults state bindings
        whole.uses whole.apart use target relation id aggregate rate member reads rated provides group
        joined named same
      rw [normalize_rated _ _ _ _ group (get_ordered bindings group joined target named), ratio_value,
        field, field_for engine database player bindings plan holder holderJoined _ _ holderNamed,
        denominator_row_value engine database player defaults state bindings plan whole group holder
          holderJoined rate divides, ColumnKind.valueFor]

theorem use_value (decided : Decided engine database bindings player) (use : Use)
    (member : use ∈ bindings.uses) (spec : ColumnSpec)
    (finds : Finds defaults [] spec use.request use.binding)
    (provides : ∀ target relation id aggregate, use.binding = .fact target relation id aggregate →
      Provides target.aliasName id use.request.rate bindings.table) :
    (use.binding.value bindings.table use.request.rate).value engine
      [scopeFor engine database bindings plan player] =
    spec.valueFor engine database defaults player := by
  cases reads : use.binding with
  | player source =>
      have binds := finds.binds
      rw [reads] at binds
      cases binds with
      | player _ kind =>
          rw [Binding.value, attribute_value,
            scope_for_player engine database defaults state bindings plan whole player,
            ColumnSpec.valueFor, finds.asks.column]
          exact (congrArg (ColumnKind.valueFor engine database _ _ player) kind).symm
  | direct target column =>
      exact direct_use_value engine database player defaults state bindings plan whole use member spec
        finds target column reads
  | fact target relation id aggregate =>
      rw [← reads]
      exact fact_use_value engine database player defaults state bindings plan whole decided use member
        spec finds target relation id aggregate reads (provides target relation id aggregate reads)

end

end StatTable.Plan
