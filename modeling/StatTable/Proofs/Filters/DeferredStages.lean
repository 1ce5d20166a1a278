import StatTable.Proofs.Filters.Deferral
import StatTable.Proofs.Players.Clauses

set_option autoImplicit false

namespace StatTable.Plan

open Sql

-- What filters that are decided late ask of the row that is joined under an alias.
def due (engine : Engine) (deferrals : List Deferral) (aliasName : String) (row : Row) : Bool :=
  (deferrals.filter (·.aliasName == aliasName)).all fun deferral =>
    deferral.condition.holds engine [Scope.single aliasName row]

theorem due_unasked (engine : Engine) (deferrals : List Deferral) (aliasName : String)
    (unasked : ∀ deferral ∈ deferrals, deferral.aliasName ≠ aliasName) (row : Row) :
    due engine deferrals aliasName row = true := by
  have none : deferrals.filter (·.aliasName == aliasName) = [] := by
    refine List.filter_eq_nil_iff.mpr fun deferral member named => ?_
    exact unasked deferral member (eq_of_beq named)
  rw [due, none, List.all_nil]

def CatalogColumn (relation : Relation) (column : Selection) : Prop :=
  ∃ id entry aggregate, Catalog.lookup id = some entry ∧ entry.kind = .fact relation aggregate ∧
    column = ⟨aggregate.expr relation.table, some id⟩

theorem catalog_column_unique (relation : Relation) (one other : Selection)
    (oneKnown : CatalogColumn relation one) (otherKnown : CatalogColumn relation other)
    (same : one.aliasName = other.aliasName) : one = other := by
  obtain ⟨id, entry, aggregate, found, kind, rfl⟩ := oneKnown
  obtain ⟨id', entry', aggregate', found', kind', rfl⟩ := otherKnown
  obtain rfl := Option.some.inj same
  rw [found] at found'
  rw [← Option.some.inj found', kind] at kind'
  injection kind' with _ aggregates
  rw [aggregates]

theorem ids_apart : ∀ column ∈ Catalog.columns,
    column.id ∉ Catalog.playerKey :: Split.all.map Split.name := by
  decide +kernel

theorem key_name_apart (relation : Relation) (splits : List Split) (table : String)
    (key : Selection) (listed : key ∈ Stage.keysOf relation splits table) (id : String)
    (entry : Column) (found : Catalog.lookup id = some entry) : key.outputName ≠ some id := by
  intro named
  refine ids_apart entry (lookup_mem id entry found) ?_
  rw [lookup_id id entry found]
  rcases List.mem_cons.mp listed with rfl | split
  · exact Option.some.inj named ▸ List.mem_cons_self
  · obtain ⟨own, _, made⟩ := List.mem_filterMap.mp split
    obtain ⟨column, _, rfl⟩ := Option.map_eq_some_iff.mp made
    refine List.mem_cons_of_mem _ (List.mem_map.mpr ⟨own, ?_, Option.some.inj named⟩)
    cases own <;> decide

-- The clause of a filter has been read from a document, so its operand fits its operator.
theorem filter_shaped (defaults : Defaults) (state : TableState) (bindings : Bindings)
    (uses : Uses defaults state bindings) (shaped : ∀ clause ∈ state.filters, clause.Shaped)
    (bound : BoundFilter) (member : bound ∈ bindings.filters) :
    bound.filter.operator.shape.Fits bound.filter.operand := by
  obtain ⟨clause, listed, asks, _⟩ := forall_right _ _ _ uses.filters bound member
  rw [asks.operator, asks.operand]
  exact shaped clause listed

theorem mem_deferrals (bindings : Bindings) (deferral : Deferral)
    (member : deferral ∈ bindings.deferrals) : ∃ bound ∈ bindings.filters,
      ∃ target relation id aggregate, bound.binding = .fact target relation id aggregate ∧
        bound.isEarly = true ∧ deferral = ⟨target.aliasName, ⟨aggregate.expr relation.table, some id⟩,
          filterCondition (.field target.aliasName id) bound.filter.operator
            bound.filter.operand⟩ := by
  obtain ⟨bound, used, made⟩ := List.mem_filterMap.mp member
  rw [BoundFilter.deferral?] at made
  split at made
  · rename_i target relation id aggregate reads
    split at made
    · rename_i early
      exact ⟨bound, used, target, relation, id, aggregate, reads, early, (Option.some.inj made).symm⟩
    · cases made
  · cases made

section

variable (defaults : Defaults) (state : TableState) (bindings : Bindings)
variable (uses : Uses defaults state bindings) (apart : AliasesApart bindings.keys)

include uses apart

theorem fact_use_column (group : Group) (placed : group ∈ bindings.table.groups) (use : Use)
    (used : use ∈ bindings.uses) (target : Target) (relation : Relation) (id : String)
    (aggregate : Aggregate) (reads : use.binding = .fact target relation id aggregate)
    (named : group.aliasName = target.aliasName) : group.source = .fact relation ∧
      CatalogColumn relation ⟨aggregate.expr relation.table, some id⟩ := by
  have same := placed_target defaults state bindings uses apart group placed use target used
    (by rw [reads]; rfl) named
  obtain ⟨spec, _, finds⟩ := use_finds defaults state bindings uses use used
  obtain ⟨source, ids, kind⟩ := binds_fact _ _ _ _ target relation id aggregate finds.binds reads
  have column := finds.asks.column
  rw [← lookup_id _ _ column, ← ids] at column
  exact ⟨(congrArg Target.source same).trans source, id, _, aggregate, column, kind, rfl⟩

theorem deferral_column (group : Group) (placed : group ∈ bindings.table.groups)
    (deferral : Deferral) (member : deferral ∈ bindings.deferrals)
    (named : deferral.aliasName = group.aliasName) :
    ∃ relation, group.source = .fact relation ∧ CatalogColumn relation deferral.column := by
  obtain ⟨bound, used, target, relation, id, aggregate, reads, _, rfl⟩ :=
    mem_deferrals bindings deferral member
  exact ⟨relation, fact_use_column defaults state bindings uses apart group placed
    ⟨bound.filter.request, bound.binding⟩ (bindings.filter_uses bound used) target relation id
    aggregate reads named.symm⟩

theorem aggregate_column (group : Group) (placed : group ∈ bindings.table.groups)
    (relation : Relation) (source : group.source = .fact relation) (column : Selection)
    (member : column ∈ (Stage.ofFact group relation).aggregates) : CatalogColumn relation column := by
  obtain ⟨⟨id, aggregate⟩, entry, rfl⟩ := List.mem_map.mp member
  obtain ⟨use, used, target, relation', reads, named⟩ :=
    table_lasting bindings _ (lasting_computed bindings) group placed (id, aggregate) entry
  obtain ⟨source', known⟩ := fact_use_column defaults state bindings uses apart group placed use used
    target relation' id aggregate reads named
  rw [source] at source'
  cases source'
  exact known

section

variable (engine : Engine) (group : Group) (placed : group ∈ bindings.table.groups)
variable (relation : Relation) (source : group.source = .fact relation)

include placed source

theorem deferred_cell (deferral : Deferral) (member : deferral ∈ bindings.deferrals)
    (named : deferral.aliasName = group.aliasName) (id : String)
    (shows : deferral.column.aliasName = some id) (rows : List Scope) :
    ((Stage.ofFact group relation).deferred bindings.deferrals).query.rowOf engine rows id =
      deferral.column.expr.value engine rows := by
  have known : ∀ column ∈ (Stage.ofFact group relation).aggregates ++
      (bindings.deferrals.filter (·.aliasName == group.aliasName)).map (·.column),
        CatalogColumn relation column := by
    intro column listed
    rcases List.mem_append.mp listed with own | added
    · exact aggregate_column defaults state bindings uses apart group placed relation source column own
    · obtain ⟨other, otherListed, rfl⟩ := List.mem_map.mp added
      obtain ⟨otherMember, otherNamed⟩ := List.mem_filter.mp otherListed
      obtain ⟨relation', source', known⟩ := deferral_column defaults state bindings uses apart group
        placed other otherMember (eq_of_beq otherNamed)
      rw [source] at source'
      cases source'
      exact known
  have added : deferral.column ∈
      (bindings.deferrals.filter (·.aliasName == group.aliasName)).map (·.column) :=
    List.mem_map_of_mem (List.mem_filter.mpr ⟨member, beq_iff_eq.mpr named⟩)
  have own := known _ (List.mem_append_right _ added)
  have agree : ∀ one ∈ (Stage.ofFact group relation).aggregates ++
      (bindings.deferrals.filter (·.aliasName == group.aliasName)).map (·.column),
        one.aliasName = deferral.column.aliasName → one = deferral.column := fun one listed same =>
    catalog_column_unique relation one _ (known one listed) own same
  have output (column : Selection) (name : String) (aliased : column.aliasName = some name) :
      column.outputName = some name := by
    rw [Selection.outputName, aliased]
  refine Query.row_of_agreed engine _ deferral.column ?_ id (output _ id shows) ?_ rows
  · exact List.mem_append_right _ (Stage.added_column _ _ _ added agree)
  · intro other listed same
    obtain ⟨id', entry, aggregate, found, _, shape⟩ := own
    rw [shape] at shows
    obtain rfl : id' = id := Option.some.inj shows
    rcases List.mem_append.mp listed with key | aggregated
    · exact absurd same (key_name_apart relation group.splits relation.table other key id' entry found)
    · have either := List.mem_append.mpr (Stage.mem_add_columns _ _ other aggregated)
      obtain ⟨id'', _, _, _, _, rfl⟩ := known other either
      rw [agree _ either (by rw [shape]; exact same)]

variable (shaped : ∀ clause ∈ state.filters, clause.Shaped)

include shaped

-- A filter asks the same of the rows of a group early as it asks late of what the stage shows of them.
theorem filter_deferred (bound : BoundFilter) (used : bound ∈ bindings.filters)
    (rows : List Scope) (row : Row) (made : row =
      ((Stage.ofFact group relation).deferred bindings.deferrals).query.rowOf engine rows) :
    ((bound.having? group.aliasName).all fun condition => condition.holds engine rows) =
      bound.deferral?.all fun deferral => !(deferral.aliasName == group.aliasName) ||
        deferral.condition.holds engine [Scope.single group.aliasName row] := by
  have fits := filter_shaped defaults state bindings uses shaped bound used
  cases reads : bound.binding with
  | player source =>
      rw [BoundFilter.having?, BoundFilter.deferral?, reads]
      rfl
  | direct target column =>
      rw [BoundFilter.having?, BoundFilter.deferral?, reads]
      rfl
  | fact target relation' id aggregate =>
      by_cases early : bound.isEarly = true
      · have deferral : bound.deferral? = some ⟨target.aliasName,
            ⟨aggregate.expr relation'.table, some id⟩, filterCondition (.field target.aliasName id)
              bound.filter.operator bound.filter.operand⟩ := by
          rw [BoundFilter.deferral?, reads]
          exact if_pos early
        rw [BoundFilter.having?, reads, deferral, Option.all_some]
        dsimp only
        by_cases same : target.aliasName = group.aliasName
        · have cell := deferred_cell defaults state bindings uses apart engine group placed relation
            source _ (List.mem_filterMap.mpr ⟨bound, used, deferral⟩) same id rfl rows
          rw [early, same, beq_self_eq_true, Bool.and_self, if_pos rfl, Option.all_some, Bool.not_true,
            Bool.false_or, earlyCondition, filter_value engine _ _ _ _ fits,
            filter_value engine _ _ _ _ fits, Expr.field_value, List.headD_cons, Scope.single_self,
            made, cell]
        · rw [beq_false_of_ne same, Bool.and_false, if_neg Bool.false_ne_true, Option.all_none,
            Bool.not_false, Bool.true_or]
      · have none : bound.deferral? = none := by
          rw [BoundFilter.deferral?, reads]
          exact if_neg early
        rw [BoundFilter.having?, reads, none, Bool.eq_false_iff.mpr early]
        rfl

theorem having_due (rows : List Scope) :
    satisfies engine rows (Stage.ofFact group relation).query.having =
      due engine bindings.deferrals group.aliasName
        (((Stage.ofFact group relation).deferred bindings.deferrals).query.rowOf engine rows) := by
  have having : (Stage.ofFact group relation).having =
      bindings.filters.filterMap (·.having? group.aliasName) := table_having bindings group placed
  rw [Stage.query, satisfies_conjunction, having, due, List.all_filter, Bindings.deferrals,
    List.all_filterMap, List.all_filterMap, Bool.eq_iff_iff, List.all_eq_true, List.all_eq_true]
  refine forall₂_congr fun bound used => ?_
  exact iff_of_eq (congrArg (· = true) (filter_deferred defaults state bindings uses apart engine group
    placed relation source shaped bound used rows _ rfl))

end

theorem due_unaggregated (engine : Engine) (group : Group) (placed : group ∈ bindings.table.groups)
    (other : ∀ relation, group.source ≠ .fact relation) (row : Row) :
    due engine bindings.deferrals group.aliasName row = true := by
  refine due_unasked engine bindings.deferrals group.aliasName (fun deferral member named => ?_) row
  obtain ⟨relation, source, _⟩ :=
    deferral_column defaults state bindings uses apart group placed deferral member named
  exact other relation source

theorem stage_rows_due (engine : Engine) (database : Tables)
    (shaped : ∀ clause ∈ state.filters, clause.Shaped) (group : Group)
    (placed : group ∈ bindings.table.groups) (stage : Stage) (made : Stage.of? group = some stage) :
    stage.query.tableRows engine database =
      (((stage.deferred bindings.deferrals).query.tableRows engine database).filter
        (due engine bindings.deferrals group.aliasName)).map
          (Row.narrow fun name => stage.shown.contains (some name)) := by
  rw [Stage.of?] at made
  cases source : group.source with
  | direct relation marketType =>
      rw [source] at made
      cases made
  | fact relation =>
      rw [source] at made
      obtain rfl := Option.some.inj made
      exact Stage.deferred_rows engine database bindings.deferrals (Stage.ofFact group relation)
        (List.cons_ne_nil _ _) _
        (having_due defaults state bindings uses apart engine group placed relation source shaped)
  | denominator rate numerator =>
      have undeferred := due_unaggregated defaults state bindings uses apart engine group placed
        fun relation fact => by
          rw [source] at fact
          cases fact
      rw [source] at made
      obtain rfl := Option.some.inj made
      refine Stage.deferred_rows engine database bindings.deferrals (Stage.ofDenominator group rate)
        (List.cons_ne_nil _ _) _ fun rows => ?_
      rw [undeferred]
      rfl

end

end StatTable.Plan
