import StatTable.Proofs.Players.Clauses
import StatTable.Proofs.Players.Denominators
import StatTable.Proofs.Players.Once
import StatTable.Proofs.Players.Tables
import StatTable.Proofs.Splits.Results

set_option autoImplicit false

namespace StatTable.Plan

open Sql

structure Unsplit (defaults : Defaults) (state : TableState) (bindings : Bindings)
    (plan : QueryPlan) : Prop where
  uses : Uses defaults state bindings
  compiled : Compiled state bindings plan
  unsplit : state.splits = []
  apart : AliasesApart bindings.keys
  shaped : ∀ clause ∈ state.filters, clause.Shaped

theorem Unsplit.dimensions (defaults : Defaults) (state : TableState) (bindings : Bindings)
    (plan : QueryPlan) (whole : Unsplit defaults state bindings plan) :
    canonicalSplits state.splits = [] := by
  rw [whole.unsplit]
  rfl

section

variable (engine : Engine) (tables : Tables) (player : Row) (group : Group)
variable (apart : group.aliasName ≠ Catalog.playerTable)

include apart

theorem entity_holds (row : Row) (name : String)
    (entity : entityExpr group = .field group.aliasName name) :
    (Expr.eq (entityExpr group) playerKeyExpr).holds engine
      [(Scope.single Catalog.playerTable player).extend group.aliasName row] =
    engine.equal (row name) (player Catalog.playerKey) := by
  rw [Expr.eq_holds, entity, playerKeyExpr, Expr.field_value, Expr.field_value]
  simp [Scope.extend_other _ _ _ _ apart.symm]

theorem offered_staged (stage : Stage) (made : Stage.of? group = some stage) :
    group.offered engine tables player = (tables group.aliasName).filter fun row =>
      engine.equal (row Catalog.playerKey) (player Catalog.playerKey) := by
  rw [Group.offered, stage_table group stage made]
  refine List.filter_congr fun row _ => ?_
  unfold Group.offers ownConditions
  unfold Stage.of? at made
  cases source : group.source with
  | direct relation marketType => simp [source] at made
  | fact relation =>
      have entity := entity_holds engine player group apart row Catalog.playerKey
        (by rw [entityExpr, source])
      rw [List.all_cons, entity, sourceConditions, source]
      exact Bool.and_true _
  | denominator rate numerator =>
      have entity := entity_holds engine player group apart row Catalog.playerKey
        (by rw [entityExpr, source])
      rw [List.all_cons, entity, sourceConditions, source]
      exact Bool.and_true _

theorem offered_direct (relation : Relation) (marketType : Option String)
    (source : group.source = .direct relation marketType) :
    group.offered engine tables player =
      (relation.rowsOf engine tables group.params (player Catalog.playerKey)).filter
        (ofMarket engine marketType) := by
  have table : (joinTable group).table = relation.table := by rw [joinTable, source]
  rw [Group.offered, table, Relation.rowsOf, List.filter_filter]
  refine List.filter_congr fun row _ => ?_
  have entity := entity_holds engine player group apart row relation.entityColumn
    (by rw [entityExpr, source])
  have fits := fits_holds engine relation group.params group.aliasName
    ((Scope.single Catalog.playerTable player).extend group.aliasName row)
  rw [List.forall_mem_append, Scope.extend_self] at fits
  rw [Group.offers, ownConditions, List.all_cons, entity, sourceConditions, source]
  dsimp only
  rw [Bool.eq_iff_iff, Bool.and_eq_true, Bool.and_eq_true, Bool.and_eq_true, List.all_eq_true,
    directConditions, List.forall_mem_append, List.forall_mem_append, ← fits, ofMarket]
  cases marketType with
  | none => simp [and_comm]
  | some type =>
      simp only [Option.toList, List.map_cons, List.map_nil, List.forall_mem_singleton, Expr.eq_holds,
        Expr.field_value, string_value, List.headD_cons, Scope.extend_self, Option.all_some]
      tauto

end

theorem ids_not_key : ∀ column ∈ Catalog.columns, column.id ≠ Catalog.playerKey := by
  decide +kernel

section

variable (engine : Engine) (database : Tables) (player : Row)
variable (defaults : Defaults) (state : TableState) (bindings : Bindings) (plan : QueryPlan)
variable (whole : Unsplit defaults state bindings plan)

include whole

theorem ordered_unsplit (group : Group) (member : group ∈ bindings.ordered) : group.splits = [] := by
  refine List.eq_nil_iff_forall_not_mem.mpr fun split carried => ?_
  have asked := ordered_splits defaults state bindings whole.uses group member split carried
  rw [whole.unsplit] at asked
  cases split <;> simp [canonicalSplits] at asked

theorem ordered_apart (group : Group) (member : group ∈ bindings.ordered) :
    group.aliasName ≠ Catalog.playerTable :=
  (ordered_joinable defaults state bindings whole.uses).apart group member

theorem ordered_ids (group : Group) (member : group ∈ bindings.ordered) :
    (group.aggregates.map (·.1)).Nodup ∧ Catalog.playerKey ∉ group.aggregates.map (·.1) := by
  have placed := ordered_placed bindings group member
  refine ⟨table_lasting bindings _ (lasting_ids bindings) group placed, fun listed => ?_⟩
  obtain ⟨entry, entryMember, named⟩ := List.mem_map.mp listed
  obtain ⟨use, used, target, relation, reads, _⟩ :=
    table_lasting bindings _ (lasting_computed bindings) group placed entry entryMember
  obtain ⟨spec, _, finds⟩ := use_finds defaults state bindings whole.uses use used
  have id := (binds_fact _ _ _ _ target relation entry.1 entry.2 finds.binds reads).2.1
  exact ids_not_key _ (lookup_mem _ _ finds.asks.column) (id.symm.trans named)

theorem fact_offered (group : Group) (member : group ∈ bindings.ordered) (relation : Relation)
    (source : group.source = .fact relation) :
    group.offered engine (planTables engine database plan) player =
      if !(relation.rowsOf engine database group.params (player Catalog.playerKey)).isEmpty &&
          havingPasses engine database group relation (player Catalog.playerKey) then
        [(Stage.ofFact group relation).query.rowOf engine
          ((relation.rowsOf engine database group.params (player Catalog.playerKey)).map
            (Scope.single relation.table))]
      else [] := by
  have made : Stage.of? group = some (Stage.ofFact group relation) := by rw [Stage.of?, source]
  have ids := ordered_ids defaults state bindings plan whole group member
  rw [offered_staged engine _ player group
      (ordered_apart defaults state bindings plan whole group member) _ made,
    plan_table_stage defaults state bindings plan whole.uses whole.compiled engine database group member
      _ made]
  exact fact_stage_rows engine database group relation _
    (ordered_unsplit defaults state bindings plan whole group member) ids.1 ids.2

theorem denominator_offered (group : Group) (member : group ∈ bindings.ordered) (rate : Rate)
    (numerator : String) (source : group.source = .denominator rate numerator) :
    group.offered engine (planTables engine database plan) player =
      ((Stage.ofDenominator group rate).query.tableRows engine database).filter fun row =>
        engine.equal (row Catalog.playerKey) (player Catalog.playerKey) := by
  have made : Stage.of? group = some (Stage.ofDenominator group rate) := by rw [Stage.of?, source]
  rw [offered_staged engine _ player group
      (ordered_apart defaults state bindings plan whole group member) _ made,
    plan_table_stage defaults state bindings plan whole.uses whole.compiled engine database group member
      _ made]

theorem direct_offered (group : Group) (member : group ∈ bindings.ordered) (relation : Relation)
    (marketType : Option String) (source : group.source = .direct relation marketType) :
    group.offered engine (planTables engine database plan) player =
      (relation.rowsOf engine database group.params (player Catalog.playerKey)).filter
        (ofMarket engine marketType) := by
  have other := placed_table defaults state bindings whole.uses group
    (ordered_placed bindings group member) relation (by rw [source]; rfl)
  rw [offered_direct engine _ player group
      (ordered_apart defaults state bindings plan whole group member) relation marketType source,
    Relation.rowsOf, plan_table_base state bindings plan whole.compiled engine database relation.table other]
  rfl

theorem direct_source (group : Group) (member : group ∈ bindings.ordered) (relation : Relation)
    (marketType : Option String) (source : group.source = .direct relation marketType) :
    ∃ spec ∈ state.requested, spec.source? = some group.source ∧
      ∃ asked single, resolve relation [] defaults asked = .ok group.params ∧
        requireSingleValues [] group.params = .ok single := by
  have unsplit := whole.dimensions
  cases table_origin bindings group (ordered_placed bindings group member) with
  | divides _ _ _ _ _ _ _ _ _ _ _ _ _ same =>
      have divides : group.source = .denominator _ _ := congrArg Target.source same
      rw [source] at divides
      exact absurd divides (by simp)
  | read use target used reads named same =>
      obtain ⟨spec, requested, finds⟩ := use_finds defaults state bindings whole.uses use used
      have kind := finds_kind _ _ _ _ _ target finds reads
      have sources : group.source = target.source := congrArg Target.source same
      have params : group.params = target.params := congrArg Target.params same
      obtain ⟨resolved, single⟩ := finds_direct _ _ _ _ _ target finds reads relation marketType
        (sources.symm.trans source)
      rw [unsplit, show commonSplits [] relation = [] from rfl, ← params] at resolved single
      refine ⟨spec, requested, ?_, _, _, resolved, single⟩
      rw [ColumnSpec.source?, finds.asks.column, sources]
      exact kind

theorem offered_once (keyed : state.WellKeyed engine database) (group : Group)
    (member : group ∈ bindings.ordered) :
    (group.offered engine (planTables engine database plan) player).length ≤ 1 := by
  cases source : group.source with
  | fact relation =>
      rw [fact_offered engine database player defaults state bindings plan whole group member relation
        source]
      split <;> simp
  | denominator rate numerator =>
      rw [denominator_offered engine database player defaults state bindings plan whole group member
        rate numerator source, denominator_stage_rows engine database group rate _
        (ordered_unsplit defaults state bindings plan whole group member)]
      split <;> simp
  | direct relation marketType =>
      obtain ⟨spec, requested, named, asked, single, resolved, required⟩ :=
        direct_source defaults state bindings plan whole group member relation marketType source
      have listed := placed_source defaults state bindings whole.uses group
        (ordered_placed bindings group member) (by simp [Group.isDenominator, source])
      have pinned := sources_pinned _ listed
      have own := keyed.keyed spec requested group.source named
      rw [source] at pinned own
      rw [direct_offered engine database player defaults state bindings plan whole group member
        relation marketType source]
      exact direct_once engine relation group.params defaults asked single _ pinned resolved required
        database marketType own

end

end StatTable.Plan
