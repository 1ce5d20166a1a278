import StatTable.Proofs.Joins.Served
import StatTable.Proofs.Scoping.Fields
import StatTable.Proofs.Splits.Results

set_option autoImplicit false

namespace StatTable.Plan

open Sql

section

variable (defaults : Defaults) (state : TableState) (bindings : Bindings)
variable (uses : Uses defaults state bindings)

include uses

section

variable (done rest : List Group) (group : Group) (order : bindings.ordered = done ++ group :: rest)

include order

theorem tie_resolved : ∀ condition ∈ tieConditions bindings.ordered (chainAfter done) group,
    Resolved (done ++ [group]) condition := by
  intro condition member field read
  have placed : group ∈ bindings.ordered := by simp [order]
  have doneOrdered : ∀ other ∈ done, other ∈ bindings.ordered := by simp +contextual [order]
  have own : ∀ split column, group.splitColumn split = some column →
      Resolves (done ++ [group]) (group.aliasName, column) := fun split column held =>
    .inr ⟨group, by simp, rfl, split_shows defaults state bindings uses group placed split column held⟩
  unfold tieConditions at member
  split at member
  · rename_i rate numerator source
    have divides := (denominator_source group).mpr ⟨rate, numerator, source⟩
    obtain ⟨other, otherPlaced, primary, rate', same, _⟩ :=
      ordered_divides defaults state bindings uses group placed divides
    have anchor : group.source = .denominator rate' other.aliasName := congrArg Target.source same
    rw [source] at anchor
    obtain rfl : numerator = other.aliasName := by injection anchor
    rw [find_alias bindings.ordered (ordered_distinct bindings) other otherPlaced] at member
    obtain ⟨split, _, made⟩ := List.mem_filterMap.mp member
    obtain ⟨column, held, made⟩ := Option.bind_eq_some_iff.mp made
    obtain ⟨column', held', made⟩ := Option.bind_eq_some_iff.mp made
    rw [← Option.some.inj made, Expr.fields_eq, Expr.fields_field, Expr.fields_field, List.mem_append,
      List.mem_singleton, List.mem_singleton] at read
    rcases read with rfl | rfl
    · exact own split column held
    · have before := numerator_before _ (table_distinct bindings) done rest group other order
        otherPlaced primary ((denominator_of_source _ _).mpr ⟨rate, source⟩)
      exact .inr ⟨other, by simp [before], rfl,
        split_shows defaults state bindings uses other otherPlaced split column' held'⟩
  · obtain ⟨ref, refOwn, made⟩ := List.mem_filterMap.mp member
    rcases condition_fields (chainAfter done) ref condition made field read with rfl | ⟨other, otherPlaced, rfl⟩
    · obtain ⟨split, _, column, held, rfl⟩ := (mem_split_refs group ref).mp refOwn
      exact own split column held
    · rw [chain_after_placed] at otherPlaced
      exact resolves_mono done _ (by simp +contextual) _
        (ref_resolves defaults state bindings uses done doneOrdered other otherPlaced)

theorem join_resolved :
    Resolved (done ++ [group]) (planJoin bindings.ordered (chainAfter done) group).join.on := by
  intro field read
  obtain ⟨joined, conjoined⟩ : ∃ joined, Expr.conjunction
      (joinConditions bindings.ordered (chainAfter done) group) = some joined := ⟨_, rfl⟩
  rw [planJoin, conjoined, Option.getD_some] at read
  obtain ⟨condition, member, inCondition⟩ :=
    (Expr.mem_fields_conjunction _ joined conjoined field).mp read
  rcases List.mem_cons.mp member with rfl | listed
  · rw [Expr.fields_eq, playerKeyExpr, Expr.fields_field, List.mem_append, List.mem_singleton]
      at inCondition
    rcases inCondition with entity | rfl
    · refine .inr ⟨group, by simp, (entity_within group field entity).symm, ?_⟩
      unfold entityExpr at entity
      cases source : group.source with
      | direct relation marketType => exact direct_shows group relation marketType _ source
      | fact relation =>
          rw [source, Expr.fields_field, List.mem_singleton] at entity
          exact entity ▸ key_shows group
      | denominator rate numerator =>
          rw [source, Expr.fields_field, List.mem_singleton] at entity
          exact entity ▸ key_shows group
    · exact .inl rfl
  · rcases List.mem_append.mp listed with own | tie
    · refine .inr ⟨group, by simp, (source_conditions_within group condition own field
        inCondition).symm, ?_⟩
      unfold sourceConditions at own
      cases source : group.source with
      | direct relation marketType => exact direct_shows group relation marketType _ source
      | fact relation => simp [source] at own
      | denominator rate numerator => simp [source] at own
    · exact tie_resolved defaults state bindings uses done rest group order condition tie field
        inCondition

end

theorem split_output_resolved (split : Split) (value : Expr)
    (shown : bindings.chain.output? split = some value) : Resolved bindings.ordered value := by
  intro field read
  obtain ⟨ref, placed, rfl⟩ := output_fields bindings.chain split value shown field read
  rw [show bindings.chain.placed = refsOf bindings.ordered from chain_after_placed _] at placed
  exact ref_resolves defaults state bindings uses bindings.ordered (fun _ member => member) ref placed

variable (apart : AliasesApart bindings.keys)

include apart

theorem direct_resolved (use : Use) (target : Target) (column : String)
    (member : use ∈ bindings.uses) (reads : use.binding = .direct target column) :
    Resolved bindings.ordered (.field target.aliasName column) := by
  intro field read
  rw [Expr.fields_field, List.mem_singleton] at read
  subst read
  have targets : use.binding.target? = some target := by rw [reads]; rfl
  obtain ⟨group, placed, named, _⟩ := use_served bindings use member target targets
  obtain ⟨joined, same⟩ :=
    served_ordered defaults state bindings uses apart use target member targets group placed named
  obtain ⟨spec, _, finds⟩ := use_finds defaults state bindings uses use member
  have binds := finds.binds
  rw [reads] at binds
  cases binds with
  | direct relation marketType column params =>
      exact .inr ⟨group, joined, named, direct_shows group relation marketType column
        (congrArg Target.source same)⟩

theorem fact_resolved (use : Use) (target : Target) (relation : Relation) (id : String)
    (aggregate : Aggregate) (member : use ∈ bindings.uses)
    (reads : use.binding = .fact target relation id aggregate)
    (provides : Provides target.aliasName id use.request.rate bindings.table) :
    Resolved bindings.ordered (use.binding.value bindings.table use.request.rate) := by
  obtain ⟨group, joined, named, same, computes⟩ := fact_ordered defaults state bindings uses apart use
    target relation id aggregate member reads provides.1
  obtain ⟨spec, _, finds⟩ := use_finds defaults state bindings uses use member
  have source : group.source = .fact relation := (congrArg Target.source same).trans
    (binds_fact _ _ _ _ target relation id aggregate finds.binds reads).1
  have whole : Resolves bindings.ordered (target.aliasName, id) :=
    .inr ⟨group, joined, named, aggregate_shows group relation id source computes⟩
  intro field read
  rw [reads, Binding.value] at read
  cases rated : use.request.rate with
  | none =>
      rw [rated, normalize_whole, Expr.fields_field, List.mem_singleton] at read
      rw [read]
      exact whole
  | some rate =>
      obtain ⟨holder, holderJoined, holderNamed, holderSame⟩ := denominator_ordered defaults state
        bindings uses apart use target relation id aggregate rate member reads rated provides group
        joined named same
      rw [rated, normalize_rated _ _ _ _ group (get_ordered bindings group joined target named),
        ratio_fields, Expr.fields_field, Expr.fields_field, List.mem_append, List.mem_singleton,
        List.mem_singleton] at read
      rcases read with rfl | rfl
      · exact whole
      · exact .inr ⟨holder, holderJoined, holderNamed,
          denominator_shows holder rate _ (congrArg Target.source holderSame)⟩

omit uses apart in
theorem attribute_within (source : Attribute) (table : String) :
    (source.expr table).Within (· = table) := by
  have joined : ∀ (names : List String) (first : Expr), first.Within (· = table) →
      (names.foldl (fun joined name =>
        .binary .concat (.binary .concat joined (.string " ")) (.field table name)) first).Within
        (· = table) := by
    intro names
    induction names with
    | nil => exact fun first within => within
    | cons name rest ih =>
        intro first within
        refine ih _ fun field read => ?_
        simp only [Expr.fields, Expr.string, Expr.fields_field, List.mem_append, List.not_mem_nil,
          or_false, List.mem_singleton] at read
        rcases read with inFirst | rfl
        · exact within field inFirst
        · rfl
  exact joined source.rest _ (by simp [Expr.Within])

theorem use_resolved (use : Use) (member : use ∈ bindings.uses)
    (provides : ∀ target relation id aggregate, use.binding = .fact target relation id aggregate →
      Provides target.aliasName id use.request.rate bindings.table) :
    Resolved bindings.ordered (use.binding.value bindings.table use.request.rate) := by
  cases reads : use.binding with
  | player source =>
      intro field read
      exact .inl (attribute_within source _ field read)
  | direct target column =>
      exact direct_resolved defaults state bindings uses apart use target column member reads
  | fact target relation id aggregate =>
      rw [← reads]
      exact fact_resolved defaults state bindings uses apart use target relation id aggregate member reads
        (provides target relation id aggregate reads)

end

end StatTable.Plan
