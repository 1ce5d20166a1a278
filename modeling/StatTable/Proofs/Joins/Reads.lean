import StatTable.Proofs.Groups.Origin
import StatTable.Proofs.Joins.Compiled
import StatTable.Proofs.Joins.Order

set_option autoImplicit false

namespace StatTable.Plan

structure Reads (defaults : Defaults) (splits : List Split) (params : Params) (relation : Relation)
    (target : Target) : Prop where
  resolved : resolve relation (commonSplits splits relation) defaults params = .ok target.params
  splits : target.splits = commonSplits splits relation
  source : target.source = .fact relation ∨ ∃ marketType, target.source = .direct relation marketType

theorem binds_reads (defaults : Defaults) (splits : List Split) (request : Request)
    (binding : Binding) (target : Target) (binds : Binds defaults splits request binding)
    (reads : binding.target? = some target) :
    ∃ relation, request.column.kind.relation? = some relation ∧
      Reads defaults splits request.params relation target := by
  cases binds with
  | player => simp [Binding.target?] at reads
  | direct relation marketType column params kind resolved single =>
      obtain rfl := Option.some.inj reads
      refine ⟨relation, ?_, resolved, rfl, .inr ⟨marketType, rfl⟩⟩
      revert kind
      cases request.column.kind <;> simp +contextual [directSource?, ColumnKind.relation?]
  | fact relation aggregate params kind resolved =>
      obtain rfl := Option.some.inj reads
      exact ⟨relation, by rw [kind]; rfl, resolved, rfl, .inl rfl⟩

theorem finds_reads (defaults : Defaults) (splits : List Split) (spec : ColumnSpec)
    (request : Request) (binding : Binding) (target : Target)
    (finds : Finds defaults splits spec request binding) (reads : binding.target? = some target) :
    ∃ relation, request.column.kind.relation? = some relation ∧
      Reads defaults splits (spec.params.erase .rateType) relation target := by
  rw [← finds.asks.others]
  exact binds_reads defaults splits request binding target finds.binds reads

theorem reads_primary (defaults : Defaults) (splits : List Split) (params : Params)
    (relation : Relation) (target : Target) (reads : Reads defaults splits params relation target)
    (group : Group) (same : group.target = target) : group.isDenominator = false := by
  subst same
  unfold Group.isDenominator
  rcases reads.source with source | ⟨marketType, source⟩
  · rw [show group.source = _ from source]
  · rw [show group.source = _ from source]

theorem reads_split_column (defaults : Defaults) (splits : List Split) (params : Params)
    (relation : Relation) (target : Target) (reads : Reads defaults splits params relation target)
    (group : Group) (same : group.target = target) (split : Split) (carried : split ∈ group.splits) :
    ∃ column, group.splitColumn split = some column := by
  subst same
  have listed : split ∈ commonSplits splits relation := reads.splits ▸ carried
  unfold Group.splitColumn
  rw [if_pos (List.contains_iff_mem.mpr carried)]
  rcases reads.source with source | ⟨marketType, source⟩
  · rw [show group.source = _ from source]
    exact ⟨_, rfl⟩
  · rw [show group.source = _ from source]
    simp only [commonSplits, List.mem_filter, Bool.and_eq_true] at listed
    exact Option.isSome_iff_exists.mp listed.2.2

theorem primary_reads (defaults : Defaults) (state : TableState) (bindings : Bindings)
    (uses : Uses defaults state bindings) (group : Group) (member : group ∈ bindings.table.groups)
    (primary : group.isDenominator = false) :
    ∃ spec ∈ state.requested, ∃ relation, Reads defaults (canonicalSplits state.splits)
      (spec.params.erase .rateType) relation group.target := by
  cases table_origin bindings group member with
  | read use target used reads named same =>
      obtain ⟨spec, requested, finds⟩ := use_finds defaults state bindings uses use used
      obtain ⟨relation, _, reading⟩ := finds_reads _ _ _ _ _ target finds reads
      exact ⟨spec, requested, relation, same ▸ reading⟩
  | divides use target relation id aggregate rate numerator used reads rated placed numbers named
      same =>
      have source : group.source = .denominator rate numerator.aliasName := congrArg Target.source same
      rw [(denominator_source group).mpr ⟨_, _, source⟩] at primary
      exact absurd primary (by simp)

theorem denominator_divides (defaults : Defaults) (state : TableState) (bindings : Bindings)
    (uses : Uses defaults state bindings) (group : Group) (member : group ∈ bindings.table.groups)
    (divides : group.isDenominator = true) :
    ∃ numerator ∈ bindings.table.groups, ∃ rate, group.target = numerator.denominator rate ∧
      group.aliasName = (numerator.denominator rate).aliasName := by
  cases table_origin bindings group member with
  | read use target used reads named same =>
      obtain ⟨spec, requested, finds⟩ := use_finds defaults state bindings uses use used
      obtain ⟨relation, _, reading⟩ := finds_reads _ _ _ _ _ target finds reads
      rw [reads_primary _ _ _ _ _ reading group same] at divides
      exact absurd divides (by simp)
  | divides use target relation id aggregate rate numerator used reads rated placed numbers named
      same => exact ⟨numerator, placed, rate, same, named⟩

section

variable (defaults : Defaults) (state : TableState) (bindings : Bindings)
variable (uses : Uses defaults state bindings)

theorem ordered_distinct : Distinct bindings.ordered :=
  join_order_distinct _ (table_distinct bindings)

theorem ordered_placed (group : Group) (member : group ∈ bindings.ordered) :
    group ∈ bindings.table.groups :=
  ((mem_join_order _ _).mp member).1

theorem find_alias (groups : List Group) (distinct : Distinct groups) (group : Group)
    (member : group ∈ groups) :
    groups.find? (·.aliasName == group.aliasName) = some group := by
  cases found : groups.find? (·.aliasName == group.aliasName) with
  | none => exact absurd (List.find?_eq_none.mp found group member) (by simp)
  | some other =>
      have same : other.aliasName = group.aliasName := by simpa using List.find?_some found
      rw [distinct_eq groups distinct other group (List.mem_of_find?_eq_some found) member same]

include uses

theorem ordered_divides (group : Group) (member : group ∈ bindings.ordered)
    (divides : group.isDenominator = true) :
    ∃ numerator ∈ bindings.ordered, numerator.isDenominator = false ∧ ∃ rate,
      group.target = numerator.denominator rate ∧
        group.aliasName = (numerator.denominator rate).aliasName := by
  obtain ⟨placed, primary | ⟨numerator, numeratorPlaced, primary, dividesIt⟩⟩ :=
    (mem_join_order _ _).mp member
  · rw [divides] at primary
    exact absurd primary (by simp)
  · obtain ⟨other, otherPlaced, rate, same, named⟩ :=
      denominator_divides defaults state bindings uses group placed divides
    obtain ⟨_, source⟩ := (denominator_of_source _ _).mp dividesIt
    have anchors : group.source = .denominator rate other.aliasName := congrArg Target.source same
    rw [source] at anchors
    obtain rfl := distinct_eq _ (table_distinct bindings) numerator other numeratorPlaced otherPlaced
      (by injection anchors)
    exact ⟨numerator, (mem_join_order _ _).mpr ⟨numeratorPlaced, .inl primary⟩, primary, rate, same,
      named⟩

theorem ordered_split_column (group : Group) (member : group ∈ bindings.ordered) (split : Split)
    (carried : split ∈ group.splits) : ∃ column, group.splitColumn split = some column := by
  cases divides : group.isDenominator with
  | false =>
      obtain ⟨_, _, relation, reads⟩ := primary_reads defaults state bindings uses group
        (ordered_placed bindings group member) divides
      exact reads_split_column _ _ _ relation _ reads group rfl split carried
  | true =>
      obtain ⟨rate, numerator, source⟩ := (denominator_source group).mp divides
      unfold Group.splitColumn
      rw [if_pos (List.contains_iff_mem.mpr carried), source]
      exact ⟨_, rfl⟩

end

end StatTable.Plan
