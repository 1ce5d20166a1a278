import StatTable.Proofs.Groups.Keys
import StatTable.Proofs.Groups.Service
import StatTable.Proofs.Scoping.Stages
import StatTable.Proofs.Splits.Agreement

set_option autoImplicit false

namespace StatTable.Plan

open Sql

def Group.Shows (group : Group) (column : String) : Prop :=
  ∀ stage, Stage.of? group = some stage → some column ∈ stage.shown

def Resolves (groups : List Group) (field : String × String) : Prop :=
  field.1 = Catalog.playerTable ∨
    ∃ group ∈ groups, group.aliasName = field.1 ∧ group.Shows field.2

def Resolved (groups : List Group) (expr : Expr) : Prop := ∀ field ∈ expr.fields, Resolves groups field

theorem resolves_mono (groups more : List Group) (included : ∀ group ∈ groups, group ∈ more)
    (field : String × String) (resolves : Resolves groups field) : Resolves more field :=
  resolves.imp_right fun ⟨group, member, named, shows⟩ => ⟨group, included group member, named, shows⟩

theorem direct_shows (group : Group) (relation : Relation) (marketType : Option String)
    (column : String) (source : group.source = .direct relation marketType) : group.Shows column := by
  intro stage made
  simp [Stage.of?, source] at made

theorem key_shows (group : Group) : group.Shows Catalog.playerKey := by
  intro stage made
  unfold Stage.of? at made
  cases source : group.source with
  | direct relation marketType => simp [source] at made
  | fact relation =>
      rw [source] at made
      rw [← Option.some.inj made]
      exact List.mem_cons_self
  | denominator rate numerator =>
      rw [source] at made
      rw [← Option.some.inj made]
      exact List.mem_cons_self

theorem aggregate_shows (group : Group) (relation : Relation) (id : String)
    (source : group.source = .fact relation) (computes : computesId id group) : group.Shows id := by
  intro stage made
  rw [Stage.of?, source] at made
  rw [← Option.some.inj made]
  obtain ⟨entry, member, rfl⟩ := List.mem_map.mp computes
  refine List.mem_map.mpr ⟨⟨entry.2.expr relation.table, some entry.1⟩, ?_, rfl⟩
  exact List.mem_append_right _ (List.mem_map.mpr ⟨entry, member, rfl⟩)

theorem denominator_shows (group : Group) (rate : Rate) (numerator : String)
    (source : group.source = .denominator rate numerator) : group.Shows denominatorColumn := by
  intro stage made
  rw [Stage.of?, source] at made
  rw [← Option.some.inj made]
  refine List.mem_map.mpr ⟨_, List.mem_append_right _ (List.mem_singleton.mpr rfl), rfl⟩

theorem key_of_split (relation : Relation) (splits : List Split) (table column : String) (split : Split)
    (carried : split ∈ splits) (held : relation.splitColumn split = some column) :
    some split.name ∈ (Stage.keysOf relation splits table).map (·.outputName) := by
  refine List.mem_map.mpr ⟨⟨.field table column, some split.name⟩, ?_, rfl⟩
  refine List.mem_cons_of_mem _ (List.mem_filterMap.mpr ⟨split, carried, ?_⟩)
  rw [held]
  rfl

section

variable (defaults : Defaults) (state : TableState) (bindings : Bindings)
variable (uses : Uses defaults state bindings)

include uses

theorem split_shows (group : Group) (member : group ∈ bindings.ordered) (split : Split)
    (column : String) (held : group.splitColumn split = some column) : group.Shows column := by
  intro stage made
  have carried : split ∈ group.splits := by
    by_contra lacks
    rw [Group.splitColumn, if_neg (by simpa using lacks)] at held
    exact absurd held (by simp)
  unfold Group.splitColumn at held
  rw [if_pos (List.contains_iff_mem.mpr carried)] at held
  unfold Stage.of? at made
  unfold Stage.shown Stage.query
  rw [List.map_append]
  cases source : group.source with
  | direct relation marketType => simp [source] at made
  | fact relation =>
      rw [source] at made held
      rw [← Option.some.inj made, ← Option.some.inj held]
      obtain ⟨_, _, relation', reads⟩ := primary_reads defaults state bindings uses group
        (ordered_placed bindings group member) (by simp [Group.isDenominator, source])
      have same : relation' = relation := by
        rcases reads.source with fact | ⟨_, direct⟩
        · have sources : group.source = .fact relation' := fact
          rw [source] at sources
          injection sources with same
          exact same.symm
        · have sources : group.source = .direct relation' _ := direct
          rw [source] at sources
          exact absurd sources (by simp)
      have listed : split ∈ commonSplits (canonicalSplits state.splits) relation' :=
        reads.splits ▸ carried
      simp only [commonSplits, List.mem_filter, Bool.and_eq_true] at listed
      obtain ⟨own, column⟩ := Option.isSome_iff_exists.mp listed.2.2
      exact List.mem_append_left _
        (key_of_split relation group.splits relation.table own split carried (same ▸ column))
  | denominator rate numerator =>
      rw [source] at made held
      rw [← Option.some.inj made, ← Option.some.inj held]
      refine List.mem_append_left _ ?_
      cases split with
      | year => exact key_of_split Catalog.gamelogs group.splits Stage.gamesAlias "year" .year carried rfl
      | week => exact key_of_split Catalog.gamelogs group.splits Stage.gamesAlias "week" .week carried rfl

theorem ref_resolves (groups : List Group) (included : ∀ group ∈ groups, group ∈ bindings.ordered)
    (ref : SplitRef) (member : ref ∈ refsOf groups) : Resolves groups (ref.aliasName, ref.column) := by
  obtain ⟨group, placed, _, own⟩ := (mem_refs_of groups ref).mp member
  obtain ⟨split, _, column, held, rfl⟩ := (mem_split_refs group ref).mp own
  exact .inr ⟨group, placed, rfl, split_shows defaults state bindings uses group (included group placed)
    split column held⟩

end

theorem resolved_fields (ref : SplitRef) : ref.resolved.fields = [(ref.aliasName, ref.column)] := by
  unfold SplitRef.resolved
  cases ref.split with
  | week => exact Expr.fields_field _ _
  | year =>
      dsimp only
      split <;> simp [Expr.fields, Expr.integer]

theorem lagged_fields (ref : SplitRef) (value : Expr) :
    (SplitChain.lagged ref value).fields = value.fields := by
  unfold SplitChain.lagged
  cases ref.split with
  | week => rfl
  | year =>
      dsimp only
      split
      · rfl
      · simp [Expr.fields, Expr.integer]

theorem leading_placed (chain : SplitChain) (split : Split) (ref : SplitRef)
    (leads : ref ∈ chain.leading split) : ref ∈ chain.placed :=
  (List.mem_filter.mp ((mem_leading chain split ref).mp leads).1).1

theorem condition_fields (chain : SplitChain) (own : SplitRef) (condition : Expr)
    (made : chain.condition? own = some condition) (field : String × String)
    (read : field ∈ condition.fields) : field = (own.aliasName, own.column) ∨
      ∃ ref ∈ chain.placed, field = (ref.aliasName, ref.column) := by
  unfold SplitChain.condition? at made
  dsimp only at made
  split at made
  · simp at made
  · rename_i refs
    rw [← Option.some.inj made] at read
    rw [Expr.fields_eq, Expr.fields_field, List.mem_append, List.mem_singleton,
      Expr.mem_fields_coalesce] at read
    rcases read with self | ⟨choice, listed, inChoice⟩
    · exact .inl self
    · rcases List.mem_append.mp listed with value | self
      · obtain ⟨other, leads, rfl⟩ := List.mem_map.mp value
        rw [lagged_fields, resolved_fields, List.mem_singleton] at inChoice
        exact .inr ⟨other, leading_placed chain _ other (List.mem_reverse.mp leads), inChoice⟩
      · rw [List.mem_singleton.mp self, Expr.fields_field, List.mem_singleton] at inChoice
        exact .inl inChoice

theorem output_fields (chain : SplitChain) (split : Split) (value : Expr)
    (shown : chain.output? split = some value) (field : String × String)
    (read : field ∈ value.fields) : ∃ ref ∈ chain.placed, field = (ref.aliasName, ref.column) := by
  have listed : ∃ expr ∈ (chain.leading split).map (·.resolved), field ∈ expr.fields := by
    unfold SplitChain.output? at shown
    generalize (chain.leading split).map (·.resolved) = exprs at shown ⊢
    cases exprs with
    | nil => simp at shown
    | cons first rest =>
        cases rest with
        | nil =>
            obtain rfl := Option.some.inj shown
            exact ⟨first, by simp, read⟩
        | cons second rest =>
            obtain rfl := Option.some.inj shown
            exact (Expr.mem_fields_coalesce _ _).mp read
  obtain ⟨expr, member, inExpr⟩ := listed
  obtain ⟨ref, leads, rfl⟩ := List.mem_map.mp member
  rw [resolved_fields, List.mem_singleton] at inExpr
  exact ⟨ref, leading_placed chain split ref leads, inExpr⟩

end StatTable.Plan
