import StatTable.Proofs.Joins.Reads

set_option autoImplicit false

namespace StatTable

def ColumnKind.source? : ColumnKind → Option Plan.Source
  | .player _ => none
  | .materialized relation _ => some (.direct relation none)
  | .fact relation _ => some (.fact relation)
  | .market relation marketType _ => some (.direct relation (some marketType))

def Catalog.sources : List Plan.Source := Catalog.columns.filterMap (·.kind.source?)

namespace Plan

theorem sources_named : ∀ one ∈ Catalog.sources, ∀ other ∈ Catalog.sources,
    one.kind = other.kind → sourceName one = sourceName other → one = other := by
  decide +kernel

theorem lookup_mem (id : String) (column : Column) (found : Catalog.lookup id = some column) :
    column ∈ Catalog.columns :=
  List.mem_of_find?_eq_some found

def Target.denominator (target : Target) (rate : Rate) : Target := (target.group 0).denominator rate

theorem denominator_of_target (group : Group) (target : Target) (rate : Rate)
    (named : group.aliasName = target.aliasName) (same : group.target = target) :
    group.denominator rate = target.denominator rate :=
  denominator_congr group (target.group 0) rate named same

def Use.targets (use : Use) : List Target :=
  match use.binding, use.request.rate with
  | .fact target _ _ _, some rate => [target, target.denominator rate]
  | binding, _ => binding.target?.toList

def Bindings.keys (bindings : Bindings) : List GroupKey :=
  bindings.uses.flatMap fun use => use.targets.map Target.key

-- Aliases are cut from a hash, so that keys that differ could have one alias. Where the tables of a
-- request must not be mixed up, this is assumed of its keys.
def AliasesApart (keys : List GroupKey) : Prop :=
  ∀ one ∈ keys, ∀ other ∈ keys, one ≠ other → one.aliasName ≠ other.aliasName

theorem aliases_apart_of_nodup (keys : List GroupKey) (distinct : (keys.map (·.aliasName)).Nodup) :
    AliasesApart keys :=
  fun _ oneMember _ otherMember differ same =>
    differ (List.inj_on_of_nodup_map distinct oneMember otherMember same)

theorem use_key (bindings : Bindings) (use : Use) (target : Target) (member : use ∈ bindings.uses)
    (reads : use.binding.target? = some target) : target.key ∈ bindings.keys := by
  refine List.mem_flatMap.mpr ⟨use, member, List.mem_map_of_mem ?_⟩
  unfold Use.targets
  split
  · rename_i own _ _ _ _ binding _
    obtain rfl : own = target := by simpa [binding, Binding.target?] using reads
    simp
  · simp [reads]

theorem denominator_key (bindings : Bindings) (use : Use) (target : Target) (relation : Relation)
    (id : String) (aggregate : Aggregate) (rate : Rate) (member : use ∈ bindings.uses)
    (reads : use.binding = .fact target relation id aggregate) (rated : use.request.rate = some rate) :
    (target.denominator rate).key ∈ bindings.keys := by
  refine List.mem_flatMap.mpr ⟨use, member, List.mem_map_of_mem ?_⟩
  simp [Use.targets, reads, rated]

theorem binds_kind (defaults : Defaults) (splits : List Split) (request : Request)
    (binding : Binding) (target : Target) (binds : Binds defaults splits request binding)
    (reads : binding.target? = some target) :
    request.column.kind.source? = some target.source := by
  cases binds with
  | player => simp [Binding.target?] at reads
  | direct relation marketType column params kind =>
      obtain rfl := Option.some.inj reads
      revert kind
      cases request.column.kind <;> simp +contextual [directSource?, ColumnKind.source?]
  | fact relation aggregate params kind =>
      obtain rfl := Option.some.inj reads
      rw [kind]
      rfl

theorem finds_kind (defaults : Defaults) (splits : List Split) (spec : ColumnSpec)
    (request : Request) (binding : Binding) (target : Target)
    (finds : Finds defaults splits spec request binding) (reads : binding.target? = some target) :
    request.column.kind.source? = some target.source :=
  binds_kind defaults splits request binding target finds.binds reads

theorem finds_direct (defaults : Defaults) (splits : List Split) (spec : ColumnSpec)
    (request : Request) (binding : Binding) (target : Target)
    (finds : Finds defaults splits spec request binding) (reads : binding.target? = some target)
    (relation : Relation) (marketType : Option String)
    (source : target.source = .direct relation marketType) :
    resolve relation (commonSplits splits relation) defaults request.params = .ok target.params ∧
      requireSingleValues (commonSplits splits relation) target.params = .ok target.params := by
  cases finds.binds with
  | player => simp [Binding.target?] at reads
  | direct other marketType' column params kind resolved single =>
      obtain rfl := Option.some.inj reads
      obtain ⟨rfl, _⟩ : other = relation ∧ marketType' = marketType := by
        simpa using source
      exact ⟨resolved, single⟩
  | fact other aggregate params kind =>
      obtain rfl := Option.some.inj reads
      exact absurd source (by simp)

theorem finds_source (defaults : Defaults) (splits : List Split) (spec : ColumnSpec)
    (request : Request) (binding : Binding) (target : Target)
    (finds : Finds defaults splits spec request binding) (reads : binding.target? = some target) :
    target.source ∈ Catalog.sources :=
  List.mem_filterMap.mpr ⟨request.column, lookup_mem _ _ finds.asks.column,
    finds_kind defaults splits spec request binding target finds reads⟩

theorem reads_splits_eq (defaults : Defaults) (splits : List Split) (params others : Params)
    (relation other : Relation) (one two : Target) (first : Reads defaults splits params relation one)
    (second : Reads defaults splits others other two) (same : one.source = two.source) :
    one.splits = two.splits := by
  have relations : relation = other := by
    rcases first.source with source | ⟨_, source⟩ <;>
      rcases second.source with source' | ⟨_, source'⟩ <;> rw [source, source'] at same
    · injection same
    · exact absurd same (by simp)
    · exact absurd same (by simp)
    · injection same
  rw [first.splits, second.splits, relations]

structure Known (defaults : Defaults) (splits : List Split) (use : Use) : Prop where
  column : Catalog.lookup use.request.column.id = some use.request.column
  binds : Binds defaults splits use.request use.binding

-- A group that reads what some use reads, or its denominator.
def Genuine (bindings : Bindings) (group : Group) : Prop :=
  ∃ use ∈ bindings.uses, (∃ target, use.binding.target? = some target ∧
      group.aliasName = target.aliasName ∧ group.target = target) ∨
    ∃ target relation id aggregate rate, use.binding = .fact target relation id aggregate ∧
      use.request.rate = some rate ∧ group.aliasName = (target.denominator rate).aliasName ∧
        group.target = target.denominator rate

section

variable (defaults : Defaults) (splits : List Split) (bindings : Bindings)
variable (known : ∀ use ∈ bindings.uses, Known defaults splits use)

include known

theorem known_target_kind (use : Use) (target : Target) (member : use ∈ bindings.uses)
    (reads : use.binding.target? = some target) : target.key.kind ≠ "rate" := by
  obtain ⟨relation, _, reading⟩ := binds_reads _ _ _ _ target (known use member).binds reads
  rcases reading.source with fact | ⟨_, direct⟩
  · simp [Target.key, fact, Source.kind]
  · simp [Target.key, direct, Source.kind]

theorem known_source (use : Use) (target : Target) (member : use ∈ bindings.uses)
    (reads : use.binding.target? = some target) : target.source ∈ Catalog.sources :=
  List.mem_filterMap.mpr ⟨use.request.column, lookup_mem _ _ (known use member).column,
    binds_kind defaults splits use.request use.binding target (known use member).binds reads⟩

theorem known_target_eq (one other : Use) (target target' : Target) (oneMember : one ∈ bindings.uses)
    (otherMember : other ∈ bindings.uses) (reads : one.binding.target? = some target)
    (reads' : other.binding.target? = some target') (same : target.key = target'.key) :
    target = target' := by
  obtain ⟨relation, _, reading⟩ := binds_reads _ _ _ _ target (known one oneMember).binds reads
  obtain ⟨relation', _, reading'⟩ := binds_reads _ _ _ _ target' (known other otherMember).binds reads'
  have sources : target.source = target'.source :=
    sources_named _ (known_source defaults splits bindings known one target oneMember reads) _
      (known_source defaults splits bindings known other target' otherMember reads')
      (congrArg GroupKey.kind same) (congrArg GroupKey.relation same)
  have params : target.params = target'.params := congrArg GroupKey.params same
  have splits := reads_splits_eq _ _ _ _ _ _ _ _ reading reading' sources
  cases target
  cases target'
  simp only at sources params splits
  rw [sources, params, splits]

variable (apart : AliasesApart bindings.keys)

include apart

theorem genuine_target (group : Group) (genuine : Genuine bindings group) (use : Use)
    (target : Target) (member : use ∈ bindings.uses) (reads : use.binding.target? = some target)
    (named : group.aliasName = target.aliasName) : group.target = target := by
  have key := use_key bindings use target member reads
  obtain ⟨other, otherMember, ⟨target', reads', named', same⟩ |
    ⟨target', relation, id, aggregate, rate, reads', rated, named', same⟩⟩ := genuine
  · have keys : target'.key = target.key := by
      by_contra differ
      exact apart _ (use_key bindings other target' otherMember reads') _ key differ
        (named'.symm.trans named)
    rw [same, known_target_eq defaults splits bindings known other use target' target otherMember
      member reads' reads keys]
  · have keys : (target'.denominator rate).key = target.key := by
      by_contra differ
      exact apart _ (denominator_key bindings other target' relation id aggregate rate otherMember
        reads' rated) _ key differ (named'.symm.trans named)
    have kinds : "rate" = target.key.kind := congrArg GroupKey.kind keys
    exact absurd kinds.symm (known_target_kind defaults splits bindings known use target member reads)

theorem step_genuine (table next : GroupTable) (step : Step bindings table next)
    (distinct : Distinct table.groups) (all : ∀ group ∈ table.groups, Genuine bindings group) :
    ∀ group ∈ next.groups, Genuine bindings group := by
  intro group member
  have updated : ∀ aliasName change, Keeps change → next = table.update aliasName change →
      Genuine bindings group := by
    rintro aliasName change keeps rfl
    rcases table.mem_update _ _ distinct group member with old | ⟨before, old, _, rfl⟩
    · exact all group old
    · have genuine := all before old
      unfold Genuine at genuine ⊢
      rwa [keeps.aliasName, keeps.target]
  cases step with
  | place use target used reads =>
      rcases table.mem_insert _ group member with old | rfl
      · exact all group old
      · exact ⟨use, used, .inl ⟨target, reads, rfl, rfl⟩⟩
  | require => exact updated _ _ (keeps_require _ _) rfl
  | divide use target relation id aggregate rate numerator used reads rated found =>
      rcases table.mem_insert _ group member with old | rfl
      · exact all group old
      · obtain ⟨placed, numbers⟩ := table.get_some _ numerator found
        have same := genuine_target defaults splits bindings known apart numerator
          (all numerator placed) use target used (by rw [reads]; rfl) numbers
        have divided := denominator_of_target numerator target rate numbers same
        refine ⟨use, used, .inr ⟨target, relation, id, aggregate, rate, reads, rated, ?_, ?_⟩⟩
        · rw [← divided]
          rfl
        · rw [← divided]
          rfl
  | having => exact updated _ _ (keeps_having _) rfl
  | restrict => exact updated _ _ keeps_restrict rfl

theorem known_genuine : ∀ group ∈ bindings.table.groups, Genuine bindings group :=
  (steps_induction bindings
    (fun table => Distinct table.groups ∧ ∀ group ∈ table.groups, Genuine bindings group)
    (fun table next step both => ⟨step_distinct bindings table next step both.1,
      step_genuine defaults splits bindings known apart table next step both.1 both.2⟩) _ _
    (table_steps bindings) ⟨List.nodup_nil, by simp [GroupTable.empty]⟩).2

theorem known_target (group : Group) (placed : group ∈ bindings.table.groups) (use : Use)
    (target : Target) (member : use ∈ bindings.uses) (reads : use.binding.target? = some target)
    (named : group.aliasName = target.aliasName) : group.target = target :=
  genuine_target defaults splits bindings known apart group
    (known_genuine defaults splits bindings known apart group placed) use target member reads named

theorem known_denominator (group : Group) (placed : group ∈ bindings.table.groups) (use : Use)
    (target : Target) (relation : Relation) (id : String) (aggregate : Aggregate) (rate : Rate)
    (member : use ∈ bindings.uses) (reads : use.binding = .fact target relation id aggregate)
    (rated : use.request.rate = some rate)
    (named : group.aliasName = (target.denominator rate).aliasName) :
    group.target = target.denominator rate := by
  have key := denominator_key bindings use target relation id aggregate rate member reads rated
  have own : use.binding.target? = some target := by rw [reads]; rfl
  obtain ⟨other, otherMember, ⟨target', reads', named', same⟩ |
    ⟨target', relation', id', aggregate', rate', reads', rated', named', same⟩⟩ :=
    known_genuine defaults splits bindings known apart group placed
  · have keys : target'.key = (target.denominator rate).key := by
      by_contra differ
      exact apart _ (use_key bindings other target' otherMember reads') _ key differ
        (named'.symm.trans named)
    have kinds : target'.key.kind = "rate" := congrArg GroupKey.kind keys
    exact absurd kinds (known_target_kind defaults splits bindings known other target' otherMember
      reads')
  · have own' : other.binding.target? = some target' := by rw [reads']; rfl
    have keys : (target'.denominator rate').key = (target.denominator rate).key := by
      by_contra differ
      exact apart _ (denominator_key bindings other target' relation' id' aggregate' rate' otherMember
        reads' rated') _ key differ (named'.symm.trans named)
    have rates : rate'.name = rate.name := congrArg GroupKey.relation keys
    have anchors : some target'.aliasName = some target.aliasName := congrArg GroupKey.anchor keys
    have rateSame : rate' = rate := by
      revert rates
      cases rate' <;> cases rate <;> decide
    have numerators : target'.key = target.key := by
      by_contra differ
      exact apart _ (use_key bindings other target' otherMember own') _
        (use_key bindings use target member own) differ (Option.some.inj anchors)
    rw [same, rateSame, known_target_eq defaults splits bindings known other use target' target
      otherMember member own' own numerators]

end

section

variable (defaults : Defaults) (state : TableState) (bindings : Bindings)
variable (uses : Uses defaults state bindings)

include uses

theorem uses_known : ∀ use ∈ bindings.uses, Known defaults (canonicalSplits state.splits) use := by
  intro use member
  obtain ⟨spec, _, finds⟩ := use_finds defaults state bindings uses use member
  exact ⟨by rw [lookup_id _ _ finds.asks.column]; exact finds.asks.column, finds.binds⟩

theorem use_target_kind (use : Use) (target : Target) (member : use ∈ bindings.uses)
    (reads : use.binding.target? = some target) : target.key.kind ≠ "rate" :=
  known_target_kind defaults _ bindings (uses_known defaults state bindings uses) use target member
    reads

theorem use_target_eq (one other : Use) (target target' : Target) (oneMember : one ∈ bindings.uses)
    (otherMember : other ∈ bindings.uses) (reads : one.binding.target? = some target)
    (reads' : other.binding.target? = some target') (same : target.key = target'.key) :
    target = target' :=
  known_target_eq defaults _ bindings (uses_known defaults state bindings uses) one other target
    target' oneMember otherMember reads reads' same

variable (apart : AliasesApart bindings.keys)

include apart

theorem table_genuine : ∀ group ∈ bindings.table.groups, Genuine bindings group :=
  known_genuine defaults _ bindings (uses_known defaults state bindings uses) apart

theorem placed_target (group : Group) (placed : group ∈ bindings.table.groups) (use : Use)
    (target : Target) (member : use ∈ bindings.uses) (reads : use.binding.target? = some target)
    (named : group.aliasName = target.aliasName) : group.target = target :=
  known_target defaults _ bindings (uses_known defaults state bindings uses) apart group placed use
    target member reads named

theorem placed_denominator (group : Group) (placed : group ∈ bindings.table.groups) (use : Use)
    (target : Target) (relation : Relation) (id : String) (aggregate : Aggregate) (rate : Rate)
    (member : use ∈ bindings.uses) (reads : use.binding = .fact target relation id aggregate)
    (rated : use.request.rate = some rate)
    (named : group.aliasName = (target.denominator rate).aliasName) :
    group.source = .denominator rate target.aliasName :=
  congrArg Target.source (known_denominator defaults _ bindings
    (uses_known defaults state bindings uses) apart group placed use target relation id aggregate rate
    member reads rated named)

end

end Plan

end StatTable
