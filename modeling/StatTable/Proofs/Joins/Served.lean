import StatTable.Proofs.Groups.Keys
import StatTable.Proofs.Groups.Service

set_option autoImplicit false

namespace StatTable.Plan

theorem get_ordered (bindings : Bindings) (group : Group) (joined : group ∈ bindings.ordered)
    (target : Target) (named : group.aliasName = target.aliasName) :
    bindings.table.get? target.aliasName = some group :=
  named ▸ GroupTable.get_of_mem _ (table_distinct bindings) group (ordered_placed bindings group joined)

theorem normalize_whole (table : GroupTable) (aliasName : String) (whole : Sql.Expr) :
    Binding.normalize table aliasName none whole = whole := by
  cases found : table.get? aliasName <;> simp [Binding.normalize]

theorem normalize_rated (table : GroupTable) (aliasName : String) (rate : Rate) (whole : Sql.Expr)
    (group : Group) (found : table.get? aliasName = some group) :
    Binding.normalize table aliasName (some rate) whole =
      ratioExpr whole (.field (group.denominator rate).aliasName denominatorColumn) := by
  simp [Binding.normalize, found]

section

variable (defaults : Defaults) (state : TableState) (bindings : Bindings)
variable (uses : Uses defaults state bindings) (apart : AliasesApart bindings.keys)

include uses apart

theorem served_ordered (use : Use) (target : Target) (member : use ∈ bindings.uses)
    (reads : use.binding.target? = some target) (group : Group)
    (placed : group ∈ bindings.table.groups) (named : group.aliasName = target.aliasName) :
    group ∈ bindings.ordered ∧ group.target = target := by
  have same := placed_target defaults state bindings uses apart group placed use target member reads named
  obtain ⟨spec, _, finds⟩ := use_finds defaults state bindings uses use member
  obtain ⟨relation, _, reading⟩ := finds_reads _ _ _ _ _ target finds reads
  exact ⟨(mem_join_order _ _).mpr ⟨placed, .inl (reads_primary _ _ _ _ _ reading group same)⟩, same⟩

theorem fact_ordered (use : Use) (target : Target) (relation : Relation) (id : String)
    (aggregate : Aggregate) (member : use ∈ bindings.uses)
    (reads : use.binding = .fact target relation id aggregate)
    (serves : Serves bindings.table.groups target.aliasName (computesId id)) :
    ∃ group ∈ bindings.ordered, group.aliasName = target.aliasName ∧ group.target = target ∧
      computesId id group := by
  obtain ⟨group, placed, named, computes⟩ := serves
  obtain ⟨joined, same⟩ := served_ordered defaults state bindings uses apart use target member
    (by rw [reads]; rfl) group placed named
  exact ⟨group, joined, named, same, computes⟩

theorem denominator_ordered (use : Use) (target : Target) (relation : Relation) (id : String)
    (aggregate : Aggregate) (rate : Rate) (member : use ∈ bindings.uses)
    (reads : use.binding = .fact target relation id aggregate) (rated : use.request.rate = some rate)
    (provides : Provides target.aliasName id use.request.rate bindings.table) (group : Group)
    (joined : group ∈ bindings.ordered) (named : group.aliasName = target.aliasName)
    (same : group.target = target) :
    ∃ holder ∈ bindings.ordered, holder.aliasName = (group.denominator rate).aliasName ∧
      holder.target = group.denominator rate := by
  have distinct := table_distinct bindings
  have placed := ordered_placed bindings group joined
  obtain ⟨other, otherPlaced, otherNamed, holder, holderPlaced, holderNamed⟩ := provides.2 rate rated
  obtain rfl := distinct_eq _ distinct other group otherPlaced placed
    (otherNamed.trans named.symm)
  have denominators := denominator_of_target other target rate named same
  have source := placed_denominator defaults state bindings uses apart holder holderPlaced use target
    relation id aggregate rate member reads rated (denominators ▸ holderNamed)
  have divides := (denominator_source holder).mpr ⟨rate, target.aliasName, source⟩
  obtain ⟨spec, _, finds⟩ := use_finds defaults state bindings uses use member
  have primary : other.isDenominator = false := by
    rw [Group.isDenominator, show other.source = .fact relation from
      (congrArg Target.source same).trans
        (binds_fact _ _ _ _ target relation id aggregate finds.binds reads).1]
  have holderJoined : holder ∈ bindings.ordered := (mem_join_order _ _).mpr
    ⟨holderPlaced, .inr ⟨other, placed, primary, (denominator_of_source _ _).mpr
      ⟨rate, named ▸ source⟩⟩⟩
  refine ⟨holder, holderJoined, holderNamed, ?_⟩
  obtain ⟨numerator, numeratorPlaced, rate', divided, _⟩ :=
    denominator_divides defaults state bindings uses holder holderPlaced divides
  have anchors : holder.source = .denominator rate' numerator.aliasName :=
    congrArg Target.source divided
  rw [source] at anchors
  injection anchors with rates numerators
  obtain rfl := distinct_eq _ distinct numerator other numeratorPlaced placed
    (numerators.symm.trans named.symm)
  rw [divided, rates]

theorem rated_ordered (use : Use) (target : Target) (relation : Relation) (id : String)
    (aggregate : Aggregate) (rate : Rate) (member : use ∈ bindings.uses)
    (reads : use.binding = .fact target relation id aggregate) (rated : use.request.rate = some rate) :
    ∃ numerator ∈ bindings.ordered, numerator.aliasName = target.aliasName ∧
      numerator.target = target ∧ ∃ holder ∈ bindings.ordered,
        holder.aliasName = (target.denominator rate).aliasName ∧
          holder.target = target.denominator rate := by
  have provides := rated_provided bindings use target relation id aggregate rate member reads rated
  obtain ⟨numerator, joined, named, same, _⟩ := fact_ordered defaults state bindings uses apart use
    target relation id aggregate member reads provides.1
  obtain ⟨holder, holderJoined, holderNamed, holderSame⟩ := denominator_ordered defaults state bindings
    uses apart use target relation id aggregate rate member reads rated provides numerator joined named
    same
  rw [denominator_of_target numerator target rate named same] at holderNamed holderSame
  exact ⟨numerator, joined, named, same, holder, holderJoined, holderNamed, holderSame⟩

end

end StatTable.Plan
