import StatTable.Proofs.Groups.Filters
import StatTable.Proofs.Groups.Keys
import StatTable.Proofs.Joins.Shared

set_option autoImplicit false

namespace StatTable.Plan

-- The same group but for the use it was made for and the order in its lists.
structure SameGroup (one other : Group) : Prop where
  aliasName : one.aliasName = other.aliasName
  source : one.source = other.source
  params : one.params = other.params
  splits : one.splits = other.splits
  aggregates : one.aggregates.Perm other.aggregates
  having : one.having.Perm other.having
  restricting : one.restricting = other.restricting

theorem SameGroup.symm {one other : Group} (same : SameGroup one other) : SameGroup other one where
  aliasName := same.aliasName.symm
  source := same.source.symm
  params := same.params.symm
  splits := same.splits.symm
  aggregates := same.aggregates.symm
  having := same.having.symm
  restricting := same.restricting.symm

structure SameUses (one other : Bindings) : Prop where
  selects : one.selects.Perm other.selects
  filters : one.filters.Perm other.filters

namespace SameUses

variable {one other : Bindings} (reordered : SameUses one other)

include reordered

theorem symm : SameUses other one := ⟨reordered.selects.symm, reordered.filters.symm⟩

theorem uses : one.uses.Perm other.uses :=
  (reordered.selects.map _).append (reordered.filters.map _)

theorem keys : one.keys.Perm other.keys := reordered.uses.flatMap_right _

theorem genuine (group : Group) (held : Genuine one group) : Genuine other group := by
  obtain ⟨use, member, reads⟩ := held
  exact ⟨use, reordered.uses.mem_iff.mp member, reads⟩

theorem required (aliasName id : String) (held : Required one aliasName id) :
    Required other aliasName id := by
  rcases held with ⟨bound, member, reads⟩ | ⟨bound, member, late, reads⟩
  · exact .inl ⟨bound, reordered.selects.mem_iff.mp member, reads⟩
  · exact .inr ⟨bound, reordered.filters.mem_iff.mp member, late, reads⟩

theorem aliases_apart (apart : AliasesApart one.keys) : AliasesApart other.keys :=
  fun key listed key' listed' => apart key (reordered.keys.mem_iff.mpr listed) key'
    (reordered.keys.mem_iff.mpr listed')

end SameUses

section

variable (defaults : Defaults) (splits : List Split) (bindings : Bindings)
variable (known : ∀ use ∈ bindings.uses, Known defaults splits use)

include known

theorem catalog_aggregate (group : Group) (placed : group ∈ bindings.table.groups)
    (entry : String × Aggregate) (computes : entry ∈ group.aggregates) :
    ∃ column relation, Catalog.lookup entry.1 = some column ∧
      column.kind = .fact relation entry.2 := by
  obtain ⟨use, member, target, relation, reads, _⟩ :=
    table_lasting bindings _ (lasting_computed bindings) group placed entry computes
  obtain ⟨_, named, kind⟩ :=
    binds_fact _ _ _ _ target relation entry.1 entry.2 (known use member).binds reads
  exact ⟨use.request.column, relation, named ▸ (known use member).column, kind⟩

variable (apart : AliasesApart bindings.keys)

include apart

theorem genuine_placed (group : Group) (genuine : Genuine bindings group) :
    ∃ held ∈ bindings.table.groups, held.aliasName = group.aliasName ∧
      held.target = group.target := by
  obtain ⟨use, member, ⟨target, reads, named, same⟩ |
    ⟨target, relation, id, aggregate, rate, reads, rated, named, same⟩⟩ := genuine
  · obtain ⟨held, placed, heldNamed, _⟩ := use_served bindings use member target reads
    exact ⟨held, placed, heldNamed.trans named.symm, (known_target defaults splits bindings known
      apart held placed use target member reads heldNamed).trans same.symm⟩
  · have provides := rated_provided bindings use target relation id aggregate rate member reads rated
    obtain ⟨numerator, numeratorPlaced, numbers, held, placed, heldNamed⟩ := provides.2 rate rated
    have own := known_target defaults splits bindings known apart numerator numeratorPlaced use target
      member (by rw [reads]; rfl) numbers
    rw [denominator_of_target numerator target rate numbers own] at heldNamed
    exact ⟨held, placed, heldNamed.trans named.symm, (known_denominator defaults splits bindings known
      apart held placed use target relation id aggregate rate member reads rated heldNamed).trans
        same.symm⟩

end

section

variable (defaults : Defaults) (splits : List Split) (one other : Bindings)
variable (known : ∀ use ∈ one.uses, Known defaults splits use)
variable (known' : ∀ use ∈ other.uses, Known defaults splits use)
variable (reordered : SameUses one other)

include known known' reordered

theorem aggregates_kept (group held : Group) (placed : group ∈ one.table.groups)
    (placed' : held ∈ other.table.groups) (named : group.aliasName = held.aliasName)
    (entry : String × Aggregate) (computes : entry ∈ group.aggregates) : entry ∈ held.aggregates := by
  have required := (computes_iff_required one group placed entry.1).mp (List.mem_map_of_mem computes)
  have computed : computesId entry.1 held := (computes_iff_required other held placed' entry.1).mpr
    (named ▸ reordered.required group.aliasName entry.1 required)
  obtain ⟨entry', computes', id⟩ := List.mem_map.mp computed
  obtain ⟨column, relation, found, kind⟩ :=
    catalog_aggregate defaults splits one known group placed entry computes
  obtain ⟨column', relation', found', kind'⟩ :=
    catalog_aggregate defaults splits other known' held placed' entry' computes'
  rw [id, found] at found'
  obtain rfl := Option.some.inj found'
  rw [kind] at kind'
  injection kind' with _ aggregate
  rwa [show entry = entry' from Prod.ext id.symm aggregate]

variable (apart : AliasesApart one.keys)

include apart

theorem group_counterpart (group : Group) (placed : group ∈ one.table.groups) :
    ∃ held ∈ other.table.groups, SameGroup group held := by
  have genuine := known_genuine defaults splits one known apart group placed
  obtain ⟨held, placed', named, same⟩ := genuine_placed defaults splits other known'
    (reordered.aliases_apart apart) group (reordered.genuine group genuine)
  have forth := aggregates_kept defaults splits one other known known' reordered group held placed
    placed' named.symm
  have back := aggregates_kept defaults splits other one known' known reordered.symm held group placed'
    placed named
  refine ⟨held, placed', {
    aliasName := named.symm
    source := congrArg Target.source same.symm
    params := congrArg Target.params same.symm
    splits := congrArg Target.splits same.symm
    aggregates := ?_
    having := ?_
    restricting := ?_ }⟩
  · refine (List.perm_ext_iff_of_nodup ?_ ?_).mpr fun entry => ⟨forth entry, back entry⟩
    · exact List.Nodup.of_map _ (table_lasting one _ (lasting_ids one) group placed)
    · exact List.Nodup.of_map _ (table_lasting other _ (lasting_ids other) held placed')
  · rw [table_having one group placed, table_having other held placed', named]
    exact reordered.filters.filterMap _
  · rw [table_restricting one group placed, table_restricting other held placed', named]
    exact reordered.filters.any_eq

theorem groups_match : ∃ groups, groups.Perm other.table.groups ∧
    List.Forall₂ SameGroup one.table.groups groups := by
  refine matched_perm SameGroup (·.aliasName) (·.aliasName) (fun _ _ same => same.aliasName) _ _
    (table_distinct one) (table_distinct other) ?_ ?_
  · exact group_counterpart defaults splits one other known known' reordered apart
  · intro held placed
    obtain ⟨group, placed', same⟩ := group_counterpart defaults splits other one known' known
      reordered.symm (reordered.aliases_apart apart) held placed
    exact ⟨group, placed', same.symm⟩

theorem found_group (aliasName : String) (group : Group)
    (found : one.table.get? aliasName = some group) :
    ∃ held, other.table.get? aliasName = some held ∧ SameGroup group held := by
  obtain ⟨placed, named⟩ := one.table.get_some aliasName group found
  obtain ⟨held, placed', same⟩ :=
    group_counterpart defaults splits one other known known' reordered apart group placed
  have found' := other.table.get_of_mem (table_distinct other) held placed'
  rw [← same.aliasName, named] at found'
  exact ⟨held, found', same⟩

theorem normalize_same (aliasName : String) (rate : Option Rate) (whole : Sql.Expr) :
    Binding.normalize one.table aliasName rate whole =
      Binding.normalize other.table aliasName rate whole := by
  unfold Binding.normalize
  cases rate with
  | none => rfl
  | some rate =>
      cases found : one.table.get? aliasName with
      | some group =>
          obtain ⟨held, found', same⟩ := found_group defaults splits one other known known' reordered
            apart aliasName group found
          have targets : group.target = held.target := by
            rw [Group.target, Group.target, same.source, same.params, same.splits]
          rw [found']
          dsimp only
          rw [denominator_congr group held rate same.aliasName targets]
      | none =>
          cases found' : other.table.get? aliasName with
          | none => rfl
          | some held =>
              obtain ⟨group, held', _⟩ := found_group defaults splits other one known' known
                reordered.symm (reordered.aliases_apart apart) aliasName held found'
              rw [found] at held'
              cases held'

theorem value_same (binding : Binding) (rate : Option Rate) :
    binding.value one.table rate = binding.value other.table rate := by
  cases binding with
  | player source => rfl
  | direct target column => rfl
  | fact target relation id aggregate =>
      exact normalize_same defaults splits one other known known' reordered apart _ _ _

theorem condition_same (bound : BoundFilter) :
    bound.condition? one.table = bound.condition? other.table := by
  rw [BoundFilter.condition?, BoundFilter.condition?,
    value_same defaults splits one other known known' reordered apart]

end

namespace Requests

def all (requests : Requests) : List Request :=
  requests.selects.map (·.request) ++ requests.filters.map (·.request)

end Requests

theorem of_state_listed (state : TableState) (requests : Requests)
    (ok : Requests.ofState state = .ok requests) :
    ∀ request ∈ requests.all, Catalog.lookup request.column.id = some request.column := by
  have collects := of_state_collects state requests ok
  have listed (id : String) (params : Params) (request : Request) (asks : Asks id params request) :
      Catalog.lookup request.column.id = some request.column := by
    rw [lookup_id _ _ asks.column]
    exact asks.column
  intro request member
  rcases List.mem_append.mp member with selected | filtered
  · obtain ⟨select, own, rfl⟩ := List.mem_map.mp selected
    obtain ⟨spec, _, shows⟩ := forall_right _ _ _ collects.selects select own
    exact listed _ _ _ shows
  · obtain ⟨filter, own, rfl⟩ := List.mem_map.mp filtered
    obtain ⟨clause, _, asks⟩ := forall_right _ _ _ collects.filters filter own
    exact listed _ _ _ asks.asks

theorem bound_known (defaults : Defaults) (splits : List Split) (requests : Requests)
    (bindings : Bindings) (ok : Bindings.of defaults splits requests = .ok bindings)
    (listed : ∀ request ∈ requests.all, Catalog.lookup request.column.id = some request.column) :
    ∀ use ∈ bindings.uses, Known defaults splits use := by
  have binds := (bindings_of_ok _ _ _ _).mp ok
  intro use member
  rcases List.mem_append.mp member with selected | filtered
  · obtain ⟨bound, boundMember, rfl⟩ := List.mem_map.mp selected
    obtain ⟨_, own, rfl, found⟩ := forall_right _ _ _ binds.selects bound boundMember
    exact ⟨listed _ (List.mem_append_left _ (List.mem_map_of_mem own)), bind_binds _ _ _ _ found⟩
  · obtain ⟨bound, boundMember, rfl⟩ := List.mem_map.mp filtered
    obtain ⟨_, own, rfl, found⟩ := forall_right _ _ _ binds.filters bound boundMember
    exact ⟨listed _ (List.mem_append_right _ (List.mem_map_of_mem own)), bind_binds _ _ _ _ found⟩

theorem permuted_bindings (defaults : Defaults) (splits : List Split) (requests others : Requests)
    (bindings : Bindings) (ok : Bindings.of defaults splits requests = .ok bindings)
    (selects : others.selects.Perm requests.selects) (filters : others.filters.Perm requests.filters) :
    ∃ permuted, Bindings.of defaults splits others = .ok permuted ∧ SameUses bindings permuted := by
  have binds := (bindings_of_ok _ _ _ _).mp ok
  obtain ⟨boundSelects, bindsSelects, selectsSame⟩ := List.perm_comp_forall₂ selects binds.selects
  obtain ⟨boundFilters, bindsFilters, filtersSame⟩ := List.perm_comp_forall₂ filters binds.filters
  exact ⟨⟨boundSelects, boundFilters⟩, (bindings_of_ok _ _ _ _).mpr ⟨bindsSelects, bindsFilters⟩,
    selectsSame.symm, filtersSame.symm⟩

structure SameGrouping (one other : Bindings) : Prop where
  groups : ∃ groups, groups.Perm other.table.groups ∧
    List.Forall₂ SameGroup one.table.groups groups
  values : (one.selects.map fun bound => (bound.select, bound.value one.table)).Perm
    (other.selects.map fun bound => (bound.select, bound.value other.table))
  conditions : (one.filters.map fun bound => (bound.filter, bound.condition? one.table)).Perm
    (other.filters.map fun bound => (bound.filter, bound.condition? other.table))

theorem permuted_requests_grouped (defaults : Defaults) (splits : List Split)
    (requests others : Requests) (bindings : Bindings)
    (listed : ∀ request ∈ requests.all, Catalog.lookup request.column.id = some request.column)
    (ok : Bindings.of defaults splits requests = .ok bindings) (apart : AliasesApart bindings.keys)
    (selects : others.selects.Perm requests.selects) (filters : others.filters.Perm requests.filters) :
    ∃ permuted, Bindings.of defaults splits others = .ok permuted ∧
      permuted.selects.map (·.select) = others.selects ∧
      permuted.filters.map (·.filter) = others.filters ∧ SameGrouping bindings permuted := by
  obtain ⟨permuted, ok', reordered⟩ :=
    permuted_bindings defaults splits requests others bindings ok selects filters
  obtain ⟨selectsOwn, filtersOwn⟩ := bound_requests defaults splits others permuted ok'
  have known := bound_known defaults splits requests bindings ok listed
  have known' : ∀ use ∈ permuted.uses, Known defaults splits use :=
    fun use member => known use (reordered.uses.mem_iff.mpr member)
  refine ⟨permuted, ok', selectsOwn, filtersOwn,
    groups_match defaults splits bindings permuted known known' reordered apart, ?_, ?_⟩
  · simp only [BoundSelect.value,
      value_same defaults splits bindings permuted known known' reordered apart]
    exact reordered.selects.map _
  · simp only [condition_same defaults splits bindings permuted known known' reordered apart]
    exact reordered.filters.map _

def yardsCompared : TableState :=
  { TableState.empty with
    columns := [⟨"rush_yards", .empty⟩,
      ⟨"rush_yards", .ofList [(.rateType, .scalar (.text "per_game"))]⟩]
    filters := [⟨"rush_yards", .gt, some (.scalar (.integer 10)), .empty⟩,
      ⟨"rush_yards", .isNull, none, .empty⟩] }

def yardsComparedRequests : Requests :=
  (Requests.ofState yardsCompared).toOption.getD ⟨[], []⟩

def yardsComparedUses : Bindings :=
  (Bindings.of .standard [] yardsComparedRequests).toOption.getD ⟨[], []⟩

def yardsComparedBackwards : Requests :=
  ⟨yardsComparedRequests.selects.reverse, yardsComparedRequests.filters.reverse⟩

theorem yards_compared_backwards :
    Bindings.of .standard [] yardsComparedRequests = .ok yardsComparedUses ∧
    AliasesApart yardsComparedUses.keys ∧
    ∃ permuted, Bindings.of .standard [] yardsComparedBackwards = .ok permuted ∧
      permuted.selects.map (·.select) = yardsComparedBackwards.selects ∧
      permuted.filters.map (·.filter) = yardsComparedBackwards.filters ∧
      SameGrouping yardsComparedUses permuted := by
  have collected : Requests.ofState yardsCompared = .ok yardsComparedRequests :=
    ok_of_is_ok _ _ (by decide +kernel)
  have ok : Bindings.of .standard [] yardsComparedRequests = .ok yardsComparedUses :=
    ok_of_is_ok _ _ (by decide +kernel)
  have apart : AliasesApart yardsComparedUses.keys := aliases_apart_of_dedup _ (by decide +kernel)
  exact ⟨ok, apart, permuted_requests_grouped .standard [] yardsComparedRequests
    yardsComparedBackwards yardsComparedUses (of_state_listed yardsCompared _ collected) ok apart
    (List.reverse_perm _) (List.reverse_perm _)⟩

end StatTable.Plan
