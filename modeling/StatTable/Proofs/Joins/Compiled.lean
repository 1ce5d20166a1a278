import StatTable.Proofs.Groups.Placement

set_option autoImplicit false

namespace StatTable

namespace TableState

def requested (state : TableState) : List ColumnSpec :=
  state.shown ++ state.filters.map fun clause => ⟨clause.id, clause.params⟩

end TableState

namespace Plan

def boundUses (defaults : Defaults) (state : TableState) : Except CompileError Bindings := do
  let requests ← Requests.ofState state
  Bindings.of defaults (canonicalSplits state.splits) requests

namespace Bindings

def ordered (bindings : Bindings) : List Group := joinOrder bindings.table.groups

def chain (bindings : Bindings) : SplitChain := bindings.ordered.foldl extendChain .empty

end Bindings

structure Compiled (state : TableState) (bindings : Bindings) (plan : QueryPlan) : Prop where
  stages : plan.stages = bindings.ordered.filterMap Stage.of?
  base : plan.base = ⟨Catalog.playerTable, none⟩
  joins : plan.joins = planJoins bindings.ordered .empty bindings.ordered
  outputs : plan.outputs = leadingOutputs (canonicalSplits state.splits) bindings.chain ++
    bindings.selects.map (columnOutput bindings.table)
  filters : plan.filters = bindings.filters.filterMap (·.condition? bindings.table)
  groupBy : plan.groupBy = (plan.outputs.map (·.expr)).filter (!·.isAggregate)

theorem compile_ordered (defaults : Defaults) (limits : Limits) (state : TableState)
    (requests : Requests) (plan : QueryPlan) (collected : Requests.ofState state = .ok requests)
    (ok : compile defaults limits state = .ok plan) :
    ∃ bindings, Bindings.of defaults (canonicalSplits state.splits) requests = .ok bindings ∧
      Compiled state bindings plan ∧
      orderTerms state.sorts requests.selects
        (leadingOutputs (canonicalSplits state.splits) bindings.chain).length =
          .ok plan.orderBy := by
  obtain ⟨others, same, ok⟩ := (bind_ok _ _ _).mp ok
  obtain rfl := Except.ok.inj (collected.symm.trans same)
  obtain ⟨bindings, bound, ok⟩ := (bind_ok _ _ _).mp ok
  obtain ⟨orderBy, ordered, ok⟩ := (bind_ok _ _ _).mp ok
  refine ⟨bindings, bound, ?_, ?_⟩
  · rw [← Except.ok.inj ok]
    exact ⟨rfl, rfl, rfl, rfl, rfl, rfl⟩
  · rw [← Except.ok.inj ok]
    exact ordered

theorem compile_compiled (defaults : Defaults) (limits : Limits) (state : TableState)
    (plan : QueryPlan) (ok : compile defaults limits state = .ok plan) :
    ∃ bindings, boundUses defaults state = .ok bindings ∧ Compiled state bindings plan := by
  obtain ⟨requests, collected, _⟩ := (bind_ok _ _ _).mp ok
  obtain ⟨bindings, bound, compiled, _⟩ :=
    compile_ordered defaults limits state requests plan collected ok
  exact ⟨bindings, (bind_ok _ _ _).mpr ⟨requests, collected, bound⟩, compiled⟩

theorem compiled_of_bound (defaults : Defaults) (limits : Limits) (state : TableState)
    (bindings : Bindings) (plan : QueryPlan) (bound : boundUses defaults state = .ok bindings)
    (ok : compile defaults limits state = .ok plan) : Compiled state bindings plan := by
  obtain ⟨others, boundOthers, compiled⟩ := compile_compiled defaults limits state plan ok
  rw [bound] at boundOthers
  exact Except.ok.inj boundOthers ▸ compiled

structure BindsAll (defaults : Defaults) (splits : List Split) (requests : Requests)
    (bindings : Bindings) : Prop where
  selects : List.Forall₂ (fun select bound => bound.select = select ∧
    bind defaults splits select.request = .ok bound.binding) requests.selects bindings.selects
  filters : List.Forall₂ (fun filter bound => bound.filter = filter ∧
    bind defaults splits filter.request = .ok bound.binding) requests.filters bindings.filters

theorem bindings_of_ok (defaults : Defaults) (splits : List Split) (requests : Requests)
    (bindings : Bindings) : Bindings.of defaults splits requests = .ok bindings ↔
      BindsAll defaults splits requests bindings := by
  have select (one : Select) (bound : BoundSelect) :
      ((bind defaults splits one.request).map fun binding => (⟨one, binding⟩ : BoundSelect)) =
        .ok bound ↔ bound.select = one ∧ bind defaults splits one.request = .ok bound.binding := by
    rw [map_ok]
    constructor
    · rintro ⟨binding, found, rfl⟩
      exact ⟨rfl, found⟩
    · rintro ⟨rfl, found⟩
      exact ⟨_, found, rfl⟩
  have filter (one : Filter) (bound : BoundFilter) :
      ((bind defaults splits one.request).map fun binding => (⟨one, binding⟩ : BoundFilter)) =
        .ok bound ↔ bound.filter = one ∧ bind defaults splits one.request = .ok bound.binding := by
    rw [map_ok]
    constructor
    · rintro ⟨binding, found, rfl⟩
      exact ⟨rfl, found⟩
    · rintro ⟨rfl, found⟩
      exact ⟨_, found, rfl⟩
  constructor
  · intro ok
    obtain ⟨selects, selectsOk, ok⟩ := (bind_ok _ _ _).mp ok
    obtain ⟨filters, filtersOk, ok⟩ := (bind_ok _ _ _).mp ok
    obtain rfl := Except.ok.inj ok
    exact ⟨(map_m_ok _ _ _ selectsOk).imp fun one bound => (select one bound).mp,
      (map_m_ok _ _ _ filtersOk).imp fun one bound => (filter one bound).mp⟩
  · intro binds
    have selects := map_m_of_related _ _ _ (binds.selects.imp fun one bound => (select one bound).mpr)
    have filters := map_m_of_related _ _ _ (binds.filters.imp fun one bound => (filter one bound).mpr)
    exact (bind_ok _ _ _).mpr ⟨_, selects, (bind_ok _ _ _).mpr ⟨_, filters, rfl⟩⟩

theorem bound_requests (defaults : Defaults) (splits : List Split) (requests : Requests)
    (bindings : Bindings) (ok : Bindings.of defaults splits requests = .ok bindings) :
    bindings.selects.map (·.select) = requests.selects ∧
      bindings.filters.map (·.filter) = requests.filters := by
  have binds := (bindings_of_ok _ _ _ _).mp ok
  exact ⟨map_of_related _ _ (fun _ _ made => made.1) _ _ binds.selects,
    map_of_related _ _ (fun _ _ made => made.1) _ _ binds.filters⟩

structure Finds (defaults : Defaults) (splits : List Split) (spec : ColumnSpec) (request : Request)
    (binding : Binding) : Prop where
  asks : Asks spec.id spec.params request
  binds : Binds defaults splits request binding

structure Uses (defaults : Defaults) (state : TableState) (bindings : Bindings) : Prop where
  selects : List.Forall₂ (fun spec bound => Finds defaults (canonicalSplits state.splits) spec
    bound.select.request bound.binding) state.shown bindings.selects
  filters : List.Forall₂ (fun clause bound => FilterAsks clause bound.filter ∧
    Finds defaults (canonicalSplits state.splits) ⟨clause.id, clause.params⟩ bound.filter.request
      bound.binding) state.filters bindings.filters

theorem bound_uses (defaults : Defaults) (state : TableState) (bindings : Bindings)
    (ok : boundUses defaults state = .ok bindings) : Uses defaults state bindings := by
  obtain ⟨requests, collected, bound⟩ := (bind_ok _ _ _).mp ok
  have binds := (bindings_of_ok _ _ _ _).mp bound
  have collects := of_state_collects state requests collected
  constructor
  · refine forall_both _ _ _ ?_ _ _ _ collects.selects binds.selects
    rintro spec _ bound shows ⟨rfl, found⟩
    exact ⟨shows, bind_binds _ _ _ _ found⟩
  · refine forall_both _ _ _ ?_ _ _ _ collects.filters binds.filters
    rintro clause _ bound asks ⟨rfl, found⟩
    exact ⟨asks, asks.asks, bind_binds _ _ _ _ found⟩

theorem use_finds (defaults : Defaults) (state : TableState) (bindings : Bindings)
    (uses : Uses defaults state bindings) (use : Use) (member : use ∈ bindings.uses) :
    ∃ spec ∈ state.requested,
      Finds defaults (canonicalSplits state.splits) spec use.request use.binding := by
  rcases List.mem_append.mp member with selected | filtered
  · obtain ⟨bound, boundMember, rfl⟩ := List.mem_map.mp selected
    obtain ⟨spec, shown, finds⟩ := forall_right _ _ _ uses.selects bound boundMember
    exact ⟨spec, List.mem_append_left _ shown, finds⟩
  · obtain ⟨bound, boundMember, rfl⟩ := List.mem_map.mp filtered
    obtain ⟨clause, listed, _, finds⟩ := forall_right _ _ _ uses.filters bound boundMember
    exact ⟨_, List.mem_append_right _ (List.mem_map_of_mem listed), finds⟩

end Plan

end StatTable
