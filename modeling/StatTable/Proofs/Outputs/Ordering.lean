import Mathlib.Algebra.Group.Nat.Defs
import Mathlib.Data.List.Basic
import StatTable.Proofs.Outputs.Uses

set_option autoImplicit false

namespace StatTable

namespace QueryPlan

def columns (plan : QueryPlan) : List Output := plan.outputs.filter (·.kind.isColumn)

def leadingPositions (plan : QueryPlan) : List Nat :=
  (plan.outputs.zipIdx 1).filterMap fun placed =>
    if placed.1.kind.isColumn then none else some placed.2

end QueryPlan

namespace Plan

structure OrdersAt (position : Nat) (descending : Bool) (term : Sql.Ordering) : Prop where
  ordinal : term.expr = .integer (Int64.ofNat position)
  exact : position < 2 ^ 63 → (Int64.ofNat position).toInt = position
  direction : term.direction = some (if descending then .desc else .asc)
  missing : term.nulls = some .last

structure OrdersByUse (plan : QueryPlan) (clause : SortClause) (term : Sql.Ordering)
    (position : Nat) : Prop where
  found : plan.positionOf? clause.id clause.occurrence.toNat = some position
  counted : 1 ≤ position
  within : position ≤ plan.outputs.length
  shows : ∃ output, plan.outputs[position - 1]? = some output ∧
    output.kind = .column clause.id clause.occurrence.toNat
  orders : OrdersAt position clause.descending term

-- The one use of a column that only the order asks for, with the parameters of the first clause that
-- names it.
structure AddedOnce (state : TableState) (requests : Requests) (plan : QueryPlan)
    (clause : SortClause) : Prop where
  occurrence : clause.occurrence = 0
  use : ∃ first select, state.sorts.find? (·.id == clause.id) = some first ∧
    requests.selects.filter (·.isUseOf clause.id) = [select] ∧ select.occurrence = 0 ∧
    Shows ⟨first.id, first.params⟩ select
  output : plan.outputs.filterMap (·.kind.occurrenceOf? clause.id) = [0]

structure OrdersRows (defaults : Defaults) (limits : Limits) (state : TableState)
    (requests : Requests) (plan : QueryPlan) : Prop where
  terms : ∃ asked ties, plan.orderBy = asked ++ ties ∧
    List.Forall₂ (fun clause term => ∃ position, OrdersByUse plan clause term position)
      state.sorts asked ∧
    List.Forall₂ (OrdersAt · false) plan.leadingPositions ties
  requested : ∃ bare, compile defaults limits { state with sorts := [] } = .ok bare ∧
    bare.columns.map (fun output => (output.name, output.kind)) <+:
      plan.columns.map fun output => (output.name, output.kind)
  added : ∀ clause ∈ state.sorts, (∀ spec ∈ state.listed, spec.id ≠ clause.id) →
    AddedOnce state requests plan clause

structure AddsUses (requests : Requests) (sorts : List SortClause) (added : Requests) : Prop where
  selects : requests.selects <+: added.selects
  filters : added.filters = requests.filters
  orders : ∀ leading, ∃ terms, orderTerms sorts added.selects leading = .ok terms

theorem order_term_at (position : Nat) (descending : Bool) :
    OrdersAt position descending (orderTerm position descending) where
  ordinal := rfl
  exact small := Int64.toInt_ofNat_of_lt small
  direction := rfl
  missing := rfl

theorem leading_no_column (splits : List Split) (chain : SplitChain) :
    ∀ output ∈ leadingOutputs splits chain, output.kind.isColumn = false := by
  rw [leadingOutputs, List.forall_mem_cons]
  refine ⟨rfl, fun output listed => ?_⟩
  obtain ⟨split, _, carried⟩ := List.mem_filterMap.mp listed
  obtain ⟨value, _, rfl⟩ := Option.map_eq_some_iff.mp carried
  rfl

theorem find_use_kinds (id : String) (occurrence : Nat) (selects : List Select) :
    findUse? id occurrence selects =
      (selects.map Select.kind).findIdx? (· == .column id occurrence) := by
  rw [List.findIdx?_map, findUse?]
  refine congrArg (List.findIdx? · selects) (funext fun select => Bool.eq_iff_iff.mpr ?_)
  simp [Select.isUseOf, Select.kind]

section

variable {plan : QueryPlan} {splits : List Split} {chain : SplitChain} {columns : List Output}
variable {selects : List Select}
variable (outputs : plan.outputs = leadingOutputs splits chain ++ columns)
variable (kinds : columns.map (·.kind) = selects.map Select.kind)

include outputs kinds

theorem position_of_use (id : String) (occurrence : Nat) : plan.positionOf? id occurrence =
    (findUse? id occurrence selects).map fun index =>
      (leadingOutputs splits chain).length + index + 1 := by
  have before : (leadingOutputs splits chain).findIdx?
      (fun output => output.kind == .column id occurrence) = none := by
    refine List.findIdx?_eq_none_iff.mpr fun output listed => beq_eq_false_iff_ne.mpr fun same => ?_
    have other := leading_no_column splits chain output listed
    rw [same] at other
    cases other
  have behind : columns.findIdx? (fun output => output.kind == .column id occurrence) =
      findUse? id occurrence selects := by
    rw [find_use_kinds, ← kinds, List.findIdx?_map]
    rfl
  rw [QueryPlan.positionOf?, outputs, List.findIdx?_append, before, behind, Option.none_or,
    Option.map_map]
  exact congrArg (Option.map · _) (funext fun index => by simp [Nat.add_comm])

theorem shown_columns : plan.columns = columns := by
  have shown : ∀ output ∈ columns, output.kind.isColumn = true := by
    intro output listed
    have kind : output.kind ∈ selects.map Select.kind := kinds ▸ List.mem_map_of_mem listed
    obtain ⟨select, _, same⟩ := List.mem_map.mp kind
    rw [← same]
    rfl
  rw [QueryPlan.columns, outputs, List.filter_append, List.filter_eq_self.mpr shown,
    List.filter_eq_nil_iff.mpr fun output listed => by
      rw [leading_no_column splits chain output listed]
      exact Bool.false_ne_true,
    List.nil_append]

theorem output_occurrences (id : String) : plan.outputs.filterMap (·.kind.occurrenceOf? id) =
    (selects.map Select.kind).filterMap (·.occurrenceOf? id) := by
  have leading : (leadingOutputs splits chain).filterMap (·.kind.occurrenceOf? id) = [] := by
    refine List.filterMap_eq_nil_iff.mpr fun output listed => ?_
    have other := leading_no_column splits chain output listed
    cases kind : output.kind with
    | entity => rfl
    | split => rfl
    | column =>
        rw [kind] at other
        cases other
  rw [outputs, List.filterMap_append, leading, List.nil_append, ← kinds, List.filterMap_map]
  rfl

theorem leading_positions :
    plan.leadingPositions = List.range' 1 (leadingOutputs splits chain).length := by
  have columnsFirst (start : Nat) : (columns.zipIdx start).filterMap (fun placed =>
      if placed.1.kind.isColumn then none else some placed.2) = [] := by
    refine List.filterMap_eq_nil_iff.mpr fun placed listed => if_pos ?_
    have shown : placed.1 ∈ plan.columns := by
      rw [shown_columns outputs kinds]
      exact List.fst_mem_of_mem_zipIdx listed
    exact (List.mem_filter.mp shown).2
  have leading (start : Nat) : ((leadingOutputs splits chain).zipIdx start).filterMap (fun placed =>
      if placed.1.kind.isColumn then none else some placed.2) =
        List.range' start (leadingOutputs splits chain).length := by
    rw [← List.zipIdx_map_snd start, ← List.filterMap_eq_map]
    refine List.filterMap_congr fun placed listed => ?_
    rw [leading_no_column splits chain _ (List.fst_mem_of_mem_zipIdx listed)]
    rfl
  rw [QueryPlan.leadingPositions, outputs, List.zipIdx_append, List.filterMap_append, columnsFirst,
    List.append_nil, leading]

theorem sort_term_orders (clause : SortClause) (term : Sql.Ordering)
    (ok : sortTerm selects (leadingOutputs splits chain).length clause = .ok term) :
    ∃ position, OrdersByUse plan clause term position := by
  unfold sortTerm at ok
  cases found : findUse? clause.id clause.occurrence.toNat selects with
  | none =>
      rw [found] at ok
      cases ok
  | some index =>
      rw [found] at ok
      obtain rfl := Except.ok.inj ok
      have position := position_of_use outputs kinds clause.id clause.occurrence.toNat
      rw [found, Option.map_some] at position
      obtain ⟨index', located, same⟩ := Option.map_eq_some_iff.mp position
      obtain ⟨bound, kind, _⟩ := List.findIdx?_eq_some_iff_getElem.mp located
      refine ⟨_, position, Nat.succ_pos _, ?_, ⟨plan.outputs[index'], ?_, beq_iff_eq.mp kind⟩,
        order_term_at _ _⟩
      · rw [← same]
        exact bound
      · rw [← same, Nat.add_sub_cancel]
        exact List.getElem?_eq_getElem bound

end

theorem order_terms_ok (requests added : Requests) (sorts : List SortClause)
    (sorted : Sorted requests sorts added) (leading : Nat) :
    ∃ terms, orderTerms sorts added.selects leading = .ok terms := by
  have each : ∀ clause ∈ sorts, ∃ term, sortTerm added.selects leading clause = .ok term := by
    intro clause asked
    obtain ⟨index, found⟩ := sorted.found clause asked
    exact ⟨_, by rw [sortTerm, found]⟩
  obtain ⟨terms, ok⟩ := map_m_each _ _ each
  exact ⟨_, (bind_ok _ _ _).mpr ⟨terms, ok, rfl⟩⟩

theorem order_terms_split (state : TableState) (plan : QueryPlan) (splits : List Split)
    (chain : SplitChain) (columns : List Output) (selects : List Select)
    (outputs : plan.outputs = leadingOutputs splits chain ++ columns)
    (kinds : columns.map (·.kind) = selects.map Select.kind)
    (ok : orderTerms state.sorts selects (leadingOutputs splits chain).length = .ok plan.orderBy) :
    ∃ asked ties, plan.orderBy = asked ++ ties ∧
      List.Forall₂ (fun clause term => ∃ position, OrdersByUse plan clause term position)
        state.sorts asked ∧
      List.Forall₂ (OrdersAt · false) plan.leadingPositions ties := by
  obtain ⟨asked, askedOk, ok⟩ := (bind_ok _ _ _).mp ok
  refine ⟨asked, _, (Except.ok.inj ok).symm, ?_, ?_⟩
  · exact (map_m_ok _ _ _ askedOk).imp fun clause term termOk =>
      sort_term_orders outputs kinds clause term termOk
  · rw [leading_positions outputs kinds, List.range'_eq_map_range, List.forall₂_map_left_iff,
      List.forall₂_map_right_iff, List.forall₂_same]
    intro index _
    rw [Nat.add_comm]
    exact order_term_at _ _

theorem bindings_of_fewer (defaults : Defaults) (splits : List Split) (requests fewer : Requests)
    (bindings : Bindings) (binds : BindsAll defaults splits requests bindings)
    (selects : fewer.selects <+: requests.selects) (filters : fewer.filters = requests.filters) :
    BindsAll defaults splits fewer
      ⟨bindings.selects.take fewer.selects.length, bindings.filters⟩ := by
  constructor
  · have first := List.forall₂_take fewer.selects.length binds.selects
    rwa [← List.prefix_iff_eq_take.mp selects] at first
  · rw [filters]
    exact binds.filters

theorem compile_unordered (defaults : Defaults) (limits : Limits) (state : TableState)
    (requests : Requests) (bindings : Bindings)
    (collected : Requests.ofState { state with sorts := [] } = .ok requests)
    (bound : Bindings.of defaults (canonicalSplits state.splits) requests = .ok bindings) :
    ∃ plan, compile defaults limits { state with sorts := [] } = .ok plan :=
  ⟨_, (bind_ok _ _ _).mpr ⟨requests, collected, (bind_ok _ _ _).mpr ⟨bindings, bound,
    (bind_ok _ _ _).mpr ⟨_, (bind_ok _ _ _).mpr ⟨[], rfl, rfl⟩, rfl⟩⟩⟩⟩

theorem plan_columns (defaults : Defaults) (limits : Limits) (state : TableState)
    (requests : Requests) (plan : QueryPlan) (collected : Requests.ofState state = .ok requests)
    (ok : compile defaults limits state = .ok plan) :
    plan.columns.map (fun output => (output.name, output.kind)) =
      requests.selects.map fun select => (select.name, select.kind) := by
  obtain ⟨bindings, bound, compiled, _⟩ :=
    compile_ordered defaults limits state requests plan collected ok
  rw [shown_columns compiled.outputs (output_kinds _ _ _ _ bound),
    ← (bound_requests _ _ _ _ bound).1, List.map_map, List.map_map]
  rfl

theorem occurrences_of_uses (selects : List Select) (id : String) :
    (selects.map Select.kind).filterMap (·.occurrenceOf? id) =
      (selects.filter (·.isUseOf id)).map (·.occurrence) := by
  rw [List.filterMap_map, ← List.filterMap_eq_map, List.filterMap_filter]
  refine congrArg (List.filterMap · selects) (funext fun select => ?_)
  simp [Select.kind, OutputKind.occurrenceOf?, Select.isUseOf]

theorem added_once (defaults : Defaults) (limits : Limits) (state : TableState)
    (requests : Requests) (plan : QueryPlan) (collected : Requests.ofState state = .ok requests)
    (ok : compile defaults limits state = .ok plan) (clause : SortClause)
    (asked : clause ∈ state.sorts) (unlisted : ∀ spec ∈ state.listed, spec.id ≠ clause.id) :
    AddedOnce state requests plan clause := by
  obtain ⟨bindings, bound, compiled, _⟩ :=
    compile_ordered defaults limits state requests plan collected ok
  obtain ⟨further, shown, only⟩ := state.shown_grows
  obtain ⟨first, found, once⟩ :=
    TableState.order_only_once _ _ _ only clause asked unlisted
  have named : first.id = clause.id := by simpa using List.find?_some found
  have uses : List.Forall₂ Shows (state.shown.filter (·.id == clause.id))
      (requests.selects.filter (·.isUseOf clause.id)) := by
    refine List.rel_filter ?_ (of_state_collects state requests collected).selects
    intro spec select shows
    change (spec.id == clause.id) = true ↔ (select.request.column.id == clause.id) = true
    rw [lookup_id _ _ shows.column]
  rw [shown, once] at uses
  obtain ⟨select, others, shows, none, own⟩ := List.forall₂_cons_left_iff.mp uses
  obtain rfl := List.forall₂_nil_left_iff.mp none
  have occurrences := occurrences_of_uses requests.selects clause.id
  rw [of_state_numbered state requests collected, numbered_occurrences, ← count_uses_ids, countUses,
    List.countP_eq_length_filter, own] at occurrences
  have zero : select.occurrence = 0 := (List.singleton_inj.mp occurrences).symm
  refine ⟨?_, ⟨first, select, found, own, zero, named ▸ shows⟩, ?_⟩
  · obtain ⟨_, _, sorted⟩ := of_state_sorted state requests collected
    obtain ⟨index, held⟩ := sorted.found clause asked
    obtain ⟨within, hit, _⟩ := List.findIdx?_eq_some_iff_getElem.mp held
    rw [Bool.and_eq_true, beq_iff_eq] at hit
    have same : requests.selects[index] = select := by
      have listed : requests.selects[index] ∈ requests.selects.filter (·.isUseOf clause.id) :=
        List.mem_filter.mpr ⟨List.getElem_mem within, hit.1⟩
      rwa [own, List.mem_singleton] at listed
    rw [same, zero] at hit
    exact UInt64.toNat_inj.mp hit.2.symm
  · rw [output_occurrences compiled.outputs (output_kinds _ _ _ _ bound), occurrences_of_uses, own,
      List.map_singleton, zero]

theorem compiled_orders (defaults : Defaults) (limits : Limits) (state : TableState)
    (requests : Requests) (plan : QueryPlan) (collected : Requests.ofState state = .ok requests)
    (ok : compile defaults limits state = .ok plan) :
    OrdersRows defaults limits state requests plan := by
  obtain ⟨bindings, bound, compiled, ordered⟩ :=
    compile_ordered defaults limits state requests plan collected ok
  obtain ⟨bare, bareCollected, sorted⟩ := of_state_sorted state requests collected
  refine {
    terms := order_terms_split state plan _ _ _ _ compiled.outputs (output_kinds _ _ _ _ bound)
      ordered
    requested := ?_
    added := added_once defaults limits state requests plan collected ok }
  have bareBound := (bindings_of_ok _ _ _ _).mpr (bindings_of_fewer defaults _ requests bare bindings
    ((bindings_of_ok _ _ _ _).mp bound) sorted.selects sorted.filters.symm)
  obtain ⟨barePlan, bareOk⟩ :=
    compile_unordered defaults limits state bare _ bareCollected bareBound
  refine ⟨barePlan, bareOk, ?_⟩
  rw [plan_columns _ _ _ _ _ bareCollected bareOk, plan_columns _ _ _ _ _ collected ok]
  exact sorted.selects.map _

theorem clauses_order_rows (defaults : Defaults) (limits : Limits) :
    (∀ state plan, compile defaults limits state = .ok plan →
      ∃ requests, Requests.ofState state = .ok requests ∧
        OrdersRows defaults limits state requests plan) ∧
    ∀ requests added sorts, sorts.foldlM Requests.addSort requests = .ok added →
      AddsUses requests sorts added := by
  constructor
  · intro state plan ok
    obtain ⟨requests, collected, _⟩ := (bind_ok _ _ _).mp ok
    exact ⟨requests, collected, compiled_orders defaults limits state requests plan collected ok⟩
  · intro requests added sorts ok
    have sorted := sorts_sorted requests added sorts ok
    exact ⟨sorted.selects, sorted.filters, order_terms_ok requests added sorts sorted⟩

def rankedYards : TableState :=
  { TableState.empty with
    leading := [⟨"rush_yards", .empty⟩]
    columns := [⟨"rush_yards", .ofList [(.rateType, .scalar (.text "per_game"))]⟩]
    sorts := [⟨"rush_yards", 1, true, .empty⟩,
      ⟨"rush_attempts", 0, false, .ofList [(.year, .scalar (.integer 2023))]⟩,
      ⟨"rush_attempts", 0, true, .empty⟩] }

def rankedYardsPlan : QueryPlan :=
  (compile .standard .usual rankedYards).toOption.getD ⟨[], ⟨"", none⟩, [], [], [], [], [], 0, 0⟩

def attemptsLast : List SortClause := [⟨"rush_attempts", 0, false, .empty⟩]

def attemptsUses : Requests :=
  (attemptsLast.foldlM Requests.addSort ⟨[], []⟩).toOption.getD ⟨[], []⟩

theorem ranked_yards_ordered :
    compile .standard .usual rankedYards = .ok rankedYardsPlan ∧
    (∃ requests, Requests.ofState rankedYards = .ok requests ∧
      OrdersRows .standard .usual rankedYards requests rankedYardsPlan) ∧
    rankedYardsPlan.leadingPositions = [1] ∧
    rankedYards.sorts.map (fun clause =>
      rankedYardsPlan.positionOf? clause.id clause.occurrence.toNat) =
        [some 3, some 4, some 4] ∧
    attemptsLast.foldlM Requests.addSort ⟨[], []⟩ = .ok attemptsUses ∧
    AddsUses ⟨[], []⟩ attemptsLast attemptsUses := by
  have ok : compile .standard .usual rankedYards = .ok rankedYardsPlan :=
    ok_of_is_ok _ _ (by decide +kernel)
  have added : attemptsLast.foldlM Requests.addSort ⟨[], []⟩ = .ok attemptsUses :=
    ok_of_is_ok _ _ (by decide +kernel)
  have laws := clauses_order_rows .standard .usual
  exact ⟨ok, laws.1 rankedYards rankedYardsPlan ok, by decide +kernel, by decide +kernel, added,
    laws.2 _ _ _ added⟩

end Plan

end StatTable
