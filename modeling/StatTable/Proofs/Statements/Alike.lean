import StatTable.Proofs.Lists
import StatTable.Statement

set_option autoImplicit false

namespace StatTable

inductive Outcomes {ε α β : Type} (R : α → β → Prop) : Except ε α → Except ε β → Prop where
  | error (e : ε) : Outcomes R (.error e) (.error e)
  | ok (a : α) (b : β) : R a b → Outcomes R (.ok a) (.ok b)

namespace Outcomes

variable {ε α β γ δ : Type}

theorem bind (R : α → β → Prop) (S : γ → δ → Prop) (one : Except ε α) (other : Except ε β)
    (next : α → Except ε γ) (further : β → Except ε δ) (first : Outcomes R one other)
    (each : ∀ a b, R a b → Outcomes S (next a) (further b)) :
    Outcomes S (one >>= next) (other >>= further) := by
  cases first with
  | error e => exact .error e
  | ok a b related => exact each a b related

theorem map (R : α → β → Prop) (S : γ → δ → Prop) (one : Except ε α) (other : Except ε β)
    (f : α → γ) (g : β → δ) (first : Outcomes R one other) (each : ∀ a b, R a b → S (f a) (g b)) :
    Outcomes S (one.map f) (other.map g) := by
  cases first with
  | error e => exact .error e
  | ok a b related => exact .ok _ _ (each a b related)

theorem map_m (R : α → β → Prop) (S : γ → δ → Prop) (f : α → Except ε γ) (g : β → Except ε δ)
    (each : ∀ a b, R a b → Outcomes S (f a) (g b)) (items : List α) (others : List β)
    (related : List.Forall₂ R items others) :
    Outcomes (List.Forall₂ S) (items.mapM f) (others.mapM g) := by
  induction related with
  | nil => exact .ok _ _ .nil
  | cons first _ ih =>
      rw [List.mapM_cons, List.mapM_cons]
      refine bind S _ _ _ _ _ (each _ _ first) fun c d head => ?_
      exact bind _ _ _ _ _ _ ih fun cs ds tail => .ok _ _ (.cons head tail)

theorem fold_m (R : α → β → Prop) (S : γ → δ → Prop) (f : γ → α → Except ε γ)
    (g : δ → β → Except ε δ)
    (step : ∀ c d a b, S c d → R a b → Outcomes S (f c a) (g d b)) (items : List α)
    (others : List β) (related : List.Forall₂ R items others) (start : γ) (start' : δ)
    (starts : S start start') : Outcomes S (items.foldlM f start) (others.foldlM g start') := by
  induction related generalizing start start' with
  | nil => exact .ok _ _ starts
  | cons first _ ih =>
      rw [List.foldlM_cons, List.foldlM_cons]
      exact bind S _ _ _ _ _ (step _ _ _ _ starts first) fun c d related => ih c d related

theorem itself (one : Except ε α) : Outcomes Eq one one := by
  cases one with
  | error e => exact .error e
  | ok a => exact .ok a a rfl

theorem same (one other : Except ε α) (outcomes : Outcomes Eq one other) : one = other := by
  cases outcomes with
  | error e => rfl
  | ok a b related => rw [related]

end Outcomes

namespace Plan

section

variable (defaults : Defaults) (splits : List Split)

structure AlikeRequests (one other : Request) : Prop where
  column : one.column = other.column
  rate : one.rate = other.rate
  place : one.place = other.place
  bound : bind defaults splits one = bind defaults splits other

structure AlikeSelects (one other : Select) : Prop where
  request : AlikeRequests defaults splits one.request other.request
  occurrence : one.occurrence = other.occurrence

structure AlikeFilters (one other : Filter) : Prop where
  request : AlikeRequests defaults splits one.request other.request
  operator : one.operator = other.operator
  operand : one.operand = other.operand

structure AlikeUses (one other : Requests) : Prop where
  selects : List.Forall₂ (AlikeSelects defaults splits) one.selects other.selects
  filters : List.Forall₂ (AlikeFilters defaults splits) one.filters other.filters

def SameUse (id : String) (params others : Params) : Prop :=
  ∀ place, Outcomes (AlikeRequests defaults splits) (Request.of id params place)
    (Request.of id others place)

structure AlikeColumns (one other : ColumnSpec) : Prop where
  id : one.id = other.id
  use : SameUse defaults splits one.id one.params other.params

structure AlikeFilterClauses (one other : FilterClause) : Prop where
  id : one.id = other.id
  operator : one.operator = other.operator
  operand : one.operand = other.operand
  use : SameUse defaults splits one.id one.params other.params

structure AlikeSortClauses (one other : SortClause) : Prop where
  id : one.id = other.id
  occurrence : one.occurrence = other.occurrence
  descending : one.descending = other.descending
  use : SameUse defaults splits one.id one.params other.params

-- The parameters of a request matter to its binding only by what they resolve to.
theorem bind_congr (one other : Request) (column : one.column = other.column)
    (resolved : ∀ relation, one.column.kind.relation? = some relation →
      resolve relation (commonSplits splits relation) defaults one.params =
        resolve relation (commonSplits splits relation) defaults other.params) :
    bind defaults splits one = bind defaults splits other := by
  unfold bind bindDirect
  rw [← column]
  cases kind : one.column.kind with
  | player source => rfl
  | materialized relation name =>
      dsimp only
      rw [resolved relation (by rw [kind]; rfl)]
  | fact relation aggregate =>
      dsimp only
      rw [resolved relation (by rw [kind]; rfl)]
  | market relation marketType name =>
      dsimp only
      rw [resolved relation (by rw [kind]; rfl)]

theorem same_use (id : String) (params others : Params)
    (rate : params.get? .rateType = others.get? .rateType)
    (resolved : ∀ column relation, Catalog.lookup id = some column →
      column.kind.relation? = some relation →
      resolve relation (commonSplits splits relation) defaults (params.erase .rateType) =
        resolve relation (commonSplits splits relation) defaults (others.erase .rateType)) :
    SameUse defaults splits id params others := by
  intro place
  unfold Request.of
  cases found : Catalog.lookup id with
  | none => exact .error _
  | some column =>
      have bound (rate : Option Rate) :
          AlikeRequests defaults splits ⟨column, params.erase .rateType, rate, place⟩
            ⟨column, others.erase .rateType, rate, place⟩ :=
        ⟨rfl, rfl, rfl, bind_congr defaults splits _ _ rfl fun relation =>
          resolved column relation found⟩
      dsimp only
      rw [rate]
      cases others.get? .rateType with
      | none => exact .ok _ _ (bound none)
      | some value =>
          exact Outcomes.map Eq _ _ _ _ _ (Outcomes.itself _) fun one other same =>
            same ▸ bound (some one)

theorem count_uses_alike (id : String) (one other : List Select)
    (alike : List.Forall₂ (AlikeSelects defaults splits) one other) :
    countUses id one = countUses id other := by
  unfold countUses
  induction alike with
  | nil => rfl
  | cons first _ ih =>
      rw [List.countP_cons, List.countP_cons, ih, Select.isUseOf, Select.isUseOf,
        first.request.column]

theorem find_use_alike (id : String) (occurrence : Nat) (one other : List Select)
    (alike : List.Forall₂ (AlikeSelects defaults splits) one other) :
    findUse? id occurrence one = findUse? id occurrence other := by
  unfold findUse?
  induction alike with
  | nil => rfl
  | cons first _ ih =>
      rw [List.findIdx?_cons, List.findIdx?_cons, ih, Select.isUseOf, Select.isUseOf,
        first.request.column, first.occurrence]

theorem add_select_alike (one other : Requests) (spec another : ColumnSpec)
    (alike : AlikeUses defaults splits one other)
    (specs : AlikeColumns defaults splits spec another) :
    Outcomes (AlikeUses defaults splits) (one.addSelect spec) (other.addSelect another) := by
  unfold Requests.addSelect
  rw [alike.selects.length_eq, alike.filters.length_eq, ← specs.id]
  refine Outcomes.bind _ _ _ _ _ _ (specs.use _) fun request further requests => .ok _ _ ?_
  refine ⟨List.rel_append alike.selects (.cons ⟨requests, ?_⟩ .nil), alike.filters⟩
  rw [requests.column, count_uses_alike defaults splits _ _ _ alike.selects]

theorem filter_of_alike (place : Nat) (clause another : FilterClause)
    (clauses : AlikeFilterClauses defaults splits clause another) :
    Outcomes (AlikeFilters defaults splits) (Filter.of clause place) (Filter.of another place) := by
  unfold Filter.of
  rw [← clauses.id]
  refine Outcomes.bind _ _ _ _ _ _ (clauses.use place) fun request further requests => ?_
  rw [requests.column, clauses.operator, clauses.operand]
  split
  · exact .ok _ _ ⟨requests, rfl, rfl⟩
  · exact .error _

theorem add_filter_alike (one other : Requests) (clause another : FilterClause)
    (alike : AlikeUses defaults splits one other)
    (clauses : AlikeFilterClauses defaults splits clause another) :
    Outcomes (AlikeUses defaults splits) (one.addFilter clause) (other.addFilter another) := by
  unfold Requests.addFilter
  rw [alike.selects.length_eq, alike.filters.length_eq]
  refine Outcomes.bind _ _ _ _ _ _ (filter_of_alike defaults splits _ _ _ clauses)
    fun filter further filters => .ok _ _ ?_
  exact ⟨alike.selects, List.rel_append alike.filters (.cons filters .nil)⟩

theorem add_sort_alike (one other : Requests) (clause another : SortClause)
    (alike : AlikeUses defaults splits one other)
    (clauses : AlikeSortClauses defaults splits clause another) :
    Outcomes (AlikeUses defaults splits) (one.addSort clause) (other.addSort another) := by
  unfold Requests.addSort
  rw [← clauses.id, ← clauses.occurrence,
    find_use_alike defaults splits clause.id clause.occurrence.toNat _ _ alike.selects,
    count_uses_alike defaults splits clause.id _ _ alike.selects]
  split
  · exact .ok _ _ alike
  · split
    · exact add_select_alike defaults splits one other _ _ alike ⟨rfl, clauses.use⟩
    · exact .error _

end

structure AlikeStates (defaults : Defaults) (one other : TableState) : Prop where
  leading : List.Forall₂ (AlikeColumns defaults (canonicalSplits one.splits)) one.leading
    other.leading
  columns : List.Forall₂ (AlikeColumns defaults (canonicalSplits one.splits)) one.columns
    other.columns
  filters : List.Forall₂ (AlikeFilterClauses defaults (canonicalSplits one.splits)) one.filters
    other.filters
  sorts : List.Forall₂ (AlikeSortClauses defaults (canonicalSplits one.splits)) one.sorts
    other.sorts
  splits : one.splits = other.splits
  offset : one.offset = other.offset
  limit : one.limit = other.limit

theorem of_state_alike (defaults : Defaults) (one other : TableState)
    (alike : AlikeStates defaults one other) :
    Outcomes (AlikeUses defaults (canonicalSplits one.splits)) (Requests.ofState one)
      (Requests.ofState other) := by
  unfold Requests.ofState
  refine Outcomes.bind _ _ _ _ _ _ (Outcomes.fold_m _ _ _ _ (add_select_alike _ _) _ _
    (List.rel_append alike.leading alike.columns) _ _ ⟨.nil, .nil⟩) fun selected further selects => ?_
  refine Outcomes.bind _ _ _ _ _ _ (Outcomes.fold_m _ _ _ _ (add_filter_alike _ _) _ _
    alike.filters _ _ selects) fun filtered others filters => ?_
  exact Outcomes.fold_m _ _ _ _ (add_sort_alike _ _) _ _ alike.sorts _ _ filters

section

variable (defaults : Defaults) (splits : List Split)

structure AlikeBoundSelects (one other : BoundSelect) : Prop where
  select : AlikeSelects defaults splits one.select other.select
  binding : one.binding = other.binding

structure AlikeBoundFilters (one other : BoundFilter) : Prop where
  filter : AlikeFilters defaults splits one.filter other.filter
  binding : one.binding = other.binding

structure AlikeBindings (one other : Bindings) : Prop where
  selects : List.Forall₂ (AlikeBoundSelects defaults splits) one.selects other.selects
  filters : List.Forall₂ (AlikeBoundFilters defaults splits) one.filters other.filters

theorem bind_alike (one other : Request) (alike : AlikeRequests defaults splits one other) :
    Outcomes Eq (bind defaults splits one) (bind defaults splits other) := by
  rw [alike.bound]
  exact Outcomes.itself _

theorem bindings_alike (one other : Requests) (alike : AlikeUses defaults splits one other) :
    Outcomes (AlikeBindings defaults splits) (Bindings.of defaults splits one)
      (Bindings.of defaults splits other) := by
  unfold Bindings.of
  refine Outcomes.bind (List.Forall₂ (AlikeBoundSelects defaults splits)) _ _ _ _ _
    (Outcomes.map_m _ _ _ _ (fun select another selects => ?_) _ _ alike.selects)
    fun selects others related => ?_
  · exact Outcomes.map _ _ _ _ _ _ (bind_alike _ _ _ _ selects.request)
      fun binding further same => ⟨selects, same⟩
  refine Outcomes.bind (List.Forall₂ (AlikeBoundFilters defaults splits)) _ _ _ _ _
    (Outcomes.map_m _ _ _ _ (fun filter another filters => ?_) _ _ alike.filters)
    fun filters further held => .ok _ _ ⟨related, held⟩
  exact Outcomes.map _ _ _ _ _ _ (bind_alike _ _ _ _ filters.request)
    fun binding further same => ⟨filters, same⟩

theorem place_target_alike (table : GroupTable) (binding : Binding) (one other : Request)
    (alike : AlikeRequests defaults splits one other) :
    table.placeTarget binding one = table.placeTarget binding other := by
  unfold GroupTable.placeTarget
  rw [alike.place]

theorem place_select_alike (table : GroupTable) (one other : BoundSelect)
    (alike : AlikeBoundSelects defaults splits one other) :
    table.placeSelect one = table.placeSelect other := by
  have request := alike.select.request
  unfold GroupTable.placeSelect
  dsimp only
  rw [alike.binding, request.rate, place_target_alike defaults splits table _ _ _ request]

theorem early_alike (one other : BoundFilter)
    (alike : AlikeBoundFilters defaults splits one other) : one.isEarly = other.isEarly := by
  unfold BoundFilter.isEarly
  rw [alike.binding, alike.filter.request.rate, alike.filter.operator]

theorem place_condition_alike (table : GroupTable) (one other : BoundFilter)
    (alike : AlikeBoundFilters defaults splits one other) :
    table.placeCondition one = table.placeCondition other := by
  unfold GroupTable.placeCondition
  rw [alike.binding, alike.filter.request.rate, alike.filter.operator, alike.filter.operand,
    early_alike defaults splits one other alike]

theorem place_filter_alike (table : GroupTable) (one other : BoundFilter)
    (alike : AlikeBoundFilters defaults splits one other) :
    table.placeFilter one = table.placeFilter other := by
  unfold GroupTable.placeFilter BoundFilter.restricts
  rw [alike.binding, alike.filter.operator,
    place_target_alike defaults splits table _ _ _ alike.filter.request,
    place_condition_alike defaults splits _ one other alike]

theorem table_alike (one other : Bindings) (alike : AlikeBindings defaults splits one other) :
    one.table = other.table := by
  unfold Bindings.table
  rw [fold_alike _ _ _ (place_select_alike defaults splits) _ _ alike.selects,
    fold_alike _ _ _ (place_filter_alike defaults splits) _ _ alike.filters]

theorem output_alike (table : GroupTable) (one other : BoundSelect)
    (alike : AlikeBoundSelects defaults splits one other) :
    columnOutput table one = columnOutput table other := by
  simp only [columnOutput, Select.name, BoundSelect.value, alike.binding, alike.select.occurrence,
    alike.select.request.column, alike.select.request.rate]

theorem condition_alike (table : GroupTable) (one other : BoundFilter)
    (alike : AlikeBoundFilters defaults splits one other) :
    one.condition? table = other.condition? table := by
  simp only [BoundFilter.condition?, early_alike defaults splits one other alike, alike.binding,
    alike.filter.request.rate, alike.filter.operator, alike.filter.operand]

theorem order_alike (sorts others : List SortClause)
    (clauses : List.Forall₂ (AlikeSortClauses defaults splits) sorts others)
    (one other : List Select) (alike : List.Forall₂ (AlikeSelects defaults splits) one other)
    (leading : Nat) : orderTerms sorts one leading = orderTerms others other leading := by
  have terms : sorts.mapM (sortTerm one leading) = others.mapM (sortTerm other leading) := by
    induction clauses with
    | nil => rfl
    | cons first _ ih =>
        rw [List.mapM_cons, List.mapM_cons, ih]
        simp only [sortTerm, first.id, first.occurrence, first.descending,
          find_use_alike defaults splits _ _ one other alike]
  unfold orderTerms
  rw [terms]

end

theorem compile_alike (defaults : Defaults) (limits : Limits) (one other : TableState)
    (alike : AlikeStates defaults one other) :
    compile defaults limits one = compile defaults limits other := by
  refine Outcomes.same _ _ ?_
  unfold compile
  refine Outcomes.bind _ _ _ _ _ _ (of_state_alike defaults one other alike)
    fun requests others uses => ?_
  dsimp only
  rw [← alike.splits]
  refine Outcomes.bind _ _ _ _ _ _ (bindings_alike defaults _ _ _ uses)
    fun bindings further bound => ?_
  have table := table_alike defaults _ bindings further bound
  have outputs := map_related _ _ _ _ _ bound.selects fun a b _ alike =>
    (output_alike defaults _ further.table a b alike).symm
  have conditions := filter_map_related _ _ _ _ _ bound.filters fun a _ b _ alike =>
    condition_alike defaults _ further.table a b alike
  have order := order_alike defaults _ one.sorts other.sorts alike.sorts _ _ uses.selects
  simp only [table, outputs, conditions, order, alike.offset, alike.limit]
  exact Outcomes.itself _

end Plan

end StatTable
