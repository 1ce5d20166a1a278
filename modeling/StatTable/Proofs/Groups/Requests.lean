import StatTable.Plan.Compile
import StatTable.Proofs.Fallible

set_option autoImplicit false

namespace StatTable

def rateOf (params : Params) : Option Rate :=
  (params.get? .rateType).bind fun value =>
    (value.toScalar?.bind Scalar.toText?).bind fun name => (Rate.parse name).toOption

namespace TableState

def showMissing (specs : List ColumnSpec) (clause : SortClause) : List ColumnSpec :=
  if specs.any (·.id == clause.id) then specs else specs ++ [⟨clause.id, clause.params⟩]

def shown (state : TableState) : List ColumnSpec :=
  state.sorts.foldl showMissing (state.leading ++ state.columns)

end TableState

namespace Plan

structure Asks (id : String) (params : Params) (request : Request) : Prop where
  column : Catalog.lookup id = some request.column
  others : request.params = params.erase .rateType
  rate : request.rate = rateOf params
  supported : ∀ rate, request.rate = some rate → request.column.supportsRate rate = true

theorem read_rate_ok (column : Column) (value : ParamValue) (rate : Rate)
    (ok : readRate column value = .ok rate) : column.supportsRate rate = true ∧
      ((value.toScalar?.bind Scalar.toText?).bind fun name => (Rate.parse name).toOption) =
        some rate := by
  unfold readRate at ok
  cases text : value.toScalar?.bind Scalar.toText? with
  | none => simp [text] at ok
  | some name =>
      simp only [text] at ok
      cases parsed : Rate.parse name with
      | error unknown => simp [parsed] at ok
      | ok found =>
          by_cases supported : column.supportsRate found = true
          · have same : found = rate := by simpa [parsed, supported] using ok
            subst same
            exact ⟨supported, by simp [parsed, Except.toOption]⟩
          · simp [parsed, supported] at ok

theorem request_asks (id : String) (params : Params) (place : Nat) (request : Request)
    (ok : Request.of id params place = .ok request) : Asks id params request := by
  unfold Request.of at ok
  cases found : Catalog.lookup id with
  | none => simp [found] at ok
  | some column =>
      simp only [found] at ok
      cases named : params.get? .rateType with
      | none =>
          have same : (⟨column, params.erase .rateType, none, place⟩ : Request) = request := by
            simpa [named] using ok
          subst same
          exact ⟨found, rfl, by simp [rateOf, named], by simp⟩
      | some value =>
          simp only [named] at ok
          obtain ⟨rate, read, same⟩ := (map_ok _ _ _).mp ok
          subst same
          obtain ⟨supported, parsed⟩ := read_rate_ok column value rate read
          exact ⟨found, rfl, by simp [rateOf, named, parsed], by simp [supported]⟩

theorem request_anywhere (id : String) (params : Params) (place : Nat) :
    Request.of id params place =
      (Request.of id params 0).map fun request => { request with place := place } := by
  unfold Request.of
  cases Catalog.lookup id with
  | none => rfl
  | some column =>
      dsimp only
      cases params.get? .rateType with
      | none => rfl
      | some value =>
          dsimp only
          cases readRate column value <;> rfl

theorem request_placed (id : String) (params : Params) (place : Nat) (request : Request)
    (ok : Request.of id params place = .ok request) : request.place = place := by
  rw [request_anywhere, map_ok] at ok
  obtain ⟨_, _, rfl⟩ := ok
  rfl

def Shows (spec : ColumnSpec) (select : Select) : Prop :=
  Asks spec.id spec.params select.request

structure FilterAsks (clause : FilterClause) (filter : Filter) : Prop where
  asks : Asks clause.id clause.params filter.request
  operator : filter.operator = clause.operator
  operand : filter.operand = clause.operand

theorem filter_asks (clause : FilterClause) (place : Nat) (filter : Filter)
    (ok : Filter.of clause place = .ok filter) : FilterAsks clause filter := by
  obtain ⟨request, read, ok⟩ := (bind_ok _ _ _).mp ok
  split at ok
  · rw [← Except.ok.inj ok]
    exact ⟨request_asks _ _ place request read, rfl, rfl⟩
  · simp at ok

theorem lookup_id (id : String) (column : Column) (found : Catalog.lookup id = some column) :
    column.id = id := by
  simpa using List.find?_some found

structure Collects (specs : List ColumnSpec) (clauses : List FilterClause) (requests : Requests) :
    Prop where
  selects : List.Forall₂ Shows specs requests.selects
  filters : List.Forall₂ FilterAsks clauses requests.filters

theorem add_select_collects (specs : List ColumnSpec) (clauses : List FilterClause)
    (requests added : Requests) (spec : ColumnSpec) (collects : Collects specs clauses requests)
    (ok : requests.addSelect spec = .ok added) : Collects (specs ++ [spec]) clauses added := by
  obtain ⟨request, read, ok⟩ := (bind_ok _ _ _).mp ok
  rw [← Except.ok.inj ok]
  refine ⟨List.rel_append collects.selects (.cons ?_ .nil), collects.filters⟩
  exact request_asks _ _ _ request read

theorem add_filter_collects (specs : List ColumnSpec) (clauses : List FilterClause)
    (requests added : Requests) (clause : FilterClause) (collects : Collects specs clauses requests)
    (ok : requests.addFilter clause = .ok added) : Collects specs (clauses ++ [clause]) added := by
  obtain ⟨filter, read, ok⟩ := (bind_ok _ _ _).mp ok
  rw [← Except.ok.inj ok]
  exact ⟨collects.selects,
    List.rel_append collects.filters (.cons (filter_asks clause _ filter read) .nil)⟩

theorem uses_some (specs : List ColumnSpec) (selects : List Select) (id : String)
    (shows : List.Forall₂ Shows specs selects) :
    selects.any (·.isUseOf id) = specs.any (·.id == id) := by
  induction shows with
  | nil => rfl
  | cons first _ ih =>
      rw [List.any_cons, List.any_cons, ih, Select.isUseOf, lookup_id _ _ first.column]

theorem add_sort_collects (specs : List ColumnSpec) (clauses : List FilterClause)
    (requests added : Requests) (clause : SortClause) (collects : Collects specs clauses requests)
    (ok : requests.addSort clause = .ok added) :
    Collects (TableState.showMissing specs clause) clauses added := by
  have named := uses_some specs requests.selects clause.id collects.selects
  unfold Requests.addSort at ok
  unfold TableState.showMissing
  cases found : findUse? clause.id clause.occurrence.toNat requests.selects with
  | some index =>
      have present : requests.selects.any (·.isUseOf clause.id) = true := by
        obtain ⟨bound, hit, _⟩ := List.findIdx?_eq_some_iff_getElem.mp found
        exact List.any_eq_true.mpr ⟨_, List.getElem_mem bound, (Bool.and_eq_true_iff.mp hit).1⟩
      simp only [found] at ok
      rw [if_pos (named ▸ present), ← Except.ok.inj ok]
      exact collects
  | none =>
      simp only [found] at ok
      split at ok
      · rename_i fresh
        have absent : ¬ specs.any (·.id == clause.id) = true := by
          rw [← named, List.any_eq_true]
          rintro ⟨select, member, use⟩
          exact absurd fresh.2 (Nat.ne_of_gt (List.countP_pos_iff.mpr ⟨select, member, use⟩))
        rw [if_neg absent]
        exact add_select_collects specs clauses requests added _ collects ok
      · simp at ok

theorem fold_collects {α β : Type} (add : Requests → α → Except CompileError Requests)
    (step : β → α → β) (Holds : β → Requests → Prop)
    (preserves : ∀ b requests a added, Holds b requests → add requests a = .ok added →
      Holds (step b a) added)
    (items : List α) (b : β) (requests final : Requests) (start : Holds b requests)
    (ok : items.foldlM add requests = .ok final) : Holds (items.foldl step b) final := by
  induction items generalizing b requests with
  | nil =>
      have same : requests = final := by simpa [pure, Except.pure] using ok
      exact same ▸ start
  | cons item rest ih =>
      rw [List.foldlM_cons] at ok
      obtain ⟨added, first, ok⟩ := (bind_ok _ _ _).mp ok
      exact ih (step b item) added (preserves b requests item added start first) ok

theorem of_state_collects (state : TableState) (requests : Requests)
    (ok : Requests.ofState state = .ok requests) : Collects state.shown state.filters requests := by
  obtain ⟨selected, selectsOk, ok⟩ := (bind_ok _ _ _).mp ok
  obtain ⟨filtered, filtersOk, sortsOk⟩ := (bind_ok _ _ _).mp ok
  have afterSelects := fold_collects _ (fun done spec => done ++ [spec])
    (fun specs => Collects specs []) (fun specs requests spec added =>
      add_select_collects specs [] requests added spec) _ [] ⟨[], []⟩ selected ⟨.nil, .nil⟩ selectsOk
  rw [fold_append, List.nil_append] at afterSelects
  have afterFilters := fold_collects _ (fun done clause => done ++ [clause])
    (Collects (state.leading ++ state.columns)) (fun clauses requests clause added =>
      add_filter_collects _ clauses requests added clause) _ [] selected filtered afterSelects filtersOk
  rw [fold_append, List.nil_append] at afterFilters
  exact fold_collects _ TableState.showMissing (fun specs => Collects specs state.filters)
    (fun specs requests clause added => add_sort_collects specs state.filters requests added clause)
    _ _ filtered requests afterFilters sortsOk

end Plan

end StatTable
