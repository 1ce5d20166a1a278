import StatTable.Proofs.Outputs.Ordering
import StatTable.Proofs.Statements.Alike

set_option autoImplicit false

namespace StatTable

def Yields {ε α : Type} (P : α → Prop) (result : Except ε α) : Prop := ∃ a, result = .ok a ∧ P a

section

variable {ε α β : Type} (P : β → Prop)

theorem yields_pure (b : β) : Yields P (pure b : Except ε β) ↔ P b := by
  simp [Yields, pure, Except.pure]

theorem yields_error (error : ε) : ¬ Yields P (.error error : Except ε β) := by
  simp [Yields]

theorem yields_bind (result : Except ε α) (next : α → Except ε β) :
    Yields P (result >>= next) ↔ Yields (fun a => Yields P (next a)) result := by
  constructor
  · rintro ⟨b, ok, holds⟩
    obtain ⟨a, first, further⟩ := (bind_ok _ _ _).mp ok
    exact ⟨a, first, b, further, holds⟩
  · rintro ⟨a, first, b, further, holds⟩
    exact ⟨b, (bind_ok _ _ _).mpr ⟨a, first, further⟩, holds⟩

theorem yields_map (result : Except ε α) (f : α → β) :
    Yields P (result.map f) ↔ Yields (fun a => P (f a)) result := by
  cases result <;> simp [Yields, Except.map]

theorem yields_congr (Q : β → Prop) (result : Except ε β)
    (same : ∀ b, result = .ok b → (P b ↔ Q b)) : Yields P result ↔ Yields Q result :=
  exists_congr fun b => and_congr_right (same b)

theorem yields_and (Q : Prop) (result : Except ε β) :
    Yields (fun b => P b ∧ Q) result ↔ Yields P result ∧ Q := by
  constructor
  · rintro ⟨b, ok, holds, rest⟩
    exact ⟨⟨b, ok, holds⟩, rest⟩
  · rintro ⟨⟨b, ok, holds⟩, rest⟩
    exact ⟨b, ok, holds, rest⟩

-- Where what an item asks for does not depend on the items before it, neither does a whole run.
theorem yields_fold (add : β → α → Except ε β) (Good : α → Prop)
    (step : ∀ held item, Yields P (add held item) ↔ P held ∧ Good item) (items : List α) (start : β) :
    Yields P (items.foldlM add start) ↔ P start ∧ ∀ item ∈ items, Good item := by
  induction items generalizing start with
  | nil => simpa using yields_pure P start
  | cons item rest ih =>
      rw [List.foldlM_cons, yields_bind]
      simp only [ih]
      rw [yields_and, step, List.forall_mem_cons, and_assoc]

end

namespace TableState

def onlyColumn (state : TableState) (spec : ColumnSpec) : TableState :=
  { TableState.empty with columns := [spec], splits := state.splits }

def onlyFilter (state : TableState) (clause : FilterClause) : TableState :=
  { TableState.empty with filters := [clause], splits := state.splits }

end TableState

namespace Plan

def Compiles (defaults : Defaults) (limits : Limits) (state : TableState) : Prop :=
  ∃ plan, compile defaults limits state = .ok plan

-- A clause of the order names a use of a column that is asked for, or the first use of one that is
-- not; that use has the parameters of the first clause that names the column.
inductive OrdersAlone (defaults : Defaults) (limits : Limits) (state : TableState)
    (clause : SortClause) : Prop
  | listed (counted : clause.occurrence.toNat < state.listed.countP (·.id == clause.id))
  | unlisted (first : SortClause) (zero : clause.occurrence = 0)
      (absent : ∀ spec ∈ state.listed, spec.id ≠ clause.id)
      (found : state.sorts.find? (·.id == clause.id) = some first)
      (compiles : Compiles defaults limits (state.onlyColumn ⟨first.id, first.params⟩))

structure EachAlone (defaults : Defaults) (limits : Limits) (state : TableState) : Prop where
  columns : ∀ spec ∈ state.listed, Compiles defaults limits (state.onlyColumn spec)
  filters : ∀ clause ∈ state.filters, Compiles defaults limits (state.onlyFilter clause)
  sorts : ∀ clause ∈ state.sorts, OrdersAlone defaults limits state clause

section

variable (defaults : Defaults) (splits : List Split)

def Served (request : Request) : Prop := ∃ binding, bind defaults splits request = .ok binding

structure Ready (requests : Requests) : Prop where
  selects : ∀ select ∈ requests.selects, Served defaults splits select.request
  filters : ∀ filter ∈ requests.filters, Served defaults splits filter.request

def ColumnWorks (spec : ColumnSpec) : Prop :=
  Yields (Served defaults splits) (Request.of spec.id spec.params 0)

def FilterWorks (clause : FilterClause) : Prop :=
  Yields (fun filter => Served defaults splits filter.request) (Filter.of clause 0)

theorem served_anywhere (request : Request) (place : Nat) :
    Served defaults splits { request with place := place } ↔ Served defaults splits request := by
  rw [Served, Served, bind_congr defaults splits { request with place := place } request rfl
    fun _ _ => rfl]

theorem column_anywhere (spec : ColumnSpec) (place : Nat) :
    Yields (Served defaults splits) (Request.of spec.id spec.params place) ↔
      ColumnWorks defaults splits spec := by
  rw [request_anywhere, yields_map]
  simp only [served_anywhere]
  rfl

theorem filter_anywhere (clause : FilterClause) (place : Nat) :
    Yields (fun filter => Served defaults splits filter.request) (Filter.of clause place) ↔
      FilterWorks defaults splits clause := by
  unfold FilterWorks Filter.of
  rw [yields_bind, yields_bind, request_anywhere, yields_map]
  refine yields_congr _ _ _ fun request _ => ?_
  dsimp only
  split
  · rw [yields_pure, yields_pure]
    exact served_anywhere defaults splits request place
  · rfl

theorem ready_select (requests : Requests) (select : Select) :
    Ready defaults splits { requests with selects := requests.selects ++ [select] } ↔
      Served defaults splits select.request ∧ Ready defaults splits requests := by
  constructor
  · rintro ⟨selects, filters⟩
    rw [List.forall_mem_append, List.forall_mem_singleton] at selects
    exact ⟨selects.2, selects.1, filters⟩
  · rintro ⟨served, selects, filters⟩
    exact ⟨List.forall_mem_append.mpr ⟨selects, List.forall_mem_singleton.mpr served⟩, filters⟩

theorem ready_filter (requests : Requests) (filter : Filter) :
    Ready defaults splits { requests with filters := requests.filters ++ [filter] } ↔
      Served defaults splits filter.request ∧ Ready defaults splits requests := by
  constructor
  · rintro ⟨selects, filters⟩
    rw [List.forall_mem_append, List.forall_mem_singleton] at filters
    exact ⟨filters.2, selects, filters.1⟩
  · rintro ⟨served, selects, filters⟩
    exact ⟨selects, List.forall_mem_append.mpr ⟨filters, List.forall_mem_singleton.mpr served⟩⟩

theorem add_select_ready (requests : Requests) (spec : ColumnSpec) :
    Yields (Ready defaults splits) (requests.addSelect spec) ↔
      Ready defaults splits requests ∧ ColumnWorks defaults splits spec := by
  unfold Requests.addSelect
  rw [← column_anywhere defaults splits spec (requests.selects.length + requests.filters.length),
    yields_bind, and_comm, ← yields_and]
  refine yields_congr _ _ _ fun request _ => ?_
  exact (yields_pure _ _).trans (ready_select defaults splits requests ⟨request, _⟩)

theorem add_filter_ready (requests : Requests) (clause : FilterClause) :
    Yields (Ready defaults splits) (requests.addFilter clause) ↔
      Ready defaults splits requests ∧ FilterWorks defaults splits clause := by
  unfold Requests.addFilter
  rw [← filter_anywhere defaults splits clause (requests.selects.length + requests.filters.length),
    yields_bind, and_comm, ← yields_and]
  refine yields_congr _ _ _ fun filter _ => ?_
  exact (yields_pure _ _).trans (ready_filter defaults splits requests filter)

inductive SortWorks (ids : List String) (sorts : List SortClause) (clause : SortClause) : Prop
  | listed (counted : clause.occurrence.toNat < ids.count clause.id)
  | unlisted (first : SortClause) (zero : clause.occurrence = 0) (absent : clause.id ∉ ids)
      (found : sorts.find? (·.id == clause.id) = some first)
      (works : ColumnWorks defaults splits ⟨first.id, first.params⟩)

end

theorem use_found_iff (selects : List Select) (held : Numbered selects) (id : String)
    (occurrence : Nat) : (findUse? id occurrence selects).isSome ↔
      occurrence < (selectIds selects).count id := by
  rw [find_use_kinds, List.findIdx?_isSome, held, ← List.mem_range, ← numbered_occurrences,
    List.any_eq_true, List.mem_filterMap]
  constructor
  · rintro ⟨kind, member, same⟩
    obtain rfl := beq_iff_eq.mp same
    exact ⟨_, member, if_pos rfl⟩
  · rintro ⟨kind, member, own⟩
    refine ⟨kind, member, beq_iff_eq.mpr ?_⟩
    cases kind with
    | entity => cases own
    | split => cases own
    | column other number =>
        rw [OutputKind.occurrenceOf?] at own
        split at own
        · rename_i same
          rw [same, Option.some.inj own]
        · cases own

section

variable (defaults : Defaults) (splits : List Split)

theorem add_sort_listed (requests : Requests) (held : Numbered requests.selects)
    (clause : SortClause)
    (counted : clause.occurrence.toNat < (selectIds requests.selects).count clause.id) :
    requests.addSort clause = .ok requests := by
  obtain ⟨index, found⟩ := Option.isSome_iff_exists.mp
    ((use_found_iff requests.selects held clause.id clause.occurrence.toNat).mpr counted)
  rw [Requests.addSort, found]

theorem add_sort_unlisted (requests : Requests) (held : Numbered requests.selects)
    (clause : SortClause)
    (beyond : ¬ clause.occurrence.toNat < (selectIds requests.selects).count clause.id) :
    requests.addSort clause =
      if clause.occurrence = 0 ∧ clause.id ∉ selectIds requests.selects then
        requests.addSelect ⟨clause.id, clause.params⟩
      else .error (.unknownSortOccurrence clause.id clause.occurrence) := by
  have missing : findUse? clause.id clause.occurrence.toNat requests.selects = none :=
    Option.not_isSome_iff_eq_none.mp ((use_found_iff _ held _ _).not.mpr beyond)
  simp only [Requests.addSort, missing, count_uses_ids, List.count_eq_zero]

theorem add_select_ids (requests added : Requests) (spec : ColumnSpec)
    (ok : requests.addSelect spec = .ok added) :
    selectIds added.selects = selectIds requests.selects ++ [spec.id] := by
  obtain ⟨request, asks, rfl⟩ := add_select_ok requests added spec ok
  rw [selectIds, List.map_append, List.map_singleton, lookup_id _ _ asks.column]
  rfl

variable {ids : List String} {sorts : List SortClause} {clause other : SortClause}

theorem sort_works_known (known : clause.id ∈ ids) :
    SortWorks defaults splits ids sorts other ↔
      SortWorks defaults splits ids (clause :: sorts) other := by
  have skipped (absent : other.id ∉ ids) :
      (clause :: sorts).find? (·.id == other.id) = sorts.find? (·.id == other.id) :=
    List.find?_cons_of_neg fun same => absent (beq_iff_eq.mp same ▸ known)
  constructor
  · rintro (counted | ⟨first, zero, absent, found, works⟩)
    · exact .listed counted
    · exact .unlisted first zero absent ((skipped absent).trans found) works
  · rintro (counted | ⟨first, zero, absent, found, works⟩)
    · exact .listed counted
    · exact .unlisted first zero absent ((skipped absent).symm.trans found) works

theorem sort_works_added (unlisted : clause.id ∉ ids)
    (works : ColumnWorks defaults splits ⟨clause.id, clause.params⟩) :
    SortWorks defaults splits (ids ++ [clause.id]) sorts other ↔
      SortWorks defaults splits ids (clause :: sorts) other := by
  by_cases same : clause.id = other.id
  · have once : (ids ++ [clause.id]).count other.id = 1 := by
      rw [← same, List.count_append, List.count_eq_zero.mpr unlisted, List.count_singleton_self]
    have none : ids.count other.id = 0 := List.count_eq_zero.mpr (same ▸ unlisted)
    constructor
    · rintro (counted | ⟨_, _, absent, _⟩)
      · have zero : other.occurrence = 0 := UInt64.toNat_inj.mp (Nat.lt_one_iff.mp (once ▸ counted))
        exact .unlisted clause zero (same ▸ unlisted) (List.find?_cons_of_pos (beq_iff_eq.mpr same))
          works
      · exact absurd (by simp [same]) absent
    · rintro (counted | ⟨_, zero, _⟩)
      · exact absurd (none ▸ counted) (Nat.not_lt_zero _)
      · refine .listed ?_
        rw [once, zero]
        exact Nat.one_pos
  · have count : (ids ++ [clause.id]).count other.id = ids.count other.id := by
      rw [List.count_append, List.count_singleton, if_neg (by simpa using same), Nat.add_zero]
    have listed : other.id ∈ ids ++ [clause.id] ↔ other.id ∈ ids := by
      simp [Ne.symm same]
    have skipped : (clause :: sorts).find? (·.id == other.id) = sorts.find? (·.id == other.id) :=
      List.find?_cons_of_neg fun equal => same (beq_iff_eq.mp equal)
    constructor
    · rintro (counted | ⟨first, zero, absent, found, works⟩)
      · exact .listed (count ▸ counted)
      · exact .unlisted first zero (listed.not.mp absent) (skipped.trans found) works
    · rintro (counted | ⟨first, zero, absent, found, works⟩)
      · exact .listed (count.symm ▸ counted)
      · exact .unlisted first zero (listed.not.mpr absent) (skipped.symm.trans found) works

theorem first_sort_works (beyond : ¬ clause.occurrence.toNat < ids.count clause.id) :
    SortWorks defaults splits ids (clause :: sorts) clause ↔
      (clause.occurrence = 0 ∧ clause.id ∉ ids) ∧
        ColumnWorks defaults splits ⟨clause.id, clause.params⟩ := by
  have own : (clause :: sorts).find? (·.id == clause.id) = some clause :=
    List.find?_cons_of_pos (beq_self_eq_true clause.id)
  constructor
  · rintro (counted | ⟨first, zero, absent, found, works⟩)
    · exact absurd counted beyond
    · obtain rfl := Option.some.inj (own.symm.trans found)
      exact ⟨⟨zero, absent⟩, works⟩
  · rintro ⟨⟨zero, absent⟩, works⟩
    exact .unlisted clause zero absent own works

theorem sorts_ready (sorts : List SortClause) (requests : Requests)
    (held : Numbered requests.selects) :
    Yields (Ready defaults splits) (sorts.foldlM Requests.addSort requests) ↔
      Ready defaults splits requests ∧
        ∀ clause ∈ sorts, SortWorks defaults splits (selectIds requests.selects) sorts clause := by
  induction sorts generalizing requests with
  | nil => simpa using yields_pure (Ready defaults splits) requests
  | cons clause rest ih =>
      rw [List.foldlM_cons, yields_bind, List.forall_mem_cons]
      by_cases counted : clause.occurrence.toNat < (selectIds requests.selects).count clause.id
      · have known : clause.id ∈ selectIds requests.selects :=
          List.count_pos_iff.mp (Nat.zero_lt_of_lt counted)
        rw [add_sort_listed requests held clause counted]
        refine (yields_pure _ requests).trans ((ih requests held).trans (and_congr_right fun _ => ?_))
        rw [and_iff_right (SortWorks.listed counted)]
        exact forall₂_congr fun other _ => sort_works_known defaults splits known
      · rw [add_sort_unlisted requests held clause counted, first_sort_works defaults splits counted]
        by_cases fresh : clause.occurrence = 0 ∧ clause.id ∉ selectIds requests.selects
        · rw [if_pos fresh]
          have after (added : Requests) (ok : requests.addSelect ⟨clause.id, clause.params⟩ = .ok added) :
              Yields (Ready defaults splits) (rest.foldlM Requests.addSort added) ↔
                Ready defaults splits added ∧ ∀ other ∈ rest, SortWorks defaults splits
                  (selectIds requests.selects ++ [clause.id]) rest other := by
            rw [ih added (add_select_numbered _ _ _ ok held), add_select_ids _ _ _ ok]
          rw [yields_congr _ _ _ after, yields_and, add_select_ready, and_assoc]
          refine and_congr_right fun _ => ?_
          rw [and_iff_right fresh]
          exact and_congr_right fun works => forall₂_congr fun other _ =>
            sort_works_added defaults splits fresh.2 works
        · rw [if_neg fresh]
          exact iff_of_false (yields_error _ _) fun both => fresh both.2.1.1

theorem bare_ready (state : TableState) :
    Yields (Ready defaults splits) (Requests.ofState { state with sorts := [] }) ↔
      (∀ spec ∈ state.listed, ColumnWorks defaults splits spec) ∧
        ∀ clause ∈ state.filters, FilterWorks defaults splits clause := by
  have filters (selected : Requests) : Yields (Ready defaults splits)
      (state.filters.foldlM Requests.addFilter selected >>= pure) ↔
        Ready defaults splits selected ∧
          ∀ clause ∈ state.filters, FilterWorks defaults splits clause := by
    rw [bind_pure]
    exact yields_fold _ _ _ (add_filter_ready defaults splits) state.filters selected
  have selects := yields_fold _ _ _ (add_select_ready defaults splits) state.listed ⟨[], []⟩
  have start : Ready defaults splits ⟨[], []⟩ := ⟨by simp, by simp⟩
  rw [and_iff_right start] at selects
  rw [← selects, ← yields_and]
  exact (yields_bind _ _ _).trans (yields_congr _ _ _ fun selected _ => filters selected)

theorem of_state_ready (state : TableState) :
    Yields (Ready defaults splits) (Requests.ofState state) ↔
      ((∀ spec ∈ state.listed, ColumnWorks defaults splits spec) ∧
        ∀ clause ∈ state.filters, FilterWorks defaults splits clause) ∧
      ∀ clause ∈ state.sorts,
        SortWorks defaults splits (state.listed.map (·.id)) state.sorts clause := by
  have whole : Requests.ofState state =
      Requests.ofState { state with sorts := [] } >>= state.sorts.foldlM Requests.addSort :=
    of_state_more { state with sorts := [] } state.sorts
  rw [whole, yields_bind, ← bare_ready, ← yields_and]
  refine yields_congr _ _ _ fun bare ok => ?_
  rw [sorts_ready defaults splits state.sorts bare (of_state_numbered _ _ ok),
    shows_ids _ _ (of_state_collects _ _ ok).selects]
  rfl

theorem ready_iff_bound (requests : Requests) : Ready defaults splits requests ↔
    ∃ bindings, Bindings.of defaults splits requests = .ok bindings := by
  constructor
  · intro ready
    have selects (select : Select) (member : select ∈ requests.selects) : ∃ bound,
        ((bind defaults splits select.request).map fun binding =>
          (⟨select, binding⟩ : BoundSelect)) = .ok bound := by
      obtain ⟨binding, found⟩ := ready.selects select member
      exact ⟨_, (map_ok _ _ _).mpr ⟨binding, found, rfl⟩⟩
    have filters (filter : Filter) (member : filter ∈ requests.filters) : ∃ bound,
        ((bind defaults splits filter.request).map fun binding =>
          (⟨filter, binding⟩ : BoundFilter)) = .ok bound := by
      obtain ⟨binding, found⟩ := ready.filters filter member
      exact ⟨_, (map_ok _ _ _).mpr ⟨binding, found, rfl⟩⟩
    obtain ⟨boundSelects, selectsOk⟩ := map_m_each _ _ selects
    obtain ⟨boundFilters, filtersOk⟩ := map_m_each _ _ filters
    exact ⟨_, (bind_ok _ _ _).mpr ⟨boundSelects, selectsOk,
      (bind_ok _ _ _).mpr ⟨boundFilters, filtersOk, rfl⟩⟩⟩
  · rintro ⟨bindings, ok⟩
    have binds := (bindings_of_ok defaults splits requests bindings).mp ok
    constructor
    · intro select member
      obtain ⟨bound, _, _, found⟩ := forall_left _ _ _ binds.selects select member
      exact ⟨bound.binding, found⟩
    · intro filter member
      obtain ⟨bound, _, _, found⟩ := forall_left _ _ _ binds.filters filter member
      exact ⟨bound.binding, found⟩

end

section

variable (defaults : Defaults) (limits : Limits) (state : TableState)

-- Only finding the uses and their rows can fail: no group refuses a use, and every clause of the
-- order has its use by then.
theorem compiles_iff_ready : Compiles defaults limits state ↔
    Yields (Ready defaults (canonicalSplits state.splits)) (Requests.ofState state) := by
  constructor
  · rintro ⟨plan, ok⟩
    obtain ⟨requests, collected, _⟩ := (bind_ok _ _ _).mp ok
    obtain ⟨bindings, bound, _⟩ :=
      compile_ordered defaults limits state requests plan collected ok
    exact ⟨requests, collected, (ready_iff_bound _ _ _).mpr ⟨bindings, bound⟩⟩
  · rintro ⟨requests, collected, ready⟩
    obtain ⟨bindings, bound⟩ := (ready_iff_bound _ _ _).mp ready
    obtain ⟨bare, _, sorted⟩ := of_state_sorted state requests collected
    obtain ⟨terms, ordered⟩ := order_terms_ok bare requests state.sorts sorted
      (leadingOutputs (canonicalSplits state.splits) bindings.chain).length
    exact ⟨_, (bind_ok _ _ _).mpr ⟨requests, collected, (bind_ok _ _ _).mpr ⟨bindings, bound,
      (bind_ok _ _ _).mpr ⟨terms, ordered, rfl⟩⟩⟩⟩

theorem column_alone (spec : ColumnSpec) : Compiles defaults limits (state.onlyColumn spec) ↔
    ColumnWorks defaults (canonicalSplits state.splits) spec := by
  rw [compiles_iff_ready, of_state_ready]
  simp [TableState.onlyColumn, TableState.listed, TableState.empty]

theorem filter_alone (clause : FilterClause) : Compiles defaults limits (state.onlyFilter clause) ↔
    FilterWorks defaults (canonicalSplits state.splits) clause := by
  rw [compiles_iff_ready, of_state_ready]
  simp [TableState.onlyFilter, TableState.listed, TableState.empty]

theorem sort_alone (clause : SortClause) : OrdersAlone defaults limits state clause ↔
    SortWorks defaults (canonicalSplits state.splits) (state.listed.map (·.id)) state.sorts
      clause := by
  have count : (state.listed.map (·.id)).count clause.id =
      state.listed.countP (·.id == clause.id) := by
    rw [List.count, List.countP_map]
    rfl
  have unlisted : clause.id ∉ state.listed.map (·.id) ↔
      ∀ spec ∈ state.listed, spec.id ≠ clause.id := by
    simp
  constructor
  · rintro (counted | ⟨first, zero, absent, found, compiles⟩)
    · exact .listed (count ▸ counted)
    · exact .unlisted first zero (unlisted.mpr absent) found
        ((column_alone defaults limits state _).mp compiles)
  · rintro (counted | ⟨first, zero, absent, found, works⟩)
    · exact .listed (count ▸ counted)
    · exact .unlisted first zero (unlisted.mp absent) found
        ((column_alone defaults limits state _).mpr works)

theorem compiles_iff_each_alone :
    Compiles defaults limits state ↔ EachAlone defaults limits state := by
  rw [compiles_iff_ready, of_state_ready]
  simp only [← column_alone defaults limits state, ← filter_alone defaults limits state,
    ← sort_alone defaults limits state]
  constructor
  · rintro ⟨⟨columns, filters⟩, sorts⟩
    exact ⟨columns, filters, sorts⟩
  · rintro ⟨columns, filters, sorts⟩
    exact ⟨⟨columns, filters⟩, sorts⟩

end

end Plan

end StatTable
