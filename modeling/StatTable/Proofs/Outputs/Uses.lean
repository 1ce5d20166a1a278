import Mathlib.Data.List.Induction
import Mathlib.Data.List.Nodup
import StatTable.Proofs.Joins.Compiled

set_option autoImplicit false

namespace StatTable

namespace OutputKind

def isColumn : OutputKind → Bool
  | .column _ _ => true
  | .entity | .split _ => false

def occurrenceOf? (id : String) : OutputKind → Option Nat
  | .column other occurrence => if other = id then some occurrence else none
  | .entity | .split _ => none

end OutputKind

-- The columns with some identifiers, each numbered by its uses before it.
def numbered (before : List String) : List String → List OutputKind
  | [] => []
  | id :: rest => .column id (before.count id) :: numbered (before ++ [id]) rest

theorem numbered_append (before ids : List String) (id : String) :
    numbered before (ids ++ [id]) =
      numbered before ids ++ [.column id ((before ++ ids).count id)] := by
  induction ids generalizing before with
  | nil => rw [List.nil_append, List.append_nil, numbered, numbered, numbered, List.nil_append]
  | cons first rest ih =>
      rw [List.cons_append, numbered, ih, numbered, List.cons_append, List.append_assoc,
        List.singleton_append]

theorem numbered_occurrences (ids : List String) (id : String) :
    (numbered [] ids).filterMap (·.occurrenceOf? id) = List.range (ids.count id) := by
  induction ids using List.reverseRecOn with
  | nil => rfl
  | append_singleton ids last ih =>
      rw [numbered_append, List.filterMap_append, ih, List.nil_append, List.count_append]
      by_cases own : last = id
      · subst own
        simp [OutputKind.occurrenceOf?, List.range_succ]
      · simp [OutputKind.occurrenceOf?, own]

theorem numbered_fresh (ids : List String) (id : String) :
    OutputKind.column id (ids.count id) ∉ numbered [] ids := by
  intro listed
  have shown : ids.count id ∈ (numbered [] ids).filterMap (·.occurrenceOf? id) :=
    List.mem_filterMap.mpr ⟨_, listed, if_pos rfl⟩
  rw [numbered_occurrences] at shown
  exact absurd (List.mem_range.mp shown) (Nat.lt_irrefl _)

theorem numbered_nodup (ids : List String) : (numbered [] ids).Nodup := by
  induction ids using List.reverseRecOn with
  | nil => exact List.nodup_nil
  | append_singleton ids last ih =>
      rw [numbered_append]
      refine List.nodup_append.mpr ⟨ih, List.nodup_singleton _, fun kind listed other own => ?_⟩
      rintro rfl
      rw [List.nil_append] at own
      exact numbered_fresh ids last (List.mem_singleton.mp own ▸ listed)

theorem numbered_columns (before ids : List String) : ∀ kind ∈ numbered before ids,
    ∃ id occurrence, kind = .column id occurrence := by
  induction ids generalizing before with
  | nil => simp [numbered]
  | cons id rest ih =>
      rw [numbered, List.forall_mem_cons]
      exact ⟨⟨id, _, rfl⟩, ih _⟩

namespace TableState

def listed (state : TableState) : List ColumnSpec := state.leading ++ state.columns

structure OrderOnly (specs : List ColumnSpec) (sorts : List SortClause)
    (further : List ColumnSpec) : Prop where
  once : (further.map (·.id)).Nodup
  unlisted : ∀ spec ∈ further, ∀ known ∈ specs, known.id ≠ spec.id
  first : ∀ spec ∈ further, ∃ clause, sorts.find? (·.id == spec.id) = some clause ∧
    spec.params = clause.params
  ordered : (further.map (·.id)).Sublist (sorts.map (·.id))
  complete : ∀ clause ∈ sorts, ∃ spec ∈ specs ++ further, spec.id = clause.id

theorem show_missing_grows (specs : List ColumnSpec) (sorts : List SortClause) :
    ∃ further, sorts.foldl showMissing specs = specs ++ further ∧
      OrderOnly specs sorts further := by
  induction sorts using List.reverseRecOn with
  | nil =>
      exact ⟨[], (List.append_nil _).symm, List.nodup_nil, by simp, by simp, by simp, by simp⟩
  | append_singleton sorts clause ih =>
      obtain ⟨further, shown, only⟩ := ih
      rw [List.foldl_append, List.foldl_cons, List.foldl_nil, shown, showMissing]
      have found (spec : ColumnSpec) (own : spec ∈ further) : ∃ first,
          (sorts ++ [clause]).find? (·.id == spec.id) = some first ∧
            spec.params = first.params := by
        obtain ⟨first, found, same⟩ := only.first spec own
        exact ⟨first, by rw [List.find?_append, found, Option.some_or], same⟩
      by_cases known : (specs ++ further).any (·.id == clause.id) = true
      · rw [if_pos known]
        obtain ⟨spec, member, same⟩ := List.any_eq_true.mp known
        refine ⟨further, rfl, only.once, only.unlisted, found, ?_, ?_⟩
        · rw [List.map_append]
          exact only.ordered.trans (List.sublist_append_left _ _)
        · rw [List.forall_mem_append, List.forall_mem_singleton]
          exact ⟨only.complete, spec, member, beq_iff_eq.mp same⟩
      · rw [if_neg known, List.append_assoc]
        have absent : ∀ spec ∈ specs ++ further, spec.id ≠ clause.id := fun spec member same =>
          known (List.any_eq_true.mpr ⟨spec, member, beq_iff_eq.mpr same⟩)
        have unnamed : sorts.find? (·.id == clause.id) = none := by
          refine List.find?_eq_none.mpr fun other member same => ?_
          obtain ⟨spec, specMember, named⟩ := only.complete other member
          exact absent spec specMember (named.trans (beq_iff_eq.mp same))
        refine ⟨further ++ [⟨clause.id, clause.params⟩], rfl, ?_, ?_, ?_, ?_, ?_⟩
        · rw [List.map_append, List.nodup_append]
          refine ⟨only.once, List.nodup_singleton _, fun id member other own => ?_⟩
          obtain ⟨spec, specMember, rfl⟩ := List.mem_map.mp member
          rw [List.mem_singleton.mp own]
          exact absent spec (List.mem_append_right _ specMember)
        · rw [List.forall_mem_append, List.forall_mem_singleton]
          exact ⟨only.unlisted, fun spec member => absent spec (List.mem_append_left _ member)⟩
        · rw [List.forall_mem_append, List.forall_mem_singleton]
          refine ⟨found, clause, ?_, rfl⟩
          rw [List.find?_append, unnamed, Option.none_or, List.find?_singleton, beq_self_eq_true]
          rfl
        · rw [List.map_append, List.map_append]
          exact only.ordered.append (List.Sublist.refl _)
        · rw [List.forall_mem_append, List.forall_mem_singleton]
          refine ⟨fun other member => ?_, ⟨clause.id, clause.params⟩, by simp, rfl⟩
          obtain ⟨spec, specMember, named⟩ := only.complete other member
          exact ⟨spec, by rw [← List.append_assoc]; exact List.mem_append_left _ specMember, named⟩

theorem shown_grows (state : TableState) :
    ∃ further, state.shown = state.listed ++ further ∧ OrderOnly state.listed state.sorts further :=
  show_missing_grows _ _

theorem order_only_once (specs : List ColumnSpec) (sorts : List SortClause)
    (further : List ColumnSpec) (only : OrderOnly specs sorts further) (clause : SortClause)
    (asked : clause ∈ sorts) (unlisted : ∀ spec ∈ specs, spec.id ≠ clause.id) :
    ∃ first, sorts.find? (·.id == clause.id) = some first ∧
      (specs ++ further).filter (·.id == clause.id) = [⟨clause.id, first.params⟩] := by
  obtain ⟨spec, member, named⟩ := only.complete clause asked
  have own : spec ∈ further := by
    rcases List.mem_append.mp member with known | own
    · exact absurd named (unlisted spec known)
    · exact own
  obtain ⟨first, found, same⟩ := only.first spec own
  rw [named] at found
  refine ⟨first, found, ?_⟩
  obtain ⟨before, after, rfl⟩ := List.append_of_mem own
  have once := only.once
  rw [List.map_append, List.map_cons, List.nodup_middle, List.nodup_cons, ← List.map_append,
    named] at once
  have others (list : List ColumnSpec) (absent : ∀ other ∈ list, other.id ≠ clause.id) :
      list.filter (·.id == clause.id) = [] :=
    List.filter_eq_nil_iff.mpr fun other listed same => absent other listed (beq_iff_eq.mp same)
  have apart : ∀ other ∈ before ++ after, other.id ≠ clause.id := fun other listed same =>
    once.1 (List.mem_map.mpr ⟨other, listed, same⟩)
  rw [List.filter_append, others specs unlisted, List.nil_append, List.filter_append,
    others before fun other listed => apart other (List.mem_append_left _ listed),
    List.filter_cons, if_pos (beq_iff_eq.mpr named),
    others after fun other listed => apart other (List.mem_append_right _ listed),
    List.nil_append, ← named, ← same]

end TableState

namespace Plan

def Select.kind (select : Select) : OutputKind :=
  .column select.request.column.id select.occurrence

def selectIds (selects : List Select) : List String := selects.map (·.request.column.id)

theorem count_uses_ids (id : String) (selects : List Select) :
    countUses id selects = (selectIds selects).count id := by
  rw [countUses, selectIds, List.count, List.countP_map]
  rfl

def Numbered (selects : List Select) : Prop :=
  selects.map Select.kind = numbered [] (selectIds selects)

theorem add_select_ok (requests added : Requests) (spec : ColumnSpec)
    (ok : requests.addSelect spec = .ok added) : ∃ request, Asks spec.id spec.params request ∧
      added = { requests with
        selects := requests.selects ++ [⟨request, countUses spec.id requests.selects⟩] } := by
  obtain ⟨request, read, ok⟩ := (bind_ok _ _ _).mp ok
  have asks := request_asks _ _ _ request read
  refine ⟨request, asks, ?_⟩
  rw [← Except.ok.inj ok, lookup_id _ _ asks.column]

theorem add_select_numbered (requests added : Requests) (spec : ColumnSpec)
    (ok : requests.addSelect spec = .ok added) (held : Numbered requests.selects) :
    Numbered added.selects := by
  obtain ⟨request, asks, rfl⟩ := add_select_ok requests added spec ok
  have ids : selectIds (requests.selects ++ [⟨request, countUses spec.id requests.selects⟩]) =
      selectIds requests.selects ++ [spec.id] := by
    rw [selectIds, List.map_append, List.map_singleton, lookup_id _ _ asks.column]
    rfl
  unfold Numbered at held ⊢
  rw [ids, numbered_append, List.map_append, held, List.map_singleton, Select.kind,
    lookup_id _ _ asks.column, count_uses_ids, List.nil_append]

inductive AddsSort (requests : Requests) (clause : SortClause) : Requests → Prop
  | found (index : Nat)
      (held : findUse? clause.id clause.occurrence.toNat requests.selects = some index) :
      AddsSort requests clause requests
  | added (select : Select) (further : Requests) (first : clause.occurrence = 0)
      (unused : countUses clause.id requests.selects = 0)
      (ok : requests.addSelect ⟨clause.id, clause.params⟩ = .ok further)
      (id : select.request.column.id = clause.id) (number : select.occurrence = 0)
      (grown : further = { requests with selects := requests.selects ++ [select] }) :
      AddsSort requests clause further

theorem add_sort_adds (requests added : Requests) (clause : SortClause)
    (ok : requests.addSort clause = .ok added) : AddsSort requests clause added := by
  unfold Requests.addSort at ok
  cases found : findUse? clause.id clause.occurrence.toNat requests.selects with
  | some index =>
      rw [found] at ok
      obtain rfl := Except.ok.inj ok
      exact .found index found
  | none =>
      rw [found] at ok
      dsimp only at ok
      split at ok
      · rename_i fresh
        obtain ⟨request, asks, grown⟩ := add_select_ok _ _ _ ok
        exact .added _ added fresh.1 fresh.2 ok (lookup_id _ _ asks.column) fresh.2 grown
      · cases ok

theorem find_use_append (id : String) (occurrence index : Nat) (selects further : List Select)
    (found : findUse? id occurrence selects = some index) :
    findUse? id occurrence (selects ++ further) = some index := by
  unfold findUse? at found ⊢
  rw [List.findIdx?_append, found, Option.some_or]

structure Sorted (requests : Requests) (sorts : List SortClause) (added : Requests) : Prop where
  selects : requests.selects <+: added.selects
  filters : added.filters = requests.filters
  found : ∀ clause ∈ sorts, ∃ index,
    findUse? clause.id clause.occurrence.toNat added.selects = some index

theorem add_sort_sorted (requests added further : Requests) (sorts : List SortClause)
    (clause : SortClause) (sorted : Sorted requests sorts added)
    (ok : added.addSort clause = .ok further) : Sorted requests (sorts ++ [clause]) further := by
  cases add_sort_adds added further clause ok with
  | found index held =>
      refine ⟨sorted.selects, sorted.filters, ?_⟩
      rw [List.forall_mem_append, List.forall_mem_singleton]
      exact ⟨sorted.found, index, held⟩
  | added select _ first unused _ id number grown =>
      subst grown
      refine ⟨sorted.selects.trans (List.prefix_append _ _), sorted.filters, ?_⟩
      rw [List.forall_mem_append, List.forall_mem_singleton]
      refine ⟨fun earlier member => ?_, ?_⟩
      · obtain ⟨index, held⟩ := sorted.found earlier member
        exact ⟨index, find_use_append _ _ _ _ _ held⟩
      · have own : (select.isUseOf clause.id && select.occurrence == clause.occurrence.toNat) =
            true := by
          rw [Select.isUseOf, id, number, first]
          simp
        have some : (findUse? clause.id clause.occurrence.toNat
            (added.selects ++ [select])).isSome = true := by
          rw [findUse?, List.findIdx?_isSome]
          exact List.any_eq_true.mpr ⟨select, by simp, own⟩
        exact Option.isSome_iff_exists.mp some

theorem sorts_sorted (requests added : Requests) (sorts : List SortClause)
    (ok : sorts.foldlM Requests.addSort requests = .ok added) : Sorted requests sorts added := by
  have whole := fold_collects Requests.addSort (fun done clause => done ++ [clause])
    (Sorted requests) (fun done added clause further sorted step =>
      add_sort_sorted requests added further done clause sorted step) sorts [] requests added
    ⟨List.prefix_refl _, rfl, by simp⟩ ok
  rwa [fold_append, List.nil_append] at whole

theorem of_state_numbered (state : TableState) (requests : Requests)
    (ok : Requests.ofState state = .ok requests) : Numbered requests.selects := by
  obtain ⟨selected, selectsOk, ok⟩ := (bind_ok _ _ _).mp ok
  obtain ⟨filtered, filtersOk, sortsOk⟩ := (bind_ok _ _ _).mp ok
  have kept {α : Type} (add : Requests → α → Except CompileError Requests)
      (preserves : ∀ requests item added, add requests item = .ok added →
        Numbered requests.selects → Numbered added.selects)
      (items : List α) (start final : Requests) (held : Numbered start.selects)
      (ok : items.foldlM add start = .ok final) : Numbered final.selects :=
    fold_collects add (fun _ _ => ()) (fun _ requests => Numbered requests.selects)
      (fun _ requests item added held step => preserves requests item added step held)
      items () start final held ok
  refine kept Requests.addSort ?_ _ filtered requests (kept Requests.addFilter ?_ _ selected filtered
    (kept Requests.addSelect ?_ _ ⟨[], []⟩ selected rfl selectsOk) filtersOk) sortsOk
  · intro requests clause added step held
    cases add_sort_adds requests added clause step with
    | found => exact held
    | added _ _ _ _ made => exact add_select_numbered _ _ _ made held
  · intro requests clause added step held
    obtain ⟨filter, _, same⟩ := (bind_ok _ _ _).mp step
    exact Except.ok.inj same ▸ held
  · exact fun requests spec added step held => add_select_numbered _ _ _ step held

theorem shows_ids (specs : List ColumnSpec) (selects : List Select)
    (shows : List.Forall₂ Shows specs selects) : selectIds selects = specs.map (·.id) := by
  induction shows with
  | nil => rfl
  | cons first _ ih => rw [selectIds, List.map_cons, List.map_cons, ← ih, lookup_id _ _ first.column]; rfl

theorem of_state_kinds (state : TableState) (requests : Requests)
    (ok : Requests.ofState state = .ok requests) :
    requests.selects.map Select.kind = numbered [] (state.shown.map (·.id)) := by
  rw [of_state_numbered state requests ok,
    shows_ids _ _ (of_state_collects state requests ok).selects]

theorem of_state_sorted (state : TableState) (requests : Requests)
    (ok : Requests.ofState state = .ok requests) :
    ∃ bare, Requests.ofState { state with sorts := [] } = .ok bare ∧
      Sorted bare state.sorts requests := by
  obtain ⟨selected, selectsOk, ok⟩ := (bind_ok _ _ _).mp ok
  obtain ⟨filtered, filtersOk, sortsOk⟩ := (bind_ok _ _ _).mp ok
  exact ⟨filtered, (bind_ok _ _ _).mpr ⟨selected, selectsOk, (bind_ok _ _ _).mpr
    ⟨filtered, filtersOk, rfl⟩⟩, sorts_sorted filtered requests state.sorts sortsOk⟩

theorem of_state_more (state : TableState) (more : List SortClause) :
    Requests.ofState { state with sorts := state.sorts ++ more } =
      Requests.ofState state >>= more.foldlM Requests.addSort := by
  simp only [Requests.ofState, bind_assoc, List.foldlM_append]

theorem output_kinds (defaults : Defaults) (splits : List Split) (requests : Requests)
    (bindings : Bindings) (ok : Bindings.of defaults splits requests = .ok bindings) :
    (bindings.selects.map (columnOutput bindings.table)).map (·.kind) =
      requests.selects.map Select.kind := by
  rw [← (bound_requests defaults splits requests bindings ok).1, List.map_map, List.map_map]
  rfl

end Plan

end StatTable
