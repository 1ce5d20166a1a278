import StatTable.Proofs.Groups.Index

set_option autoImplicit false

namespace StatTable.Plan

open Sql

namespace GroupTable

variable (table : GroupTable) (distinct : Distinct table.groups)

include distinct

theorem get_update (aliasName : String) (change : Group → Group) (keeps : Keeps change)
    (group : Group) (held : table.get? aliasName = some group) :
    (table.update aliasName change).get? aliasName = some (change group) := by
  obtain ⟨member, named⟩ := table.get_some aliasName group held
  have changed := table.mem_update_of_mem aliasName change distinct group member
  rw [if_pos named] at changed
  have found := get_of_mem _ (table.update_distinct aliasName change keeps distinct) _ changed
  rwa [keeps.aliasName, named] at found

theorem get_insert (aliasName : String) (other group : Group)
    (held : table.get? aliasName = some group) :
    (table.insert other).get? aliasName = some group := by
  obtain ⟨member, named⟩ := table.get_some aliasName group held
  have found := get_of_mem _ (table.insert_distinct other distinct) group
    (table.mem_insert_of_mem other group member)
  rwa [named] at found

theorem get_target (binding : Binding) (request : Request) (target : Target)
    (reads : binding.target? = some target) :
    ∃ group, (table.placeTarget binding request).get? target.aliasName = some group := by
  obtain ⟨group, member, named, _⟩ := place_target_serves table target binding request reads
  have found := get_of_mem _ (place_target_distinct table binding request distinct) group member
  exact ⟨group, named ▸ found⟩

end GroupTable

-- Groups that are found go on to be found, reading the same rows.
def Continues (table next : GroupTable) : Prop := ∀ (aliasName : String) (group : Group),
  table.get? aliasName = some group → ∃ later, next.get? aliasName = some later ∧
    later.aliasName = group.aliasName ∧ later.target = group.target

theorem steps_continue (bindings : Bindings) (table next : GroupTable)
    (steps : Steps bindings table next) (distinct : Distinct table.groups) :
    Continues table next := by
  intro aliasName group held
  obtain ⟨member, named⟩ := table.get_some aliasName group held
  have kept : KeptBy bindings fun next => ∃ later ∈ next.groups,
      later.aliasName = group.aliasName ∧ later.target = group.target := by
    rintro before after step apart ⟨later, laterMember, laterName, laterTarget⟩
    obtain ⟨last, lastMember, lastName, lastTarget⟩ :=
      step_tracks bindings before after step apart later laterMember
    exact ⟨last, lastMember, lastName.trans laterName, lastTarget.trans laterTarget⟩
  obtain ⟨apart, later, laterMember, laterName, laterTarget⟩ :=
    steps_keep bindings _ kept table next steps distinct ⟨group, member, rfl, rfl⟩
  have found := GroupTable.get_of_mem next apart later laterMember
  exact ⟨later, named ▸ laterName ▸ found, laterName, laterTarget⟩

theorem value_continues (table next : GroupTable) (continues : Continues table next)
    (binding : Binding) (rate : Option Rate)
    (held : ∀ target, binding.target? = some target →
      ∃ group, table.get? target.aliasName = some group) :
    binding.value next rate = binding.value table rate := by
  cases binding with
  | player source => rfl
  | direct target column => rfl
  | fact target relation id aggregate =>
      obtain ⟨group, found⟩ := held target rfl
      obtain ⟨later, laterFound, named, same⟩ := continues target.aliasName group found
      rw [Binding.value, Binding.value]
      cases rate with
      | none => rw [normalize_whole, normalize_whole]
      | some rate =>
          rw [normalize_rated _ _ _ _ later laterFound, normalize_rated _ _ _ _ group found,
            denominator_congr later group rate named same]

section

variable (before : IndexedTable) (consistent : before.Consistent)

include consistent

theorem reaches_read (target : Target) (id : String) (aggregate : Aggregate) (rate : Option Rate)
    (group : Group) (held : before.table.get? target.aliasName = some group) :
    Reaches (Binder.readAggregate target id aggregate rate) before
      (Binding.normalize (before.table.placeAggregate target id aggregate rate) target.aliasName rate
        (.field target.aliasName id))
      (before.table.placeAggregate target id aggregate rate) := by
  have keeps := keeps_require id aggregate
  have distinct := before.groups_distinct consistent
  have required := before.table.get_update distinct target.aliasName _ keeps group held
  have apart := before.table.update_distinct target.aliasName _ keeps distinct
  refine reaches_bind _ _ before () _ _ _
    (reaches_update before consistent target.aliasName _ keeps group held) fun next own same => ?_
  rw [← same] at required apart
  cases rate with
  | none =>
      rw [normalize_whole]
      exact reaches_pure next own _ _ same
  | some rate =>
      rw [GroupTable.placeAggregate, ← same]
      refine reaches_bind _ _ next _ _ _ _
        (reaches_denominator next own target.aliasName rate _ required) fun last lastOwn lastSame => ?_
      rw [normalize_rated _ _ _ _ (group.requireAggregate id aggregate), ← lastSame]
      · exact reaches_pure last lastOwn _ _ rfl
      · rw [GroupTable.placeDenominator, required]
        exact next.table.get_insert apart _ _ _ required

theorem reaches_place (defaults : Defaults) (splits : List Split) (request : Request)
    (binding : Binding) (bound : bind defaults splits request = .ok binding) :
    Reaches (Binder.place defaults splits request) before binding
      (before.table.placeTarget binding request) := by
  rw [Binder.place, bound, GroupTable.placeTarget]
  dsimp only
  cases binding.target? with
  | none => exact reaches_pure before consistent binding _ rfl
  | some target =>
      refine reaches_bind _ _ before () _ _ _ (reaches_insert before consistent _)
        fun next own same => ?_
      exact reaches_pure next own binding _ same

theorem reaches_value (defaults : Defaults) (splits : List Split) (bound : BoundSelect)
    (binds : bind defaults splits bound.select.request = .ok bound.binding) :
    Reaches (Binder.bindValue defaults splits bound.select.request) before
      (bound.value (before.table.placeSelect bound)) (before.table.placeSelect bound) := by
  have distinct := before.groups_distinct consistent
  refine reaches_bind _ _ before _ _ _ _
    (reaches_place before consistent defaults splits _ _ binds) fun next own same => ?_
  rw [BoundSelect.value, GroupTable.placeSelect, ← same]
  cases reads : bound.binding with
  | player source => exact reaches_pure next own _ _ rfl
  | direct target column => exact reaches_pure next own _ _ rfl
  | fact target relation id aggregate =>
      obtain ⟨group, held⟩ := before.table.get_target distinct bound.binding bound.select.request
        target (by rw [reads]; rfl)
      rw [← same] at held
      exact reaches_read next own target id aggregate _ group held

theorem reaches_condition (bound : BoundFilter)
    (held : ∀ target, bound.binding.target? = some target →
      ∃ group, before.table.get? target.aliasName = some group) :
    Reaches (Binder.bindCondition bound.filter bound.binding) before
      (bound.condition? (before.table.placeCondition bound)) (before.table.placeCondition bound) := by
  rw [BoundFilter.condition?, GroupTable.placeCondition]
  cases reads : bound.binding with
  | player source =>
      rw [if_neg (by simp [BoundFilter.isEarly, reads])]
      exact reaches_pure before consistent _ _ rfl
  | direct target column =>
      rw [if_neg (by simp [BoundFilter.isEarly, reads])]
      exact reaches_pure before consistent _ _ rfl
  | fact target relation id aggregate =>
      obtain ⟨group, found⟩ := held target (by rw [reads]; rfl)
      have test : (bound.filter.request.rate.isSome || bound.filter.operator.matchesMissing) =
          !bound.isEarly := by
        rw [BoundFilter.isEarly, reads]
        cases bound.filter.request.rate <;> simp
      rw [Binder.bindCondition, test]
      dsimp only
      cases bound.isEarly with
      | true =>
          refine reaches_bind _ _ before () _ _ _ (reaches_update before consistent _ _
            (keeps_having _) group found) fun next own same => ?_
          exact reaches_pure next own none _ same
      | false =>
          refine reaches_bind _ _ before _ _ _ _ (reaches_read before consistent target id aggregate
            bound.filter.request.rate group found) fun next own same => ?_
          exact reaches_pure next own _ _ same

theorem reaches_filter (defaults : Defaults) (splits : List Split) (bound : BoundFilter)
    (binds : bind defaults splits bound.filter.request = .ok bound.binding) :
    Reaches (Binder.bindFilter defaults splits bound.filter) before
      (bound.condition? (before.table.placeFilter bound)) (before.table.placeFilter bound) := by
  have distinct := before.groups_distinct consistent
  have used : bound ∈ (⟨[], [bound]⟩ : Bindings).filters := List.mem_singleton_self bound
  refine reaches_bind _ _ before _ _ _ _
    (reaches_place before consistent defaults splits _ _ binds) fun placed own same => ?_
  have held : ∀ target, bound.binding.target? = some target →
      ∃ group, placed.table.get? target.aliasName = some group := fun target reads =>
    same ▸ before.table.get_target distinct bound.binding bound.filter.request target reads
  refine reaches_bind _ _ placed _ _ _ _ (reaches_condition placed own bound held)
    fun conditioned conditionedOwn conditionedSame => ?_
  rw [GroupTable.placeFilter, ← same, ← conditionedSame]
  cases reads : bound.binding.target? with
  | none => exact reaches_pure conditioned conditionedOwn _ _ rfl
  | some target =>
      have apart := conditioned.groups_distinct conditionedOwn
      have continues := steps_continue ⟨[], [bound]⟩ placed.table conditioned.table
        (conditionedSame ▸ place_condition_steps _ placed.table bound used)
        (placed.groups_distinct own)
      obtain ⟨group, found⟩ := held target reads
      obtain ⟨later, laterFound, _⟩ := continues target.aliasName group found
      dsimp only
      rw [BoundFilter.restricts]
      split
      · rename_i restricts
        have restricted := steps_continue ⟨[], [bound]⟩ conditioned.table _
          (.single (.restrict conditioned.table bound target used reads restricts)) apart
        have same : bound.condition? (conditioned.table.update target.aliasName .restrict) =
            bound.condition? conditioned.table := by
          rw [BoundFilter.condition?, BoundFilter.condition?, value_continues _ _ restricted]
          intro other otherReads
          rw [reads] at otherReads
          exact ⟨later, Option.some.inj otherReads ▸ laterFound⟩
        rw [same]
        refine reaches_bind _ _ conditioned () _ _ _ (reaches_update conditioned conditionedOwn _ _
          keeps_restrict later laterFound) fun last lastOwn lastSame => ?_
        exact reaches_pure last lastOwn _ _ lastSame
      · exact reaches_pure conditioned conditionedOwn _ _ rfl

end

theorem call_steps (bindings : Bindings) (call : BoundCall) (table : GroupTable)
    (selects : ∀ bound, call.select? = some bound → bound ∈ bindings.selects)
    (filters : ∀ bound, call.filter? = some bound → bound ∈ bindings.filters) :
    Steps bindings table (call.place table) := by
  cases call with
  | value bound => exact place_select_steps bindings table bound (selects bound rfl)
  | filter bound => exact place_filter_steps bindings table bound (filters bound rfl)

theorem calls_steps (calls : List BoundCall) (table : GroupTable) :
    Steps (.ofCalls calls) table (calls.foldl BoundCall.place table) :=
  fold_steps _ _ calls (fun call member table => call_steps _ call table
    (fun _ own => List.mem_filterMap.mpr ⟨call, member, own⟩)
    (fun _ own => List.mem_filterMap.mpr ⟨call, member, own⟩)) table

theorem call_rest_steps (call : BoundCall) (table : GroupTable) :
    Steps (.ofCalls [call]) (table.placeTarget call.binding call.request) (call.place table) := by
  cases call with
  | value bound =>
      have used := (Bindings.ofCalls [.value bound]).select_uses bound (List.mem_singleton_self bound)
      show Steps _ (table.placeTarget bound.binding bound.select.request) (table.placeSelect bound)
      rw [GroupTable.placeSelect]
      cases reads : bound.binding with
      | player source => exact .refl
      | direct target column => exact .refl
      | fact target relation id aggregate =>
          exact place_aggregate_steps _ _ _ target relation id aggregate used reads
  | filter bound =>
      have used : bound ∈ (Bindings.ofCalls [.filter bound]).filters := List.mem_singleton_self bound
      have conditioned := place_condition_steps _ (table.placeTarget bound.binding
        bound.filter.request) bound used
      show Steps _ (table.placeTarget bound.binding bound.filter.request) (table.placeFilter bound)
      rw [GroupTable.placeFilter]
      cases reads : bound.binding.target? with
      | none => exact conditioned
      | some target =>
          dsimp only
          split
          · rename_i restricts
            exact conditioned.tail (.restrict _ bound target used reads restricts)
          · exact conditioned

theorem call_held (call : BoundCall) (table : GroupTable) (distinct : Distinct table.groups)
    (target : Target) (reads : call.binding.target? = some target) :
    ∃ group, (call.place table).get? target.aliasName = some group := by
  obtain ⟨group, held⟩ := table.get_target distinct call.binding call.request target reads
  obtain ⟨later, found, _⟩ := steps_continue _ _ _ (call_rest_steps call table)
    (place_target_distinct table call.binding call.request distinct) target.aliasName group held
  exact ⟨later, found⟩

theorem reading_continues (table next : GroupTable) (continues : Continues table next)
    (call : BoundCall) (held : ∀ target, call.binding.target? = some target →
      ∃ group, table.get? target.aliasName = some group) :
    call.reading? next = call.reading? table := by
  cases call with
  | value bound =>
      have same := value_continues table next continues bound.binding bound.select.request.rate held
      rw [BoundCall.reading?, BoundCall.reading?, BoundSelect.value, BoundSelect.value, same]
  | filter bound =>
      have same := value_continues table next continues bound.binding bound.filter.request.rate held
      rw [BoundCall.reading?, BoundCall.reading?, BoundFilter.condition?, BoundFilter.condition?, same]

section

variable (defaults : Defaults) (splits : List Split)

-- The calls that are bound until one is refused, and why that one is.
def boundUntil : List Call → List BoundCall
  | [] => []
  | call :: rest =>
      match bind defaults splits call.request with
      | .ok binding => call.bound binding :: boundUntil rest
      | .error _ => []

def refusal? (calls : List Call) : Option CompileError :=
  calls.findSome? fun call => failure? (bind defaults splits call.request)

theorem bound_cons (call : Call) (rest : List Call) (binding : Binding)
    (bound : bind defaults splits call.request = .ok binding) :
    boundUntil defaults splits (call :: rest) = call.bound binding :: boundUntil defaults splits rest ∧
      refusal? defaults splits (call :: rest) = refusal? defaults splits rest := by
  rw [boundUntil, refusal?, List.findSome?_cons, bound]
  exact ⟨rfl, rfl⟩

theorem refused_cons (call : Call) (rest : List Call) (error : CompileError)
    (refused : bind defaults splits call.request = .error error) :
    boundUntil defaults splits (call :: rest) = [] ∧
      refusal? defaults splits (call :: rest) = some error := by
  rw [boundUntil, refusal?, List.findSome?_cons, refused]
  exact ⟨rfl, rfl⟩

variable (before : IndexedTable) (consistent : before.Consistent)

theorem run_refused (call : Call) (error : CompileError)
    (refused : bind defaults splits call.request = .error error) :
    call.run defaults splits before = .error (.refused error) before := by
  have placed : Binder.place defaults splits call.request before = .error (.refused error) before := by
    rw [Binder.place, refused]
    rfl
  cases call with
  | value select => exact run_stops _ _ before before _ (run_stops _ _ before before _ placed)
  | filter filter => exact run_stops _ _ before before _ placed

include consistent

theorem run_bound (call : Call) (binding : Binding)
    (bound : bind defaults splits call.request = .ok binding) :
    Reaches (call.run defaults splits) before
      ((call.bound binding).reading? ((call.bound binding).place before.table))
      ((call.bound binding).place before.table) := by
  cases call with
  | value select =>
      refine reaches_bind _ _ before _ _ _ _
        (reaches_value before consistent defaults splits ⟨select, binding⟩ bound) ?_
      exact fun next own same => reaches_pure next own _ _ same
  | filter filter => exact reaches_filter before consistent defaults splits ⟨filter, binding⟩ bound

theorem run_all (calls : List Call) :
    ∃ next, next.Consistent ∧
      next.table = (boundUntil defaults splits calls).foldl BoundCall.place before.table ∧
      calls.mapM (Call.run defaults splits) before =
        match refusal? defaults splits calls with
        | none => .ok ((boundUntil defaults splits calls).map (·.reading? next.table)) next
        | some error => .error (.refused error) next := by
  -- Each call goes on where the one before has stopped, and what that one read is still read alike.
  induction calls generalizing before with
  | nil => exact ⟨before, consistent, rfl, rfl⟩
  | cons call rest ih =>
      rw [List.mapM_cons]
      cases found : bind defaults splits call.request with
      | error error =>
          obtain ⟨none, refused⟩ := refused_cons defaults splits call rest error found
          rw [none, refused]
          exact ⟨before, consistent, rfl, run_stops _ _ before before _
            (run_refused defaults splits before call error found)⟩
      | ok binding =>
          obtain ⟨first, refusal⟩ := bound_cons defaults splits call rest binding found
          obtain ⟨placed, done, own, same⟩ :=
            run_bound defaults splits before consistent call binding found
          obtain ⟨next, nextOwn, nextSame, runs⟩ := ih placed own
          rw [first, refusal, List.foldl_cons, ← same]
          refine ⟨next, nextOwn, nextSame, ?_⟩
          rw [run_bind _ _ before placed _ done]
          cases refused : refusal? defaults splits rest with
          | some error =>
              rw [refused] at runs
              exact run_stops _ _ placed next _ runs
          | none =>
              rw [refused] at runs
              have continues := steps_continue _ _ next.table
                (nextSame ▸ calls_steps (boundUntil defaults splits rest) placed.table)
                (placed.groups_distinct own)
              have read := reading_continues placed.table next.table continues (call.bound binding)
                fun target reads => same ▸ call_held (call.bound binding) before.table
                  (before.groups_distinct consistent) target reads
              rw [run_bind _ _ placed next _ runs, List.map_cons, read, ← same]
              rfl

end

section

variable (defaults : Defaults) (splits : List Split)

theorem reached_calls (calls : List Call) : (reached defaults splits calls).Consistent ∧
    (reached defaults splits calls).table =
      (boundUntil defaults splits calls).foldl BoundCall.place .empty ∧
    calls.mapM (Call.run defaults splits) .empty =
      match refusal? defaults splits calls with
      | none => .ok ((boundUntil defaults splits calls).map
          (·.reading? (reached defaults splits calls).table)) (reached defaults splits calls)
      | some error => .error (.refused error) (reached defaults splits calls) := by
  obtain ⟨next, own, same, runs⟩ := run_all defaults splits .empty IndexedTable.consistent_empty calls
  have last : reached defaults splits calls = next := by
    rw [reached, runs]
    cases refusal? defaults splits calls <;> rfl
  exact last ▸ ⟨own, same, runs⟩

theorem bound_until_related (calls : List Call) (bounds : List BoundCall)
    (related : List.Forall₂ (fun call bound => ∃ binding,
      bind defaults splits call.request = .ok binding ∧ call.bound binding = bound) calls bounds) :
    boundUntil defaults splits calls = bounds ∧ refusal? defaults splits calls = none := by
  induction related with
  | nil => exact ⟨rfl, rfl⟩
  | cons head _ ih =>
      obtain ⟨binding, found, rfl⟩ := head
      obtain ⟨first, refusal⟩ := bound_cons defaults splits _ _ binding found
      rw [first, refusal, ih.1, ih.2]
      exact ⟨rfl, rfl⟩

theorem requests_bound (requests : Requests) (bindings : Bindings)
    (ok : Bindings.of defaults splits requests = .ok bindings) :
    (reached defaults splits requests.calls).table = bindings.table ∧
      requests.calls.mapM (Call.run defaults splits) .empty =
        .ok (bindings.selects.map (fun bound => some (bound.value bindings.table)) ++
          bindings.filters.map (·.condition? bindings.table))
          (reached defaults splits requests.calls) := by
  have binds := (bindings_of_ok _ _ _ _).mp ok
  obtain ⟨bounds, accepted⟩ := bound_until_related defaults splits requests.calls
      (bindings.selects.map BoundCall.value ++ bindings.filters.map BoundCall.filter) <| by
    refine List.rel_append ?_ ?_
    · rw [List.forall₂_map_left_iff, List.forall₂_map_right_iff]
      refine binds.selects.imp fun select bound own => ⟨bound.binding, own.2, ?_⟩
      obtain ⟨rfl, _⟩ := own
      rfl
    · rw [List.forall₂_map_left_iff, List.forall₂_map_right_iff]
      refine binds.filters.imp fun filter bound own => ⟨bound.binding, own.2, ?_⟩
      obtain ⟨rfl, _⟩ := own
      rfl
  obtain ⟨_, same, runs⟩ := reached_calls defaults splits requests.calls
  have table : (reached defaults splits requests.calls).table = bindings.table := by
    rw [same, bounds, List.foldl_append, List.foldl_map, List.foldl_map]
    rfl
  rw [accepted, bounds, table, List.map_append, List.map_map, List.map_map] at runs
  exact ⟨table, runs⟩

theorem requests_refused (requests : Requests) (error : CompileError)
    (refused : Bindings.of defaults splits requests = .error error) :
    requests.calls.mapM (Call.run defaults splits) .empty =
      .error (.refused error) (reached defaults splits requests.calls) := by
  have selects := map_m_failure (fun select : Select => (bind defaults splits select.request).map
    fun binding => (⟨select, binding⟩ : BoundSelect)) requests.selects
  have filters := map_m_failure (fun filter : Filter => (bind defaults splits filter.request).map
    fun binding => (⟨filter, binding⟩ : BoundFilter)) requests.filters
  simp only [map_failure] at selects filters
  have whole : failure? (Bindings.of defaults splits requests) = _ :=
    both_failure Bindings.mk _ _
  have refusal : refusal? defaults splits requests.calls = some error := by
    rw [refused, selects, filters] at whole
    rw [refusal?, Requests.calls, List.findSome?_append, List.findSome?_map, List.findSome?_map]
    exact whole.symm
  obtain ⟨_, _, runs⟩ := reached_calls defaults splits requests.calls
  rwa [refusal] at runs

end

end StatTable.Plan
