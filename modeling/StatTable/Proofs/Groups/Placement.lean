import Mathlib.Logic.Relation
import StatTable.Proofs.Groups.Requests
import StatTable.Proofs.Groups.Table

set_option autoImplicit false

namespace StatTable.Plan

def directSource? : ColumnKind → Option (Relation × Option String × String)
  | .materialized relation column => some (relation, none, column)
  | .market relation marketType column => some (relation, some marketType, column)
  | .player _ | .fact .. => none

inductive Binds (defaults : Defaults) (splits : List Split) (request : Request) : Binding → Prop
  | player (source : Attribute) (kind : request.column.kind = .player source) :
      Binds defaults splits request (.player source)
  | direct (relation : Relation) (marketType : Option String) (column : String) (params : Params)
      (kind : directSource? request.column.kind = some (relation, marketType, column))
      (resolved : resolve relation (commonSplits splits relation) defaults request.params =
        .ok params)
      (single : requireSingleValues (commonSplits splits relation) params = .ok params) :
      Binds defaults splits request
        (.direct ⟨.direct relation marketType, params, commonSplits splits relation⟩ column)
  | fact (relation : Relation) (aggregate : Aggregate) (params : Params)
      (kind : request.column.kind = .fact relation aggregate)
      (resolved : resolve relation (commonSplits splits relation) defaults request.params =
        .ok params) :
      Binds defaults splits request
        (.fact ⟨.fact relation, params, commonSplits splits relation⟩ relation request.column.id
          aggregate)

theorem require_single_ok (splits : List Split) (params single : Params)
    (ok : requireSingleValues splits params = .ok single) : single = params := by
  unfold requireSingleValues at ok
  dsimp only at ok
  split at ok
  · simp at ok
  · exact (Except.ok.inj ok).symm

theorem bind_direct_binds (defaults : Defaults) (splits : List Split) (request : Request)
    (relation : Relation) (marketType : Option String) (column : String) (target : Target)
    (kind : directSource? request.column.kind = some (relation, marketType, column))
    (ok : bindDirect defaults splits request relation marketType = .ok target) :
    Binds defaults splits request (.direct target column) := by
  obtain ⟨params, resolved, ok⟩ := (bind_ok _ _ _).mp ok
  obtain ⟨single, required, ok⟩ := (bind_ok _ _ _).mp ok
  replace resolved := (map_error_ok _ _ _).mp resolved
  replace required := (map_error_ok _ _ _).mp required
  rw [← Except.ok.inj ok, require_single_ok _ _ _ required] at *
  exact .direct relation marketType column params kind resolved required

theorem bind_binds (defaults : Defaults) (splits : List Split) (request : Request)
    (binding : Binding) (ok : bind defaults splits request = .ok binding) :
    Binds defaults splits request binding := by
  unfold bind at ok
  split at ok
  · rename_i source kind
    rw [← Except.ok.inj ok]
    exact .player source kind
  · rename_i relation column kind
    obtain ⟨target, direct, ok⟩ := (bind_ok _ _ _).mp ok
    rw [← Except.ok.inj ok]
    exact bind_direct_binds defaults splits request relation none column target
      (by rw [kind]; rfl) direct
  · rename_i relation marketType column kind
    obtain ⟨target, direct, ok⟩ := (bind_ok _ _ _).mp ok
    rw [← Except.ok.inj ok]
    exact bind_direct_binds defaults splits request relation (some marketType) column target
      (by rw [kind]; rfl) direct
  · rename_i relation aggregate kind
    obtain ⟨params, resolved, ok⟩ := (bind_ok _ _ _).mp ok
    rw [← Except.ok.inj ok]
    exact .fact relation aggregate params kind ((map_error_ok _ _ _).mp resolved)

theorem binds_fact (defaults : Defaults) (splits : List Split) (request : Request)
    (binding : Binding) (target : Target) (relation : Relation) (id : String) (aggregate : Aggregate)
    (binds : Binds defaults splits request binding)
    (reads : binding = .fact target relation id aggregate) : target.source = .fact relation ∧
      id = request.column.id ∧ request.column.kind = .fact relation aggregate := by
  cases binds with
  | player => simp at reads
  | direct => simp at reads
  | fact relation' aggregate' params kind =>
      injection reads with targets relations ids aggregates
      subst targets relations ids aggregates
      exact ⟨rfl, rfl, kind⟩

-- A use of a column with the rows it reads, shown or filtered by.
structure Use where
  request : Request
  binding : Binding

namespace Bindings

def uses (bindings : Bindings) : List Use :=
  bindings.selects.map (fun bound => ⟨bound.select.request, bound.binding⟩) ++
    bindings.filters.map (fun bound => ⟨bound.filter.request, bound.binding⟩)

theorem select_uses (bindings : Bindings) (bound : BoundSelect) (member : bound ∈ bindings.selects) :
    ⟨bound.select.request, bound.binding⟩ ∈ bindings.uses :=
  List.mem_append_left _ (List.mem_map.mpr ⟨bound, member, rfl⟩)

theorem filter_uses (bindings : Bindings) (bound : BoundFilter) (member : bound ∈ bindings.filters) :
    ⟨bound.filter.request, bound.binding⟩ ∈ bindings.uses :=
  List.mem_append_right _ (List.mem_map.mpr ⟨bound, member, rfl⟩)

end Bindings

def earlyCondition (bound : BoundFilter) (relation : Relation) (aggregate : Aggregate) : Sql.Expr :=
  filterCondition (aggregate.expr relation.table) bound.filter.operator bound.filter.operand

inductive Step (bindings : Bindings) : GroupTable → GroupTable → Prop
  | place (table : GroupTable) (use : Use) (target : Target) (member : use ∈ bindings.uses)
      (reads : use.binding.target? = some target) :
      Step bindings table (table.insert (target.group use.request.place))
  | require (table : GroupTable) (use : Use) (target : Target) (relation : Relation) (id : String)
      (aggregate : Aggregate) (member : use ∈ bindings.uses)
      (reads : use.binding = .fact target relation id aggregate) :
      Step bindings table (table.update target.aliasName (.requireAggregate id aggregate))
  | divide (table : GroupTable) (use : Use) (target : Target) (relation : Relation) (id : String)
      (aggregate : Aggregate) (rate : Rate) (group : Group) (member : use ∈ bindings.uses)
      (reads : use.binding = .fact target relation id aggregate)
      (rated : use.request.rate = some rate) (found : table.get? target.aliasName = some group) :
      Step bindings table (table.insert ((group.denominator rate).group group.firstSeen))
  | having (table : GroupTable) (bound : BoundFilter) (target : Target) (relation : Relation)
      (id : String) (aggregate : Aggregate) (member : bound ∈ bindings.filters)
      (reads : bound.binding = .fact target relation id aggregate) (early : bound.isEarly = true) :
      Step bindings table
        (table.update target.aliasName (.addHaving (earlyCondition bound relation aggregate)))
  | restrict (table : GroupTable) (bound : BoundFilter) (target : Target)
      (member : bound ∈ bindings.filters) (reads : bound.binding.target? = some target)
      (restricts : bound.restricts = true) :
      Step bindings table (table.update target.aliasName .restrict)

abbrev Steps (bindings : Bindings) : GroupTable → GroupTable → Prop :=
  Relation.ReflTransGen (Step bindings)

theorem place_target_steps (bindings : Bindings) (table : GroupTable) (use : Use)
    (member : use ∈ bindings.uses) :
    Steps bindings table (table.placeTarget use.binding use.request) := by
  unfold GroupTable.placeTarget
  cases reads : use.binding.target? with
  | none => exact .refl
  | some target => exact .single (.place table use target member reads)

theorem place_aggregate_steps (bindings : Bindings) (table : GroupTable) (use : Use)
    (target : Target) (relation : Relation) (id : String) (aggregate : Aggregate)
    (member : use ∈ bindings.uses) (reads : use.binding = .fact target relation id aggregate) :
    Steps bindings table (table.placeAggregate target id aggregate use.request.rate) := by
  have required := Step.require table use target relation id aggregate member reads
  unfold GroupTable.placeAggregate
  cases rated : use.request.rate with
  | none => exact .single required
  | some rate =>
      dsimp only [GroupTable.placeDenominator]
      cases found : (table.update target.aliasName (.requireAggregate id aggregate)).get?
          target.aliasName with
      | none => exact .single required
      | some group =>
          exact .tail (.single required)
            (.divide _ use target relation id aggregate rate group member reads rated found)

theorem place_select_steps (bindings : Bindings) (table : GroupTable) (bound : BoundSelect)
    (member : bound ∈ bindings.selects) : Steps bindings table (table.placeSelect bound) := by
  have use := bindings.select_uses bound member
  have placed := place_target_steps bindings table _ use
  unfold GroupTable.placeSelect
  cases reads : bound.binding with
  | player source => simpa only [reads] using placed
  | direct target column => simpa only [reads] using placed
  | fact target relation id aggregate =>
      simp only [reads] at placed
      exact placed.trans (place_aggregate_steps bindings _ _ target relation id aggregate use reads)

theorem place_condition_steps (bindings : Bindings) (table : GroupTable) (bound : BoundFilter)
    (member : bound ∈ bindings.filters) : Steps bindings table (table.placeCondition bound) := by
  unfold GroupTable.placeCondition
  cases reads : bound.binding with
  | player source => exact .refl
  | direct target column => exact .refl
  | fact target relation id aggregate =>
      dsimp only
      split
      · rename_i early
        exact .single (.having table bound target relation id aggregate member reads early)
      · exact place_aggregate_steps bindings table _ target relation id aggregate
          (bindings.filter_uses bound member) reads

theorem place_filter_steps (bindings : Bindings) (table : GroupTable) (bound : BoundFilter)
    (member : bound ∈ bindings.filters) : Steps bindings table (table.placeFilter bound) := by
  have placed := place_target_steps bindings table _ (bindings.filter_uses bound member)
  have conditioned := placed.trans (place_condition_steps bindings _ bound member)
  unfold GroupTable.placeFilter
  cases reads : bound.binding.target? with
  | none => exact conditioned
  | some target =>
      dsimp only
      split
      · rename_i restricts
        exact conditioned.tail (.restrict _ bound target member reads restricts)
      · exact conditioned

theorem fold_steps {α : Type} (bindings : Bindings) (place : GroupTable → α → GroupTable)
    (items : List α) (steps : ∀ item ∈ items, ∀ table, Steps bindings table (place table item))
    (table : GroupTable) : Steps bindings table (items.foldl place table) := by
  induction items generalizing table with
  | nil => exact .refl
  | cons item rest ih =>
      rw [List.foldl_cons]
      exact (steps item (by simp) table).trans
        (ih (fun other member => steps other (by simp [member])) _)

theorem table_steps (bindings : Bindings) : Steps bindings .empty bindings.table :=
  (fold_steps bindings _ bindings.selects
    (fun bound member table => place_select_steps bindings table bound member) .empty).trans
    (fold_steps bindings _ bindings.filters
      (fun bound member table => place_filter_steps bindings table bound member) _)

theorem steps_induction (bindings : Bindings) (Holds : GroupTable → Prop)
    (kept : ∀ table next, Step bindings table next → Holds table → Holds next)
    (table next : GroupTable) (steps : Steps bindings table next) (start : Holds table) :
    Holds next := by
  induction steps with
  | refl => exact start
  | tail _ step ih => exact kept _ _ step ih

theorem step_distinct (bindings : Bindings) (table next : GroupTable)
    (step : Step bindings table next) (distinct : Distinct table.groups) :
    Distinct next.groups := by
  cases step with
  | place => exact table.insert_distinct _ distinct
  | require => exact table.update_distinct _ _ (keeps_require _ _) distinct
  | divide => exact table.insert_distinct _ distinct
  | having => exact table.update_distinct _ _ (keeps_having _) distinct
  | restrict => exact table.update_distinct _ _ keeps_restrict distinct

theorem table_distinct (bindings : Bindings) : Distinct bindings.table.groups :=
  steps_induction bindings (fun table => Distinct table.groups) (step_distinct bindings) _ _
    (table_steps bindings) List.nodup_nil

end StatTable.Plan
