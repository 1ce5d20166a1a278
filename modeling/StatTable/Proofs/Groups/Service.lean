import StatTable.Proofs.Groups.Origin

set_option autoImplicit false

namespace StatTable.Plan

def Serves (groups : List Group) (aliasName : String) (Holds : Group → Prop) : Prop :=
  ∃ group ∈ groups, group.aliasName = aliasName ∧ Holds group

structure Stable (Holds : Group → Prop) : Prop where
  require : ∀ group id aggregate, Holds group → Holds (group.requireAggregate id aggregate)
  having : ∀ group condition, Holds group → Holds (group.addHaving condition)
  restrict : ∀ group, Holds group → Holds group.restrict

def computesId (id : String) (group : Group) : Prop := id ∈ group.aggregates.map (·.1)

theorem stable_any : Stable fun _ => True :=
  ⟨fun _ _ _ _ => trivial, fun _ _ _ => trivial, fun _ _ => trivial⟩

theorem require_keeps_id (id other : String) (aggregate : Aggregate) (group : Group)
    (computes : computesId id group) : computesId id (group.requireAggregate other aggregate) := by
  unfold Group.requireAggregate
  split
  · exact computes
  · unfold computesId
    rw [List.map_append]
    exact List.mem_append_left _ computes

theorem require_computes (id : String) (aggregate : Aggregate) (group : Group) :
    computesId id (group.requireAggregate id aggregate) := by
  unfold Group.requireAggregate computesId
  split
  · rename_i present
    obtain ⟨entry, member, same⟩ := List.any_eq_true.mp present
    exact List.mem_map.mpr ⟨entry, member, by simpa using same⟩
  · simp

theorem stable_computes (id : String) : Stable (computesId id) :=
  ⟨fun group other aggregate => require_keeps_id id other aggregate group,
    fun _ _ computes => computes, fun _ computes => computes⟩

theorem stable_having (condition : Sql.Expr) : Stable fun group => condition ∈ group.having where
  require := by
    intro group id aggregate member
    rwa [require_having]
  having := fun _ _ member => List.mem_append_left _ member
  restrict := fun _ member => member

theorem stable_restricting : Stable fun group => group.restricting = true where
  require := by
    intro group id aggregate restricting
    rwa [require_restricting]
  having := fun _ _ restricting => restricting
  restrict := fun _ _ => rfl

section

variable (table : GroupTable) (aliasName : String) (Holds : Group → Prop)

theorem insert_serves (group : Group) (serves : Serves table.groups aliasName Holds) :
    Serves (table.insert group).groups aliasName Holds := by
  obtain ⟨held, member, named, holds⟩ := serves
  exact ⟨held, table.mem_insert_of_mem group held member, named, holds⟩

theorem update_serves (other : String) (change : Group → Group) (keeps : Keeps change)
    (distinct : Distinct table.groups) (kept : ∀ group, Holds group → Holds (change group))
    (serves : Serves table.groups aliasName Holds) :
    Serves (table.update other change).groups aliasName Holds := by
  obtain ⟨held, member, named, holds⟩ := serves
  refine ⟨_, table.mem_update_of_mem other change distinct held member, ?_⟩
  split
  · exact ⟨(keeps.aliasName held).trans named, kept held holds⟩
  · exact ⟨named, holds⟩

theorem update_establishes (change : Group → Group) (keeps : Keeps change)
    (distinct : Distinct table.groups) (brings : ∀ group, Holds (change group))
    (serves : Serves table.groups aliasName fun _ => True) :
    Serves (table.update aliasName change).groups aliasName Holds := by
  obtain ⟨held, member, named, _⟩ := serves
  refine ⟨change held, ?_, (keeps.aliasName held).trans named, brings held⟩
  simpa [named] using table.mem_update_of_mem aliasName change distinct held member

end

theorem step_serves (bindings : Bindings) (aliasName : String) (Holds : Group → Prop)
    (stable : Stable Holds) (table next : GroupTable) (step : Step bindings table next)
    (distinct : Distinct table.groups) (serves : Serves table.groups aliasName Holds) :
    Serves next.groups aliasName Holds := by
  cases step with
  | place => exact insert_serves table aliasName Holds _ serves
  | require use target relation id aggregate =>
      exact update_serves table aliasName Holds _ _ (keeps_require _ _) distinct
        (fun group => stable.require group id aggregate) serves
  | divide => exact insert_serves table aliasName Holds _ serves
  | having =>
      exact update_serves table aliasName Holds _ _ (keeps_having _) distinct
        (fun group => stable.having group _) serves
  | restrict =>
      exact update_serves table aliasName Holds _ _ keeps_restrict distinct stable.restrict serves

def Divided (groups : List Group) (aliasName : String) (rate : Rate) : Prop :=
  ∃ numerator ∈ groups, numerator.aliasName = aliasName ∧
    ∃ group ∈ groups, group.aliasName = (numerator.denominator rate).aliasName

theorem step_divided (bindings : Bindings) (aliasName : String) (rate : Rate)
    (table next : GroupTable) (step : Step bindings table next) (distinct : Distinct table.groups)
    (divided : Divided table.groups aliasName rate) : Divided next.groups aliasName rate := by
  obtain ⟨numerator, placed, numbers, group, member, named⟩ := divided
  have tracks := step_tracks bindings table next step distinct
  obtain ⟨tracked, trackedMember, trackedName, trackedTarget⟩ := tracks numerator placed
  obtain ⟨later, laterMember, laterName, _⟩ := tracks group member
  have same := denominator_congr tracked numerator rate trackedName trackedTarget
  exact ⟨tracked, trackedMember, trackedName.trans numbers, later, laterMember,
    same ▸ laterName.trans named⟩

-- What a table property needs so that later steps keep what one step has brought about.
def KeptBy (bindings : Bindings) (Holds : GroupTable → Prop) : Prop :=
  ∀ table next, Step bindings table next → Distinct table.groups → Holds table → Holds next

theorem steps_keep (bindings : Bindings) (Holds : GroupTable → Prop) (kept : KeptBy bindings Holds)
    (table next : GroupTable) (steps : Steps bindings table next) (distinct : Distinct table.groups)
    (holds : Holds table) : Distinct next.groups ∧ Holds next :=
  steps_induction bindings (fun table => Distinct table.groups ∧ Holds table)
    (fun table next step both =>
      ⟨step_distinct bindings table next step both.1, kept table next step both.1 both.2⟩)
    table next steps ⟨distinct, holds⟩

theorem fold_establishes {α : Type} (bindings : Bindings) (Holds : GroupTable → Prop)
    (kept : KeptBy bindings Holds) (place : GroupTable → α → GroupTable) (items : List α)
    (steps : ∀ item ∈ items, ∀ table, Steps bindings table (place table item)) (item : α)
    (member : item ∈ items)
    (establishes : ∀ table, Distinct table.groups → Holds (place table item))
    (table : GroupTable) (distinct : Distinct table.groups) :
    Holds (items.foldl place table) := by
  induction items generalizing table with
  | nil => simp at member
  | cons first rest ih =>
      have placed := (steps_keep bindings (fun _ => True) (fun _ _ _ _ _ => trivial) _ _
        (steps first (by simp) table) distinct trivial).1
      have restSteps : ∀ item ∈ rest, ∀ table, Steps bindings table (place table item) :=
        fun other otherMember => steps other (by simp [otherMember])
      rw [List.foldl_cons]
      rcases List.mem_cons.mp member with rfl | later
      · exact (steps_keep bindings Holds kept _ _ (fold_steps bindings place rest restSteps _) placed
          (establishes table distinct)).2
      · exact ih restSteps later _ placed

theorem select_establishes (bindings : Bindings) (Holds : GroupTable → Prop)
    (kept : KeptBy bindings Holds) (bound : BoundSelect) (member : bound ∈ bindings.selects)
    (establishes : ∀ table : GroupTable, Distinct table.groups → Holds (table.placeSelect bound)) :
    Holds bindings.table := by
  have selects := fold_steps bindings _ bindings.selects
    (fun bound member table => place_select_steps bindings table bound member) .empty
  have filters := fold_steps bindings _ bindings.filters
    (fun bound member table => place_filter_steps bindings table bound member)
    (bindings.selects.foldl .placeSelect .empty)
  have distinct := steps_induction bindings (fun table => Distinct table.groups)
    (step_distinct bindings) _ _ selects List.nodup_nil
  have placed := fold_establishes bindings Holds kept _ bindings.selects
    (fun bound member table => place_select_steps bindings table bound member) bound member
    establishes .empty List.nodup_nil
  exact (steps_keep bindings Holds kept _ _ filters distinct placed).2

theorem filter_establishes (bindings : Bindings) (Holds : GroupTable → Prop)
    (kept : KeptBy bindings Holds) (bound : BoundFilter) (member : bound ∈ bindings.filters)
    (establishes : ∀ table : GroupTable, Distinct table.groups → Holds (table.placeFilter bound)) :
    Holds bindings.table := by
  have selects := fold_steps bindings _ bindings.selects
    (fun bound member table => place_select_steps bindings table bound member) .empty
  have distinct := steps_induction bindings (fun table => Distinct table.groups)
    (step_distinct bindings) _ _ selects List.nodup_nil
  exact fold_establishes bindings Holds kept _ bindings.filters
    (fun bound member table => place_filter_steps bindings table bound member) bound member
    establishes _ distinct

section

variable (bindings : Bindings) (table : GroupTable) (target : Target)

theorem place_target_serves (binding : Binding) (request : Request)
    (reads : binding.target? = some target) :
    Serves (table.placeTarget binding request).groups target.aliasName fun _ => True := by
  obtain ⟨held, member, named⟩ := table.exists_insert (target.group request.place)
  simp only [GroupTable.placeTarget, reads]
  exact ⟨held, member, named, trivial⟩

theorem place_target_distinct (binding : Binding) (request : Request)
    (distinct : Distinct table.groups) :
    Distinct (table.placeTarget binding request).groups := by
  unfold GroupTable.placeTarget
  split
  · exact table.insert_distinct _ distinct
  · exact distinct

-- What an aggregate that is read needs: it is computed, and its denominator is there.
def Provides (aliasName id : String) (rate : Option Rate) (table : GroupTable) : Prop :=
  Serves table.groups aliasName (computesId id) ∧
    ∀ named, rate = some named → Divided table.groups aliasName named

theorem provides_kept (aliasName id : String) (rate : Option Rate) :
    KeptBy bindings (Provides aliasName id rate) :=
  fun table next step distinct provides =>
    ⟨step_serves bindings aliasName _ (stable_computes id) table next step distinct provides.1,
      fun named rated => step_divided bindings aliasName named table next step distinct
        (provides.2 named rated)⟩

theorem place_aggregate_provides (id : String) (aggregate : Aggregate) (rate : Option Rate)
    (distinct : Distinct table.groups)
    (serves : Serves table.groups target.aliasName fun _ => True) :
    Provides target.aliasName id rate (table.placeAggregate target id aggregate rate) := by
  have keeps := keeps_require id aggregate
  have required := update_establishes table target.aliasName (computesId id) _ keeps distinct
    (require_computes id aggregate) serves
  have still := table.update_distinct target.aliasName _ keeps distinct
  unfold GroupTable.placeAggregate
  cases rate with
  | none => exact ⟨required, by simp⟩
  | some rate =>
      obtain ⟨numerator, placed, numbers, computes⟩ := required
      have found := GroupTable.get_of_mem _ still numerator placed
      rw [numbers] at found
      simp only [GroupTable.placeDenominator, found]
      refine ⟨⟨numerator, GroupTable.mem_insert_of_mem _ _ numerator placed, numbers, computes⟩, ?_⟩
      rintro named ⟨⟩
      obtain ⟨held, member, heldName⟩ :=
        GroupTable.exists_insert (table.update target.aliasName (.requireAggregate id aggregate))
          ((numerator.denominator rate).group numerator.firstSeen)
      exact ⟨numerator, GroupTable.mem_insert_of_mem _ _ numerator placed, numbers, held, member,
        heldName⟩

end

theorem select_provided (bindings : Bindings) (bound : BoundSelect)
    (member : bound ∈ bindings.selects) (target : Target) (relation : Relation) (id : String)
    (aggregate : Aggregate) (reads : bound.binding = .fact target relation id aggregate) :
    Provides target.aliasName id bound.select.request.rate bindings.table := by
  refine select_establishes bindings _ (provides_kept bindings _ _ _) bound member ?_
  intro table distinct
  have serves := place_target_serves table target bound.binding bound.select.request
    (by rw [reads]; rfl)
  have placed := place_target_distinct table bound.binding bound.select.request distinct
  simp only [GroupTable.placeSelect, reads] at serves placed ⊢
  exact place_aggregate_provides _ target id aggregate _ placed serves

theorem place_condition_distinct (table : GroupTable) (bindings : Bindings) (bound : BoundFilter)
    (member : bound ∈ bindings.filters) (distinct : Distinct table.groups) :
    Distinct (table.placeCondition bound).groups :=
  steps_induction bindings (fun table => Distinct table.groups) (step_distinct bindings) _ _
    (place_condition_steps bindings table bound member) distinct

theorem place_filter_keeps (bindings : Bindings) (Holds : GroupTable → Prop)
    (kept : KeptBy bindings Holds) (bound : BoundFilter) (member : bound ∈ bindings.filters)
    (table : GroupTable) (distinct : Distinct table.groups)
    (holds : Holds ((table.placeTarget bound.binding bound.filter.request).placeCondition bound)) :
    Holds (table.placeFilter bound) := by
  have placed := place_condition_distinct _ bindings bound member
    (place_target_distinct table bound.binding bound.filter.request distinct)
  unfold GroupTable.placeFilter
  cases reads : bound.binding.target? with
  | none => exact holds
  | some target =>
      dsimp only
      split
      · rename_i restricts
        exact kept _ _ (.restrict _ bound target member reads restricts) placed holds
      · exact holds

theorem late_filter_provided (bindings : Bindings) (bound : BoundFilter)
    (member : bound ∈ bindings.filters) (target : Target) (relation : Relation) (id : String)
    (aggregate : Aggregate) (reads : bound.binding = .fact target relation id aggregate)
    (late : bound.isEarly = false) :
    Provides target.aliasName id bound.filter.request.rate bindings.table := by
  have kept := provides_kept bindings target.aliasName id bound.filter.request.rate
  refine filter_establishes bindings _ kept bound member fun table distinct => ?_
  refine place_filter_keeps bindings _ kept bound member table distinct ?_
  have serves := place_target_serves table target bound.binding bound.filter.request
    (by rw [reads]; rfl)
  have placed := place_target_distinct table bound.binding bound.filter.request distinct
  simp only [GroupTable.placeCondition, late, reads] at serves placed ⊢
  exact place_aggregate_provides _ target id aggregate _ placed serves

-- A use with a rate finds its denominator, for no filter on a rate is decided early.
theorem rated_provided (bindings : Bindings) (use : Use) (target : Target) (relation : Relation) (id : String)
    (aggregate : Aggregate) (rate : Rate) (used : use ∈ bindings.uses)
    (reads : use.binding = .fact target relation id aggregate)
    (rated : use.request.rate = some rate) :
    Provides target.aliasName id use.request.rate bindings.table := by
  cases List.mem_append.mp used with
  | inl selected =>
      obtain ⟨bound, member, rfl⟩ := List.mem_map.mp selected
      exact select_provided bindings bound member target relation id aggregate reads
  | inr filtered =>
      obtain ⟨bound, member, rfl⟩ := List.mem_map.mp filtered
      refine late_filter_provided bindings bound member target relation id aggregate reads ?_
      dsimp only at rated reads
      rw [BoundFilter.isEarly, reads]
      dsimp only
      rw [rated]
      rfl

theorem early_filter_kept (bindings : Bindings) (bound : BoundFilter)
    (member : bound ∈ bindings.filters) (target : Target) (relation : Relation) (id : String)
    (aggregate : Aggregate) (reads : bound.binding = .fact target relation id aggregate)
    (early : bound.isEarly = true) :
    Serves bindings.table.groups target.aliasName
      fun group => earlyCondition bound relation aggregate ∈ group.having := by
  have kept : KeptBy bindings fun table => Serves table.groups target.aliasName
      fun group => earlyCondition bound relation aggregate ∈ group.having :=
    step_serves bindings _ _ (stable_having _)
  refine filter_establishes bindings _ kept bound member fun table distinct => ?_
  refine place_filter_keeps bindings _ kept bound member table distinct ?_
  have serves := place_target_serves table target bound.binding bound.filter.request
    (by rw [reads]; rfl)
  have placed := place_target_distinct table bound.binding bound.filter.request distinct
  simp only [GroupTable.placeCondition, early, if_true, reads] at serves placed ⊢
  exact update_establishes _ _ _ _ (keeps_having _) placed
    (fun group => List.mem_append_right _ (by simp [earlyCondition])) serves

theorem place_condition_serves (bindings : Bindings) (bound : BoundFilter)
    (member : bound ∈ bindings.filters) (table : GroupTable) (aliasName : String)
    (distinct : Distinct table.groups) (serves : Serves table.groups aliasName fun _ => True) :
    Serves (table.placeCondition bound).groups aliasName fun _ => True :=
  (steps_keep bindings _ (step_serves bindings aliasName _ stable_any) _ _
    (place_condition_steps bindings table bound member) distinct serves).2

theorem restriction_kept (bindings : Bindings) (bound : BoundFilter)
    (member : bound ∈ bindings.filters) (target : Target)
    (reads : bound.binding.target? = some target) (restricts : bound.restricts = true) :
    Serves bindings.table.groups target.aliasName fun group => group.restricting = true := by
  refine filter_establishes bindings _ (step_serves bindings _ _ stable_restricting) bound member
    fun table distinct => ?_
  have placed := place_target_distinct table bound.binding bound.filter.request distinct
  have serves := place_condition_serves bindings bound member _ target.aliasName placed
    (place_target_serves table target bound.binding bound.filter.request reads)
  simp only [GroupTable.placeFilter, reads, restricts, if_true]
  exact update_establishes _ _ _ _ keeps_restrict
    (place_condition_distinct _ bindings bound member placed) (fun _ => rfl) serves

theorem use_served (bindings : Bindings) (use : Use) (member : use ∈ bindings.uses)
    (target : Target) (reads : use.binding.target? = some target) :
    Serves bindings.table.groups target.aliasName fun _ => True := by
  have kept : KeptBy bindings fun table => Serves table.groups target.aliasName fun _ => True :=
    step_serves bindings _ _ stable_any
  rcases List.mem_append.mp member with selected | filtered
  · obtain ⟨bound, boundMember, rfl⟩ := List.mem_map.mp selected
    refine select_establishes bindings _ kept bound boundMember fun table distinct => ?_
    have serves := place_target_serves table target bound.binding bound.select.request reads
    have placed := place_target_distinct table bound.binding bound.select.request distinct
    unfold GroupTable.placeSelect
    cases binding : bound.binding with
    | player source => simpa only [binding] using serves
    | direct own column => simpa only [binding] using serves
    | fact own relation id aggregate =>
        simp only [binding] at serves placed
        exact (steps_keep bindings _ kept _ _ (place_aggregate_steps bindings _ _ own relation id
          aggregate (bindings.select_uses bound boundMember) binding) placed serves).2
  · obtain ⟨bound, boundMember, rfl⟩ := List.mem_map.mp filtered
    refine filter_establishes bindings _ kept bound boundMember fun table distinct => ?_
    refine place_filter_keeps bindings _ kept bound boundMember table distinct ?_
    exact place_condition_serves bindings bound boundMember _ _
      (place_target_distinct table bound.binding bound.filter.request distinct)
      (place_target_serves table target bound.binding bound.filter.request reads)

end StatTable.Plan
