import StatTable.Proofs.Groups.Placement

set_option autoImplicit false

namespace StatTable.Plan

theorem denominator_congr (one other : Group) (rate : Rate)
    (names : one.aliasName = other.aliasName) (targets : one.target = other.target) :
    one.denominator rate = other.denominator rate := by
  unfold Group.target at targets
  injection targets with _ params splits
  simp only [Group.denominator, names, params, splits]

theorem step_tracks (bindings : Bindings) (table next : GroupTable)
    (step : Step bindings table next) (distinct : Distinct table.groups) (group : Group)
    (member : group ∈ table.groups) :
    ∃ later ∈ next.groups, later.aliasName = group.aliasName ∧ later.target = group.target := by
  have updated : ∀ aliasName change, Keeps change →
      ∃ later ∈ (table.update aliasName change).groups,
        later.aliasName = group.aliasName ∧ later.target = group.target := by
    intro aliasName change keeps
    refine ⟨_, table.mem_update_of_mem aliasName change distinct group member, ?_⟩
    split
    · exact ⟨keeps.aliasName group, keeps.target group⟩
    · exact ⟨rfl, rfl⟩
  cases step with
  | place => exact ⟨group, table.mem_insert_of_mem _ group member, rfl, rfl⟩
  | require => exact updated _ _ (keeps_require _ _)
  | divide => exact ⟨group, table.mem_insert_of_mem _ group member, rfl, rfl⟩
  | having => exact updated _ _ (keeps_having _)
  | restrict => exact updated _ _ keeps_restrict

-- What a property of single groups needs so that every step keeps it.
structure Lasting (bindings : Bindings) (Holds : Group → Prop) : Prop where
  fresh : ∀ (target : Target) (firstSeen : Nat), Holds (target.group firstSeen)
  require : ∀ group, Holds group → ∀ use ∈ bindings.uses, ∀ target relation id aggregate,
    use.binding = .fact target relation id aggregate → group.aliasName = target.aliasName →
      Holds (group.requireAggregate id aggregate)
  having : ∀ group, Holds group → ∀ bound ∈ bindings.filters, ∀ target relation id aggregate,
    bound.binding = .fact target relation id aggregate → bound.isEarly = true →
      group.aliasName = target.aliasName →
        Holds (group.addHaving (earlyCondition bound relation aggregate))
  restrict : ∀ group, Holds group → ∀ bound ∈ bindings.filters, ∀ target,
    bound.binding.target? = some target → bound.restricts = true →
      group.aliasName = target.aliasName → Holds group.restrict

theorem step_lasting (bindings : Bindings) (Holds : Group → Prop)
    (lasting : Lasting bindings Holds) (table next : GroupTable)
    (step : Step bindings table next) (distinct : Distinct table.groups)
    (all : ∀ group ∈ table.groups, Holds group) : ∀ group ∈ next.groups, Holds group := by
  intro group member
  cases step with
  | place use target _ _ =>
      rcases table.mem_insert _ group member with old | rfl
      · exact all group old
      · exact lasting.fresh target _
  | require use target relation id aggregate used reads =>
      rcases table.mem_update _ _ distinct group member with old | ⟨before, old, same, rfl⟩
      · exact all group old
      · exact lasting.require before (all before old) use used target relation id aggregate reads same
  | divide =>
      rcases table.mem_insert _ group member with old | rfl
      · exact all group old
      · exact lasting.fresh _ _
  | having bound target relation id aggregate used reads early =>
      rcases table.mem_update _ _ distinct group member with old | ⟨before, old, same, rfl⟩
      · exact all group old
      · exact lasting.having before (all before old) bound used target relation id aggregate reads
          early same
  | restrict bound target used reads restricts =>
      rcases table.mem_update _ _ distinct group member with old | ⟨before, old, same, rfl⟩
      · exact all group old
      · exact lasting.restrict before (all before old) bound used target reads restricts same

theorem table_lasting (bindings : Bindings) (Holds : Group → Prop)
    (lasting : Lasting bindings Holds) : ∀ group ∈ bindings.table.groups, Holds group :=
  (steps_induction bindings
    (fun table => Distinct table.groups ∧ ∀ group ∈ table.groups, Holds group)
    (fun table next step both => ⟨step_distinct bindings table next step both.1,
      step_lasting bindings Holds lasting table next step both.1 both.2⟩) _ _
    (table_steps bindings) ⟨List.nodup_nil, by simp [GroupTable.empty]⟩).2

def Computes (bindings : Bindings) (group : Group) (id : String) (aggregate : Aggregate) : Prop :=
  ∃ use ∈ bindings.uses, ∃ target relation,
    use.binding = .fact target relation id aggregate ∧ group.aliasName = target.aliasName

theorem lasting_computed (bindings : Bindings) : Lasting bindings fun group =>
    ∀ entry ∈ group.aggregates, Computes bindings group entry.1 entry.2 where
  fresh := by simp [Target.group]
  require := by
    intro group held use used target relation id aggregate reads same entry member
    unfold Group.requireAggregate at member ⊢
    split at member
    · rw [if_pos ‹_›]
      exact held entry member
    · rw [if_neg ‹_›]
      rcases List.mem_append.mp member with old | new
      · exact held entry old
      · obtain rfl := List.mem_singleton.mp new
        exact ⟨use, used, target, relation, reads, same⟩
  having := fun _ held _ _ _ _ _ _ _ _ _ => held
  restrict := fun _ held _ _ _ _ _ _ => held

theorem lasting_ids (bindings : Bindings) : Lasting bindings fun group =>
    (group.aggregates.map (·.1)).Nodup where
  fresh := by simp [Target.group]
  require := by
    intro group held use used target relation id aggregate reads same
    unfold Group.requireAggregate
    split
    · exact held
    · rename_i absent
      rw [List.map_append, List.nodup_append]
      refine ⟨held, by simp, ?_⟩
      intro one oneMember other otherMember equal
      obtain ⟨entry, member, rfl⟩ := List.mem_map.mp oneMember
      obtain rfl : other = id := by simpa using otherMember
      exact absent (List.any_eq_true.mpr ⟨entry, member, by simpa using equal⟩)
  having := fun _ held _ _ _ _ _ _ _ _ _ => held
  restrict := fun _ held _ _ _ _ _ _ => held

def DecidesEarly (bindings : Bindings) (group : Group) (condition : Sql.Expr) : Prop :=
  ∃ bound ∈ bindings.filters, ∃ target relation id aggregate,
    bound.binding = .fact target relation id aggregate ∧ bound.isEarly = true ∧
      group.aliasName = target.aliasName ∧ condition = earlyCondition bound relation aggregate

theorem require_having (id : String) (aggregate : Aggregate) (group : Group) :
    (group.requireAggregate id aggregate).having = group.having := by
  unfold Group.requireAggregate
  split <;> rfl

theorem require_restricting (id : String) (aggregate : Aggregate) (group : Group) :
    (group.requireAggregate id aggregate).restricting = group.restricting := by
  unfold Group.requireAggregate
  split <;> rfl

theorem lasting_having (bindings : Bindings) : Lasting bindings fun group =>
    ∀ condition ∈ group.having, DecidesEarly bindings group condition where
  fresh := by simp [Target.group]
  require := by
    intro group held _ _ _ _ id aggregate _ _ condition member
    rw [require_having] at member
    unfold DecidesEarly
    rw [(keeps_require id aggregate).aliasName]
    exact held condition member
  having := by
    intro group held bound used target relation id aggregate reads early same condition member
    rcases List.mem_append.mp member with old | new
    · exact held condition old
    · obtain rfl := List.mem_singleton.mp new
      exact ⟨bound, used, target, relation, id, aggregate, reads, early, same, rfl⟩
  restrict := fun _ held _ _ _ _ _ _ => held

def Restricts (bindings : Bindings) (group : Group) : Prop :=
  ∃ bound ∈ bindings.filters, ∃ target, bound.binding.target? = some target ∧
    bound.restricts = true ∧ group.aliasName = target.aliasName

theorem lasting_restricting (bindings : Bindings) : Lasting bindings fun group =>
    group.restricting = true → Restricts bindings group where
  fresh := by simp [Target.group]
  require := by
    intro group held _ _ _ _ id aggregate _ _
    rw [require_restricting]
    unfold Restricts
    rw [(keeps_require id aggregate).aliasName]
    exact held
  having := fun _ held _ _ _ _ _ _ _ _ _ => held
  restrict := fun _ _ bound used target reads restricts same _ =>
    ⟨bound, used, target, reads, restricts, same⟩

inductive Origin (bindings : Bindings) (groups : List Group) (group : Group) : Prop
  | read (use : Use) (target : Target) (member : use ∈ bindings.uses)
      (reads : use.binding.target? = some target) (named : group.aliasName = target.aliasName)
      (same : group.target = target)
  | divides (use : Use) (target : Target) (relation : Relation) (id : String)
      (aggregate : Aggregate) (rate : Rate) (numerator : Group) (member : use ∈ bindings.uses)
      (reads : use.binding = .fact target relation id aggregate)
      (rated : use.request.rate = some rate) (placed : numerator ∈ groups)
      (numbers : numerator.aliasName = target.aliasName)
      (named : group.aliasName = (numerator.denominator rate).aliasName)
      (same : group.target = numerator.denominator rate)

theorem step_origin_kept (bindings : Bindings) (table next : GroupTable)
    (step : Step bindings table next) (distinct : Distinct table.groups) (group later : Group)
    (origin : Origin bindings table.groups group) (named : later.aliasName = group.aliasName)
    (same : later.target = group.target) : Origin bindings next.groups later := by
  cases origin with
  | read use target member reads named' same' =>
      exact .read use target member reads (named.trans named') (same.trans same')
  | divides use target relation id aggregate rate numerator member reads rated placed numbers named'
      same' =>
      obtain ⟨tracked, trackedMember, trackedName, trackedTarget⟩ :=
        step_tracks bindings table next step distinct numerator placed
      have divided := denominator_congr tracked numerator rate trackedName trackedTarget
      exact .divides use target relation id aggregate rate tracked member reads rated trackedMember
        (trackedName.trans numbers) (divided ▸ named.trans named') (divided ▸ same.trans same')

theorem step_origin (bindings : Bindings) (table next : GroupTable)
    (step : Step bindings table next) (distinct : Distinct table.groups)
    (all : ∀ group ∈ table.groups, Origin bindings table.groups group) :
    ∀ group ∈ next.groups, Origin bindings next.groups group := by
  intro group member
  have kept := step_origin_kept bindings table next step distinct
  have updated : ∀ aliasName change, Keeps change → next = table.update aliasName change →
      Origin bindings next.groups group := by
    rintro aliasName change keeps rfl
    rcases table.mem_update _ _ distinct group member with old | ⟨before, old, _, rfl⟩
    · exact kept group group (all group old) rfl rfl
    · exact kept before _ (all before old) (keeps.aliasName before) (keeps.target before)
  cases step with
  | place use target used reads =>
      rcases table.mem_insert _ group member with old | rfl
      · exact kept group group (all group old) rfl rfl
      · exact .read use target used reads rfl rfl
  | require => exact updated _ _ (keeps_require _ _) rfl
  | divide use target relation id aggregate rate numerator used reads rated found =>
      rcases table.mem_insert _ group member with old | rfl
      · exact kept group group (all group old) rfl rfl
      · obtain ⟨placed, numbers⟩ := table.get_some _ numerator found
        exact .divides use target relation id aggregate rate numerator used reads rated
          (table.mem_insert_of_mem _ numerator placed) numbers rfl rfl
  | having => exact updated _ _ (keeps_having _) rfl
  | restrict => exact updated _ _ keeps_restrict rfl

theorem table_origin (bindings : Bindings) :
    ∀ group ∈ bindings.table.groups, Origin bindings bindings.table.groups group :=
  (steps_induction bindings
    (fun table => Distinct table.groups ∧
      ∀ group ∈ table.groups, Origin bindings table.groups group)
    (fun table next step both => ⟨step_distinct bindings table next step both.1,
      step_origin bindings table next step both.1 both.2⟩) _ _
    (table_steps bindings) ⟨List.nodup_nil, by simp [GroupTable.empty]⟩).2

end StatTable.Plan
