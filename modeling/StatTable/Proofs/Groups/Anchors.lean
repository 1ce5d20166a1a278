import StatTable.Proofs.Groups.Calls
import StatTable.Proofs.Joins.Shared

set_option autoImplicit false

namespace StatTable.Plan

-- A group without what uses have asked of it since it was made.
def Group.made (group : Group) : Group :=
  { group with aggregates := [], having := [], restricting := false }

theorem require_made (id : String) (aggregate : Aggregate) (group : Group) :
    (group.requireAggregate id aggregate).made = group.made := by
  unfold Group.requireAggregate
  split <;> rfl

theorem made_iff (one other : Group) : one.made = other.made ↔
    one.aliasName = other.aliasName ∧ one.target = other.target ∧ one.firstSeen = other.firstSeen := by
  simp [Group.made, Group.target, and_assoc]

theorem update_made (table : GroupTable) (aliasName : String) (change : Group → Group)
    (distinct : Distinct table.groups) (kept : ∀ group, (change group).made = group.made) :
    (table.update aliasName change).groups.map (·.made) = table.groups.map (·.made) := by
  rw [table.update_groups aliasName change distinct, List.map_map]
  refine List.map_congr_left fun group _ => ?_
  dsimp only [Function.comp]
  split
  · exact kept group
  · rfl

def Anchored (groups : List Group) : Prop :=
  ∀ (i : Nat) (group : Group) (rate : Rate) (numerator : String), groups[i]? = some group →
    group.source = .denominator rate numerator →
      ∃ j < i, ∃ other relation, groups[j]? = some other ∧ other.aliasName = numerator ∧
        other.source = .fact relation ∧ other.splits = group.splits

theorem anchored_made (groups later : List Group) (made : later.map (·.made) = groups.map (·.made))
    (anchored : Anchored groups) : Anchored later := by
  have counterpart (one other : List Group) (same : one.map (·.made) = other.map (·.made)) (i : Nat)
      (group : Group) (held : one[i]? = some group) : ∃ own, other[i]? = some own ∧
        own.aliasName = group.aliasName ∧ own.target = group.target := by
    have placed : (other.map (·.made))[i]? = some group.made := by
      rw [← same, List.getElem?_map, held]
      rfl
    rw [List.getElem?_map] at placed
    obtain ⟨own, ownHeld, ownMade⟩ := Option.map_eq_some_iff.mp placed
    obtain ⟨named, target, _⟩ := (made_iff own group).mp ownMade
    exact ⟨own, ownHeld, named, target⟩
  intro i group rate numerator held source
  obtain ⟨own, ownHeld, _, same⟩ := counterpart later groups made i group held
  obtain ⟨j, before, other, relation, otherHeld, named, fact, splits⟩ :=
    anchored i own rate numerator ownHeld ((congrArg Target.source same).trans source)
  obtain ⟨last, lastHeld, lastNamed, lastSame⟩ := counterpart groups later made.symm j other otherHeld
  exact ⟨j, before, last, relation, lastHeld, lastNamed.trans named,
    (congrArg Target.source lastSame).trans fact, (congrArg Target.splits lastSame).trans
      (splits.trans (congrArg Target.splits same))⟩

theorem anchored_append (groups : List Group) (group : Group) (anchored : Anchored groups)
    (own : ∀ rate numerator, group.source = .denominator rate numerator →
      ∃ other ∈ groups, ∃ relation, other.aliasName = numerator ∧ other.source = .fact relation ∧
        other.splits = group.splits) : Anchored (groups ++ [group]) := by
  intro i held rate numerator placed source
  rcases (get_concat _ _ _ _).mp placed with old | ⟨rfl, rfl⟩
  · obtain ⟨j, before, other, relation, otherHeld, rest⟩ := anchored i held rate numerator old source
    exact ⟨j, before, other, relation,
      (get_concat _ _ _ _).mpr (.inl otherHeld), rest⟩
  · obtain ⟨other, member, relation, rest⟩ := own rate numerator source
    obtain ⟨j, otherHeld⟩ := List.mem_iff_getElem?.mp member
    obtain ⟨bounded, _⟩ := List.getElem?_eq_some_iff.mp otherHeld
    exact ⟨j, bounded, other, relation, (get_concat _ _ _ _).mpr (.inl otherHeld), rest⟩

structure Keyed (bindings : Bindings) (group : Group) : Prop where
  named : group.aliasName = group.target.aliasName
  listed : group.target.key ∈ bindings.keys

section

variable (bindings : Bindings) (apart : AliasesApart bindings.keys)

include apart

theorem keyed_key (group : Group) (keyed : Keyed bindings group) (use : Use) (target : Target)
    (member : use ∈ bindings.uses) (reads : use.binding.target? = some target)
    (named : group.aliasName = target.aliasName) : group.target.key = target.key := by
  by_contra differ
  exact apart _ keyed.listed _ (use_key bindings use target member reads) differ
    (keyed.named.symm.trans named)

theorem step_keyed (table next : GroupTable) (step : Step bindings table next)
    (distinct : Distinct table.groups) (all : ∀ group ∈ table.groups, Keyed bindings group) :
    ∀ group ∈ next.groups, Keyed bindings group := by
  intro group member
  have updated : ∀ aliasName change, Keeps change → next = table.update aliasName change →
      Keyed bindings group := by
    rintro aliasName change keeps rfl
    rcases table.mem_update _ _ distinct group member with old | ⟨before, old, _, rfl⟩
    · exact all group old
    · obtain ⟨named, listed⟩ := all before old
      exact ⟨by rw [keeps.aliasName, keeps.target, named], by rwa [keeps.target]⟩
  cases step with
  | place use target used reads =>
      rcases table.mem_insert _ group member with old | rfl
      · exact all group old
      · exact ⟨rfl, use_key bindings use target used reads⟩
  | require => exact updated _ _ (keeps_require _ _) rfl
  | divide use target relation id aggregate rate numerator used reads rated found =>
      rcases table.mem_insert _ group member with old | rfl
      · exact all group old
      · obtain ⟨placed, numbers⟩ := table.get_some _ numerator found
        have keys := keyed_key bindings apart numerator (all numerator placed) use target used
          (by rw [reads]; rfl) numbers
        have params : numerator.params = target.params := congrArg GroupKey.params keys
        have divided : (numerator.denominator rate).key = (target.denominator rate).key := by
          simp only [Target.key, Target.denominator, Group.denominator, Target.group, numbers, params,
            sourceAnchor]
        refine ⟨rfl, ?_⟩
        show (numerator.denominator rate).key ∈ bindings.keys
        rw [divided]
        exact denominator_key bindings use target relation id aggregate rate used reads rated
  | having => exact updated _ _ (keeps_having _) rfl
  | restrict => exact updated _ _ keeps_restrict rfl

variable (defaults : Defaults) (splits : List Split)
variable (binds : ∀ use ∈ bindings.uses, Binds defaults splits use.request use.binding)

include binds

theorem keyed_fact (group : Group) (keyed : Keyed bindings group) (use : Use) (target : Target)
    (relation : Relation) (id : String) (aggregate : Aggregate) (member : use ∈ bindings.uses)
    (reads : use.binding = .fact target relation id aggregate)
    (named : group.aliasName = target.aliasName) : ∃ relation, group.source = .fact relation := by
  obtain ⟨source, _⟩ := binds_fact _ _ _ _ target relation id aggregate (binds use member) reads
  have keys := keyed_key bindings apart group keyed use target member (by rw [reads]; rfl) named
  have kinds : group.source.kind = target.source.kind := congrArg GroupKey.kind keys
  rw [source] at kinds
  cases own : group.source with
  | fact relation => exact ⟨relation, rfl⟩
  | direct relation marketType => exact absurd (own ▸ kinds) (by simp [Source.kind])
  | denominator rate numerator => exact absurd (own ▸ kinds) (by simp [Source.kind])

theorem step_anchored (table next : GroupTable) (step : Step bindings table next)
    (distinct : Distinct table.groups) (all : ∀ group ∈ table.groups, Keyed bindings group)
    (anchored : Anchored table.groups) : Anchored next.groups := by
  have inserted (group : Group) (own : ∀ rate numerator, group.source = .denominator rate numerator →
      ∃ other ∈ table.groups, ∃ relation, other.aliasName = numerator ∧
        other.source = .fact relation ∧ other.splits = group.splits) :
      Anchored (table.insert group).groups := by
    rw [GroupTable.insert_groups]
    split
    · exact anchored
    · exact anchored_append table.groups group anchored own
  cases step with
  | place use target used reads =>
      refine inserted _ fun rate numerator source => ?_
      obtain ⟨relation, _, reading⟩ := binds_reads _ _ _ _ target (binds use used) reads
      have primary := reads_primary _ _ _ relation target reading (target.group use.request.place) rfl
      rw [(denominator_source _).mpr ⟨rate, numerator, source⟩] at primary
      cases primary
  | require =>
      exact anchored_made _ _ (update_made table _ _ distinct (require_made _ _)) anchored
  | divide use target relation id aggregate rate numerator used reads rated found =>
      obtain ⟨placed, numbers⟩ := table.get_some _ numerator found
      refine inserted _ fun named anchor source => ?_
      obtain ⟨_, rfl⟩ : rate = named ∧ numerator.aliasName = anchor := by
        injection source with rates anchors
        exact ⟨rates, anchors⟩
      obtain ⟨own, fact⟩ := keyed_fact bindings apart defaults splits binds numerator
        (all numerator placed) use target relation id aggregate used reads numbers
      exact ⟨numerator, placed, own, rfl, fact, rfl⟩
  | having => exact anchored_made _ _ (update_made table _ _ distinct fun _ => rfl) anchored
  | restrict => exact anchored_made _ _ (update_made table _ _ distinct fun _ => rfl) anchored

theorem steps_anchored (table : GroupTable) (steps : Steps bindings .empty table) :
    Anchored table.groups :=
  (steps_induction bindings (fun table => Distinct table.groups ∧
      (∀ group ∈ table.groups, Keyed bindings group) ∧ Anchored table.groups)
    (fun table next step held => ⟨step_distinct bindings table next step held.1,
      step_keyed bindings apart table next step held.1 held.2.1,
      step_anchored bindings apart defaults splits binds table next step held.1 held.2.1 held.2.2⟩)
    _ _ steps ⟨List.nodup_nil, by simp [GroupTable.empty], by simp [GroupTable.empty, Anchored]⟩).2.2

end

theorem step_keeps_made (bindings : Bindings) (table next : GroupTable)
    (step : Step bindings table next) (distinct : Distinct table.groups) :
    table.groups.map (·.made) <+: next.groups.map (·.made) := by
  have inserted (group : Group) :
      table.groups.map (·.made) <+: (table.insert group).groups.map (·.made) := by
    rw [GroupTable.insert_groups]
    split
    · exact List.prefix_rfl
    · exact (List.prefix_append _ _).map _
  have updated (aliasName : String) (change : Group → Group)
      (kept : ∀ group, (change group).made = group.made) :
      table.groups.map (·.made) <+: (table.update aliasName change).groups.map (·.made) :=
    update_made table aliasName change distinct kept ▸ List.prefix_rfl
  cases step with
  | place => exact inserted _
  | require => exact updated _ _ (require_made _ _)
  | divide => exact inserted _
  | having => exact updated _ _ fun _ => rfl
  | restrict => exact updated _ _ fun _ => rfl

theorem steps_keep_made (bindings : Bindings) (table next : GroupTable)
    (steps : Steps bindings table next) (distinct : Distinct table.groups) :
    table.groups.map (·.made) <+: next.groups.map (·.made) :=
  (steps_keep bindings
    (fun later => table.groups.map Group.made <+: later.groups.map Group.made)
    (fun before after step apart kept => kept.trans (step_keeps_made bindings before after step apart))
    table next steps distinct List.prefix_rfl).2

-- Wherever calls leave the groups, the index says where they are, and they are what they were made.
structure IndexKept (defaults : Defaults) (splits : List Split) (calls : List Call) : Prop where
  consistent : (reached defaults splits calls).Consistent
  distinct : Distinct (reached defaults splits calls).groups
  -- No look-up fails: calls stop at a use that is refused or not at all.
  found : ∀ aliasName next,
    calls.mapM (Call.run defaults splits) .empty ≠ .error (.unplaced aliasName) next
  table : (reached defaults splits calls).table =
    (boundUntil defaults splits calls).foldl BoundCall.place .empty
  lasting : ∀ more, (reached defaults splits calls).groups.map (·.made) <+:
    (reached defaults splits (calls ++ more)).groups.map (·.made)
  anchored : AliasesApart (Bindings.ofCalls (boundUntil defaults splits calls)).keys →
    ∀ (i : Nat) (group : Group) (rate : Rate) (numerator : String),
      (reached defaults splits calls).groups[i]? = some group →
      group.source = .denominator rate numerator →
        ∃ j < i, ∃ other relation, (reached defaults splits calls).groups[j]? = some other ∧
          other.aliasName = numerator ∧ other.source = .fact relation ∧
          other.splits = group.splits ∧
          (joinOrder (reached defaults splits calls).groups).find? (·.aliasName == numerator) =
            some other

section

variable (defaults : Defaults) (splits : List Split) (calls : List Call)

theorem bound_until_append (more : List Call) : ∃ rest, boundUntil defaults splits (calls ++ more) =
    boundUntil defaults splits calls ++ rest := by
  induction calls with
  | nil => exact ⟨_, rfl⟩
  | cons call calls ih =>
      rw [List.cons_append, boundUntil, boundUntil]
      cases bind defaults splits call.request with
      | error error => exact ⟨[], rfl⟩
      | ok binding =>
          obtain ⟨rest, same⟩ := ih
          exact ⟨rest, by rw [same]; rfl⟩

theorem bound_until_binds : ∀ call ∈ boundUntil defaults splits calls,
    Binds defaults splits call.request call.binding := by
  induction calls with
  | nil => simp [boundUntil]
  | cons call calls ih =>
      rw [boundUntil]
      cases bound : bind defaults splits call.request with
      | error error => simp
      | ok binding =>
          refine List.forall_mem_cons.mpr ⟨?_, ih⟩
          cases call <;> exact bind_binds defaults splits _ _ bound

theorem uses_bound : ∀ use ∈ (Bindings.ofCalls (boundUntil defaults splits calls)).uses,
    Binds defaults splits use.request use.binding := by
  have binds := bound_until_binds defaults splits calls
  intro use member
  rcases List.mem_append.mp member with selected | filtered
  · obtain ⟨bound, listed, rfl⟩ := List.mem_map.mp selected
    obtain ⟨call, called, own⟩ := List.mem_filterMap.mp listed
    cases call with
    | value select => exact Option.some.inj own ▸ binds _ called
    | filter filter => cases own
  · obtain ⟨bound, listed, rfl⟩ := List.mem_map.mp filtered
    obtain ⟨call, called, own⟩ := List.mem_filterMap.mp listed
    cases call with
    | value select => cases own
    | filter filter => exact Option.some.inj own ▸ binds _ called

theorem numerator_joined (groups : List Group) (distinct : Distinct groups) (other : Group)
    (relation : Relation) (member : other ∈ groups) (source : other.source = .fact relation) :
    (joinOrder groups).find? (·.aliasName == other.aliasName) = some other := by
  refine find_alias _ (join_order_distinct groups distinct) other
    ((mem_join_order groups other).mpr ⟨member, .inl ?_⟩)
  rw [Group.isDenominator, source]

theorem calls_keep_index : IndexKept defaults splits calls := by
  obtain ⟨consistent, placed, runs⟩ := reached_calls defaults splits calls
  have distinct := (reached defaults splits calls).groups_distinct consistent
  refine {
    consistent := consistent
    distinct := distinct
    found := fun aliasName last stops => ?_
    table := placed
    lasting := fun more => ?_
    anchored := fun apart i group rate numerator held source => ?_ }
  · rw [stops] at runs
    cases refused : refusal? defaults splits calls with
    | none => rw [refused] at runs; cases runs
    | some error => rw [refused] at runs; cases runs
  · obtain ⟨rest, same⟩ := bound_until_append defaults splits calls more
    obtain ⟨_, later, _⟩ := reached_calls defaults splits (calls ++ more)
    rw [same, List.foldl_append, ← placed] at later
    have steps := steps_keep_made _ _ _ (calls_steps rest (reached defaults splits calls).table) distinct
    rwa [← later] at steps
  · have anchored := steps_anchored _ apart defaults splits (uses_bound defaults splits calls) _
      (calls_steps (boundUntil defaults splits calls) .empty)
    rw [← placed] at anchored
    obtain ⟨j, before, other, relation, otherHeld, rfl, fact, same⟩ :=
      anchored i group rate numerator held source
    exact ⟨j, before, other, relation, otherHeld, rfl, fact, same,
      numerator_joined _ distinct other relation (List.mem_of_getElem? otherHeld) fact⟩

end

def rushYards : Column :=
  (Column.fact Catalog.rusherPlays "rush_yards" "Rush Yards" (.sum "rush_yds")).withRates
    Catalog.rushRates

-- Yards are compared for each game, shown as they are, and then asked for of no down at all, which is
-- refused.
def rushingCalls : List Call :=
  [.filter ⟨⟨rushYards, .empty, some .perGame, 1⟩, .gte, some (.scalar (.integer 50))⟩,
    .value ⟨⟨rushYards, .empty, none, 0⟩, 0⟩,
    .value ⟨⟨rushYards, .ofList [(.down, .list [])], none, 2⟩, 1⟩]

theorem rushing_calls_anchored :
    AliasesApart (Bindings.ofCalls (boundUntil .standard [.year] rushingCalls)).keys ∧
    (refusal? .standard [.year] rushingCalls).isSome = true ∧
    (reached .standard [.year] rushingCalls).groups.map (·.source.kind) = ["fact", "rate"] ∧
    Anchored (reached .standard [.year] rushingCalls).groups := by
  have apart : AliasesApart (Bindings.ofCalls (boundUntil .standard [.year] rushingCalls)).keys :=
    aliases_apart_of_dedup _ (by decide +kernel)
  have kept := calls_keep_index .standard [.year] rushingCalls
  refine ⟨apart, by decide +kernel, ?_, fun i group rate numerator held source => ?_⟩
  · show (reached .standard [.year] rushingCalls).table.groups.map (·.source.kind) = _
    rw [kept.table]
    decide +kernel
  · obtain ⟨j, before, other, relation, placed, named, fact, splits, _⟩ :=
      kept.anchored apart i group rate numerator held source
    exact ⟨j, before, other, relation, placed, named, fact, splits⟩

end StatTable.Plan
