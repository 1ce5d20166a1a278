import StatTable.Plan.Query
import StatTable.Proofs.Joins.Matching
import StatTable.Proofs.Joins.Staged
import StatTable.Proofs.Sql.Named

set_option autoImplicit false

namespace StatTable.Plan

open Sql

def planTables (engine : Engine) (database : Tables) (plan : QueryPlan) : Tables :=
  withTables engine database plan.query.withs

section

variable (defaults : Defaults) (state : TableState) (bindings : Bindings) (plan : QueryPlan)
variable (uses : Uses defaults state bindings) (compiled : Compiled state bindings plan)

section

include uses

theorem stage_reads (group : Group) (member : group ∈ bindings.ordered) (stage : Stage)
    (made : Stage.of? group = some stage) :
    ∀ table ∈ stage.query.reads, table.toList.head? ≠ some 't' := by
  unfold Stage.of? at made
  cases source : group.source with
  | direct relation marketType => simp [source] at made
  | fact relation =>
      rw [source] at made
      obtain rfl := Option.some.inj made
      have apart := placed_table defaults state bindings uses group
        (ordered_placed bindings group member) relation (by rw [source]; rfl)
      intro table read
      obtain rfl : table = relation.table := by
        simpa [Query.reads, Stage.query, Stage.ofFact] using read
      exact apart
  | denominator rate numerator =>
      rw [source] at made
      obtain rfl := Option.some.inj made
      intro table read
      have named : table = Catalog.gamelogs.table ∨ table = Catalog.playsTable := by
        rcases List.mem_append.mp read with first | joined
        · exact .inl (by simpa [Stage.query, Stage.ofDenominator] using first)
        · obtain ⟨join, listed, rfl⟩ := List.mem_map.mp joined
          cases plays : rate.countsTeamPlays with
          | false => simp [Stage.query, Stage.ofDenominator, plays] at listed
          | true =>
              obtain rfl : join = Stage.teamPlays := by
                simpa [Stage.query, Stage.ofDenominator, plays] using listed
              exact .inr rfl
      rcases named with rfl | rfl <;> decide

end

section

include compiled

theorem plan_withs : plan.query.withs =
    (bindings.ordered.filterMap Stage.of?).map fun stage => (stage.name, stage.query) := by
  rw [QueryPlan.query, compiled.stages]

theorem with_alias (name : String) (listed : name ∈ plan.query.withs.map (·.1)) :
    ∃ group ∈ bindings.ordered, group.aliasName = name := by
  rw [plan_withs state bindings plan compiled, List.map_map] at listed
  obtain ⟨stage, staged, rfl⟩ := List.mem_map.mp listed
  obtain ⟨group, member, made⟩ := List.mem_filterMap.mp staged
  exact ⟨group, member, (stage_name group stage made).symm⟩

theorem plan_table_base (engine : Engine) (database : Tables) (table : String)
    (other : table.toList.head? ≠ some 't') :
    planTables engine database plan table = database table := by
  refine with_tables_other engine _ database table fun listed => ?_
  obtain ⟨group, member, named⟩ := with_alias state bindings plan compiled table listed
  rw [placed_alias bindings group (ordered_placed bindings group member)] at named
  exact alias_ne group.target.key table other named

end

include compiled

theorem plan_withs_distinct : (plan.query.withs.map (·.1)).Nodup := by
  rw [QueryPlan.query, List.map_map]
  exact stage_names_distinct state bindings plan compiled

include uses

theorem plan_withs_independent : Independent plan.query.withs := by
  intro one oneListed
  rw [plan_withs state bindings plan compiled] at oneListed
  obtain ⟨stage, staged, rfl⟩ := List.mem_map.mp oneListed
  obtain ⟨holder, holderMember, holderMade⟩ := List.mem_filterMap.mp staged
  refine ⟨rfl, fun other otherListed read => ?_⟩
  obtain ⟨named, namedMember, same⟩ :=
    with_alias state bindings plan compiled other.1 (List.mem_map_of_mem otherListed)
  rw [placed_alias bindings named (ordered_placed bindings named namedMember)] at same
  exact alias_ne named.target.key other.1
    (stage_reads defaults state bindings uses holder holderMember stage holderMade other.1 read) same

theorem plan_table_stage (engine : Engine) (database : Tables) (group : Group)
    (member : group ∈ bindings.ordered) (stage : Stage) (made : Stage.of? group = some stage) :
    planTables engine database plan group.aliasName = stage.query.tableRows engine database := by
  have listed : (stage.name, stage.query) ∈ plan.query.withs := by
    rw [plan_withs state bindings plan compiled]
    exact List.mem_map.mpr ⟨stage, List.mem_filterMap.mpr ⟨group, member, made⟩, rfl⟩
  rw [← stage_name group stage made]
  exact with_tables_named engine _ database (plan_withs_distinct state bindings plan compiled)
    (plan_withs_independent defaults state bindings plan uses compiled) _ listed

end

end StatTable.Plan
