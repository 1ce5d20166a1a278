import Mathlib.Data.List.Sort
import StatTable.Plan.JoinOrder
import StatTable.Proofs.Groups.Table

set_option autoImplicit false

namespace StatTable.Plan

theorem mem_sort_groups (groups : List Group) (group : Group) :
    group ∈ sortGroups groups ↔ group ∈ groups ∧ group.isDenominator = false := by
  simp [sortGroups, List.mem_mergeSort]

theorem denominator_of_source (group : Group) (aliasName : String) :
    group.isDenominatorOf aliasName = true ↔ ∃ rate, group.source = .denominator rate aliasName := by
  unfold Group.isDenominatorOf
  cases group.source <;> simp

theorem denominator_source (group : Group) :
    group.isDenominator = true ↔ ∃ rate numerator, group.source = .denominator rate numerator := by
  unfold Group.isDenominator
  cases group.source <;> simp

theorem denominator_of_is (group : Group) (aliasName : String)
    (divides : group.isDenominatorOf aliasName = true) : group.isDenominator = true := by
  obtain ⟨rate, source⟩ := (denominator_of_source group aliasName).mp divides
  exact (denominator_source group).mpr ⟨rate, aliasName, source⟩

theorem mem_join_order (groups : List Group) (group : Group) :
    group ∈ joinOrder groups ↔ group ∈ groups ∧ (group.isDenominator = false ∨
      ∃ numerator ∈ groups, numerator.isDenominator = false ∧
        group.isDenominatorOf numerator.aliasName = true) := by
  simp only [joinOrder, List.mem_flatMap, mem_sort_groups, List.mem_cons, List.mem_filter]
  constructor
  · rintro ⟨numerator, ⟨member, primary⟩, rfl | ⟨placed, divides⟩⟩
    · exact ⟨member, .inl primary⟩
    · exact ⟨placed, .inr ⟨numerator, member, primary, divides⟩⟩
  · rintro ⟨placed, primary | ⟨numerator, member, primary, divides⟩⟩
    · exact ⟨group, ⟨placed, primary⟩, .inl rfl⟩
    · exact ⟨numerator, ⟨member, primary⟩, .inr ⟨placed, divides⟩⟩

section

variable (groups : List Group) (distinct : Distinct groups)

include distinct

theorem sort_groups_nodup : (sortGroups groups).Nodup :=
  (List.mergeSort_perm _ _).nodup_iff.mpr ((List.Nodup.of_map _ distinct).filter _)

theorem join_order_nodup : (joinOrder groups).Nodup := by
  refine List.nodup_flatMap.mpr ⟨fun group member => ?_, ?_⟩
  · obtain ⟨_, primary⟩ := (mem_sort_groups groups group).mp member
    refine List.nodup_cons.mpr ⟨fun again => ?_, (List.Nodup.of_map _ distinct).filter _⟩
    have divides := denominator_of_is group group.aliasName (List.mem_filter.mp again).2
    simp [primary] at divides
  · refine (sort_groups_nodup groups distinct).imp_of_mem fun {one other} oneMember otherMember ne => ?_
    obtain ⟨onePlaced, onePrimary⟩ := (mem_sort_groups groups one).mp oneMember
    obtain ⟨otherPlaced, otherPrimary⟩ := (mem_sort_groups groups other).mp otherMember
    have apart : one.aliasName ≠ other.aliasName := fun same =>
      ne (distinct_eq groups distinct one other onePlaced otherPlaced same)
    intro group inOne inOther
    rcases List.mem_cons.mp inOne with rfl | first
    · rcases List.mem_cons.mp inOther with same | second
      · exact ne same
      · have divides := denominator_of_is group other.aliasName (List.mem_filter.mp second).2
        simp [onePrimary] at divides
    · obtain ⟨rate, source⟩ := (denominator_of_source _ _).mp (List.mem_filter.mp first).2
      rcases List.mem_cons.mp inOther with rfl | second
      · have divides := denominator_of_is group one.aliasName (List.mem_filter.mp first).2
        simp [otherPrimary] at divides
      · obtain ⟨_, source'⟩ := (denominator_of_source _ _).mp (List.mem_filter.mp second).2
        rw [source] at source'
        exact apart (by injection source')

theorem join_order_distinct : Distinct (joinOrder groups) := by
  refine (join_order_nodup groups distinct).map_on fun one oneMember other otherMember same => ?_
  exact distinct_eq groups distinct one other ((mem_join_order groups one).mp oneMember).1
    ((mem_join_order groups other).mp otherMember).1 same

theorem block_divides (numerator one other : Group) (placed : numerator ∈ groups)
    (primary : numerator.isDenominator = false)
    (block : one ∈ numerator :: groups.filter (·.isDenominatorOf numerator.aliasName))
    (otherPlaced : other ∈ groups) (divides : one.isDenominatorOf other.aliasName = true) :
    other = numerator := by
  rcases List.mem_cons.mp block with rfl | listed
  · rw [denominator_of_is one other.aliasName divides] at primary
    exact absurd primary (by simp)
  · obtain ⟨_, source⟩ := (denominator_of_source _ _).mp (List.mem_filter.mp listed).2
    obtain ⟨_, source'⟩ := (denominator_of_source _ _).mp divides
    rw [source] at source'
    exact distinct_eq groups distinct other numerator otherPlaced placed
      (by injection source' with _ same; exact same.symm)

theorem join_order_numerators :
    (joinOrder groups).Pairwise fun one other => one.isDenominatorOf other.aliasName = false := by
  refine List.pairwise_flatMap.mpr ⟨fun group member => ?_, ?_⟩
  · obtain ⟨placed, primary⟩ := (mem_sort_groups groups group).mp member
    refine List.pairwise_cons.mpr ⟨fun other listed => ?_, List.pairwise_of_forall_mem_list ?_⟩
    · refine Bool.eq_false_iff.mpr fun divides => ?_
      rw [denominator_of_is group other.aliasName divides] at primary
      exact absurd primary (by simp)
    · refine fun one oneListed other otherListed => Bool.eq_false_iff.mpr fun divides => ?_
      obtain ⟨otherPlaced, otherDivides⟩ := List.mem_filter.mp otherListed
      obtain rfl := block_divides groups distinct group one other placed primary
        (List.mem_cons_of_mem _ oneListed) otherPlaced divides
      rw [denominator_of_is other other.aliasName otherDivides] at primary
      exact absurd primary (by simp)
  · refine (sort_groups_nodup groups distinct).imp_of_mem fun {first second} inFirst inSecond ne => ?_
    obtain ⟨placed, primary⟩ := (mem_sort_groups groups first).mp inFirst
    obtain ⟨secondPlaced, _⟩ := (mem_sort_groups groups second).mp inSecond
    refine fun one oneBlock other otherBlock => Bool.eq_false_iff.mpr fun divides => ?_
    rcases List.mem_cons.mp otherBlock with rfl | listed
    · exact ne (block_divides groups distinct first one other placed primary oneBlock secondPlaced
        divides).symm
    · obtain ⟨otherPlaced, otherDivides⟩ := List.mem_filter.mp listed
      obtain rfl := block_divides groups distinct first one other placed primary oneBlock otherPlaced
        divides
      rw [denominator_of_is other second.aliasName otherDivides] at primary
      exact absurd primary (by simp)

theorem numerator_before (done rest : List Group) (group numerator : Group)
    (order : joinOrder groups = done ++ group :: rest) (placed : numerator ∈ joinOrder groups)
    (primary : numerator.isDenominator = false)
    (divides : group.isDenominatorOf numerator.aliasName = true) : numerator ∈ done := by
  have pairwise := join_order_numerators groups distinct
  rw [order, List.mem_append, List.mem_cons] at placed
  rw [order, List.pairwise_append, List.pairwise_cons] at pairwise
  rcases placed with before | rfl | after
  · exact before
  · rw [denominator_of_is numerator _ divides] at primary
    exact absurd primary (by simp)
  · rw [pairwise.2.1.1 numerator after] at divides
    exact absurd divides (by simp)

end

end StatTable.Plan
