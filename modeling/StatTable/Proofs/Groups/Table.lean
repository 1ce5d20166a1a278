import Mathlib.Data.List.Nodup
import StatTable.Plan.Binding

set_option autoImplicit false

namespace StatTable.Plan

def Group.target (group : Group) : Target := ⟨group.source, group.params, group.splits⟩

def Distinct (groups : List Group) : Prop := (groups.map (·.aliasName)).Nodup

structure Keeps (change : Group → Group) : Prop where
  aliasName : ∀ group, (change group).aliasName = group.aliasName
  target : ∀ group, (change group).target = group.target

theorem keeps_require (id : String) (aggregate : Aggregate) :
    Keeps (Group.requireAggregate id aggregate) where
  aliasName := by
    intro group
    unfold Group.requireAggregate
    split <;> rfl
  target := by
    intro group
    unfold Group.requireAggregate
    split <;> rfl

theorem keeps_having (condition : Sql.Expr) : Keeps (Group.addHaving condition) :=
  ⟨fun _ => rfl, fun _ => rfl⟩

theorem keeps_restrict : Keeps Group.restrict := ⟨fun _ => rfl, fun _ => rfl⟩

theorem distinct_eq (groups : List Group) (distinct : Distinct groups) (one other : Group)
    (oneMember : one ∈ groups) (otherMember : other ∈ groups)
    (same : one.aliasName = other.aliasName) : one = other :=
  List.inj_on_of_nodup_map distinct oneMember otherMember same

namespace GroupTable

theorem index_none (table : GroupTable) (aliasName : String) :
    table.indexOf? aliasName = none ↔ ∀ group ∈ table.groups, group.aliasName ≠ aliasName := by
  simp [indexOf?, List.findIdx?_eq_none_iff]

theorem get_some (table : GroupTable) (aliasName : String) (group : Group)
    (found : table.get? aliasName = some group) :
    group ∈ table.groups ∧ group.aliasName = aliasName := by
  obtain ⟨i, index, read⟩ := Option.bind_eq_some_iff.mp found
  refine ⟨List.mem_of_getElem? read, ?_⟩
  obtain ⟨bound, hit, _⟩ := List.findIdx?_eq_some_iff_getElem.mp index
  rw [List.getElem?_eq_getElem bound] at read
  rw [← Option.some.inj read]
  simpa using hit

theorem get_of_mem (table : GroupTable) (distinct : Distinct table.groups) (group : Group)
    (member : group ∈ table.groups) : table.get? group.aliasName = some group := by
  cases found : table.get? group.aliasName with
  | some other =>
      obtain ⟨otherMember, same⟩ := get_some table group.aliasName other found
      rw [distinct_eq table.groups distinct other group otherMember member same]
  | none =>
      unfold get? at found
      cases index : table.indexOf? group.aliasName with
      | none => exact absurd rfl ((index_none table group.aliasName).mp index group member)
      | some i =>
          obtain ⟨bound, _⟩ := List.findIdx?_eq_some_iff_getElem.mp index
          simp [index, bound] at found

section

variable (table : GroupTable) (group : Group)

theorem insert_groups : (table.insert group).groups =
    if ∃ other ∈ table.groups, other.aliasName = group.aliasName then table.groups
    else table.groups ++ [group] := by
  unfold insert
  cases index : table.indexOf? group.aliasName with
  | none =>
      have absent := (index_none table group.aliasName).mp index
      rw [if_neg]
      rintro ⟨other, member, same⟩
      exact absent other member same
  | some i =>
      rw [if_pos]
      by_contra none
      have absent := (index_none table group.aliasName).mpr fun other member same =>
        none ⟨other, member, same⟩
      simp [absent] at index

theorem insert_distinct (distinct : Distinct table.groups) :
    Distinct (table.insert group).groups := by
  rw [insert_groups]
  split
  · exact distinct
  · rename_i absent
    unfold Distinct
    rw [List.map_append, List.nodup_append]
    refine ⟨distinct, by simp, ?_⟩
    intro one oneMember other otherMember same
    obtain ⟨held, member, rfl⟩ := List.mem_map.mp oneMember
    have fresh : other = group.aliasName := by simpa using otherMember
    exact absent ⟨held, member, same.trans fresh⟩

theorem mem_insert_of_mem (held : Group) (member : held ∈ table.groups) :
    held ∈ (table.insert group).groups := by
  rw [insert_groups]
  split
  · exact member
  · exact List.mem_append_left [group] member

theorem mem_insert (held : Group) (member : held ∈ (table.insert group).groups) :
    held ∈ table.groups ∨ held = group := by
  rw [insert_groups] at member
  split at member
  · exact .inl member
  · simpa using member

theorem exists_insert : ∃ held ∈ (table.insert group).groups, held.aliasName = group.aliasName := by
  rw [insert_groups]
  split
  · assumption
  · exact ⟨group, by simp, rfl⟩

end

theorem modify_first (aliasName : String) (change : Group → Group) (groups : List Group)
    (distinct : Distinct groups) :
    (match groups.findIdx? (·.aliasName == aliasName) with
      | some i => groups.modify i change
      | none => groups) =
      groups.map fun group => if group.aliasName = aliasName then change group else group := by
  induction groups with
  | nil => rfl
  | cons group rest ih =>
      obtain ⟨fresh, restDistinct⟩ := List.nodup_cons.mp distinct
      rw [List.findIdx?_cons, List.map_cons]
      by_cases hit : group.aliasName = aliasName
      · have untouched : rest.map (fun other =>
            if other.aliasName = aliasName then change other else other) = rest.map id := by
          refine List.map_congr_left fun other member => if_neg fun same => fresh ?_
          exact List.mem_map.mpr ⟨other, member, same.trans hit.symm⟩
        simp [hit, untouched]
      · rw [← ih restDistinct]
        cases rest.findIdx? (·.aliasName == aliasName) <;> simp [hit]

theorem update_groups (table : GroupTable) (aliasName : String) (change : Group → Group)
    (distinct : Distinct table.groups) : (table.update aliasName change).groups =
      table.groups.map fun group => if group.aliasName = aliasName then change group else group := by
  rw [← modify_first aliasName change table.groups distinct, update, indexOf?]
  cases table.groups.findIdx? (·.aliasName == aliasName) <;> rfl

section

variable (table : GroupTable) (aliasName : String) (change : Group → Group)
variable (keeps : Keeps change) (distinct : Distinct table.groups)

include keeps distinct

theorem update_distinct : Distinct (table.update aliasName change).groups := by
  have names : (table.update aliasName change).groups.map (·.aliasName) =
      table.groups.map (·.aliasName) := by
    rw [update_groups table aliasName change distinct, List.map_map]
    refine List.map_congr_left fun group _ => ?_
    by_cases hit : group.aliasName = aliasName
    · simp [hit, keeps.aliasName]
    · simp [hit]
  rwa [Distinct, names]

omit keeps in
theorem mem_update (held : Group) (member : held ∈ (table.update aliasName change).groups) :
    held ∈ table.groups ∨
      ∃ group ∈ table.groups, group.aliasName = aliasName ∧ held = change group := by
  rw [update_groups table aliasName change distinct] at member
  obtain ⟨group, groupMember, rfl⟩ := List.mem_map.mp member
  by_cases hit : group.aliasName = aliasName
  · exact .inr ⟨group, groupMember, hit, by simp [hit]⟩
  · exact .inl (by simpa [hit] using groupMember)

omit keeps in
theorem mem_update_of_mem (group : Group) (member : group ∈ table.groups) :
    (if group.aliasName = aliasName then change group else group) ∈
      (table.update aliasName change).groups := by
  rw [update_groups table aliasName change distinct]
  exact List.mem_map_of_mem member

end

end GroupTable

end StatTable.Plan
