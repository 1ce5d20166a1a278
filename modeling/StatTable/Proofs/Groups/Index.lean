import StatTable.Plan.IndexedTable
import StatTable.Proofs.Joins.Served

/-
Groups with an index. Beside the groups stands a map from aliases to places, by which uses find their
groups as they are bound, one after another. The map says just where the groups are, so that every
look-up finds its group and what is bound by it is what a search of the groups would bind.
-/

set_option autoImplicit false

namespace StatTable.Plan

open Sql

namespace IndexedTable

-- The index leads from an alias to a place exactly when the group there has the alias.
def Consistent (indexed : IndexedTable) : Prop := ∀ (aliasName : String) (i : Nat),
  indexed.index[aliasName]? = some i ↔
    ∃ group, indexed.groups[i]? = some group ∧ group.aliasName = aliasName

variable (indexed : IndexedTable) (consistent : indexed.Consistent)

theorem consistent_empty : IndexedTable.empty.Consistent := by
  intro aliasName i
  simp [IndexedTable.empty]

include consistent

theorem groups_distinct : Distinct indexed.groups := by
  refine List.nodup_iff_getElem?_ne_getElem?.mpr fun i j before bounded same => ?_
  rw [List.length_map] at bounded
  rw [List.getElem?_map, List.getElem?_map, List.getElem?_eq_getElem bounded,
    List.getElem?_eq_getElem (before.trans bounded)] at same
  have first := (consistent _ i).mpr ⟨_, List.getElem?_eq_getElem (before.trans bounded), rfl⟩
  have second := (consistent _ j).mpr ⟨_, List.getElem?_eq_getElem bounded, rfl⟩
  rw [show indexed.groups[i].aliasName = indexed.groups[j].aliasName from Option.some.inj same,
    second] at first
  exact absurd (Option.some.inj first) (Nat.ne_of_gt before)

theorem index_searched (aliasName : String) :
    indexed.index[aliasName]? = indexed.table.indexOf? aliasName := by
  cases found : indexed.table.indexOf? aliasName with
  | some i =>
      obtain ⟨bounded, hit, _⟩ := List.findIdx?_eq_some_iff_getElem.mp found
      exact (consistent aliasName i).mpr
        ⟨_, List.getElem?_eq_getElem bounded, eq_of_beq hit⟩
  | none =>
      refine Option.eq_none_iff_forall_ne_some.mpr fun i held => ?_
      obtain ⟨group, placed, named⟩ := (consistent aliasName i).mp held
      exact (GroupTable.index_none indexed.table aliasName).mp found group
        (List.mem_of_getElem? placed) named

theorem find_table (aliasName : String) :
    (indexed.find? aliasName).map (·.2) = indexed.table.get? aliasName := by
  rw [find?, GroupTable.get?, index_searched indexed consistent]
  cases indexed.table.indexOf? aliasName with
  | none => rfl
  | some i => cases held : indexed.groups[i]? <;> simp [held, table]

theorem insert_table (group : Group) : (indexed.insert group).table = indexed.table.insert group := by
  rw [insert, GroupTable.insert, Std.HashMap.contains_eq_isSome_getElem?,
    index_searched indexed consistent]
  cases indexed.table.indexOf? group.aliasName <;> rfl

theorem insert_consistent (group : Group) : (indexed.insert group).Consistent := by
  rw [insert]
  split
  · exact consistent
  · rename_i fresh
    have absent (i : Nat) (held : Group) (placed : indexed.groups[i]? = some held) :
        held.aliasName ≠ group.aliasName := by
      intro named
      refine fresh ?_
      rw [Std.HashMap.contains_eq_isSome_getElem?, (consistent _ i).mpr ⟨held, placed, named⟩]
      rfl
    intro aliasName i
    dsimp only
    rw [Std.HashMap.getElem?_insert]
    by_cases own : group.aliasName = aliasName
    · rw [if_pos (beq_iff_eq.mpr own), Option.some.injEq]
      constructor
      · rintro rfl
        exact ⟨group, List.getElem?_concat_length .., own⟩
      · rintro ⟨held, placed, named⟩
        rcases (get_concat _ _ _ _).mp placed with old | ⟨last, _⟩
        · exact absurd (named.trans own.symm) (absent i held old)
        · exact last.symm
    · rw [if_neg (by simpa using own), consistent aliasName i]
      refine exists_congr fun held => and_congr_left fun named => ?_
      rw [get_concat]
      refine (or_iff_left ?_).symm
      rintro ⟨_, rfl⟩
      exact own named

theorem modify_consistent (i : Nat) (change : Group → Group) (keeps : Keeps change) :
    (indexed.modify i change).Consistent := by
  intro aliasName j
  rw [modify, consistent aliasName j]
  dsimp only
  rw [List.getElem?_modify]
  cases indexed.groups[j]? with
  | none => simp
  | some held =>
      by_cases own : i = j
      · simp [own, keeps.aliasName]
      · simp [own]

theorem find_held (aliasName : String) (group : Group)
    (held : indexed.table.get? aliasName = some group) :
    ∃ i, indexed.find? aliasName = some (i, group) ∧
      indexed.table.indexOf? aliasName = some i := by
  rw [← find_table indexed consistent] at held
  obtain ⟨⟨i, other⟩, found, rfl⟩ := Option.map_eq_some_iff.mp held
  obtain ⟨j, index, found'⟩ := Option.bind_eq_some_iff.mp found
  obtain ⟨_, _, same⟩ := Option.bind_eq_some_iff.mp found'
  obtain rfl : j = i := congrArg Prod.fst (Option.some.inj same)
  exact ⟨j, found, index_searched indexed consistent aliasName ▸ index⟩

end IndexedTable

theorem run_bind {α β : Type} (step : Binder α) (rest : α → Binder β) (before next : IndexedTable)
    (a : α) (done : step before = .ok a next) : (step >>= rest) before = rest a next := by
  show EStateM.bind step rest before = _
  rw [EStateM.bind, done]

theorem run_stops {α β : Type} (step : Binder α) (rest : α → Binder β) (before next : IndexedTable)
    (fault : Fault) (stopped : step before = .error fault next) :
    (step >>= rest) before = .error fault next := by
  show EStateM.bind step rest before = _
  rw [EStateM.bind, stopped]

-- A step goes through, and what it leaves behind is a table with its index.
def Reaches {α : Type} (step : Binder α) (before : IndexedTable) (result : α) (after : GroupTable) :
    Prop :=
  ∃ next, step before = .ok result next ∧ next.Consistent ∧ next.table = after

theorem reaches_bind {α β : Type} (step : Binder α) (rest : α → Binder β) (before : IndexedTable)
    (a : α) (b : β) (between after : GroupTable) (first : Reaches step before a between)
    (second : ∀ next, next.Consistent → next.table = between → Reaches (rest a) next b after) :
    Reaches (step >>= rest) before b after := by
  obtain ⟨next, done, consistent, same⟩ := first
  obtain ⟨last, doneLast, consistentLast, sameLast⟩ := second next consistent same
  exact ⟨last, (run_bind step rest before next a done).trans doneLast, consistentLast, sameLast⟩

section

variable (before : IndexedTable) (consistent : before.Consistent)

include consistent

theorem reaches_pure {α : Type} (a : α) (after : GroupTable) (same : before.table = after) :
    Reaches (pure a) before a after :=
  ⟨before, rfl, consistent, same⟩

theorem reaches_insert (group : Group) :
    Reaches (Binder.insert group) before () (before.table.insert group) :=
  ⟨before.insert group, rfl, before.insert_consistent consistent group,
    before.insert_table consistent group⟩

theorem find_runs (aliasName : String) (group : Group)
    (held : before.table.get? aliasName = some group) :
    ∃ i, Binder.find aliasName before = .ok (i, group) before ∧
      before.table.indexOf? aliasName = some i := by
  obtain ⟨i, found, index⟩ := before.find_held consistent aliasName group held
  refine ⟨i, ?_, index⟩
  rw [Binder.find, run_bind (get : Binder IndexedTable) _ before before before rfl, found]
  rfl

theorem reaches_update (aliasName : String) (change : Group → Group) (keeps : Keeps change)
    (group : Group) (held : before.table.get? aliasName = some group) :
    Reaches (Binder.update aliasName change) before () (before.table.update aliasName change) := by
  obtain ⟨i, found, index⟩ := find_runs before consistent aliasName group held
  refine ⟨before.modify i change, ?_, before.modify_consistent consistent i change keeps, ?_⟩
  · rw [Binder.update, run_bind _ _ before before _ found]
    rfl
  · rw [GroupTable.update, index]
    rfl

theorem reaches_denominator (numerator : String) (rate : Rate) (group : Group)
    (held : before.table.get? numerator = some group) :
    Reaches (Binder.placeDenominator numerator rate) before (group.denominator rate).aliasName
      (before.table.placeDenominator numerator rate) := by
  obtain ⟨i, found, _⟩ := find_runs before consistent numerator group held
  obtain ⟨_, named⟩ := before.table.get_some numerator group held
  have inserted := reaches_insert before consistent ((group.denominator rate).group group.firstSeen)
  obtain ⟨next, done, same⟩ := inserted
  refine ⟨next, ?_, ?_⟩
  · rw [Binder.placeDenominator, run_bind _ _ before before _ found]
    subst named
    exact run_bind _ _ before next () done
  · rw [GroupTable.placeDenominator, held]
    exact same

end

end StatTable.Plan
