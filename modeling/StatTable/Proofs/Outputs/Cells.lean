import StatTable.Proofs.Joins.Shared
import StatTable.Proofs.Outputs.Names
import StatTable.Proofs.Outputs.Ordering
import StatTable.Proofs.Params.Meaning
import StatTable.Store.Rows

set_option autoImplicit false

namespace StatTable

namespace Json

theorem insert_fresh_perm (name : String) (value : Value) (members : List (String × Value))
    (fresh : name ∉ memberNames members) :
    (insertMember name value members).Perm ((name, value) :: members) := by
  induction members with
  | nil => exact List.Perm.refl _
  | cons first rest ih =>
      rw [memberNames, List.map_cons, List.mem_cons, not_or] at fresh
      rw [insertMember]
      split
      · exact List.Perm.refl _
      · rw [if_neg fresh.1]
        exact ((ih fresh.2).cons first).trans (List.Perm.swap _ _ _)

theorem sort_members_perm (members : List (String × Value))
    (distinct : (memberNames members).Nodup) : (sortMembers members).Perm members := by
  induction members using List.reverseRecOn with
  | nil => exact List.Perm.refl _
  | append_singleton members member ih =>
      rw [memberNames, List.map_append, List.map_singleton, List.nodup_append_comm,
        List.singleton_append, List.nodup_cons] at distinct
      have sorted := ih distinct.2
      have fresh : member.1 ∉ memberNames (sortMembers members) := fun listed =>
        distinct.1 ((sorted.map Prod.fst).mem_iff.mp listed)
      rw [sortMembers, List.foldl_append]
      exact ((insert_fresh_perm member.1 member.2 _ fresh).trans (sorted.cons member)).trans
        (List.perm_append_singleton member members).symm

end Json

namespace Rows

-- An object has one member for each cell of a row, the one that the column of its name has there.
structure HasCells (rows : Rows) (index : Nat) (row : List Json.Value)
    (members : List (String × Json.Value)) : Prop where
  names : (memberNames members).Perm rows.columns
  cells : ∀ (place : Nat) (name : String), rows.columns[place]? = some name →
    ∃ (cell : Json.Value) (column : List Json.Value),
      row[place]? = some cell ∧ members.lookup name = some cell ∧ rows.column? name = some column ∧
        column.length = rows.rows.length ∧ column[index]? = some cell

structure KeepsCells (rows : Rows) : Prop where
  size : rows.toMaps.length = rows.rows.length
  objects : ∀ (index : Nat) (row : List Json.Value), rows.rows[index]? = some row →
    ∃ members, rows.toMaps[index]? = some (.object members) ∧ HasCells rows index row members

variable (rows : Rows) (distinct : rows.columns.Nodup)
variable (full : ∀ row ∈ rows.rows, row.length = rows.columns.length)

include distinct full

theorem column_of_name (place : Nat) (name : String) (held : rows.columns[place]? = some name) :
    ∃ column, rows.column? name = some column ∧
      List.Forall₂ (fun row cell => row[place]? = some cell) rows.rows column := by
  obtain ⟨within, rfl⟩ := List.getElem?_eq_some_iff.mp held
  have first : rows.columns.findIdx? (· == rows.columns[place]) = some place := by
    refine List.findIdx?_eq_some_iff_getElem.mpr ⟨within, beq_self_eq_true _, fun other before => ?_⟩
    intro same
    exact absurd (distinct.getElem_inj_iff.mp (beq_iff_eq.mp same)) (Nat.ne_of_lt before)
  obtain ⟨column, found⟩ := (map_m_some_iff (fun row : List Json.Value => row[place]?) rows.rows).mpr
    fun row listed => ⟨row.get ⟨place, (full row listed).symm ▸ within⟩, List.getElem?_eq_getElem _⟩
  refine ⟨column, ?_, (map_m_related _ _ _).mp found⟩
  rw [column?, first]
  exact found

theorem keeps_cells : rows.KeepsCells := by
  refine ⟨List.length_map _, fun index row held => ?_⟩
  have complete := full row (List.mem_of_getElem? held)
  have names : memberNames (rows.columns.zip row) = rows.columns :=
    List.map_fst_zip (Nat.le_of_eq complete.symm)
  have apart : (memberNames (rows.columns.zip row)).Nodup := names.symm ▸ distinct
  have sorted := Json.sort_members_perm (rows.columns.zip row) apart
  refine ⟨Json.sortMembers (rows.columns.zip row), ?_, ?_, fun place name named => ?_⟩
  · rw [toMaps, List.getElem?_map, held]
    rfl
  · have listed := sorted.map Prod.fst
    rwa [← memberNames, ← memberNames, names] at listed
  · obtain ⟨column, found, cells⟩ := column_of_name rows distinct full place name named
    obtain ⟨cell, shown, own⟩ := forall_get _ _ _ cells index row held
    refine ⟨cell, column, own, ?_, found, cells.length_eq.symm, shown⟩
    have pair : (name, cell) ∈ rows.columns.zip row :=
      List.mem_of_getElem? (List.getElem?_zip_eq_some.mpr ⟨named, own⟩)
    rw [lookup_perm _ _ name ((sorted.map Prod.fst).nodup_iff.mpr apart) sorted]
    exact lookup_of_mem _ _ _ apart pair

end Rows

namespace Plan

-- What the outputs of a plan are: the player, then the dimensions asked for that some group has,
-- then the columns as they were asked for, and behind them those that only the order needs.
structure ShowsAll (state : TableState) (bindings : Bindings) (plan : QueryPlan) : Prop where
  kinds : plan.outputs.map (·.kind) =
    .entity :: (state.carried bindings.table.groups).map OutputKind.split ++
      numbered [] (state.shown.map (·.id))
  shown : ∃ further, state.shown = state.listed ++ further ∧
    TableState.OrderOnly state.listed state.sorts further
  numbers : ∀ id, plan.outputs.filterMap (·.kind.occurrenceOf? id) =
    List.range ((state.shown.map (·.id)).count id)
  names : plan.outputNames = plan.outputs.map (·.kind.label)
  distinct : plan.outputNames.Nodup
  rows : ∀ rows : Rows, rows.columns = plan.outputNames →
    (∀ row ∈ rows.rows, row.length = plan.outputs.length) → rows.KeepsCells

theorem compiled_shows_all (defaults : Defaults) (limits : Limits) (state : TableState)
    (plan : QueryPlan) (ok : compile defaults limits state = .ok plan) :
    ∃ bindings, boundUses defaults state = .ok bindings ∧ ShowsAll state bindings plan := by
  obtain ⟨requests, collected, _⟩ := (bind_ok _ _ _).mp ok
  obtain ⟨bindings, bound, compiled, _⟩ :=
    compile_ordered defaults limits state requests plan collected ok
  have distinct := output_names_nodup defaults state requests bindings plan collected bound compiled
  refine ⟨bindings, (bind_ok _ _ _).mpr ⟨requests, collected, bound⟩, {
    kinds := plan_kinds defaults state requests bindings plan collected bound compiled
    shown := state.shown_grows
    numbers := fun id => ?_
    names := outputs_labelled state bindings plan compiled
    distinct := distinct
    rows := fun rows named full => ?_ }⟩
  · rw [output_occurrences compiled.outputs (output_kinds _ _ _ _ bound),
      of_state_kinds state requests collected, numbered_occurrences]
  · refine rows.keeps_cells (named ▸ distinct) fun row listed => ?_
    rw [full row listed, named, QueryPlan.outputNames, List.length_map]

def rankedYardsReply : Rows :=
  ⟨["pid", "rush_yards_0", "rush_yards_1", "rush_attempts_0"],
    [[.string "one", .number (.integer 90), .number (.integer 45), .number (.integer 20)],
      [.string "other", .number (.integer 10), .null, .null]]⟩

theorem ranked_yards_shown :
    compile .standard .usual rankedYards = .ok rankedYardsPlan ∧
    (∃ bindings, boundUses .standard rankedYards = .ok bindings ∧
      ShowsAll rankedYards bindings rankedYardsPlan) ∧
    rankedYardsReply.columns = rankedYardsPlan.outputNames ∧ rankedYardsReply.KeepsCells := by
  have ok : compile .standard .usual rankedYards = .ok rankedYardsPlan :=
    ok_of_is_ok _ _ (by decide +kernel)
  obtain ⟨bindings, bound, shows⟩ := compiled_shows_all .standard .usual rankedYards _ ok
  have named : rankedYardsReply.columns = rankedYardsPlan.outputNames := by decide +kernel
  have full : ∀ row ∈ rankedYardsReply.rows, row.length = rankedYardsPlan.outputs.length := by
    have four : rankedYardsPlan.outputs.length = 4 := by decide +kernel
    rw [four]
    simp [rankedYardsReply]
  exact ⟨ok, ⟨bindings, bound, shows⟩, named, shows.rows _ named full⟩

end Plan

end StatTable
