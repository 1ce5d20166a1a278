import StatTable.Proofs.Params.Resolution
import StatTable.Proofs.Players.Reading
import StatTable.Proofs.Sql.Grouping

set_option autoImplicit false

namespace StatTable.Plan

open Sql

def Relation.pinned (relation : Relation) : Bool :=
  relation.params.all (fun column =>
    column.default.isSome && paramColumn? relation column.key == some column.column) &&
    (relation.weekColumn.isNone || relation.weekDefault != .allWeeks)

theorem sources_pinned : ∀ source ∈ Catalog.sources, (match source with
    | .direct relation _ => Relation.pinned relation
    | .fact _ | .denominator .. => true) = true := by
  decide +kernel

theorem usual_week (defaults : Defaults) (usual : WeekDefault) (other : usual ≠ .allWeeks) :
    (defaultWeek defaults usual).isSome = true := by
  cases usual with
  | allWeeks => exact absurd rfl other
  | fixed week => rfl
  | current => rfl

def HoldsSplit (splits : List Split) (relation : Relation) (column : String) : Prop :=
  ∃ split ∈ splits, relation.splitColumn split = some column

-- The column is compared with a single value: that of a parameter, or one that is fixed.
inductive ComparedOnce (relation : Relation) (params : Params) : String → Prop
  | param (key : ParamKey) (column : String) (s : Scalar)
      (read : paramColumn? relation key = some column) (given : params.get? key = some (.scalar s)) :
      ComparedOnce relation params column
  | fixed (own : FixedColumn) (member : own ∈ relation.fixed) :
      ComparedOnce relation params own.column

section

variable (relation : Relation) (splits : List Split) (defaults : Defaults)
variable (asked params single : Params) (pinned : Relation.pinned relation = true)
variable (resolved : resolve relation splits defaults asked = .ok params)
variable (required : requireSingleValues splits params = .ok single)

theorem split_key_holds (key : ParamKey) (column : String) (split : isSplitKey splits key = true)
    (read : paramColumn? relation key = some column) : HoldsSplit splits relation column := by
  cases key with
  | year => exact ⟨.year, List.contains_iff_mem.mp split, read⟩
  | week => exact ⟨.week, List.contains_iff_mem.mp split, read⟩
  | _ => cases split

include required

theorem given_compared (key : ParamKey) (column : String)
    (read : paramColumn? relation key = some column)
    (given : (params.get? key).isSome = true) :
    HoldsSplit splits relation column ∨ ComparedOnce relation params column := by
  by_cases split : isSplitKey splits key = true
  · exact .inl (split_key_holds relation splits key column split read)
  · obtain ⟨value, named⟩ := Option.isSome_iff_exists.mp given
    obtain ⟨s, rfl⟩ := single_values splits params single required key value
      (Bool.eq_false_iff.mpr split) named
    exact .inr (.param key column s read named)

include pinned resolved

theorem column_compared (column : String)
    (telling : column ∈ relation.yearColumn.toList ++ relation.weekColumn.toList ++
      relation.params.map (·.column) ++ relation.fixed.map (·.column)) :
    HoldsSplit splits relation column ∨ ComparedOnce relation params column := by
  obtain ⟨yearGiven, weekGiven, paramsGiven⟩ :=
    resolve_given relation splits defaults asked params resolved
  obtain ⟨paramsPinned, weekPinned⟩ := Bool.and_eq_true_iff.mp pinned
  have given := given_compared relation splits params single required
  rw [List.mem_append, List.mem_append, List.mem_append] at telling
  rcases telling with ((year | week) | param) | fixed
  · have named : relation.yearColumn = some column := by simpa using year
    by_cases split : Split.year ∈ splits
    · exact .inl ⟨.year, split, named⟩
    · exact given .year column named (yearGiven (by rw [named]; rfl) split)
  · have named : relation.weekColumn = some column := by simpa using week
    have usual : relation.weekDefault ≠ .allWeeks := by simpa [named] using weekPinned
    by_cases split : Split.week ∈ splits
    · exact .inl ⟨.week, split, named⟩
    · exact given .week column named
        (weekGiven (by rw [named]; rfl) split (usual_week defaults _ usual))
  · obtain ⟨own, member, rfl⟩ := List.mem_map.mp param
    obtain ⟨default, read⟩ := Bool.and_eq_true_iff.mp (List.all_eq_true.mp paramsPinned own member)
    exact given own.key own.column (by simpa using read) (paramsGiven own member default)
  · obtain ⟨own, member, rfl⟩ := List.mem_map.mp fixed
    exact .inr (.fixed own member)

end

section

variable (engine : Engine) (relation : Relation) (params : Params)

theorem fits_param (row : Row) (fits : relation.fits engine params row = true) (key : ParamKey)
    (s : Scalar) (given : params.get? key = some (.scalar s)) (column : String)
    (read : paramColumn? relation key = some column) : engine.equal (row column) s.value = true := by
  rw [Relation.fits, Bool.and_eq_true, List.all_eq_true, List.all_eq_true] at fits
  have own := fits.2 (key, .scalar s) ((mem_to_list params key (.scalar s)).mpr given)
  rwa [read] at own

theorem fits_fixed (row : Row) (fits : relation.fits engine params row = true)
    (fixed : FixedColumn) (member : fixed ∈ relation.fixed) :
    engine.equal (row fixed.column) fixed.value.value = true := by
  rw [Relation.fits, Bool.and_eq_true, List.all_eq_true] at fits
  exact fits.1 fixed member

variable (defaults : Defaults) (asked single : Params) (player : Value)
variable (pinned : Relation.pinned relation = true)
variable (resolved : resolve relation [] defaults asked = .ok params)
variable (required : requireSingleValues [] params = .ok single)

include pinned resolved required

theorem key_value (column : String) (key : column ∈ relation.keyColumns) :
    ∃ x, ∀ row : Row, engine.equal (row relation.entityColumn) player = true →
      relation.fits engine params row = true → engine.equal (row column) x = true := by
  rcases List.mem_cons.mp key with rfl | telling
  · exact ⟨player, fun row entity _ => entity⟩
  · rcases column_compared relation [] defaults asked params single pinned resolved required column
      telling with ⟨split, none, _⟩ | compared
    · cases none
    · cases compared with
      | param key _ s read given =>
          exact ⟨s.value, fun row _ fits =>
            fits_param engine relation params row fits key s given column read⟩
      | fixed own member =>
          exact ⟨own.value.value, fun row _ fits =>
            fits_fixed engine relation params row fits own member⟩

theorem direct_once (database : Tables) (marketType : Option String)
    (keyed : (Source.direct relation marketType).Keyed engine database) :
    ((relation.rowsOf engine database params player).filter
      (ofMarket engine marketType)).length ≤ 1 := by
  have apart : ((relation.rowsOf engine database params player).filter
      (ofMarket engine marketType)).Pairwise fun one other =>
        ∃ column ∈ relation.keyColumns, engine.equal (one column) (other column) = false := by
    have swapped := List.Pairwise.filter (fun row => engine.equal (row relation.entityColumn) player &&
      relation.fits engine params row) keyed
    rw [List.filter_filter] at swapped
    rw [Relation.rowsOf, List.filter_filter]
    simpa only [Bool.and_comm] using swapped
  refine one_at_most _ _ apart fun one oneMember other otherMember => ?_
  rintro ⟨column, key, different⟩
  obtain ⟨x, value⟩ := key_value engine relation params defaults asked single player pinned resolved
    required column key
  obtain ⟨_, oneFits⟩ := List.mem_filter.mp (List.mem_filter.mp oneMember).1
  obtain ⟨_, otherFits⟩ := List.mem_filter.mp (List.mem_filter.mp otherMember).1
  obtain ⟨oneEntity, oneFits⟩ := Bool.and_eq_true_iff.mp oneFits
  obtain ⟨otherEntity, otherFits⟩ := Bool.and_eq_true_iff.mp otherFits
  have equal := engine.equal_trans _ _ _ (value one oneEntity oneFits)
    (engine.equal_symm _ _ (value other otherEntity otherFits))
  rw [different] at equal
  exact absurd equal (by simp)

end

end StatTable.Plan
