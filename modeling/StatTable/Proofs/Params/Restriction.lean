import Mathlib.Data.List.Forall2
import StatTable.Catalog.Basic
import StatTable.Plan.Condition
import StatTable.Proofs.Params.Defaults

set_option autoImplicit false

namespace StatTable.Plan

-- The column of a relation that holds the values of a parameter: for one that several columns are
-- listed for, the first of them.
inductive HoldsParam (relation : Relation) : ParamKey → String → Prop
  | year (column : String) (named : relation.yearColumn = some column) :
      HoldsParam relation .year column
  | week (column : String) (named : relation.weekColumn = some column) :
      HoldsParam relation .week column
  | listed (own : ParamColumn) (first : relation.params.find? (·.key == own.key) = some own) :
      HoldsParam relation own.key own.column

def ColumnsApart (relation : Relation) : Prop :=
  ∀ one other column, HoldsParam relation one column → HoldsParam relation other column → one = other

def ListsOthers (relation : Relation) : Prop :=
  ∀ column ∈ relation.params, column.key ∉ [ParamKey.year, .week, .yearOffset, .rateType]

def restricting (params : Params) : List (ParamKey × ParamValue) :=
  params.toList.filter (·.1 != .yearOffset)

def paramColumns (relation : Relation) : List (ParamKey × String) :=
  relation.yearColumn.toList.map (ParamKey.year, ·) ++
    relation.weekColumn.toList.map (ParamKey.week, ·) ++
      relation.params.map fun own => (own.key, own.column)

theorem holds_listed (relation : Relation) (key : ParamKey) (column : String)
    (holds : HoldsParam relation key column) : (key, column) ∈ paramColumns relation := by
  cases holds with
  | year column named => simp [paramColumns, named]
  | week column named => simp [paramColumns, named]
  | listed own first =>
      exact List.mem_append_right _ (List.mem_map.mpr ⟨own, List.mem_of_find?_eq_some first, rfl⟩)

theorem columns_apart_of_nodup (relation : Relation)
    (distinct : ((paramColumns relation).map Prod.snd).Nodup) : ColumnsApart relation := by
  intro one other column holds holds'
  exact congrArg Prod.fst (List.inj_on_of_nodup_map distinct (holds_listed relation one column holds)
    (holds_listed relation other column holds') rfl)

theorem catalog_columns_apart : ∀ column ∈ Catalog.columns, ∀ relation,
    column.kind.relation? = some relation → ListsOthers relation ∧ ColumnsApart relation := by
  have each : ∀ column ∈ Catalog.columns, (column.kind.relation?.all fun relation =>
      decide (∀ own ∈ relation.params, own.key ∉ [ParamKey.year, .week, .yearOffset, .rateType]) &&
        decide ((paramColumns relation).map Prod.snd).Nodup) = true := by
    decide +kernel
  intro column member relation reads
  have both := each column member
  rw [reads, Option.all_some, Bool.and_eq_true, decide_eq_true_iff, decide_eq_true_iff] at both
  exact ⟨both.1, columns_apart_of_nodup relation both.2⟩

structure RestrictsRows (relation : Relation) (splits : List Split) (table : String)
    (resolved : Params) : Prop where
  accepted : ∀ key value, resolved.get? key = some value → relation.accepts key = true
  offset : ∀ value, resolved.get? .yearOffset = some value →
    .year ∈ splits ∧ ∃ n, n ≠ 0 ∧ value = .scalar (.integer n)
  each : List.Forall₂ (fun entry condition => ∃ column, HoldsParam relation entry.1 column ∧
    condition = entry.2.condition (.field table column)) (restricting resolved)
      (paramConditions relation resolved table)

section

variable (relation : Relation) (splits : List Split) (defaults : Defaults)

theorem filter_accepted (params : Params) (key : ParamKey) (value : ParamValue)
    (given : (params.filter relation.accepts).get? key = some value) :
    relation.accepts key = true := by
  by_contra refused
  rw [Params.filter] at given
  simp only [if_neg refused] at given
  cases given

theorem with_year_accepted (params dated : Params) (key : ParamKey) (value : ParamValue)
    (ok : withYear relation splits defaults (params.filter relation.accepts) = .ok dated)
    (given : dated.get? key = some value) : relation.accepts key = true := by
  by_cases yearly : relation.yearColumn.isSome = true
  · by_cases year : key = .year
    · rw [year]
      exact yearly
    by_cases offset : key = .yearOffset
    · rw [offset]
      exact yearly
    rw [with_year_other relation splits defaults _ dated ok key year offset] at given
    exact filter_accepted relation params key value given
  · rw [withYear, if_pos (by simpa using yearly)] at ok
    obtain rfl := Except.ok.inj ok
    exact filter_accepted relation params key value given

theorem with_week_accepted (dated : Params) (key : ParamKey) (value : ParamValue)
    (accepted : ∀ held, dated.get? key = some held → relation.accepts key = true)
    (given : (withWeek relation splits defaults dated).get? key = some value) :
    relation.accepts key = true := by
  by_cases week : key = .week
  · by_cases weekly : relation.weekColumn.isSome = true
    · rw [week]
      exact weekly
    · rw [withWeek, if_neg (by simp [weekly])] at given
      exact accepted value given
  · rw [with_week_other relation splits defaults dated key week] at given
    exact accepted value given

theorem usual_listed (columns : List ParamColumn) (key : ParamKey) (value : ParamValue)
    (usual : usualValue defaults columns key = some value) :
    ∃ column ∈ columns, column.key = key := by
  obtain ⟨column, member, own⟩ := List.exists_of_findSome?_eq_some usual
  rw [ownDefault] at own
  split at own
  · rename_i named
    exact ⟨column, member, named⟩
  · cases own

variable (lists : ListsOthers relation)

include lists

theorem listed_accepted (column : ParamColumn) (member : column ∈ relation.params) :
    relation.accepts column.key = true := by
  have other := lists column member
  have named : relation.params.any (·.key == column.key) = true :=
    List.any_eq_true.mpr ⟨column, member, beq_self_eq_true _⟩
  revert other named
  cases column.key <;> simp +contextual [Relation.accepts]

theorem resolve_accepted (params resolved : Params)
    (ok : resolve relation splits defaults params = .ok resolved) (key : ParamKey)
    (value : ParamValue) (given : resolved.get? key = some value) : relation.accepts key = true := by
  obtain ⟨dated, datedOk, rfl⟩ := resolve_ok relation splits defaults params resolved ok
  rw [defaults_or, Option.or_eq_some_iff] at given
  rcases given with scheduled | ⟨_, usual⟩
  · exact with_week_accepted relation splits defaults dated key value
      (fun held => with_year_accepted relation splits defaults params dated key held datedOk) scheduled
  · obtain ⟨column, member, rfl⟩ := usual_listed defaults relation.params key value usual
    exact listed_accepted relation lists column member

theorem resolve_offset (params resolved : Params)
    (ok : resolve relation splits defaults params = .ok resolved) (value : ParamValue)
    (given : resolved.get? .yearOffset = some value) :
    .year ∈ splits ∧ ∃ n, n ≠ 0 ∧ value = .scalar (.integer n) := by
  have yearly : relation.yearColumn.isSome = true :=
    resolve_accepted relation splits defaults lists params resolved ok .yearOffset value given
  obtain ⟨dated, datedOk, rfl⟩ := resolve_ok relation splits defaults params resolved ok
  rw [defaults_or, Option.or_eq_some_iff] at given
  rcases given with scheduled | ⟨_, usual⟩
  · rw [with_week_other relation splits defaults dated .yearOffset (by decide)] at scheduled
    rw [withYear, if_neg (by simpa using Option.isSome_iff_ne_none.mp yearly)] at datedOk
    obtain ⟨offset, _, datedOk⟩ := (bind_ok _ _ _).mp datedOk
    obtain ⟨year, _, datedOk⟩ := (bind_ok _ _ _).mp datedOk
    obtain rfl := Except.ok.inj datedOk
    rw [set_own, keptOffset] at scheduled
    split at scheduled
    · rename_i kept
      obtain ⟨split, moves⟩ := Bool.and_eq_true_iff.mp kept
      exact ⟨List.contains_iff_mem.mp split, offset, bne_iff_ne.mp moves,
        (Option.some.inj scheduled).symm⟩
    · cases scheduled
  · obtain ⟨column, member, named⟩ := usual_listed defaults relation.params _ value usual
    exact absurd (named ▸ lists column member) (by decide)

end

theorem accepted_column (relation : Relation) (key : ParamKey) (other : key ≠ .yearOffset)
    (accepted : relation.accepts key = true) :
    ∃ column, paramColumn? relation key = some column ∧ HoldsParam relation key column := by
  have listed (found : relation.params.any (·.key == key) = true) :
      ∃ column, (relation.params.find? (·.key == key)).map (·.column) = some column ∧
        HoldsParam relation key column := by
    obtain ⟨own, first⟩ := Option.isSome_iff_exists.mp
      (List.find?_isSome.mpr (List.any_eq_true.mp found))
    have named : own.key = key := by simpa using List.find?_some first
    subst named
    exact ⟨own.column, by rw [first]; rfl, .listed own first⟩
  cases key with
  | year =>
      obtain ⟨column, named⟩ := Option.isSome_iff_exists.mp accepted
      exact ⟨column, named, .year column named⟩
  | week =>
      obtain ⟨column, named⟩ := Option.isSome_iff_exists.mp accepted
      exact ⟨column, named, .week column named⟩
  | yearOffset => exact absurd rfl other
  | rateType => cases accepted
  | seasonType => exact listed accepted
  | scoringFormat => exact listed accepted
  | source => exact listed accepted
  | down => exact listed accepted
  | quarter => exact listed accepted
  | yardsToGo => exact listed accepted

theorem conditions_each (relation : Relation) (params : Params) (table : String)
    (accepted : ∀ key value, params.get? key = some value → relation.accepts key = true) :
    List.Forall₂ (fun entry condition => ∃ column, HoldsParam relation entry.1 column ∧
      condition = entry.2.condition (.field table column)) (restricting params)
        (paramConditions relation params table) := by
  refine filter_map_each _ _ _ _ ?_ ?_
  · rintro ⟨key, value⟩ member other
    obtain ⟨column, read, holds⟩ := accepted_column relation key (bne_iff_ne.mp other)
      (accepted key value ((mem_to_list params key value).mp member))
    exact ⟨value.condition (.field table column), by rw [read]; rfl, column, holds, rfl⟩
  · rintro ⟨key, value⟩ _ offset
    obtain rfl : key = .yearOffset := by simpa using offset
    rfl

theorem scalar_expr_injective : Function.Injective Scalar.toExpr := by
  intro one other same
  cases one <;> cases other <;> cases same <;> rfl

theorem condition_injective (table one other : String) (value value' : ParamValue)
    (same : value.condition (.field table one) = value'.condition (.field table other)) :
    one = other ∧ value = value' := by
  have choices : Function.Injective (List.map Scalar.toExpr) :=
    List.map_injective_iff.mpr scalar_expr_injective
  rcases value with s | items | ⟨_ | min, _ | max⟩ <;>
    rcases value' with s' | items' | ⟨_ | min', _ | max'⟩ <;>
      simp only [ParamValue.condition, Sql.Expr.field, Sql.Expr.binary.injEq, Sql.Expr.among.injEq,
        Sql.Expr.between.injEq, Sql.Expr.isNull.injEq, Sql.Expr.column.injEq,
        scalar_expr_injective.eq_iff, choices.eq_iff, true_and, false_and, reduceCtorEq] at same
  case scalar.scalar => exact ⟨same.1, congrArg _ same.2⟩
  case list.list => exact ⟨same.1, congrArg _ same.2⟩
  case range.none.none.range.none.none => exact ⟨same, rfl⟩
  case range.none.some.range.none.some => exact ⟨same.1, by rw [same.2]⟩
  case range.some.none.range.some.none => exact ⟨same.1, by rw [same.2]⟩
  case range.some.some.range.some.some => exact ⟨same.1, by rw [same.2.1, same.2.2]⟩

theorem mem_restricting (params : Params) (key : ParamKey) (value : ParamValue) :
    (key, value) ∈ restricting params ↔ params.get? key = some value ∧ key ≠ .yearOffset := by
  rw [restricting, List.mem_filter, mem_to_list, bne_iff_ne]

section

variable (relation : Relation) (splits splits' : List Split) (table : String)
variable (one other : Params) (first : RestrictsRows relation splits table one)
variable (second : RestrictsRows relation splits' table other)
variable (same : paramConditions relation one table = paramConditions relation other table)

include first second same

theorem same_conditions_count : (restricting one).length = (restricting other).length := by
  rw [first.each.length_eq, second.each.length_eq, same]

theorem same_conditions_given (apart : ColumnsApart relation) (key : ParamKey) (value : ParamValue)
    (restricts : key ≠ .yearOffset) (given : one.get? key = some value) :
    other.get? key = some value := by
  obtain ⟨condition, made, column, holds, rfl⟩ := forall_left _ _ _ first.each (key, value)
    ((mem_restricting one key value).mpr ⟨given, restricts⟩)
  rw [same] at made
  obtain ⟨⟨key', value'⟩, member, column', holds', conditions⟩ :=
    forall_right _ _ _ second.each _ made
  obtain ⟨rfl, rfl⟩ := condition_injective table column column' value value' conditions
  obtain rfl := apart key key' column holds holds'
  exact ((mem_restricting other key value).mp member).1

end

-- Requests with the same conditions have as many parameters, and if no column holds two of them, the
-- same ones.
theorem resolved_params_restrict (relation : Relation) (lists : ListsOthers relation)
    (splits : List Split) (defaults : Defaults) (params resolved : Params) (table : String)
    (ok : resolve relation splits defaults params = .ok resolved) :
    RestrictsRows relation splits table resolved ∧
      ∀ splits' defaults' params' other, resolve relation splits' defaults' params' = .ok other →
        paramConditions relation other table = paramConditions relation resolved table →
          (restricting other).length = (restricting resolved).length ∧
            (ColumnsApart relation → ∀ key, key ≠ .yearOffset →
              other.get? key = resolved.get? key) := by
  have restricts (splits' : List Split) (defaults' : Defaults) (params' other : Params)
      (ok' : resolve relation splits' defaults' params' = .ok other) :
      RestrictsRows relation splits' table other := by
    have accepted := resolve_accepted relation splits' defaults' lists params' other ok'
    exact ⟨accepted, resolve_offset relation splits' defaults' lists params' other ok',
      conditions_each relation other table accepted⟩
  have own := restricts splits defaults params resolved ok
  refine ⟨own, fun splits' defaults' params' other ok' same => ?_⟩
  have others := restricts splits' defaults' params' other ok'
  refine ⟨same_conditions_count relation splits' splits table other resolved others own same,
    fun apart key restricting => Option.ext fun value => ?_⟩
  exact ⟨same_conditions_given relation splits' splits table other resolved others own same apart key
      value restricting,
    same_conditions_given relation splits splits' table resolved other own others same.symm apart key
      value restricting⟩

def laggingDowns : Params :=
  .ofList [(.yearOffset, .scalar (.integer 1)), (.down, .scalar (.integer 3))]

def seasonDowns : Params :=
  .ofList [(.seasonType, .scalar (.text "REG")), (.down, .scalar (.integer 3))]

def downsOf (params : Params) : Params :=
  (resolve Catalog.rusherPlays [.year] .standard params).toOption.getD .empty

theorem downs_restrict :
    resolve Catalog.rusherPlays [.year] .standard laggingDowns = .ok (downsOf laggingDowns) ∧
    RestrictsRows Catalog.rusherPlays [.year] "nfl_plays" (downsOf laggingDowns) ∧
    (restricting (downsOf laggingDowns)).length = 2 ∧
    (downsOf laggingDowns).get? .yearOffset ≠ (downsOf seasonDowns).get? .yearOffset ∧
    ∀ key, key ≠ .yearOffset →
      (downsOf seasonDowns).get? key = (downsOf laggingDowns).get? key := by
  have ok : resolve Catalog.rusherPlays [.year] .standard laggingDowns =
      .ok (downsOf laggingDowns) := ok_of_is_ok _ _ (by decide +kernel)
  have other : resolve Catalog.rusherPlays [.year] .standard seasonDowns =
      .ok (downsOf seasonDowns) := ok_of_is_ok _ _ (by decide +kernel)
  have lists : ListsOthers Catalog.rusherPlays := by unfold ListsOthers; decide
  obtain ⟨restricts, alike⟩ := resolved_params_restrict Catalog.rusherPlays lists [.year] .standard
    laggingDowns (downsOf laggingDowns) "nfl_plays" ok
  obtain ⟨_, agree⟩ := alike [.year] .standard seasonDowns (downsOf seasonDowns) other rfl
  exact ⟨ok, restricts, by decide +kernel, by decide +kernel,
    agree (columns_apart_of_nodup _ (by decide))⟩

end StatTable.Plan
