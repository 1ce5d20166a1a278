import StatTable.Proofs.Params.Meaning
import StatTable.Proofs.Params.Resolution

set_option autoImplicit false

namespace StatTable

namespace ParamValue

theorem shift_scalar_zero (s : Scalar) : shiftScalar? 0 s = some s := by
  cases s with
  | integer n =>
      have same : n.toInt + (0 : Int64).toInt = n.toInt := by simp
      rw [shiftScalar?, addWords?, same, word_own]
      rfl
  | _ => rfl

theorem shift_bound_zero (bound : Option Scalar) : shiftBound? 0 bound = some bound := by
  cases bound with
  | none => rfl
  | some s => rw [shiftBound?, shift_scalar_zero]; rfl

theorem shift_items_kept (delta : Int64) (items : List Scalar)
    (kept : ∀ s ∈ items, shiftScalar? delta s = some s) :
    items.mapM (shiftScalar? delta) = some items :=
  (map_m_related _ _ _).mpr (List.forall₂_same.mpr kept)

theorem shift_zero (value : ParamValue) (canonical : value.IsCanonical) :
    value.shift? 0 = some value := by
  cases value with
  | scalar s => rw [shift?, shift_scalar_zero]; rfl
  | list items =>
      rw [shift?, shift_items_kept 0 items fun s _ => shift_scalar_zero s, Option.map_some,
        of_list_own items canonical]
  | range min max =>
      rw [shift?, shift_bound_zero, shift_bound_zero]
      rfl

theorem shift_canonical (value shifted : ParamValue) (delta : Int64)
    (ok : value.shift? delta = some shifted) : shifted.IsCanonical := by
  cases value with
  | scalar s =>
      obtain ⟨_, _, rfl⟩ := Option.map_eq_some_iff.mp ok
      trivial
  | list items =>
      obtain ⟨_, _, rfl⟩ := Option.map_eq_some_iff.mp ok
      exact of_list_canonical _
  | range min max =>
      obtain ⟨_, _, ok⟩ := Option.bind_eq_some_iff.mp ok
      obtain ⟨_, _, ok⟩ := Option.bind_eq_some_iff.mp ok
      obtain rfl := Option.some.inj ok
      trivial

end ParamValue

namespace Params

variable (params : Params) (key : ParamKey) (value : ParamValue)

theorem insert_own : (params.insert key value).get? key = some value := by
  simp [insert]

theorem insert_other (other : ParamKey) (differ : other ≠ key) :
    (params.insert key value).get? other = params.get? other := by
  simp [insert, differ]

theorem erase_own : (params.erase key).get? key = none := if_pos rfl

theorem erase_other (other : ParamKey) (differ : other ≠ key) :
    (params.erase key).get? other = params.get? other :=
  if_neg differ

theorem filter_insert (keep : ParamKey → Bool) (kept : keep key = true) :
    (params.insert key value).filter keep = (params.filter keep).insert key value := by
  refine ext fun other => ?_
  by_cases own : other = key
  · subst own
    simp [filter, insert, kept]
  · simp [filter, insert, own]

theorem filter_insert_dropped (keep : ParamKey → Bool) (dropped : keep key = false) :
    (params.insert key value).filter keep = params.filter keep := by
  refine ext fun other => ?_
  by_cases own : other = key
  · subst own
    simp [filter, dropped]
  · simp [filter, insert, own]

theorem filter_erase (keep : ParamKey → Bool) :
    (params.erase key).filter keep = (params.filter keep).erase key := by
  refine ext fun other => ?_
  by_cases own : other = key <;> simp [filter, erase, own]

theorem filter_kept (keep : ParamKey → Bool) (kept : keep key = true) :
    (params.filter keep).get? key = params.get? key := by
  simp [filter, kept]

end Params

namespace Plan

def ownDefault (defaults : Defaults) (column : ParamColumn) (key : ParamKey) : Option ParamValue :=
  if column.key = key then column.default.map fun field => .scalar (defaults.get field) else none

-- The value that a key takes when it is absent: that of the first column with a default for it.
def usualValue (defaults : Defaults) (columns : List ParamColumn) (key : ParamKey) :
    Option ParamValue :=
  columns.findSome? fun column => ownDefault defaults column key

theorem usual_cons (defaults : Defaults) (column : ParamColumn) (rest : List ParamColumn)
    (key : ParamKey) : usualValue defaults (column :: rest) key =
      (ownDefault defaults column key).or (usualValue defaults rest key) := by
  rw [usualValue, List.findSome?_cons]
  cases ownDefault defaults column key <;> rfl

theorem with_default_or (defaults : Defaults) (params : Params) (column : ParamColumn)
    (key : ParamKey) : (withDefault defaults params column).get? key =
      (params.get? key).or (ownDefault defaults column key) := by
  unfold withDefault ownDefault
  cases column.default with
  | none => simp
  | some field =>
      by_cases own : column.key = key
      · subst own
        cases given : params.get? column.key <;> simp [Params.contains, given, Params.insert]
      · have other : key ≠ column.key := fun same => own same.symm
        rw [if_neg own, Option.or_none]
        dsimp only
        split
        · rfl
        · exact Params.insert_other params column.key _ key other

theorem defaults_or (defaults : Defaults) (columns : List ParamColumn) (params : Params)
    (key : ParamKey) : (columns.foldl (withDefault defaults) params).get? key =
      (params.get? key).or (usualValue defaults columns key) := by
  induction columns generalizing params with
  | nil => simp [usualValue]
  | cons column rest ih =>
      rw [List.foldl_cons, ih, with_default_or, usual_cons, Option.or_assoc]

theorem usual_of_mem (defaults : Defaults) (columns : List ParamColumn) (column : ParamColumn)
    (field : Defaults.Field) (distinct : (columns.map (·.key)).Nodup) (member : column ∈ columns)
    (named : column.default = some field) :
    usualValue defaults columns column.key = some (.scalar (defaults.get field)) := by
  induction columns with
  | nil => cases member
  | cons first rest ih =>
      rw [List.map_cons, List.nodup_cons] at distinct
      rw [usual_cons]
      rcases List.mem_cons.mp member with rfl | later
      · simp [ownDefault, named]
      · have other : first.key ≠ column.key := fun same =>
          distinct.1 (same ▸ List.mem_map_of_mem later)
        rw [ownDefault, if_neg other, Option.none_or]
        exact ih distinct.2 later

theorem defaults_spelled (defaults : Defaults) (columns : List ParamColumn) (params : Params)
    (key : ParamKey) (value : ParamValue) (absent : params.get? key = none)
    (usual : usualValue defaults columns key = some value) :
    columns.foldl (withDefault defaults) (params.insert key value) =
      columns.foldl (withDefault defaults) params := by
  refine Params.ext fun other => ?_
  rw [defaults_or, defaults_or]
  by_cases own : other = key
  · rw [own, Params.insert_own, absent, usual]
    rfl
  · rw [Params.insert_other params key value other own]

theorem set_insert_own (params : Params) (key : ParamKey) (value : ParamValue)
    (held : Option ParamValue) :
    setParam (params.insert key value) key held = setParam params key held := by
  refine Params.ext fun other => ?_
  cases held <;> by_cases own : other = key <;> simp [setParam, Params.insert, Params.erase, own]

theorem set_insert_other (params : Params) (key other : ParamKey) (value : ParamValue)
    (held : Option ParamValue) (differ : key ≠ other) :
    setParam (params.insert key value) other held =
      (setParam params other held).insert key value := by
  refine Params.ext fun any => ?_
  by_cases own : any = key
  · subst own
    cases held <;> simp [setParam, Params.insert, Params.erase, differ]
  · cases held <;> simp [setParam, Params.insert, Params.erase, own]

theorem read_offset_given (held : Option ParamValue) (offset : Int64)
    (ok : readOffset held = .ok offset) :
    held = some (.scalar (.integer offset)) ∨ (held = none ∧ offset = 0) := by
  cases held with
  | none => exact .inr ⟨rfl, (Except.ok.inj ok).symm⟩
  | some value =>
      rw [readOffset] at ok
      split at ok
      · rename_i read
        obtain rfl := Except.ok.inj ok
        obtain ⟨s, single, whole⟩ := Option.bind_eq_some_iff.mp read
        cases value <;> cases single
        cases s <;> cases whole
        exact .inl rfl
      · cases ok

-- The context's year before an offset, computed by a difference or by moving it.
theorem resolve_year_usual (defaults : Defaults) (offset : Int64)
    (other : offset ≠ Int64.minValue) :
    resolveYear (some (.scalar (.integer defaults.year))) offset false defaults =
      resolveYear none offset false defaults := by
  obtain ⟨delta, negative, value⟩ := neg_word offset other
  have moved : addWords? defaults.year delta = subWords? defaults.year offset := by
    rw [addWords?, subWords?, value, Int.sub_eq_add_neg]
  unfold resolveYear
  simp only [negative, Option.bind_some, ParamValue.shift?, ParamValue.shiftScalar?, moved]
  cases subWords? defaults.year offset <;> rfl

theorem resolve_year_named (year : ParamValue) (offset : Int64) (isSplit : Bool)
    (defaults : Defaults) (found : Option ParamValue) :
    resolveYear (some year) offset isSplit defaults = .ok found ↔ ∃ shifted,
      (negWord? offset).bind (fun delta => year.shift? delta) = some shifted ∧
        some shifted = found := by
  unfold resolveYear
  dsimp only
  cases (negWord? offset).bind fun delta => year.shift? delta <;> simp

section

variable (relation : Relation) (splits : List Split) (defaults : Defaults) (params : Params)

theorem with_year_insert (key : ParamKey) (value : ParamValue) (year : key ≠ .year)
    (offset : key ≠ .yearOffset) : withYear relation splits defaults (params.insert key value) =
      (withYear relation splits defaults params).map fun dated => dated.insert key value := by
  unfold withYear
  rw [Params.insert_other params key value .yearOffset offset.symm,
    Params.insert_other params key value .year year.symm]
  split
  · rfl
  · cases readOffset (params.get? .yearOffset) with
    | error problem => rfl
    | ok amount =>
        change (resolveYear _ _ _ _ >>= _) = Except.map _ (resolveYear _ _ _ _ >>= _)
        cases resolveYear (params.get? .year) amount (splits.contains .year) defaults with
        | error problem => rfl
        | ok named =>
            refine congrArg Except.ok ?_
            rw [set_insert_other _ key .year value named year,
              set_insert_other _ key .yearOffset value _ offset]

theorem with_year_other (dated : Params) (ok : withYear relation splits defaults params = .ok dated)
    (key : ParamKey) (year : key ≠ .year) (offset : key ≠ .yearOffset) :
    dated.get? key = params.get? key := by
  unfold withYear at ok
  split at ok
  · rw [← Except.ok.inj ok]
  · obtain ⟨amount, _, ok⟩ := (bind_ok _ _ _).mp ok
    obtain ⟨named, _, ok⟩ := (bind_ok _ _ _).mp ok
    rw [← Except.ok.inj ok, set_other _ key .yearOffset _ offset, set_other _ key .year _ year]

-- The year of the context, spelled out; the least offset has no negative to move it by.
theorem with_year_spelled (yearly : relation.yearColumn.isSome = true)
    (absent : params.get? .year = none) (unsplit : .year ∉ splits)
    (movable : params.get? .yearOffset ≠ some (.scalar (.integer Int64.minValue))) :
    withYear relation splits defaults (params.insert .year (.scalar (.integer defaults.year))) =
      withYear relation splits defaults params := by
  have own : splits.contains .year = false := by simpa using unsplit
  have dated : ¬ relation.yearColumn.isNone = true := by
    simpa using Option.isSome_iff_ne_none.mp yearly
  unfold withYear
  rw [Params.insert_other _ _ _ .yearOffset (by decide), Params.insert_own, absent, own,
    if_neg dated, if_neg dated]
  cases read : readOffset (params.get? .yearOffset) with
  | error problem => rfl
  | ok offset =>
      have other : offset ≠ Int64.minValue := by
        rintro rfl
        rcases read_offset_given _ _ read with held | ⟨_, zero⟩
        · exact movable held
        · cases zero
      change (resolveYear _ _ _ _ >>= _) = (resolveYear _ _ _ _ >>= _)
      rw [resolve_year_usual defaults offset other]
      simp only [set_insert_own]

theorem with_year_named (yearly : relation.yearColumn.isSome = true) (dated : Params)
    (year : ParamValue) (named : params.get? .year = some year) :
    withYear relation splits defaults params = .ok dated ↔
      ∃ offset shifted, readOffset (params.get? .yearOffset) = .ok offset ∧
        (negWord? offset).bind (fun delta => year.shift? delta) = some shifted ∧
        setParam (setParam params .year (some shifted)) .yearOffset
          (keptOffset offset (splits.contains .year)) = dated := by
  unfold withYear
  rw [if_neg (by simpa using Option.isSome_iff_ne_none.mp yearly), named, bind_ok]
  constructor
  · rintro ⟨offset, read, ok⟩
    obtain ⟨found, moves, ok⟩ := (bind_ok _ _ _).mp ok
    obtain ⟨shifted, moved, rfl⟩ := (resolve_year_named year offset _ defaults found).mp moves
    exact ⟨offset, shifted, read, moved, Except.ok.inj ok⟩
  · rintro ⟨offset, shifted, read, moved, rfl⟩
    have moves := (resolve_year_named year offset (splits.contains .year) defaults _).mpr
      ⟨shifted, moved, rfl⟩
    exact ⟨offset, read, (bind_ok _ _ _).mpr ⟨some shifted, moves, rfl⟩⟩

theorem with_year_moved (yearly : relation.yearColumn.isSome = true) (year shifted : ParamValue)
    (offset : Int64) (named : params.get? .year = some year)
    (given : params.get? .yearOffset = some (.scalar (.integer offset))) (unsplit : .year ∉ splits)
    (moved : (negWord? offset).bind (fun delta => year.shift? delta) = some shifted) :
    withYear relation splits defaults ((params.insert .year shifted).erase .yearOffset) =
      withYear relation splits defaults params := by
  obtain ⟨delta, _, moved'⟩ := Option.bind_eq_some_iff.mp moved
  have rest := ParamValue.shift_zero shifted (ParamValue.shift_canonical year shifted delta moved')
  have there : ((params.insert .year shifted).erase .yearOffset).get? .year = some shifted :=
    (Params.erase_other _ .yearOffset .year (by decide)).trans (Params.insert_own params .year shifted)
  rw [(with_year_named relation splits defaults params yearly _ year named).mpr
      ⟨offset, shifted, by rw [given]; rfl, moved, rfl⟩,
    with_year_named relation splits defaults _ yearly _ shifted there]
  refine ⟨0, shifted, by rw [Params.erase_own]; rfl, rest, Params.ext fun key => ?_⟩
  by_cases year : key = .year <;> by_cases last : key = .yearOffset <;>
    simp [setParam, keptOffset, unsplit, Params.insert, Params.erase, year, last]

theorem with_week_insert (key : ParamKey) (value : ParamValue) (other : key ≠ .week) :
    withWeek relation splits defaults (params.insert key value) =
      (withWeek relation splits defaults params).insert key value := by
  unfold withWeek
  rw [Params.contains, Params.contains, Params.insert_other params key value .week other.symm]
  split
  · split
    · refine Params.ext fun any => ?_
      by_cases own : any = key
      · subst own
        simp [Params.insert, other]
      · simp [Params.insert, own]
    · rfl
  · rfl

theorem with_week_spelled (week : Int64) (weekly : relation.weekColumn.isSome = true)
    (absent : params.get? .week = none) (unsplit : .week ∉ splits)
    (usual : defaultWeek defaults relation.weekDefault = some week) :
    withWeek relation splits defaults (params.insert .week (.scalar (.integer week))) =
      withWeek relation splits defaults params := by
  have own : splits.contains .week = false := by simpa using unsplit
  unfold withWeek
  simp only [Params.contains, Params.insert_own, absent, weekly, own, usual]
  rfl

theorem dated_kept (dated : Params) (key : ParamKey) (held : ParamValue)
    (dates : dated.get? key = some held) :
    (relation.params.foldl (withDefault defaults)
      (withWeek relation splits defaults dated)).get? key = some held := by
  have scheduled : (withWeek relation splits defaults dated).get? key = some held := by
    by_cases week : key = .week
    · subst week
      rw [withWeek, if_neg (by simp [Params.contains, dates]), dates]
    · rw [with_week_other relation splits defaults dated key week, dates]
  rw [defaults_or, scheduled, Option.some_or]

theorem resolved_year (yearly : relation.yearColumn.isSome = true) (resolved : Params)
    (year : ParamValue) (named : params.get? .year = some year)
    (ok : resolve relation splits defaults params = .ok resolved) :
    ∃ offset shifted, readOffset (params.get? .yearOffset) = .ok offset ∧
      (negWord? offset).bind (fun delta => year.shift? delta) = some shifted ∧
      resolved.get? .year = some shifted := by
  have kept (key : ParamKey) (accepted : relation.accepts key = true) :
      (params.filter relation.accepts).get? key = params.get? key :=
    Params.filter_kept params key relation.accepts accepted
  obtain ⟨dated, datedOk, rfl⟩ := resolve_ok relation splits defaults params resolved ok
  obtain ⟨offset, shifted, read, moved, rfl⟩ := (with_year_named relation splits defaults _ yearly
    dated year ((kept .year yearly).trans named)).mp datedOk
  refine ⟨offset, shifted, by rw [← read, kept .yearOffset yearly], moved, ?_⟩
  refine dated_kept relation splits defaults _ .year shifted ?_
  rw [set_other _ _ _ _ (by decide), set_own]

end

end Plan

end StatTable
