import StatTable.Plan.Resolution
import StatTable.Proofs.Groups.Requests

set_option autoImplicit false

namespace StatTable.Plan

theorem require_satisfiable_ok (params checked : Params)
    (ok : requireSatisfiable params = .ok checked) : checked = params := by
  unfold requireSatisfiable at ok
  dsimp only at ok
  split at ok
  · simp at ok
  · exact (Except.ok.inj ok).symm

theorem resolve_ok (relation : Relation) (splits : List Split) (defaults : Defaults)
    (params resolved : Params) (ok : resolve relation splits defaults params = .ok resolved) :
    ∃ dated, withYear relation splits defaults (params.filter relation.accepts) = .ok dated ∧
      resolved = relation.params.foldl (withDefault defaults)
        (withWeek relation splits defaults dated) := by
  obtain ⟨dated, datedOk, ok⟩ := (bind_ok _ _ _).mp ok
  exact ⟨dated, datedOk, require_satisfiable_ok _ _ ok⟩

theorem set_own (params : Params) (key : ParamKey) (held : Option ParamValue) :
    (setParam params key held).get? key = held := by
  cases held <;> simp [setParam, Params.insert, Params.erase]

theorem set_other (params : Params) (key other : ParamKey) (held : Option ParamValue)
    (differ : key ≠ other) : (setParam params other held).get? key = params.get? key := by
  cases held <;> simp [setParam, Params.insert, Params.erase, differ]

theorem with_default_get (defaults : Defaults) (params : Params) (column : ParamColumn)
    (key : ParamKey) : (withDefault defaults params column).get? key = params.get? key ∨
      ∃ field, column.default = some field ∧ key = column.key ∧
        (withDefault defaults params column).get? key = some (.scalar (defaults.get field)) := by
  unfold withDefault
  cases named : column.default with
  | none => exact .inl rfl
  | some field =>
      dsimp only
      split
      · exact .inl rfl
      · by_cases own : key = column.key
        · exact .inr ⟨field, rfl, own, by simp [Params.insert, own]⟩
        · exact .inl (by simp [Params.insert, own])

section

variable (relation : Relation) (splits : List Split) (defaults : Defaults)

theorem with_week_other (params : Params) (key : ParamKey) (other : key ≠ .week) :
    (withWeek relation splits defaults params).get? key = params.get? key := by
  unfold withWeek
  split
  · split
    · simp [Params.insert, other]
    · rfl
  · rfl

theorem with_year_offset (params dated : Params) (unshifted : params.get? .yearOffset = none)
    (ok : withYear relation splits defaults params = .ok dated) :
    dated.get? .yearOffset = none := by
  unfold withYear at ok
  split at ok
  · rw [← Except.ok.inj ok]
    exact unshifted
  · obtain ⟨offset, read, ok⟩ := (bind_ok _ _ _).mp ok
    obtain ⟨year, _, ok⟩ := (bind_ok _ _ _).mp ok
    rw [unshifted] at read
    obtain rfl := Except.ok.inj read
    rw [← Except.ok.inj ok, set_own, keptOffset, if_neg (by simp)]

theorem resolve_unshifted (params resolved : Params) (unshifted : params.get? .yearOffset = none)
    (ok : resolve relation splits defaults params = .ok resolved) :
    (resolved.get? .yearOffset).bind ParamValue.toInt64? = none := by
  obtain ⟨dated, datedOk, rfl⟩ := resolve_ok relation splits defaults params resolved ok
  have absent : (params.filter relation.accepts).get? .yearOffset = none := by
    simp [Params.filter, unshifted]
  have start : ((withWeek relation splits defaults dated).get? .yearOffset).bind
      ParamValue.toInt64? = none := by
    rw [with_week_other _ _ _ _ _ (by decide), with_year_offset _ _ _ _ _ absent datedOk]
    rfl
  refine List.foldlRecOn (motive := fun kept : Params =>
    (kept.get? .yearOffset).bind ParamValue.toInt64? = none) relation.params _ start ?_
  intro kept held column _
  rcases with_default_get defaults kept column .yearOffset with same | ⟨field, _, _, inserted⟩
  · rw [same]
    exact held
  · rw [inserted]
    cases field <;> rfl

theorem defaults_kept (params : Params) (columns : List ParamColumn) (key : ParamKey)
    (given : (params.get? key).isSome = true) :
    ((columns.foldl (withDefault defaults) params).get? key).isSome = true := by
  refine List.foldlRecOn (motive := fun kept : Params => (kept.get? key).isSome = true) columns _
    given ?_
  intro kept held column _
  rcases with_default_get defaults kept column key with same | ⟨field, _, _, inserted⟩
  · rwa [same]
  · rw [inserted]
    rfl

theorem default_given (params : Params) (columns : List ParamColumn) (column : ParamColumn)
    (member : column ∈ columns) (named : column.default.isSome = true) :
    ((columns.foldl (withDefault defaults) params).get? column.key).isSome = true := by
  induction columns generalizing params with
  | nil => simp at member
  | cons first rest ih =>
      rw [List.foldl_cons]
      rcases List.mem_cons.mp member with rfl | later
      · refine defaults_kept defaults _ rest column.key ?_
        obtain ⟨field, default⟩ := Option.isSome_iff_exists.mp named
        unfold withDefault
        simp only [default]
        split
        · assumption
        · simp [Params.insert]
      · exact ih _ later

theorem with_year_given (params dated : Params) (yearly : relation.yearColumn.isSome = true)
    (unsplit : .year ∉ splits) (ok : withYear relation splits defaults params = .ok dated) :
    (dated.get? .year).isSome = true := by
  unfold withYear at ok
  rw [if_neg (by simpa using Option.isSome_iff_ne_none.mp yearly)] at ok
  obtain ⟨offset, _, ok⟩ := (bind_ok _ _ _).mp ok
  obtain ⟨year, resolvedYear, ok⟩ := (bind_ok _ _ _).mp ok
  have named : year.isSome = true := by
    unfold resolveYear at resolvedYear
    dsimp only at resolvedYear
    split at resolvedYear
    · split at resolvedYear
      · rw [← Except.ok.inj resolvedYear]
        rfl
      · simp at resolvedYear
    · rw [if_neg (by simpa using unsplit)] at resolvedYear
      split at resolvedYear
      · rw [← Except.ok.inj resolvedYear]
        rfl
      · simp at resolvedYear
  obtain ⟨value, rfl⟩ := Option.isSome_iff_exists.mp named
  rw [← Except.ok.inj ok, set_other _ _ _ _ (by decide), set_own]
  rfl

theorem with_week_given (params : Params) (weekly : relation.weekColumn.isSome = true)
    (unsplit : .week ∉ splits)
    (usual : (defaultWeek defaults relation.weekDefault).isSome = true) :
    ((withWeek relation splits defaults params).get? .week).isSome = true := by
  obtain ⟨week, named⟩ := Option.isSome_iff_exists.mp usual
  unfold withWeek
  by_cases given : (params.get? .week).isSome = true
  · rw [if_neg (by simp [Params.contains, given])]
    exact given
  · rw [if_pos (by simpa [Params.contains, weekly, unsplit] using given), named]
    simp [Params.insert]

theorem resolve_given (params resolved : Params)
    (ok : resolve relation splits defaults params = .ok resolved) :
    (relation.yearColumn.isSome = true → .year ∉ splits → (resolved.get? .year).isSome = true) ∧
    (relation.weekColumn.isSome = true → .week ∉ splits →
      (defaultWeek defaults relation.weekDefault).isSome = true →
        (resolved.get? .week).isSome = true) ∧
    ∀ column ∈ relation.params, column.default.isSome = true →
      (resolved.get? column.key).isSome = true := by
  obtain ⟨dated, datedOk, rfl⟩ := resolve_ok relation splits defaults params resolved ok
  refine ⟨fun yearly unsplit => ?_, fun weekly unsplit usual => ?_, fun column member named => ?_⟩
  · refine defaults_kept defaults _ relation.params .year ?_
    rw [with_week_other relation splits defaults dated .year (by decide)]
    exact with_year_given relation splits defaults _ dated yearly unsplit datedOk
  · exact defaults_kept defaults _ relation.params .week
      (with_week_given relation splits defaults dated weekly unsplit usual)
  · exact default_given defaults _ relation.params column member named

end

theorem mem_to_list (params : Params) (key : ParamKey) (value : ParamValue) :
    (key, value) ∈ params.toList ↔ params.get? key = some value := by
  have listed : key ∈ ParamKey.all := by cases key <;> decide
  rw [Params.toList, List.mem_filterMap]
  constructor
  · rintro ⟨other, _, made⟩
    obtain ⟨held, given, same⟩ := Option.map_eq_some_iff.mp made
    injection same with keys values
    rw [← keys, ← values, given]
  · intro given
    exact ⟨key, listed, by rw [given]; rfl⟩

theorem single_values (splits : List Split) (params single : Params)
    (ok : requireSingleValues splits params = .ok single) (key : ParamKey) (value : ParamValue)
    (unsplit : isSplitKey splits key = false) (given : params.get? key = some value) :
    ∃ s, value = .scalar s := by
  unfold requireSingleValues at ok
  dsimp only at ok
  split at ok
  · simp at ok
  · rename_i none
    have plain := List.find?_eq_none.mp none (key, value) ((mem_to_list params key value).mpr given)
    cases value with
    | scalar s => exact ⟨s, rfl⟩
    | list items => simp [unsplit, ParamValue.toScalar?] at plain
    | range min max => simp [unsplit, ParamValue.toScalar?] at plain

end StatTable.Plan
