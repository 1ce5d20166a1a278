import Mathlib.Data.Finset.Max
import StatTable.Catalog.Basic
import StatTable.Proofs.Params.Shifting

set_option autoImplicit false

namespace StatTable

namespace ParamValue

theorem mem_of_list (items : List Scalar) (s : Scalar) :
    s ∈ (ofList items).scalars ↔ s ∈ items := by
  obtain ⟨held, shape, same⟩ := of_list_scalars items
  rcases shape with several | ⟨t, single, rfl⟩
  · rw [several, scalars, same]
  · rw [single, scalars, same]

theorem shift_bound_scalars (delta : Int64) (bound other : Option Scalar)
    (ok : shiftBound? delta bound = some other) (s : Scalar) :
    s ∈ other.toList ↔ ∃ item ∈ bound.toList, shiftScalar? delta item = some s := by
  cases bound with
  | none =>
      obtain rfl := Option.some.inj ok
      simp
  | some item =>
      obtain ⟨moved, shifts, rfl⟩ := Option.map_eq_some_iff.mp ok
      simp [shifts, eq_comm]

theorem shift_scalars (value shifted : ParamValue) (delta : Int64)
    (ok : value.shift? delta = some shifted) (s : Scalar) :
    s ∈ shifted.scalars ↔ ∃ item ∈ value.scalars, shiftScalar? delta item = some s := by
  cases value with
  | scalar item =>
      obtain ⟨moved, shifts, rfl⟩ := Option.map_eq_some_iff.mp ok
      simp [scalars, shifts, eq_comm]
  | list items =>
      obtain ⟨others, each, rfl⟩ := Option.map_eq_some_iff.mp ok
      rw [mem_of_list, map_m_mem _ _ _ each, scalars]
  | range min max =>
      obtain ⟨low, first, ok⟩ := Option.bind_eq_some_iff.mp ok
      obtain ⟨high, second, ok⟩ := Option.bind_eq_some_iff.mp ok
      obtain rfl := Option.some.inj ok
      simp only [scalars, List.mem_append, or_and_right, exists_or,
        shift_bound_scalars delta _ _ first, shift_bound_scalars delta _ _ second]

theorem shift_still (value : ParamValue) (delta : Int64) (none : ∀ n, .integer n ∉ value.scalars) :
    value.shift? delta = value.shift? 0 := by
  have still : ∀ s ∈ value.scalars, shiftScalar? delta s = shiftScalar? 0 s := by
    intro s listed
    cases s with
    | integer n => exact absurd listed (none n)
    | _ => rfl
  have bound (side : Option Scalar) (own : ∀ s ∈ side.toList, s ∈ value.scalars) :
      shiftBound? delta side = shiftBound? 0 side := by
    cases side with
    | none => rfl
    | some s => rw [shiftBound?, shiftBound?, still s (own s (List.mem_singleton.mpr rfl))]
  cases value with
  | scalar s => rw [shift?, shift?, still s (List.mem_singleton.mpr rfl)]
  | list items =>
      rw [shift?, shift?, shift_items_kept delta items fun s listed =>
        (still s listed).trans (shift_scalar_zero s), shift_items_kept 0 items fun s _ =>
          shift_scalar_zero s]
  | range min max =>
      rw [shift?, shift?, bound min fun s => List.mem_append_left _,
        bound max fun s => List.mem_append_right _]

theorem integer_listed (items : List Scalar) (n : Int64) :
    n ∈ items.filterMap Scalar.toInt64? ↔ .integer n ∈ items := by
  rw [List.mem_filterMap]
  constructor
  · rintro ⟨s, listed, held⟩
    cases s <;> cases held
    exact listed
  · exact fun listed => ⟨_, listed, rfl⟩

-- Of the integers of a value, the one that lies farthest in the direction of the move comes to stand
-- where there was none.
theorem shift_differs (value shifted : ParamValue) (delta : Int64) (moves : delta.toInt ≠ 0)
    (ok : value.shift? delta = some shifted) (n : Int64) (listed : .integer n ∈ value.scalars) :
    value.shift? 0 ≠ some shifted := by
  intro still
  obtain ⟨last, member, farthest⟩ :=
    (value.scalars.filterMap Scalar.toInt64?).toFinset.exists_max_image
      (fun i => i.toInt * delta.toInt) ⟨n, List.mem_toFinset.mpr ((integer_listed _ n).mpr listed)⟩
  rw [List.mem_toFinset, integer_listed] at member
  obtain ⟨t, moved⟩ : ∃ t, shiftScalar? delta (.integer last) = some t := by
    rw [← Option.ne_none_iff_exists']
    intro leaves
    rw [(shift_none_of_scalar value delta).mpr ⟨_, member, leaves⟩] at ok
    cases ok
  cases (Scalar.shift_scalar_iff delta _ t rfl).mp moved with
  | integer _ m sum =>
      obtain ⟨s, own, kept⟩ := (shift_scalars value shifted 0 still _).mp
        ((shift_scalars value shifted delta ok _).mpr ⟨_, member, moved⟩)
      rw [shift_scalar_zero] at kept
      obtain rfl := Option.some.inj kept
      have within := farthest m (List.mem_toFinset.mpr ((integer_listed _ m).mpr own))
      rw [sum, add_mul] at within
      have beyond := mul_self_pos.mpr moves
      omega

end ParamValue

namespace Plan

-- An offset is refused, or it leads to another year than the parameters have without it.
def OffsetCounts (relation : Relation) (splits : List Split) (defaults : Defaults)
    (params : Params) : Prop :=
  ∀ resolved, resolve relation splits defaults params = .ok resolved →
    ∃ year, resolved.get? .year = some year ∧
      ∀ plain, resolve relation splits defaults (params.erase .yearOffset) = .ok plain →
        plain.get? .year ≠ some year

section

variable (relation : Relation) (yearly : relation.yearColumn.isSome = true)
variable (splits : List Split) (defaults : Defaults) (params : Params) (year : ParamValue)
variable (named : params.get? .year = some year)

include yearly named

theorem offset_moves (offset : ParamValue) (given : params.get? .yearOffset = some offset)
    (nonzero : offset ≠ .scalar (.integer 0)) (n : Int64) (listed : .integer n ∈ year.scalars) :
    OffsetCounts relation splits defaults params := by
  intro resolved ok
  obtain ⟨amount, shifted, read, moved, held⟩ :=
    resolved_year relation splits defaults params yearly resolved year named ok
  obtain ⟨delta, negative, shifts⟩ := Option.bind_eq_some_iff.mp moved
  have moves : delta.toInt ≠ 0 := by
    rcases read_offset_given _ _ read with own | ⟨absent, _⟩
    · rw [given] at own
      obtain rfl := Option.some.inj own
      rw [word_value _ delta negative, ne_eq, Int.neg_eq_zero]
      intro zero
      exact nonzero (by rw [Int64.toInt_inj.mp (zero.trans Int64.toInt_zero.symm)])
    · rw [given] at absent
      cases absent
  refine ⟨shifted, held, fun plain plainOk same => ?_⟩
  obtain ⟨none, other, unread, still, held'⟩ := resolved_year relation splits defaults
    (params.erase .yearOffset) yearly plain year
      ((params.erase_other .yearOffset .year (by decide)).trans named) plainOk
  rw [Params.erase_own] at unread
  obtain rfl := Except.ok.inj unread
  rw [held'] at same
  exact ParamValue.shift_differs year shifted delta moves shifts n listed (still.trans same)

variable (unsplit : .year ∉ splits) (none : ∀ n, .integer n ∉ year.scalars)

include unsplit none

theorem with_year_still (dated : Params)
    (ok : withYear relation splits defaults params = .ok dated) :
    withYear relation splits defaults (params.erase .yearOffset) = .ok dated := by
  obtain ⟨offset, shifted, _, moved, rfl⟩ :=
    (with_year_named relation splits defaults params yearly dated year named).mp ok
  obtain ⟨delta, _, shifts⟩ := Option.bind_eq_some_iff.mp moved
  have still := (ParamValue.shift_still year delta none).symm.trans shifts
  have kept : (params.erase .yearOffset).get? .year = some year :=
    (params.erase_other .yearOffset .year (by decide)).trans named
  refine (with_year_named relation splits defaults _ yearly _ year kept).mpr
    ⟨0, shifted, by rw [Params.erase_own]; rfl, still, Params.ext fun key => ?_⟩
  by_cases last : key = .yearOffset <;>
    simp [setParam, keptOffset, unsplit, Params.insert, Params.erase, last]

theorem offset_dropped (resolved : Params)
    (ok : resolve relation splits defaults params = .ok resolved) :
    resolve relation splits defaults (params.erase .yearOffset) = .ok resolved := by
  obtain ⟨dated, datedOk, checked⟩ := (bind_ok _ _ _).mp ok
  have kept : (params.filter relation.accepts).get? .year = some year :=
    (Params.filter_kept _ _ _ yearly).trans named
  refine (bind_ok _ _ _).mpr ⟨dated, ?_, checked⟩
  rw [Params.filter_erase]
  exact with_year_still relation yearly splits defaults _ year kept unsplit none dated datedOk

end

theorem offset_counts_iff (relation : Relation) (yearly : relation.yearColumn.isSome = true)
    (splits : List Split) (unsplit : .year ∉ splits) (defaults : Defaults) (params : Params)
    (year offset : ParamValue) (named : params.get? .year = some year)
    (given : params.get? .yearOffset = some offset) (nonzero : offset ≠ .scalar (.integer 0)) :
    (OffsetCounts relation splits defaults params ↔
      (∃ n, .integer n ∈ year.scalars) ∨
        ∃ problem, resolve relation splits defaults params = .error problem) ∧
    ((∀ n, .integer n ∉ year.scalars) → ∀ resolved,
      resolve relation splits defaults params = .ok resolved →
        resolve relation splits defaults (params.erase .yearOffset) = .ok resolved) := by
  have dropped := offset_dropped relation yearly splits defaults params year named unsplit
  refine ⟨⟨fun counts => ?_, ?_⟩, dropped⟩
  · by_contra neither
    obtain ⟨none, accepted⟩ := not_or.mp neither
    cases outcome : resolve relation splits defaults params with
    | error problem => exact accepted ⟨problem, outcome⟩
    | ok resolved =>
        obtain ⟨moved, held, differs⟩ := counts resolved outcome
        exact differs resolved (dropped (not_exists.mp none) resolved outcome) held
  · rintro (⟨n, listed⟩ | ⟨problem, refused⟩)
    · exact offset_moves relation yearly splits defaults params year named offset given nonzero n
        listed
    · intro resolved ok
      rw [refused] at ok
      cases ok

def seasonBefore (year : Json.Value) : Params :=
  (Params.ofJson (.object [("year", year), ("year_offset", .number (.integer 1))])).toOption.getD
    .empty

def seasonRead (year : Json.Value) : Params :=
  (resolve Catalog.rusherPlays [] .standard (seasonBefore year)).toOption.getD .empty

theorem numbered_season_moves :
    resolve Catalog.rusherPlays [] .standard (seasonBefore (.number (.integer 2023))) =
      .ok (seasonRead (.number (.integer 2023))) ∧
    (seasonRead (.number (.integer 2023))).get? .year = some (.scalar (.integer 2022)) ∧
    OffsetCounts Catalog.rusherPlays [] .standard (seasonBefore (.number (.integer 2023))) := by
  refine ⟨ok_of_is_ok _ _ (by decide +kernel), by decide +kernel, ?_⟩
  refine (offset_counts_iff Catalog.rusherPlays rfl [] (by decide) .standard _
    (.scalar (.integer 2023)) (.scalar (.integer 1)) (by decide +kernel) (by decide +kernel)
      (by decide)).1.mpr (.inl ⟨2023, ?_⟩)
  exact List.mem_singleton.mpr rfl

theorem text_season_stays :
    Params.ofJson (.object [("year", .string "2023"), ("year_offset", .number (.integer 1))]) =
      .ok (seasonBefore (.string "2023")) ∧
    (seasonBefore (.string "2023")).get? .year = some (.scalar (.text "2023")) ∧
    (seasonBefore (.string "2023")).get? .yearOffset = some (.scalar (.integer 1)) ∧
    resolve Catalog.rusherPlays [] .standard (seasonBefore (.string "2023")) =
      .ok (seasonRead (.string "2023")) ∧
    (seasonRead (.string "2023")).get? .year = some (.scalar (.text "2023")) ∧
    ¬ OffsetCounts Catalog.rusherPlays [] .standard (seasonBefore (.string "2023")) := by
  have ok : resolve Catalog.rusherPlays [] .standard (seasonBefore (.string "2023")) =
      .ok (seasonRead (.string "2023")) := ok_of_is_ok _ _ (by decide +kernel)
  have named : (seasonBefore (.string "2023")).get? .year = some (.scalar (.text "2023")) := by
    decide +kernel
  have read : (seasonRead (.string "2023")).get? .year = some (.scalar (.text "2023")) := by
    decide +kernel
  refine ⟨ok_of_is_ok _ _ (by decide +kernel), named, by decide +kernel, ok, read, fun counts => ?_⟩
  obtain ⟨year, held, differs⟩ := counts _ ok
  refine differs _ (offset_dropped Catalog.rusherPlays rfl [] .standard _ _ named (by decide) ?_ _ ok)
    held
  intro n listed
  cases List.mem_singleton.mp listed

end Plan

end StatTable
