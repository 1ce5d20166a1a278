import StatTable.Proofs.Params.Defaults
import StatTable.Proofs.Players.Conditions
import StatTable.Proofs.Scalars.Compared

set_option autoImplicit false

namespace StatTable

namespace Scalar

-- An integer and where it is moved to; other scalars stay.
inductive Moves (delta : Int) : Scalar → Scalar → Prop
  | integer (n m : Int64) : m.toInt = n.toInt + delta → Moves delta (.integer n) (.integer m)
  | bool (b : Bool) : Moves delta (.bool b) (.bool b)
  | text (s : String) : Moves delta (.text s) (.text s)

theorem compare_moved (m n delta : Int) : Ord.compare (m + delta) (n + delta) = Ord.compare m n := by
  rw [← cmp_eq_compare, ← cmp_eq_compare, cmp_add_right]

theorem moved_compare (delta : Int) (a b c d : Scalar) (first : Moves delta a c)
    (second : Moves delta b d) : c.compare d = a.compare b := by
  cases first with
  | integer n m moved =>
      cases second with
      | integer n' m' moved' =>
          change Ord.compare m.toInt m'.toInt = Ord.compare n.toInt n'.toInt
          rw [moved, moved']
          exact compare_moved _ _ _
      | bool b => rfl
      | text s => rfl
  | bool a => cases second <;> rfl
  | text s => cases second <;> rfl

theorem moved_ascends (delta : Int) (items others : List Scalar)
    (moved : List.Forall₂ (Moves delta) items others) (ascends : IsAscending items) :
    IsAscending others := by
  induction moved with
  | nil => exact .nil
  | cons first rest ih =>
      obtain ⟨before, further⟩ := List.pairwise_cons.mp ascends
      refine List.pairwise_cons.mpr ⟨fun d member => ?_, ih further⟩
      obtain ⟨b, listed, same⟩ := forall_right _ _ _ rest d member
      rw [moved_compare delta _ b _ d first same]
      exact before b listed

theorem moves_sum (delta next : Int) (s t u : Scalar) (first : Moves delta s t) :
    Moves next t u ↔ Moves (delta + next) s u := by
  cases first with
  | integer n m moved =>
      constructor
      · intro second
        cases second with
        | integer _ k moved' => exact .integer n k (by omega)
      · intro both
        cases both with
        | integer _ k moved' => exact .integer m k (by omega)
  | bool b =>
      constructor <;> intro same <;> cases same <;> exact .bool b
  | text s =>
      constructor <;> intro same <;> cases same <;> exact .text s

theorem shift_scalar_iff (delta : Int64) (s t : Scalar) (whole : s.isBinary = false) :
    ParamValue.shiftScalar? delta s = some t ↔ Moves delta.toInt s t := by
  cases s with
  | integer n =>
      rw [ParamValue.shiftScalar?, addWords?, Option.map_eq_some_iff]
      constructor
      · rintro ⟨m, fits, rfl⟩
        exact .integer n m (word_value _ m fits)
      · intro moves
        cases moves with
        | integer _ m moved => exact ⟨m, by rw [← moved, word_own], rfl⟩
  | bool b =>
      constructor
      · intro same
        obtain rfl := Option.some.inj same
        exact .bool b
      · intro moves
        cases moves
        rfl
  | text s =>
      constructor
      · intro same
        obtain rfl := Option.some.inj same
        exact .text s
      · intro moves
        cases moves
        rfl
  | binary x => cases whole

theorem shift_scalar_none (delta : Int64) (s : Scalar) : ParamValue.shiftScalar? delta s = none ↔
    ∃ n, s = .integer n ∧ LeavesWord (n.toInt + delta.toInt) := by
  cases s with
  | integer n =>
      rw [ParamValue.shiftScalar?, Option.map_eq_none_iff, addWords?, word_none_iff]
      simp
  | _ => simp [ParamValue.shiftScalar?]

theorem moved_value (delta y : Int) (s t : Scalar) (moved : Moves delta s t) :
    compareValues (.integer (y + delta)) t.value = compareValues (.integer y) s.value := by
  cases moved with
  | integer n m moved =>
      change Ord.compare (y + delta) m.toInt = Ord.compare y n.toInt
      rw [moved, compare_moved]
  | bool b => rfl
  | text s => rfl

theorem moved_comparison (engine : Sql.Engine) (orders : OrdersValues engine)
    (operator : Sql.Operator) (delta y : Int) (s t : Scalar) (moved : Moves delta s t) :
    engine.comparison operator (.integer (y + delta)) t.value =
      engine.comparison operator (.integer y) s.value := by
  have given : s.value ≠ .null ∧ t.value ≠ .null := by
    cases moved <;> exact ⟨Sql.Value.noConfusion, Sql.Value.noConfusion⟩
  rw [Sql.Engine.comparison, Sql.Engine.comparison, if_neg (by simp [given.2]),
    if_neg (by simp [given.1]), orders, orders, moved_value delta y s t moved]

end Scalar

namespace ParamValue

def scalars : ParamValue → List Scalar
  | .scalar s => [s]
  | .list items => items
  | .range min max => min.toList ++ max.toList

def IsWhole (value : ParamValue) : Prop := ∀ s ∈ value.scalars, s.isBinary = false

inductive Moves (delta : Int) : ParamValue → ParamValue → Prop
  | scalar (s t : Scalar) : Scalar.Moves delta s t → Moves delta (.scalar s) (.scalar t)
  | list (items others : List Scalar) : List.Forall₂ (Scalar.Moves delta) items others →
      Moves delta (.list items) (.list others)
  | range (min max low high : Option Scalar) : Option.Rel (Scalar.Moves delta) min low →
      Option.Rel (Scalar.Moves delta) max high → Moves delta (.range min max) (.range low high)

theorem shift_bound_none (delta : Int64) (bound : Option Scalar) : shiftBound? delta bound = none ↔
    ∃ s ∈ bound.toList, shiftScalar? delta s = none := by
  cases bound <;> simp [shiftBound?]

theorem shift_none_of_scalar (value : ParamValue) (delta : Int64) : value.shift? delta = none ↔
    ∃ s ∈ value.scalars, shiftScalar? delta s = none := by
  cases value with
  | scalar s => simp [shift?, scalars]
  | list items => rw [shift?, Option.map_eq_none_iff, map_m_none_iff, scalars]
  | range min max =>
      simp only [scalars, List.mem_append, or_and_right, exists_or, ← shift_bound_none]
      cases first : shiftBound? delta min <;> cases second : shiftBound? delta max <;>
        simp [shift?, first, second]

theorem shift_none_iff (value : ParamValue) (delta : Int64) : value.shift? delta = none ↔
    ∃ n, .integer n ∈ value.scalars ∧ LeavesWord (n.toInt + delta.toInt) := by
  rw [shift_none_of_scalar]
  simp only [Scalar.shift_scalar_none]
  constructor
  · rintro ⟨_, listed, n, rfl, leaves⟩
    exact ⟨n, listed, leaves⟩
  · rintro ⟨n, listed, leaves⟩
    exact ⟨_, listed, n, rfl, leaves⟩

theorem shift_items_iff (delta : Int64) (items others : List Scalar)
    (whole : ∀ s ∈ items, s.isBinary = false) : items.mapM (shiftScalar? delta) = some others ↔
      List.Forall₂ (Scalar.Moves delta.toInt) items others := by
  rw [map_m_related]
  induction items generalizing others with
  | nil => simp
  | cons s rest ih =>
      obtain ⟨first, further⟩ := List.forall_mem_cons.mp whole
      constructor
      · intro related
        cases related with
        | cons head tail =>
            exact .cons ((Scalar.shift_scalar_iff delta s _ first).mp head) ((ih _ further).mp tail)
      · intro moved
        cases moved with
        | cons head tail =>
            exact .cons ((Scalar.shift_scalar_iff delta s _ first).mpr head) ((ih _ further).mpr tail)

theorem shift_bound_iff (delta : Int64) (bound other : Option Scalar)
    (whole : ∀ s ∈ bound.toList, s.isBinary = false) : shiftBound? delta bound = some other ↔
      Option.Rel (Scalar.Moves delta.toInt) bound other := by
  cases bound with
  | none =>
      constructor
      · intro same
        obtain rfl := Option.some.inj same
        exact .none
      · intro moved
        cases moved
        rfl
  | some s =>
      have own : s.isBinary = false := whole s (List.mem_singleton.mpr rfl)
      rw [shiftBound?, Option.map_eq_some_iff]
      constructor
      · rintro ⟨t, moved, rfl⟩
        exact .some ((Scalar.shift_scalar_iff delta s t own).mp moved)
      · intro moved
        cases moved with
        | some moves => exact ⟨_, (Scalar.shift_scalar_iff delta s _ own).mpr moves, rfl⟩

theorem moved_list_canonical (delta : Int) (items others : List Scalar)
    (canonical : (ParamValue.list items).IsCanonical)
    (moved : List.Forall₂ (Scalar.Moves delta) items others) :
    (ParamValue.list others).IsCanonical :=
  ⟨Scalar.moved_ascends delta items others moved canonical.1,
    fun one => canonical.2 (moved.length_eq.trans one)⟩

theorem shift_some_iff (value shifted : ParamValue) (delta : Int64) (whole : value.IsWhole)
    (canonical : value.IsCanonical) :
    value.shift? delta = some shifted ↔ Moves delta.toInt value shifted := by
  cases value with
  | scalar s =>
      have own : s.isBinary = false := whole s (List.mem_singleton.mpr rfl)
      rw [shift?, Option.map_eq_some_iff]
      constructor
      · rintro ⟨t, moved, rfl⟩
        exact .scalar s t ((Scalar.shift_scalar_iff delta s t own).mp moved)
      · intro moved
        cases moved with
        | scalar _ t moves => exact ⟨t, (Scalar.shift_scalar_iff delta s t own).mpr moves, rfl⟩
  | list items =>
      rw [shift?, Option.map_eq_some_iff]
      constructor
      · rintro ⟨others, each, rfl⟩
        have moved := (shift_items_iff delta items others whole).mp each
        rw [of_list_own others (moved_list_canonical _ items others canonical moved)]
        exact .list items others moved
      · intro moved
        cases moved with
        | list _ others moves =>
            exact ⟨others, (shift_items_iff delta items others whole).mpr moves,
              of_list_own others (moved_list_canonical _ items others canonical moves)⟩
  | range min max =>
      have lower (low : Option Scalar) := shift_bound_iff delta min low fun s listed =>
        whole s (List.mem_append_left _ listed)
      have upper (high : Option Scalar) := shift_bound_iff delta max high fun s listed =>
        whole s (List.mem_append_right _ listed)
      constructor
      · intro ok
        obtain ⟨low, first, ok⟩ := Option.bind_eq_some_iff.mp ok
        obtain ⟨high, second, ok⟩ := Option.bind_eq_some_iff.mp ok
        obtain rfl := Option.some.inj ok
        exact .range min max low high ((lower low).mp first) ((upper high).mp second)
      · intro moved
        cases moved with
        | range _ _ low high first second =>
            rw [shift?, (lower low).mpr first, (upper high).mpr second]
            rfl

theorem moved_whole (delta : Int) (s t : Scalar) (moved : Scalar.Moves delta s t) :
    t.isBinary = false := by
  cases moved <;> rfl

theorem moved_bound_whole (delta : Int) (bound other : Option Scalar)
    (moved : Option.Rel (Scalar.Moves delta) bound other) :
    ∀ t ∈ other.toList, t.isBinary = false := by
  intro t listed
  cases moved with
  | none => cases listed
  | some moves =>
      obtain rfl := List.mem_singleton.mp listed
      exact moved_whole delta _ t moves

theorem items_sum (delta next : Int) (items others last : List Scalar)
    (moved : List.Forall₂ (Scalar.Moves delta) items others) :
    List.Forall₂ (Scalar.Moves next) others last ↔
      List.Forall₂ (Scalar.Moves (delta + next)) items last := by
  induction moved generalizing last with
  | nil => rw [List.forall₂_nil_left_iff, List.forall₂_nil_left_iff]
  | cons first rest ih =>
      rw [List.forall₂_cons_left_iff, List.forall₂_cons_left_iff]
      simp only [Scalar.moves_sum delta next _ _ _ first, ih]

theorem bound_sum (delta next : Int) (bound other last : Option Scalar)
    (moved : Option.Rel (Scalar.Moves delta) bound other) :
    Option.Rel (Scalar.Moves next) other last ↔
      Option.Rel (Scalar.Moves (delta + next)) bound last := by
  cases moved with
  | none =>
      constructor <;> intro same <;> cases same <;> exact .none
  | some moves =>
      constructor
      · intro further
        cases further with
        | some moves' => exact .some ((Scalar.moves_sum delta next _ _ _ moves).mp moves')
      · intro both
        cases both with
        | some moves' => exact .some ((Scalar.moves_sum delta next _ _ _ moves).mpr moves')

section

variable (delta : Int) (value shifted : ParamValue) (moves : Moves delta value shifted)

include moves

theorem moves_whole : shifted.IsWhole := by
  cases moves with
  | scalar s t moved => exact List.forall_mem_singleton.mpr (moved_whole delta s t moved)
  | list items others moved =>
      intro t listed
      obtain ⟨s, -, own⟩ := forall_right _ _ _ moved t listed
      exact moved_whole delta s t own
  | range min max low high lower upper =>
      exact List.forall_mem_append.mpr ⟨moved_bound_whole delta min low lower,
        moved_bound_whole delta max high upper⟩

theorem moves_canonical (canonical : value.IsCanonical) : shifted.IsCanonical := by
  cases moves with
  | list items others moved => exact moved_list_canonical delta items others canonical moved
  | _ => trivial

theorem moves_unsatisfiable :
    shifted.unsatisfiable?.isSome = value.unsatisfiable?.isSome := by
  cases moves with
  | scalar s t moved => rfl
  | list items others moved => cases moved <;> rfl
  | range min max low high lower upper =>
      cases lower with
      | none => rfl
      | some first =>
          cases upper with
          | none => rfl
          | some second =>
              rw [unsatisfiable?, unsatisfiable?, Scalar.moved_compare delta _ _ _ _ first second]
              split <;> rfl

theorem moves_allows (engine : Sql.Engine) (orders : Scalar.OrdersValues engine) (y : Int) :
    shifted.allows engine (.integer (y + delta)) = value.allows engine (.integer y) := by
  have stands (operator : Sql.Operator) (s t : Scalar) (moved : Scalar.Moves delta s t) :=
    Scalar.moved_comparison engine orders operator delta y s t moved
  cases moves with
  | scalar s t moved => rw [allows, allows, Sql.Engine.equal, Sql.Engine.equal, stands .eq s t moved]
  | list items others moved =>
      rw [allows, allows]
      induction moved with
      | nil => rfl
      | cons first rest ih =>
          rw [List.any_cons, List.any_cons, ih, Sql.Engine.equal, Sql.Engine.equal,
            stands .eq _ _ first]
  | range min max low high lower upper =>
      have given (n : Int) : (Sql.Value.integer n != .null) = true :=
        bne_iff_ne.mpr Sql.Value.noConfusion
      have bounded (operator : Sql.Operator) (bound other : Option Scalar)
          (moved : Option.Rel (Scalar.Moves delta) bound other) :
          (other.all fun t => engine.comparison operator (.integer (y + delta)) t.value == some true) =
            bound.all fun s => engine.comparison operator (.integer y) s.value == some true := by
        cases moved with
        | none => rfl
        | some moves => rw [Option.all_some, Option.all_some, stands operator _ _ moves]
      rw [allows, allows, given, given, bounded .gte min low lower, bounded .lte max high upper]

theorem moves_sum (next : Int) (other : ParamValue) :
    Moves next shifted other ↔ Moves (delta + next) value other := by
  cases moves with
  | scalar s t moved =>
      constructor
      · intro further
        cases further with
        | scalar _ u moved' => exact .scalar s u ((Scalar.moves_sum delta next s t u moved).mp moved')
      · intro both
        cases both with
        | scalar _ u moved' => exact .scalar t u ((Scalar.moves_sum delta next s t u moved).mpr moved')
  | list items others moved =>
      constructor
      · intro further
        cases further with
        | list _ last moved' =>
            exact .list items last ((items_sum delta next items others last moved).mp moved')
      · intro both
        cases both with
        | list _ last moved' =>
            exact .list others last ((items_sum delta next items others last moved).mpr moved')
  | range min max low high lower upper =>
      constructor
      · intro further
        cases further with
        | range _ _ least most first second =>
            exact .range min max least most ((bound_sum delta next min low least lower).mp first)
              ((bound_sum delta next max high most upper).mp second)
      · intro both
        cases both with
        | range _ _ least most first second =>
            exact .range low high least most ((bound_sum delta next min low least lower).mpr first)
              ((bound_sum delta next max high most upper).mpr second)

end

inductive SameShape : ParamValue → ParamValue → Prop
  | scalar (s t : Scalar) : SameShape (.scalar s) (.scalar t)
  | list (items others : List Scalar) : items.length = others.length →
      SameShape (.list items) (.list others)
  | range (min max low high : Option Scalar) : min.isSome = low.isSome → max.isSome = high.isSome →
      SameShape (.range min max) (.range low high)

theorem moves_shape (delta : Int) (value shifted : ParamValue) (moves : Moves delta value shifted) :
    SameShape value shifted := by
  have sides (bound other : Option Scalar) (moved : Option.Rel (Scalar.Moves delta) bound other) :
      bound.isSome = other.isSome := by
    cases moved <;> rfl
  cases moves with
  | scalar s t moved => exact .scalar s t
  | list items others moved => exact .list items others moved.length_eq
  | range min max low high lower upper =>
      exact .range min max low high (sides min low lower) (sides max high upper)

-- A value that allows what another one allows, moved by some integer.
structure Translates (value shifted : ParamValue) (delta : Int) : Prop where
  canonical : shifted.IsCanonical
  shape : SameShape value shifted
  unsatisfiable : shifted.unsatisfiable?.isSome = value.unsatisfiable?.isSome
  accepts : ∀ engine, Scalar.OrdersValues engine →
    ∀ (column : Sql.Expr) (group moved : List Sql.Scope) (y : Int),
      column.value engine group = .integer y → column.value engine moved = .integer (y + delta) →
        ((value.condition column).holds engine group = true ↔
          (shifted.condition column).holds engine moved = true)

theorem moves_translate (delta : Int) (value shifted : ParamValue) (moves : Moves delta value shifted)
    (canonical : value.IsCanonical) : Translates value shifted delta where
  canonical := moves_canonical delta value shifted moves canonical
  shape := moves_shape delta value shifted moves
  unsatisfiable := moves_unsatisfiable delta value shifted moves
  accepts := by
    intro engine orders column group moved y held held'
    rw [allows_holds, allows_holds, held, held', moves_allows delta value shifted moves engine orders]

theorem shifting_translates (source : Json.Value) (value : ParamValue)
    (read : ofJson source = .ok value) (whole : value.IsWhole) (delta : Int64) :
    (value.shift? delta = none ↔
      ∃ n, .integer n ∈ value.scalars ∧ LeavesWord (n.toInt + delta.toInt)) ∧
    ∀ shifted, value.shift? delta = some shifted → Translates value shifted delta.toInt ∧
      ∀ next total, addWords? delta next = some total →
        shifted.shift? next = value.shift? total := by
  have canonical := of_json_canonical source value read
  refine ⟨shift_none_iff value delta, fun shifted ok => ?_⟩
  have moves := (shift_some_iff value shifted delta whole canonical).mp ok
  refine ⟨moves_translate delta.toInt value shifted moves canonical, fun next total sum => ?_⟩
  have own := moves_whole delta.toInt value shifted moves
  have ordered := moves_canonical delta.toInt value shifted moves canonical
  refine Option.ext fun other => ?_
  rw [shift_some_iff shifted other next own ordered, shift_some_iff value other total whole canonical,
    word_value _ total sum]
  exact moves_sum delta.toInt value shifted moves next.toInt other

def mixedSeasons : Json.Value :=
  .array [.string "all", .number (.integer 2023), .number (.binary (Binary64.ofInt 2021)), .bool true]

def seasonsListed (first last : Int64) : ParamValue :=
  .list [.bool true, .integer first, .integer last, .text "all"]

theorem mixed_seasons_read : ofJson mixedSeasons = .ok (seasonsListed 2021 2023) := by
  refine (read_list_ok _ _).mpr
    ⟨[.text "all", .integer 2023, .integer 2021, .bool true], by decide +kernel, ?_⟩
  have ascends : (seasonsListed 2021 2023).IsCanonical := by
    refine ⟨?_, by decide⟩
    unfold Scalar.IsAscending
    decide
  rw [seasonsListed, ← of_list_own _ ascends]
  exact of_list_congr _ _ (by simp; tauto)

theorem mixed_seasons_moved :
    ofJson mixedSeasons = .ok (seasonsListed 2021 2023) ∧ (seasonsListed 2021 2023).IsWhole ∧
    (seasonsListed 2021 2023).shift? (-1) = some (seasonsListed 2020 2022) ∧
    Translates (seasonsListed 2021 2023) (seasonsListed 2020 2022) (-1) ∧
    Scalar.OrdersValues Scalar.ordered ∧
    (seasonsListed 2020 2022).shift? 3 = (seasonsListed 2021 2023).shift? 2 := by
  have whole : (seasonsListed 2021 2023).IsWhole := by
    unfold IsWhole
    decide
  have moved : (seasonsListed 2021 2023).shift? (-1) = some (seasonsListed 2020 2022) :=
    (shift_some_iff _ _ (-1) whole (of_json_canonical _ _ mixed_seasons_read)).mpr
      (.list _ _ (.cons (.bool true) (.cons (.integer 2021 2020 (by decide))
        (.cons (.integer 2023 2022 (by decide)) (.cons (.text "all") .nil)))))
  obtain ⟨translates, further⟩ :=
    (shifting_translates mixedSeasons _ mixed_seasons_read whole (-1)).2 _ moved
  exact ⟨mixed_seasons_read, whole, moved, translates, Scalar.ordered_orders,
    further 3 2 (by decide)⟩

end ParamValue

end StatTable
