import StatTable.Proofs.Groups.KeyText
import StatTable.Proofs.Players.Reading
import StatTable.Proofs.Sql.Plain

set_option autoImplicit false

namespace StatTable.Scalar

-- The order of scalars, with nothing before all of them.
def compareValues : Sql.Value → Sql.Value → Ordering
  | .null, .null => .eq
  | .null, _ => .lt
  | _, .null => .gt
  | .bool a, .bool b => Ord.compare a b
  | .integer m, .integer n => Ord.compare m n
  | .integer m, .binary y => ((Binary64.ofInt m).compare y).then .lt
  | .binary x, .integer n => (x.compare (Binary64.ofInt n)).then .gt
  | .binary x, .binary y => x.compare y
  | .text a, .text b => Ord.compare a b
  | .bool _, _ => .lt
  | _, .bool _ => .gt
  | _, .text _ => .lt
  | .text _, _ => .gt

theorem compare_values (a b : Scalar) (finite : a.IsFinite) (finite' : b.IsFinite) :
    compareValues a.value b.value = a.compare b := by
  cases a <;> cases b <;> simp_all [value, IsFinite, compareValues, compare]

theorem values_alike_iff (x y : Sql.Value) : compareValues x y = .eq ↔ x = y := by
  constructor
  · intro same
    cases x with
    | null => cases y <;> trivial
    | bool a =>
        cases y with
        | bool b => rw [Std.LawfulEqOrd.eq_of_compare same]
        | _ => cases same
    | integer m =>
        cases y with
        | integer n => rw [Int.compare_eq_eq.mp same]
        | binary y => cases (Ordering.then_eq_eq.mp same).2
        | _ => cases same
    | binary x =>
        cases y with
        | binary y => rw [Binary64.compare_eq x y same]
        | integer n => cases (Ordering.then_eq_eq.mp same).2
        | _ => cases same
    | text s =>
        cases y with
        | text t => rw [Std.LawfulEqOrd.eq_of_compare same]
        | _ => cases same
  · rintro rfl
    cases x with
    | null => rfl
    | bool b => exact Std.ReflOrd.compare_self
    | integer n => exact Std.ReflOrd.compare_self
    | binary x => exact Std.ReflOrd.compare_self
    | text s => exact Std.ReflOrd.compare_self

def passes (operator : Sql.Operator) (place : Ordering) : Bool :=
  match operator with
  | .eq => place.isEq
  | .ne => place.isNe
  | .lt => place.isLT
  | .lte => place.isLE
  | .gt => place.isGT
  | .gte => place.isGE
  | _ => false

def OrdersValues (engine : Sql.Engine) : Prop :=
  ∀ operator x y, engine.compare operator x y = some (passes operator (compareValues x y))

theorem orders_scalars (engine : Sql.Engine) (orders : OrdersValues engine)
    (operator : Sql.Operator) (a b : Scalar) (finite : a.IsFinite) (finite' : b.IsFinite) :
    engine.compare operator a.value b.value = some (passes operator (a.compare b)) := by
  rw [orders, compare_values a b finite finite']

def orderedCompare (operator : Sql.Operator) (x y : Sql.Value) : Sql.Truth :=
  some (passes operator (compareValues x y))

theorem ordered_equal (x y : Sql.Value) : orderedCompare .eq x y = some true ↔ x = y := by
  rw [orderedCompare, Option.some_inj, passes, Ordering.isEq_iff_eq_eq, values_alike_iff]

def ordered : Sql.Engine :=
  { Sql.Engine.plain with
    compare := orderedCompare
    compare_refl := fun x _ => (ordered_equal x x).mpr rfl
    compare_symm := fun x y equal => (ordered_equal y x).mpr ((ordered_equal x y).mp equal).symm
    compare_trans := fun x y z first second =>
      (ordered_equal x z).mpr (((ordered_equal x y).mp first).trans ((ordered_equal y z).mp second))
    compare_integers := fun m n => by
      refine congrArg some (Bool.eq_iff_iff.mpr ?_)
      rw [passes, Ordering.isEq_iff_eq_eq, values_alike_iff, decide_eq_true_iff,
        Sql.Value.integer.injEq] }

theorem ordered_orders : OrdersValues ordered := fun _ _ _ => rfl

end StatTable.Scalar
