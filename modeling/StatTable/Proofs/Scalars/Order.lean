import Mathlib.Data.List.Sort
import StatTable.Proofs.Binary64.Order
import StatTable.Proofs.Documents.Values

set_option autoImplicit false

namespace StatTable.Scalar

def rank : Scalar → Nat
  | .bool _ => 0
  | .integer _ | .binary _ => 1
  | .text _ => 2

def truth : Scalar → Bool
  | .bool b => b
  | _ => false

def nearest : Scalar → Int
  | .integer n => (Binary64.ofInt n.toInt).orderKey
  | .binary x => x.orderKey
  | _ => 0

def isBinary : Scalar → Bool
  | .binary _ => true
  | _ => false

def whole : Scalar → Int
  | .integer n => n.toInt
  | _ => 0

def content : Scalar → String
  | .text s => s
  | _ => ""

def comparePlaces : Scalar → Scalar → Ordering :=
  compareLex (compareOn rank) (compareLex (compareOn truth) (compareLex (compareOn nearest)
    (compareLex (compareOn isBinary) (compareLex (compareOn whole) (compareOn content)))))

theorem compare_nearest (m n : Int) :
    (Ord.compare (Binary64.ofInt m).orderKey (Binary64.ofInt n).orderKey).then (Ord.compare m n) =
      Ord.compare m n := by
  rcases lt_trichotomy m n with less | rfl | greater
  · have places := Binary64.of_int_mono m n less.le
    rw [compare_lt_iff_lt.mpr less]
    rcases places.lt_or_eq with before | same
    · rw [compare_lt_iff_lt.mpr before]
      rfl
    · rw [compare_eq_iff_eq.mpr same]
      rfl
  · rw [compare_eq_iff_eq.mpr rfl, compare_eq_iff_eq.mpr rfl]
    rfl
  · have places := Binary64.of_int_mono n m greater.le
    rw [compare_gt_iff_gt.mpr greater]
    rcases places.lt_or_eq with after | same
    · rw [compare_gt_iff_gt.mpr after]
      rfl
    · rw [compare_eq_iff_eq.mpr same.symm]
      rfl

theorem compare_places (a b : Scalar) : a.compare b = comparePlaces a b := by
  cases a with
  | bool x =>
      cases b with
      | bool y => exact Ordering.then_eq.symm
      | _ => rfl
  | integer m =>
      cases b with
      | integer n =>
          exact ((congrArg _ Ordering.then_eq).trans (compare_nearest m.toInt n.toInt)).symm
      | _ => rfl
  | binary x =>
      cases b with
      | binary y => exact Ordering.then_eq.symm
      | _ => rfl
  | text s => cases b <;> rfl

instance : Std.TransCmp compare := by
  have same : compare = comparePlaces := funext fun a => funext fun b => compare_places a b
  rw [same]
  unfold comparePlaces
  infer_instance

theorem le_trans (a b c : Scalar) (first : le a b = true) (second : le b c = true) :
    le a c = true :=
  Std.TransCmp.isLE_trans first second

theorem compare_swap (a b : Scalar) : b.compare a = (a.compare b).swap :=
  Std.OrientedCmp.eq_swap

theorem le_total (a b : Scalar) : (le a b || le b a) = true := by
  unfold le
  rw [compare_swap a b]
  cases a.compare b <;> rfl

theorem lt_of_le_of_ne (a b : Scalar) (ordered : le a b = true) (differ : a ≠ b) :
    a.compare b = .lt := by
  unfold le at ordered
  cases places : a.compare b with
  | lt => rfl
  | eq => exact absurd ((alike_iff a b).mp places) differ
  | gt =>
      rw [places] at ordered
      cases ordered

def IsAscending (scalars : List Scalar) : Prop :=
  scalars.Pairwise fun a b => a.compare b = .lt

theorem drop_repeats_ascending (scalars : List Scalar)
    (sorted : scalars.Pairwise fun a b => le a b = true) : IsAscending (dropRepeats scalars) := by
  fun_induction dropRepeats scalars with
  | case1 => exact .nil
  | case2 a => exact List.pairwise_singleton _ _
  | case3 a rest ih => exact ih sorted.of_cons
  | case4 a b rest differ ih =>
      refine List.pairwise_cons.mpr ⟨fun c listed => ?_, ih sorted.of_cons⟩
      have less := lt_of_le_of_ne a b (List.rel_of_pairwise_cons sorted List.mem_cons_self) differ
      rcases List.mem_cons.mp ((mem_drop_repeats _ c).mp listed) with rfl | later
      · exact less
      · exact Std.TransCmp.lt_of_lt_of_isLE less (List.rel_of_pairwise_cons sorted.of_cons later)

theorem ascending_ascends (scalars : List Scalar) : IsAscending (ascending scalars) :=
  drop_repeats_ascending _ (List.pairwise_mergeSort le_trans le_total scalars)

theorem ascending_unique (one other : List Scalar) (first : IsAscending one)
    (second : IsAscending other) (same : ∀ s, s ∈ one ↔ s ∈ other) : one = other := by
  have apart (a b : Scalar) (less : a.compare b = .lt) : a ≠ b := by
    rintro rfl
    have itself : a.compare a = .eq := Std.ReflCmp.compare_self
    rw [itself] at less
    cases less
  refine List.Perm.eq_of_pairwise (fun a b _ _ ab ba => ?_) first second
    ((List.perm_ext_iff_of_nodup (first.imp fun less => apart _ _ less)
      (second.imp fun less => apart _ _ less)).mpr same)
  rw [compare_swap b a, ba] at ab
  cases ab

theorem ascending_congr (one other : List Scalar) (same : ∀ s, s ∈ one ↔ s ∈ other) :
    ascending one = ascending other :=
  ascending_unique _ _ (ascending_ascends one) (ascending_ascends other) fun s => by
    rw [mem_ascending, mem_ascending, same]

theorem ascending_of_ascends (scalars : List Scalar) (ascends : IsAscending scalars) :
    ascending scalars = scalars :=
  ascending_unique _ _ (ascending_ascends scalars) ascends (mem_ascending scalars)

end StatTable.Scalar
