import StatTable.Proofs.Binary64.Rounding
import StatTable.Proofs.Lists
import StatTable.Scalar

set_option autoImplicit false

namespace StatTable.Json

def Number.IsStandard : Number → Prop
  | .integer n => -2 ^ 63 ≤ n ∧ n < 2 ^ 64
  | .binary x => x.isFinite = true

mutual

def Value.IsStandard : Value → Prop
  | .number n => n.IsStandard
  | .array items => ItemsStandard items
  | .object members => (members.map Prod.fst).Nodup ∧ MembersStandard members
  | .null | .bool _ | .string _ => True

def ItemsStandard : List Value → Prop
  | [] => True
  | item :: rest => item.IsStandard ∧ ItemsStandard rest

def MembersStandard : List (String × Value) → Prop
  | [] => True
  | (_, value) :: rest => value.IsStandard ∧ MembersStandard rest

end

theorem items_standard_iff (items : List Value) :
    ItemsStandard items ↔ ∀ item ∈ items, item.IsStandard := by
  induction items with
  | nil => simp [ItemsStandard]
  | cons first rest ih => rw [ItemsStandard, ih, List.forall_mem_cons]

theorem members_standard_iff (members : List (String × Value)) :
    MembersStandard members ↔ ∀ member ∈ members, member.2.IsStandard := by
  induction members with
  | nil => simp [MembersStandard]
  | cons first rest ih => rw [MembersStandard, ih, List.forall_mem_cons]

theorem given_iff (value member : Value) (name : String) :
    value.given? name = some member ↔ value.get? name = some member ∧ member ≠ .null := by
  rw [Value.given?, Option.filter_eq_some_iff, Bool.not_eq_true']
  cases member <;> simp [Value.isNull]

theorem standard_given (value member : Value) (name : String) (standard : value.IsStandard)
    (found : value.given? name = some member) : member.IsStandard := by
  have held := ((given_iff value member name).mp found).1
  cases value with
  | object members =>
      rw [Value.IsStandard] at standard
      exact (members_standard_iff members).mp standard.2 _ (mem_of_lookup members name member held)
  | _ => cases held

def Value.IsScalar : Value → Prop
  | .bool _ | .number _ | .string _ => True
  | .null | .array _ | .object _ => False

theorem number_scalar (n : Number) (standard : n.IsStandard) :
    ∃ s, Scalar.ofNumber n = some s := by
  rw [Scalar.ofNumber]
  cases word : n.toInt64? with
  | some i => exact ⟨_, rfl⟩
  | none =>
      have finite : n.toBinary64.isFinite = true := by
        cases n with
        | integer n => exact Binary64.of_int_finite n (by
            obtain ⟨low, high⟩ := standard
            omega)
        | binary x => exact standard
      exact ⟨_, if_pos finite⟩

theorem scalar_iff (value : Value) (standard : value.IsStandard) :
    (∃ s, Scalar.ofJson value = some s) ↔ value.IsScalar := by
  cases value with
  | number n =>
      rw [Value.IsStandard] at standard
      exact ⟨fun _ => trivial, fun _ => number_scalar n standard⟩
  | bool b => exact ⟨fun _ => trivial, fun _ => ⟨_, rfl⟩⟩
  | string s => exact ⟨fun _ => trivial, fun _ => ⟨_, rfl⟩⟩
  | null => simp [Scalar.ofJson, Value.IsScalar]
  | array items => simp [Scalar.ofJson, Value.IsScalar]
  | object members => simp [Scalar.ofJson, Value.IsScalar]

-- The integer that a number is, however it is written.
def Value.Denotes : Value → Int → Prop
  | .number (.integer n), i => n = i
  | .number (.binary x), i => x.toInt? = some i
  | _, _ => False

end StatTable.Json
