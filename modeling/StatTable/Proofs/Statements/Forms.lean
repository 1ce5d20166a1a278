import StatTable.Proofs.Params.Resolution
import StatTable.Proofs.Sql.Parsing

set_option autoImplicit false

namespace StatTable

open Sql

namespace Sql

def Expr.Binds (Choices : List Expr → Prop) (level : Nat) (expr : Expr) : Prop :=
  level ≤ expr.level ∧ expr.Formed Choices

section

variable (Choices : List Expr → Prop)

theorem binds_weaken (low high : Nat) (expr : Expr) (binds : expr.Binds Choices high)
    (le : low ≤ high) : expr.Binds Choices low :=
  ⟨Nat.le_trans le binds.1, binds.2⟩

theorem field_binds (level : Nat) (table name : String) (operand : level ≤ 7) :
    (Expr.field table name).Binds Choices level := ⟨operand, trivial⟩

theorem literal_binds (level : Nat) (value : Literal) (operand : level ≤ 7) :
    (Expr.literal value).Binds Choices level := ⟨operand, trivial⟩

theorem scalar_binds (level : Nat) (s : Scalar) (operand : level ≤ 7) :
    s.toExpr.Binds Choices level := by
  cases s <;> exact literal_binds Choices level _ operand

theorem each_formed_iff (exprs : List Expr) :
    EachFormed Choices exprs ↔ ∀ expr ∈ exprs, expr.Formed Choices := by
  induction exprs with
  | nil => simp [EachFormed]
  | cons expr rest ih => rw [EachFormed, ih, List.forall_mem_cons]

theorem scalars_formed (items : List Scalar) : EachFormed Choices (items.map Scalar.toExpr) := by
  rw [each_formed_iff, List.forall_mem_map]
  exact fun s _ => (scalar_binds Choices 0 s (by decide)).2

theorem binary_binds (operator : Operator) (left right : Expr)
    (leftBinds : left.Binds Choices operator.level)
    (rightBinds : right.Binds Choices (operator.level + 1)) :
    (Expr.binary operator left right).Binds Choices operator.level :=
  ⟨Nat.le_refl _, leftBinds.1, rightBinds.1, leftBinds.2, rightBinds.2⟩

theorem call_binds (level : Nat) (function : String) (distinct : Bool) (arguments : List Expr)
    (operand : level ≤ 7) (known : function ∈ calledFunctions)
    (formed : ∀ expr ∈ arguments, expr.Formed Choices) :
    (Expr.call function distinct arguments).Binds Choices level :=
  ⟨operand, known, (each_formed_iff Choices arguments).mpr formed⟩

theorem conjunction_formed (conditions : List Expr) (joined : Expr)
    (tests : ∀ condition ∈ conditions, condition.Binds Choices testLevel)
    (conjoined : Expr.conjunction conditions = some joined) : joined.Formed Choices := by
  cases conditions with
  | nil => cases conjoined
  | cons first rest =>
      obtain rfl := Option.some.inj conjoined
      obtain ⟨own, others⟩ := List.forall_mem_cons.mp tests
      have start := binds_weaken Choices Operator.and.level testLevel first own (by decide)
      refine (List.foldlRecOn (motive := Expr.Binds Choices Operator.and.level) rest _ start ?_).2
      exact fun left binds condition member =>
        binary_binds Choices .and left condition binds (others condition member)

end

end Sql

section

variable (Choices : List Expr → Prop)

def ParamValue.Chooses : ParamValue → Prop
  | .list items => Choices (items.map Scalar.toExpr)
  | _ => True

def Params.Choose (params : Params) : Prop :=
  ∀ key value, params.get? key = some value → value.Chooses Choices

theorem param_test (column : Expr) (value : ParamValue) (binds : column.Binds Choices testLevel)
    (chooses : value.Chooses Choices) :
    (value.condition column).Binds Choices testLevel := by
  have scalar (s : Scalar) := scalar_binds Choices (testLevel + 1) s (by decide)
  cases value with
  | scalar s => exact binary_binds Choices .eq _ _ binds (scalar s)
  | list items =>
      exact ⟨Nat.le_refl _, binds.1, chooses, binds.2, scalars_formed Choices items⟩
  | range min max =>
      cases min with
      | none =>
          cases max with
          | none => exact ⟨Nat.le_refl _, binds⟩
          | some max => exact binary_binds Choices .lte _ _ binds (scalar max)
      | some min =>
          cases max with
          | none => exact binary_binds Choices .gte _ _ binds (scalar min)
          | some max =>
              exact ⟨Nat.le_refl _, binds.1, (scalar min).1, (scalar max).1, binds.2,
                (scalar min).2, (scalar max).2⟩

namespace Plan

theorem ratio_binds (num den : Expr) (numBinds : num.Binds Choices Operator.over.level)
    (denFormed : den.Formed Choices) : (ratioExpr num den).Binds Choices Operator.over.level := by
  refine binary_binds Choices .over _ _ (binary_binds Choices .times _ _ numBinds
    (literal_binds Choices _ _ (by decide))) (call_binds Choices _ _ _ _ (by decide) (by decide) ?_)
  exact List.forall_mem_cons.mpr ⟨denFormed, List.forall_mem_singleton.mpr trivial⟩

theorem attribute_binds (source : Attribute) (table : String) :
    (source.expr table).Binds Choices Operator.concat.level := by
  have start := field_binds Choices Operator.concat.level table source.first (by decide)
  refine List.foldlRecOn (motive := Expr.Binds Choices Operator.concat.level) source.rest _ start ?_
  intro joined binds name _
  exact binary_binds Choices .concat _ _ (binary_binds Choices .concat _ _ binds
    (literal_binds Choices _ _ (by decide))) (field_binds Choices _ _ _ (by decide))

theorem or_zero_binds (level : Nat) (table column : String) (operand : level ≤ 7) :
    (Aggregate.orZero table column).Binds Choices level := by
  refine call_binds Choices level _ _ _ operand (by decide) ?_
  exact List.forall_mem_cons.mpr ⟨trivial, List.forall_mem_singleton.mpr trivial⟩

theorem aggregate_binds (table : String) (aggregate : Aggregate) :
    (aggregate.expr table).Binds Choices Operator.over.level := by
  have called (function : String) (distinct : Bool) (argument : Expr)
      (known : function ∈ calledFunctions) (formed : argument.Formed Choices) :
      (Expr.call function distinct [argument]).Binds Choices Operator.over.level :=
    call_binds Choices _ _ _ _ (by decide) known (List.forall_mem_singleton.mpr formed)
  induction aggregate with
  | sum column => exact called _ _ _ (by decide) trivial
  | sumOf first rest =>
      have start := or_zero_binds Choices Operator.plus.level table first (by decide)
      refine called _ _ _ (by decide)
        (List.foldlRecOn (motive := Expr.Binds Choices Operator.plus.level) rest _ start ?_).2
      exact fun total binds column _ => binary_binds Choices .plus _ _ binds
        (or_zero_binds Choices _ table column (by decide))
  | count => exact called _ _ _ (by decide) trivial
  | countDistinct column => exact called _ _ _ (by decide) trivial
  | ratio num den numIh denIh => exact ratio_binds Choices _ _ numIh denIh.2

theorem operand_binds (level : Nat) (operand : Option Operand) (bound : level ≤ 7) :
    (operandExpr operand).Binds Choices level := by
  cases operand with
  | none => exact literal_binds Choices level _ bound
  | some operand =>
      cases operand with
      | scalar s => exact scalar_binds Choices level s bound
      | list items =>
          cases items with
          | nil => exact literal_binds Choices level _ bound
          | cons s rest => exact scalar_binds Choices level s bound

theorem operands_formed (operand : Option Operand) : EachFormed Choices (operandExprs operand) := by
  cases operand with
  | none => trivial
  | some operand =>
      cases operand with
      | scalar s => exact scalars_formed Choices [s]
      | list items => exact scalars_formed Choices items

theorem filter_test (target : Expr) (operator : FilterOperator) (operand : Option Operand)
    (binds : target.Binds Choices testLevel)
    (chooses : operator.shape = .list → Choices (operandExprs operand)) :
    (filterCondition target operator operand).Binds Choices testLevel := by
  have compared (comparison : Operator) (level : comparison.level = testLevel) :
      (Expr.binary comparison target (operandExpr operand)).Binds Choices testLevel := by
    have right := operand_binds Choices (comparison.level + 1) operand (by rw [level]; decide)
    exact level ▸ binary_binds Choices comparison _ _ (level.symm ▸ binds) right
  have among (negated : Bool) (list : operator.shape = .list) :
      (Expr.among negated target (operandExprs operand)).Binds Choices testLevel :=
    ⟨Nat.le_refl _, binds.1, chooses list, binds.2, operands_formed Choices operand⟩
  have like (negated : Bool) :
      (Expr.like negated true target (operandExpr operand)).Binds Choices testLevel := by
    have pattern := operand_binds Choices (testLevel + 1) operand (by decide)
    exact ⟨Nat.le_refl _, binds.1, pattern.1, binds.2, pattern.2⟩
  cases operator with
  | eq | ne | gt | gte | lt | lte => exact compared _ rfl
  | isIn | notIn => exact among _ rfl
  | isNull | isNotNull => exact ⟨Nat.le_refl _, binds⟩
  | like | notLike => exact like _

theorem param_conditions_tests (relation : Relation) (params : Params) (table : String)
    (choose : params.Choose Choices) : ∀ condition ∈ paramConditions relation params table,
      condition.Binds Choices testLevel := by
  intro condition member
  obtain ⟨⟨key, value⟩, listed, made⟩ := List.mem_filterMap.mp member
  obtain ⟨column, _, rfl⟩ := Option.map_eq_some_iff.mp made
  exact param_test Choices _ value (field_binds Choices _ _ _ (by decide))
    (choose key value ((mem_to_list params key value).mp listed))

theorem fixed_conditions_tests (relation : Relation) (table : String) :
    ∀ condition ∈ fixedConditions relation table, condition.Binds Choices testLevel := by
  intro condition member
  obtain ⟨fixed, _, rfl⟩ := List.mem_map.mp member
  exact binary_binds Choices .eq _ _ (field_binds Choices _ _ _ (by decide))
    (scalar_binds Choices _ _ (by decide))

end Plan

end

end StatTable
