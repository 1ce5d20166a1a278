import StatTable.Plan.Condition
import StatTable.Proofs.Players.Conditions
import StatTable.TableState.Reading

set_option autoImplicit false

namespace StatTable

open Sql

def OperandShape.Fits : OperandShape → Option Operand → Prop
  | .none, Option.none => True
  | .scalar, some (.scalar _) => True
  | .list, some (.list items) => items ≠ []
  | .pattern, some (.scalar _) => True
  | _, _ => False

def FilterClause.Shaped (clause : FilterClause) : Prop :=
  clause.operator.shape.Fits clause.operand

theorem drop_repeats_some (scalars : List Scalar) (some : scalars ≠ []) :
    Scalar.dropRepeats scalars ≠ [] := by
  induction scalars with
  | nil => exact absurd rfl some
  | cons a rest ih =>
      cases rest with
      | nil => simp [Scalar.dropRepeats]
      | cons b rest =>
          rw [Scalar.dropRepeats]
          by_cases same : a = b
          · rw [if_pos same]
            exact ih (by simp)
          · rw [if_neg same]
            simp

theorem ascending_some (scalars : List Scalar) (some : scalars ≠ []) :
    Scalar.ascending scalars ≠ [] := by
  refine drop_repeats_some _ fun none => some ?_
  have length := congrArg List.length none
  rw [Scalar.sort, List.length_mergeSort] at length
  exact List.length_eq_zero_iff.mp length

namespace TableState

inductive ReadsOperand : OperandShape → Option Json.Value → Option Operand → Prop where
  | none : ReadsOperand .none .none .none
  | scalar (value : Json.Value) (s : Scalar) : Scalar.ofJson value = some s →
      ReadsOperand .scalar (some value) (some (.scalar s))
  | list (items : List Json.Value) (scalars : List Scalar) : items ≠ [] →
      items.mapM Scalar.ofJson = some scalars →
        ReadsOperand .list (some (.array items)) (some (.list (Scalar.ascending scalars)))
  | pattern (text : String) :
      ReadsOperand .pattern (some (.string text)) (some (.scalar (.text text)))

theorem read_shape_ok (shape : OperandShape) (value : Option Json.Value)
    (operand : Option Operand) :
    readShape shape value = .ok operand ↔ ReadsOperand shape value operand := by
  constructor
  · fun_cases readShape shape value with
    | case1 => rintro ⟨⟩; exact .none
    | case5 items some scalars read => rintro ⟨⟩; exact .list items scalars some read
    | case8 text => rintro ⟨⟩; exact .pattern text
    | case10 value s read => rintro ⟨⟩; exact .scalar value s read
    | case2 | case3 | case4 | case6 | case7 | case9 | case11 => exact nofun
  · intro reads
    cases reads with
    | none => rfl
    | scalar value s read => simp only [readShape, read]
    | list items scalars some read =>
        cases items with
        | nil => exact absurd rfl some
        | cons item rest => simp only [readShape, read]
    | pattern text => rfl

theorem read_shape_fits (shape : OperandShape) (value : Option Json.Value) (operand : Option Operand)
    (ok : readShape shape value = .ok operand) : shape.Fits operand := by
  cases (read_shape_ok shape value operand).mp ok with
  | none | scalar _ _ _ | pattern _ => trivial
  | list items scalars some read => exact ascending_some scalars (map_m_some _ _ scalars some read)

theorem both_ok {α β : Type} (first : Checked α) (second : Checked β) (a : α) (b : β)
    (ok : Checked.both first second = .ok (a, b)) : first = .ok a ∧ second = .ok b := by
  unfold Checked.both at ok
  split at ok
  · injection ok with same
    injection same with firstSame secondSame
    exact ⟨congrArg _ firstSame, congrArg _ secondSame⟩
  · simp at ok

theorem all_ok {α : Type} (parts : List (Checked α)) (items : List α)
    (ok : Checked.all parts = .ok items) : ∀ item ∈ items, .ok item ∈ parts := by
  induction parts generalizing items with
  | nil =>
      rw [← Except.ok.inj ok]
      simp
  | cons part rest ih =>
      obtain ⟨⟨first, others⟩, both, same⟩ := (map_ok _ _ _).mp ok
      obtain ⟨firstOk, othersOk⟩ := both_ok _ _ _ _ both
      intro item member
      rw [← same] at member
      rcases List.mem_cons.mp member with rfl | later
      · rw [firstOk]
        exact List.mem_cons_self
      · exact List.mem_cons_of_mem _ (ih others othersOk item later)

theorem read_section_ok {α : Type} (document : Json.Value) (name : String)
    (read : Path → Json.Value → Checked α) (items : List α)
    (ok : readSection document name read = .ok items) :
    ∀ item ∈ items, ∃ path value, read path value = .ok item := by
  obtain ⟨values, _, ok⟩ := (bind_ok _ _ _).mp ok
  intro item member
  obtain ⟨⟨path, value⟩, _, same⟩ := List.mem_map.mp (all_ok _ items ok item member)
  exact ⟨path, value, same⟩

theorem read_filter_shaped (path : Path) (value : Json.Value) (clause : FilterClause)
    (ok : readFilter path value = .ok clause) : clause.Shaped := by
  unfold readFilter at ok
  split at ok
  · obtain ⟨⟨column, operator, operand⟩, both, same⟩ := (map_ok _ _ _).mp ok
    obtain ⟨_, compared⟩ := both_ok _ _ _ _ both
    obtain ⟨read, _, compared⟩ := (bind_ok _ _ _).mp compared
    obtain ⟨found, shaped, compared⟩ := (bind_ok _ _ _).mp compared
    injection Except.ok.inj compared with readSame foundSame
    subst readSame foundSame
    rw [← same]
    unfold readOperand at shaped
    split at shaped
    · rename_i held fits
      rw [← Except.ok.inj shaped]
      exact read_shape_fits _ _ _ fits
    · simp [Checked.refuse] at shaped
  · simp [Checked.refuse] at ok

theorem of_json_shaped (limits : Limits) (document : Json.Value) (state : TableState)
    (valid : TableState.ofJson limits document = .ok state) :
    ∀ clause ∈ state.filters, clause.Shaped := by
  unfold TableState.ofJson at valid
  split at valid
  · obtain ⟨⟨leading, columns, filters, sorts, splits, offset, limit⟩, both, same⟩ :=
      (map_ok _ _ _).mp valid
    obtain ⟨_, both⟩ := both_ok _ _ _ _ both
    obtain ⟨_, both⟩ := both_ok _ _ _ _ both
    obtain ⟨read, _⟩ := both_ok _ _ _ _ both
    intro clause member
    rw [← same] at member
    obtain ⟨path, value, clauseOk⟩ := read_section_ok _ _ _ filters read clause member
    exact read_filter_shaped path value clause clauseOk
  · simp [Checked.refuse] at valid

end TableState

section

variable (engine : Engine)

theorem filter_value (group : List Scope) (target : Expr) (operator : FilterOperator)
    (operand : Option Operand) (shaped : operator.shape.Fits operand) :
    (Plan.filterCondition target operator operand).holds engine group =
      (operator.truth engine (target.value engine group) operand == some true) := by
  have condition : (Plan.filterCondition target operator operand).value engine group =
      .ofTruth (operator.truth engine (target.value engine group) operand) := by
    cases operand with
    | none =>
        cases operator <;> simp [FilterOperator.shape, OperandShape.Fits] at shaped <;>
          simp [Plan.filterCondition, FilterOperator.truth, Expr.value, Value.ofTruth, bne]
    | some operand =>
        cases operand with
        | scalar s =>
            cases operator <;> simp [FilterOperator.shape, OperandShape.Fits] at shaped <;>
              simp [Plan.filterCondition, FilterOperator.truth, Expr.value, Plan.operandExpr,
                Engine.operate]
        | list items =>
            cases operator <;> simp [FilterOperator.shape, OperandShape.Fits] at shaped <;>
              simp [Plan.filterCondition, FilterOperator.truth, Expr.value, Plan.operandExprs,
                scalar_values]
  rw [Expr.holds, condition, Value.isTrue, truth_of_truth]

theorem truth_given (x : Value) (operator : FilterOperator) (operand : Option Operand)
    (shaped : operator.shape.Fits operand) (passes : operator.truth engine x operand = some true)
    (strict : operator.matchesMissing = false) : x ≠ .null := by
  rintro rfl
  cases operand with
  | none =>
      cases operator <;> simp [FilterOperator.shape, OperandShape.Fits] at shaped <;>
        simp [FilterOperator.truth, FilterOperator.matchesMissing] at passes strict
  | some operand =>
      cases operand with
      | scalar s =>
          cases operator <;> simp [FilterOperator.truth, FilterOperator.matchesMissing,
            Engine.pattern] at passes strict
      | list items =>
          cases operator <;> simp [FilterOperator.shape, OperandShape.Fits] at shaped <;>
            simp [FilterOperator.truth, among_missing, shaped] at passes

end

end StatTable
