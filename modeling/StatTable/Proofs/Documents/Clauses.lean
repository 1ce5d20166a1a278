import StatTable.Proofs.Documents.Checks
import StatTable.Proofs.Documents.Values

set_option autoImplicit false

namespace StatTable

open Json (Value)

theorem FilterOperator.parse_ok (text : String) (operator : FilterOperator) :
    FilterOperator.parse text = .ok operator ↔ TableState.Spells text operator := by
  rw [FilterOperator.parse, TableState.Spells]
  generalize (Text.squeeze text).toUpper = spelled
  constructor
  · intro ok
    split at ok
    · rename_i same
      rw [same, ← Except.ok.inj ok]
      decide
    · split at ok
      · rename_i same
        rw [same, ← Except.ok.inj ok]
        decide
      · split at ok
        · rename_i found hit
          have named := List.find?_some hit
          rw [← Except.ok.inj ok, ← beq_iff_eq.mp named]
          cases found <;> decide
        · cases ok
  · intro listed
    simp only [TableState.spellings, List.mem_cons, Prod.mk.injEq, List.not_mem_nil, or_false]
      at listed
    rcases listed with ⟨rfl, rfl⟩ | ⟨rfl, rfl⟩ | ⟨rfl, rfl⟩ | ⟨rfl, rfl⟩ | ⟨rfl, rfl⟩ | ⟨rfl, rfl⟩ |
      ⟨rfl, rfl⟩ | ⟨rfl, rfl⟩ | ⟨rfl, rfl⟩ | ⟨rfl, rfl⟩ | ⟨rfl, rfl⟩ | ⟨rfl, rfl⟩ | ⟨rfl, rfl⟩ |
      ⟨rfl, rfl⟩ <;> rfl

namespace TableState

open Checked

theorem is_id_iff (id : String) : isId id.toList = true ↔ IsColumnId id := by
  unfold IsColumnId
  cases id.toList with
  | nil => simp [isId]
  | cons first rest =>
      simp [isId, isIdChar, isLower, IsSmallLetter, IsDigit, or_assoc]

theorem aliased_iff (names : List String) (value member : Value) :
    FirstGiven value names member ↔ ∃ name, aliased names value = some (name, member) := by
  induction names with
  | nil =>
      constructor
      · intro first
        cases first
      · rintro ⟨_, found⟩
        cases found
  | cons name rest ih =>
      rw [aliased, List.findSome?_cons]
      cases held : value.given? name with
      | none =>
          constructor
          · intro first
            cases first with
            | here _ _ _ given =>
                rw [held] at given
                cases given
            | later _ _ _ _ further => exact ih.mp further
          · intro found
            exact .later name rest member held (ih.mpr found)
      | some own =>
          constructor
          · intro first
            cases first with
            | here _ _ _ given =>
                rw [held] at given
                exact ⟨name, by rw [← Option.some.inj given]; rfl⟩
            | later _ _ _ none _ =>
                rw [held] at none
                cases none
          · rintro ⟨_, found⟩
            obtain ⟨_, rfl⟩ := Prod.mk.inj (Option.some.inj found)
            exact .here name rest own held

theorem read_id_ok (path : Path) (value : Value) (id : String) :
    readId path value = .ok id ↔ value = .string id ∧ IsColumnId id := by
  rw [← is_id_iff]
  cases value with
  | string text =>
      rw [readId]
      split
      · rename_i valid
        constructor
        · intro ok
          obtain rfl := Except.ok.inj ok
          exact ⟨rfl, valid⟩
        · rintro ⟨same, -⟩
          rw [Value.string.inj same]
      · rename_i invalid
        constructor
        · intro ok
          split at ok <;> cases ok
        · rintro ⟨same, valid⟩
          exact absurd (Value.string.inj same ▸ valid) invalid
  | _ => simp [readId, refuse]

theorem read_params_passes (path : Path) (value : Value) (standard : value.IsStandard) :
    Passes (readParams path value) ↔ Optionally value "params" IsParameters := by
  rw [readParams, Optionally]
  cases held : value.given? "params" with
  | none => simp [passes_ok]
  | some params =>
      have read := Params.of_json_iff params (Json.standard_given value params "params" standard held)
      simp only [Option.some.injEq, forall_eq', ← read]
      cases Params.ofJson params with
      | ok found => simp [Passes]
      | error problems => simp [Passes]

theorem read_params_tells (path : Path) (value : Value) (standard : value.IsStandard)
    (params : Params) (ok : readParams path value = .ok params) :
    TellsParameters (value.given? "params") params := by
  rw [readParams] at ok
  cases held : value.given? "params" with
  | none =>
      rw [held] at ok
      exact (Except.ok.inj ok).symm
  | some given =>
      rw [held] at ok
      have own := Json.standard_given value given "params" standard held
      dsimp only at ok
      split at ok
      · rename_i found result
        rw [← Except.ok.inj ok]
        cases given with
        | object members => exact Params.of_json_tells members own found result
        | _ => cases result
      · cases ok

theorem none_given_iff (names : List String) (value : Value) :
    aliased names value = none ↔ ∀ member, ¬ FirstGiven value names member := by
  simp only [aliased_iff, not_exists]
  constructor
  · intro none member name found
    rw [none] at found
    cases found
  · intro none
    cases found : aliased names value with
    | none => rfl
    | some entry => exact absurd found (none entry.2 entry.1)

theorem first_given_eq (names : List String) (value one other : Value) (name : String)
    (found : aliased names value = some (name, one)) (given : FirstGiven value names other) :
    other = one := by
  obtain ⟨_, again⟩ := (aliased_iff names value other).mp given
  rw [found] at again
  exact (Prod.mk.inj (Option.some.inj again)).2.symm

theorem read_id_member_ok (path : Path) (value : Value) (id : String) :
    readIdMember path value = .ok id ↔ FirstGiven value idNames (.string id) ∧ IsColumnId id := by
  rw [readIdMember]
  cases found : aliased ["column_id", "id"] value with
  | none =>
      have none := (none_given_iff idNames value).mp found
      simp [refuse, none]
  | some entry =>
      obtain ⟨name, member⟩ := entry
      dsimp only
      rw [read_id_ok]
      constructor
      · rintro ⟨rfl, valid⟩
        exact ⟨(aliased_iff _ _ _).mpr ⟨name, found⟩, valid⟩
      · rintro ⟨given, valid⟩
        exact ⟨(first_given_eq idNames value member _ name found given).symm, valid⟩

theorem read_column_passes (path : Path) (value : Value) (standard : value.IsStandard) :
    Passes (readColumn path value) ↔ IsReference value := by
  cases value with
  | string id =>
      rw [readColumn, passes_map]
      simp [Passes, read_id_ok, IsReference]
  | object members =>
      rw [readColumn, passes_map, passes_both, read_params_passes path _ standard, IsReference]
      simp only [Passes, read_id_member_ok]
  | _ => simp [readColumn, refuse, not_passes_error, IsReference]

theorem read_column_tells (path : Path) (value : Value) (standard : value.IsStandard)
    (column : ColumnSpec) (ok : readColumn path value = .ok column) :
    TellsColumn value column.id column.params := by
  cases value with
  | string id =>
      obtain ⟨_, read, rfl⟩ := (map_ok _ _ _).mp ok
      exact .inl ⟨((read_id_ok _ _ _).mp read).1, rfl⟩
  | object members =>
      obtain ⟨⟨id, params⟩, together, rfl⟩ := (map_ok _ _ _).mp ok
      obtain ⟨idOk, paramsOk⟩ := both_ok _ _ _ _ together
      exact .inr ⟨((read_id_member_ok _ _ _).mp idOk).1, read_params_tells path _ standard _ paramsOk⟩
  | _ => cases ok

theorem read_operator_ok (path : Path) (value : Value) (operator : FilterOperator) :
    readOperator path value = .ok operator ↔
      ∃ text, value.get? "operator" = some (.string text) ∧ Spells text operator := by
  rw [readOperator]
  cases value.get? "operator" with
  | none => simp [refuse]
  | some member =>
      cases member with
      | string text =>
          simp only [Option.some.injEq, Value.string.injEq, exists_eq_left', ← FilterOperator.parse_ok]
          cases FilterOperator.parse text with
          | ok found => simp
          | error unknown => simp [refuse]
      | _ => simp [refuse]

theorem read_shape_iff (shape : OperandShape) (value : Option Value)
    (standard : ∀ member, value = some member → member.IsStandard) :
    (∃ operand, readShape shape value = .ok operand) ↔ IsOperand shape value := by
  cases value with
  | none => cases shape <;> simp [readShape, IsOperand]
  | some member =>
      have own := standard member rfl
      cases shape with
      | none => simp [readShape, IsOperand]
      | scalar =>
          rw [IsOperand, ← Json.scalar_iff member own]
          simp only [readShape]
          cases Scalar.ofJson member <;> simp
      | list =>
          cases member with
          | array items =>
              cases items with
              | nil => simp [readShape, IsOperand]
              | cons item rest =>
                  rw [Value.IsStandard] at own
                  simp only [readShape, IsOperand, ← scalars_iff _ own]
                  cases (item :: rest).mapM Scalar.ofJson <;> simp
          | _ => simp [readShape, IsOperand]
      | pattern => cases member <;> simp [readShape, IsOperand]

theorem read_shape_tells (shape : OperandShape) (value : Option Value) (operand : Option Operand)
    (ok : readShape shape value = .ok operand) : TellsOperand value operand := by
  cases (read_shape_ok shape value operand).mp ok with
  | none => rfl
  | scalar member s read =>
      cases member with
      | array items => cases read
      | _ => exact ⟨s, rfl, read⟩
  | list items scalars _ read =>
      refine ⟨_, rfl, fun s => ?_⟩
      rw [mem_ascending, map_m_mem _ _ _ read]
  | pattern text => exact ⟨_, rfl, rfl⟩

theorem read_comparison_passes (path : Path) (value : Value) (standard : value.IsStandard) :
    Passes (readComparison path value) ↔
      ∃ text operator, value.get? "operator" = some (.string text) ∧ Spells text operator ∧
        IsOperand operator.shape (value.given? "value") := by
  have shaped (operator : FilterOperator) : Passes (readOperand path operator value) ↔
      IsOperand operator.shape (value.given? "value") := by
    rw [← read_shape_iff _ _ fun member => Json.standard_given value member "value" standard,
      readOperand]
    cases readShape operator.shape (value.given? "value") with
    | ok operand => simp [Passes]
    | error fault => simp [refuse, not_passes_error]
  have rest (operator : FilterOperator) : Passes (do
      let operand ← readOperand path operator value
      return (operator, operand)) ↔ IsOperand operator.shape (value.given? "value") := by
    rw [← shaped, passes_bind]
    constructor
    · rintro ⟨operand, ok, _⟩
      exact ⟨operand, ok⟩
    · rintro ⟨operand, ok⟩
      exact ⟨operand, ok, passes_ok _⟩
  rw [readComparison, passes_bind]
  simp only [rest, read_operator_ok]
  constructor
  · rintro ⟨operator, ⟨text, given, spelled⟩, fits⟩
    exact ⟨text, operator, given, spelled, fits⟩
  · rintro ⟨text, operator, given, spelled, fits⟩
    exact ⟨operator, ⟨text, given, spelled⟩, fits⟩

theorem read_comparison_tells (path : Path) (value : Value) (operator : FilterOperator)
    (operand : Option Operand) (ok : readComparison path value = .ok (operator, operand)) :
    (∃ text, value.get? "operator" = some (.string text) ∧ Spells text operator) ∧
      TellsOperand (value.given? "value") operand := by
  obtain ⟨found, operatorOk, ok⟩ := (bind_ok _ _ _).mp ok
  obtain ⟨held, operandOk, ok⟩ := (bind_ok _ _ _).mp ok
  obtain ⟨rfl, rfl⟩ := Prod.mk.inj (Except.ok.inj ok)
  refine ⟨(read_operator_ok path value found).mp operatorOk, ?_⟩
  unfold readOperand at operandOk
  split at operandOk
  · rename_i read
    rw [← Except.ok.inj operandOk]
    exact read_shape_tells _ _ _ read
  · cases operandOk

theorem read_filter_passes (path : Path) (value : Value) (standard : value.IsStandard) :
    Passes (readFilter path value) ↔ IsFilter value := by
  cases value with
  | object members =>
      rw [readFilter, passes_map, passes_both, read_column_passes path _ standard,
        read_comparison_passes path _ standard, IsFilter]
      exact (and_iff_right ⟨members, rfl⟩).symm
  | _ => simp [readFilter, refuse, not_passes_error, IsFilter]

theorem read_filter_tells (path : Path) (value : Value) (clause : FilterClause)
    (standard : value.IsStandard) (ok : readFilter path value = .ok clause) :
    TellsFilter value clause := by
  cases value with
  | object members =>
      obtain ⟨⟨column, operator, operand⟩, together, rfl⟩ := (map_ok _ _ _).mp ok
      obtain ⟨columnOk, comparisonOk⟩ := both_ok _ _ _ _ together
      obtain ⟨spelled, told⟩ := read_comparison_tells path _ _ _ comparisonOk
      exact ⟨read_column_tells path _ standard column columnOk, spelled, told⟩
  | _ => cases ok

end TableState

end StatTable
