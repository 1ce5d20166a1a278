import StatTable.Proofs.Documents.Acceptance

set_option autoImplicit false

namespace StatTable.TableState

open Json (Value)
open Checked

def ReadsParams (value : Value) (params : Params) : Prop :=
  (value.given? "params" = none ∧ params = .empty) ∨
    ∃ given, value.given? "params" = some given ∧ Params.ofJson given = .ok params

inductive ReadsColumn : Value → ColumnSpec → Prop where
  | short (id : String) : IsColumnId id → ReadsColumn (.string id) ⟨id, .empty⟩
  | long (members : List (String × Value)) (column : ColumnSpec) :
      FirstGiven (.object members) idNames (.string column.id) → IsColumnId column.id →
        ReadsParams (.object members) column.params → ReadsColumn (.object members) column

structure ReadsFilter (value : Value) (clause : FilterClause) : Prop where
  object : ∃ members, value = .object members
  column : ReadsColumn value ⟨clause.id, clause.params⟩
  operator : ∃ text, value.given? "operator" = some (.string text) ∧ Spells text clause.operator
  operand : readShape clause.operator.shape (value.given? "value") = .ok clause.operand

def ReadsFirst {α : Type} (names : List String) (read : Value → Option α) (usual : α)
    (value : Value) (a : α) : Prop :=
  ((∀ member, ¬ FirstGiven value names member) ∧ a = usual) ∨
    ∃ member, FirstGiven value names member ∧ read member = some a

structure ReadsSort (value : Value) (clause : SortClause) : Prop where
  object : ∃ members, value = .object members
  column : ReadsColumn value ⟨clause.id, clause.params⟩
  occurrence : ReadsFirst occurrenceNames countOfJson 0 value clause.occurrence
  direction : ReadsFirst directionNames directionOfJson false value clause.descending

structure Reads (limits : Limits) (document : Value) (state : TableState) : Prop where
  object : ∃ members, document = .object members
  leading : ∃ items, Lists document "prefix_columns" items ∧
    List.Forall₂ ReadsColumn items state.leading
  columns : ∃ items, Lists document "columns" items ∧ List.Forall₂ ReadsColumn items state.columns
  filters : ∃ items, Lists document "where" items ∧ List.Forall₂ ReadsFilter items state.filters
  sorts : ∃ items, Lists document "sort" items ∧ List.Forall₂ ReadsSort items state.sorts
  splits : Lists document "splits" (state.splits.map splitItem) ∧ state.splits.Nodup ∧
    (.week ∈ state.splits → .year ∈ state.splits)
  offset : (document.given? "offset" = none ∧ state.offset = 0) ∨
    ∃ member, document.given? "offset" = some member ∧ countOfJson member = some state.offset
  limit : (document.given? "limit" = none ∧ state.limit = none) ∨
    ∃ member limit, document.given? "limit" = some member ∧ countOfJson member = some limit ∧
      limit ≠ 0 ∧ ¬ limits.maximum < limit ∧ state.limit = some limit

theorem both_ok_iff {α β : Type} (first : Checked α) (second : Checked β) (a : α) (b : β) :
    both first second = .ok (a, b) ↔ first = .ok a ∧ second = .ok b := by
  constructor
  · exact both_ok first second a b
  · rintro ⟨rfl, rfl⟩
    rfl

theorem read_params_reads (path : Path) (value : Value) (params : Params) :
    readParams path value = .ok params ↔ ReadsParams value params := by
  rw [readParams, ReadsParams]
  cases value.given? "params" with
  | none => simp [eq_comm]
  | some given => cases read : Params.ofJson given <;> simp [read]

theorem read_column_reads (path : Path) (value : Value) (column : ColumnSpec) :
    readColumn path value = .ok column ↔ ReadsColumn value column := by
  cases value with
  | string text =>
      rw [readColumn, map_ok]
      constructor
      · rintro ⟨id, ok, rfl⟩
        obtain ⟨same, valid⟩ := (read_id_ok _ _ _).mp ok
        cases same
        exact .short text valid
      · intro reads
        cases reads with
        | short _ valid => exact ⟨text, (read_id_ok _ _ _).mpr ⟨rfl, valid⟩, rfl⟩
  | object members =>
      rw [readColumn, map_ok]
      constructor
      · rintro ⟨⟨id, params⟩, ok, rfl⟩
        obtain ⟨idOk, paramsOk⟩ := (both_ok_iff _ _ _ _).mp ok
        obtain ⟨first, valid⟩ := (read_id_member_ok _ _ _).mp idOk
        exact .long members _ first valid ((read_params_reads _ _ _).mp paramsOk)
      · intro reads
        cases reads with
        | long _ _ first valid params =>
            exact ⟨(column.id, column.params), (both_ok_iff _ _ _ _).mpr
              ⟨(read_id_member_ok _ _ _).mpr ⟨first, valid⟩, (read_params_reads _ _ _).mpr params⟩,
              rfl⟩
  | _ =>
      constructor
      · intro ok
        cases ok
      · intro reads
        cases reads

theorem read_operand_reads (path : Path) (operator : FilterOperator) (value : Value)
    (operand : Option Operand) : readOperand path operator value = .ok operand ↔
      readShape operator.shape (value.given? "value") = .ok operand := by
  rw [readOperand]
  cases readShape operator.shape (value.given? "value") <;> simp [refuse]

theorem read_filter_reads (path : Path) (value : Value) (clause : FilterClause) :
    readFilter path value = .ok clause ↔ ReadsFilter value clause := by
  have text_given (text : String) : value.get? "operator" = some (.string text) ↔
      value.given? "operator" = some (.string text) := by simp [Json.given_iff]
  cases value with
  | object members =>
      rw [readFilter, map_ok]
      constructor
      · rintro ⟨⟨column, operator, operand⟩, ok, rfl⟩
        obtain ⟨columnOk, comparisonOk⟩ := (both_ok_iff _ _ _ _).mp ok
        obtain ⟨found, operatorOk, ok⟩ := (bind_ok _ _ _).mp comparisonOk
        obtain ⟨held, operandOk, ok⟩ := (bind_ok _ _ _).mp ok
        obtain ⟨rfl, rfl⟩ := Prod.mk.inj (Except.ok.inj ok)
        obtain ⟨text, given, spells⟩ := (read_operator_ok _ _ _).mp operatorOk
        exact ⟨⟨members, rfl⟩, (read_column_reads _ _ _).mp columnOk,
          ⟨text, (text_given text).mp given, spells⟩, (read_operand_reads _ _ _ _).mp operandOk⟩
      · rintro ⟨-, column, ⟨text, given, spells⟩, operand⟩
        refine ⟨(⟨clause.id, clause.params⟩, clause.operator, clause.operand),
          (both_ok_iff _ _ _ _).mpr ⟨(read_column_reads _ _ _).mpr column, ?_⟩, rfl⟩
        refine (bind_ok _ _ _).mpr ⟨_, (read_operator_ok _ _ _).mpr
          ⟨text, (text_given text).mpr given, spells⟩, ?_⟩
        exact (bind_ok _ _ _).mpr ⟨_, (read_operand_reads _ _ _ _).mpr operand, rfl⟩
  | _ =>
      constructor
      · intro ok
        cases ok
      · rintro ⟨⟨_, object⟩, -⟩
        cases object

section

variable {α : Type} (names : List String) (read : Value → Option α) (usual : α) (value : Value)

theorem reads_first_iff (a : α) : ReadsFirst names read usual value a ↔
    (aliased names value = none ∧ a = usual) ∨
      ∃ name member, aliased names value = some (name, member) ∧ read member = some a := by
  simp only [ReadsFirst, none_given_iff, aliased_iff]
  refine or_congr_right ⟨?_, ?_⟩
  · rintro ⟨member, ⟨name, found⟩, ok⟩
    exact ⟨name, member, found, ok⟩
  · rintro ⟨name, member, found, ok⟩
    exact ⟨member, ⟨name, found⟩, ok⟩

end

theorem read_occurrence_reads (path : Path) (value : Value) (count : UInt64) :
    readOccurrence path value = .ok count ↔
      ReadsFirst occurrenceNames countOfJson 0 value count := by
  rw [readOccurrence, reads_first_iff, occurrenceNames]
  cases aliased ["column_index", "occurrence", "occurrence_index"] value with
  | none => simp [eq_comm]
  | some entry =>
      obtain ⟨name, member⟩ := entry
      cases read : countOfJson member <;> simp [refuse, read]

theorem read_direction_reads (path : Path) (value : Value) (descending : Bool) :
    readDirection path value = .ok descending ↔
      ReadsFirst directionNames directionOfJson false value descending := by
  rw [readDirection, reads_first_iff, directionNames]
  cases aliased ["desc", "descending"] value with
  | none => simp [eq_comm]
  | some entry =>
      obtain ⟨name, member⟩ := entry
      cases read : directionOfJson member <;> simp [refuse, read]

theorem read_sort_reads (path : Path) (value : Value) (clause : SortClause) :
    readSort path value = .ok clause ↔ ReadsSort value clause := by
  cases value with
  | object members =>
      rw [readSort, map_ok]
      constructor
      · rintro ⟨⟨column, occurrence, descending⟩, ok, rfl⟩
        obtain ⟨columnOk, rest⟩ := (both_ok_iff _ _ _ _).mp ok
        obtain ⟨occurrenceOk, directionOk⟩ := (both_ok_iff _ _ _ _).mp rest
        exact ⟨⟨members, rfl⟩, (read_column_reads _ _ _).mp columnOk,
          (read_occurrence_reads _ _ _).mp occurrenceOk, (read_direction_reads _ _ _).mp directionOk⟩
      · rintro ⟨-, column, occurrence, direction⟩
        exact ⟨(⟨clause.id, clause.params⟩, clause.occurrence, clause.descending),
          (both_ok_iff _ _ _ _).mpr ⟨(read_column_reads _ _ _).mpr column,
            (both_ok_iff _ _ _ _).mpr ⟨(read_occurrence_reads _ _ _).mpr occurrence,
              (read_direction_reads _ _ _).mpr direction⟩⟩, rfl⟩
  | _ =>
      constructor
      · intro ok
        cases ok
      · rintro ⟨⟨_, object⟩, -⟩
        cases object

theorem all_related_iff {α γ : Type} (read : γ → Checked α) (items : List γ) (results : List α) :
    all (items.map read) = .ok results ↔
      List.Forall₂ (fun item result => read item = .ok result) items results := by
  constructor
  · exact all_related read items results
  · intro related
    induction related with
    | nil => rfl
    | cons first _ rest => rw [List.map_cons, all, first, rest]; rfl

theorem section_reads {α : Type} (document : Value) (name : String)
    (read : Path → Value → Checked α) (Rule : Value → α → Prop)
    (each : ∀ path item a, read path item = .ok a ↔ Rule item a) (results : List α) :
    readSection document name read = .ok results ↔
      ∃ items, Lists document name items ∧ List.Forall₂ Rule items results := by
  have placed (items : List Value) : List.Forall₂ Rule items results ↔
      List.Forall₂ (fun entry a => Rule entry.2 a) (placedItems name items) results := by
    rw [← List.forall₂_map_left_iff (f := Prod.snd), placed_items_values]
  simp only [readSection, bind_ok, section_items_ok, all_related_iff, each, placed]
  constructor
  · rintro ⟨_, ⟨items, lists, rfl⟩, related⟩
    exact ⟨items, lists, related⟩
  · rintro ⟨items, lists, related⟩
    exact ⟨_, ⟨items, lists, rfl⟩, related⟩

theorem read_offset_reads (document : Value) (offset : UInt64) :
    readOffset document = .ok offset ↔ (document.given? "offset" = none ∧ offset = 0) ∨
      ∃ member, document.given? "offset" = some member ∧ countOfJson member = some offset := by
  rw [readOffset]
  cases document.given? "offset" with
  | none => simp [eq_comm]
  | some member => cases read : countOfJson member <;> simp [refuse, read]

theorem read_limit_reads (limits : Limits) (document : Value) (limit : Option UInt64) :
    readLimit limits document = .ok limit ↔
      (document.given? "limit" = none ∧ limit = none) ∨
        ∃ member count, document.given? "limit" = some member ∧ countOfJson member = some count ∧
          count ≠ 0 ∧ ¬ limits.maximum < count ∧ limit = some count := by
  rw [readLimit]
  cases document.given? "limit" with
  | none => simp [eq_comm]
  | some member =>
      cases read : countOfJson member with
      | none => simp [refuse, read]
      | some count =>
          simp only [Option.some.injEq, reduceCtorEq, false_and, false_or, exists_and_left,
            exists_eq_left', read]
          split
          · simp_all [refuse]
          · split
            · simp_all [refuse]
            · simp_all [eq_comm]

theorem of_json_reads (limits : Limits) (document : Value) (state : TableState) :
    ofJson limits document = .ok state ↔ Reads limits document state := by
  cases document with
  | object members =>
      rw [ofJson, map_ok]
      have columns (name : String) (results : List ColumnSpec) :=
        section_reads (.object members) name _ _ read_column_reads results
      have filters (name : String) (results : List FilterClause) :=
        section_reads (.object members) name _ _ read_filter_reads results
      have sorts (name : String) (results : List SortClause) :=
        section_reads (.object members) name _ _ read_sort_reads results
      constructor
      · rintro ⟨⟨leading, own, wheres, orders, splits, offset, limit⟩, ok, rfl⟩
        simp only [both_ok_iff, columns, filters, sorts, read_splits_ok, read_offset_reads,
          read_limit_reads] at ok
        obtain ⟨leading, own, wheres, orders, splits, offset, limit⟩ := ok
        exact ⟨⟨members, rfl⟩, leading, own, wheres, orders, splits, offset, limit⟩
      · rintro ⟨-, leading, own, wheres, orders, splits, offset, limit⟩
        refine ⟨(state.leading, state.columns, state.filters, state.sorts, state.splits,
          state.offset, state.limit), ?_, rfl⟩
        simp only [both_ok_iff, columns, filters, sorts, read_splits_ok, read_offset_reads,
          read_limit_reads]
        exact ⟨leading, own, wheres, orders, splits, offset, limit⟩
  | _ =>
      constructor
      · intro ok
        cases ok
      · rintro ⟨⟨_, object⟩, -⟩
        cases object

end StatTable.TableState
