import StatTable.Proofs.Json.Standard
import StatTable.TableState.Problem

/-
The schema of documents that describe a table, as rules on JSON values, and what such a document
says: each of its entries is one of the table state, in its place, with the identifier, parameters,
operator and values it was given with. A member that is null counts as absent.
-/

set_option autoImplicit false

namespace StatTable.TableState

open Json (Value)

def Optionally (value : Value) (name : String) (Rule : Value → Prop) : Prop :=
  ∀ member, value.given? name = some member → Rule member

-- The member under the first of several names that has one.
inductive FirstGiven (value : Value) : List String → Value → Prop where
  | here (name : String) (rest : List String) (member : Value) :
      value.given? name = some member → FirstGiven value (name :: rest) member
  | later (name : String) (rest : List String) (member : Value) :
      value.given? name = none → FirstGiven value rest member →
        FirstGiven value (name :: rest) member

inductive Lists (document : Value) (name : String) : List Value → Prop where
  | absent : document.given? name = none → Lists document name []
  | given (items : List Value) :
      document.given? name = some (.array items) → Lists document name items

def IsSmallLetter (c : Char) : Prop := 'a' ≤ c ∧ c ≤ 'z'

def IsDigit (c : Char) : Prop := '0' ≤ c ∧ c ≤ '9'

def IsColumnId (id : String) : Prop :=
  ∃ first rest, id.toList = first :: rest ∧ IsSmallLetter first ∧
    ∀ c ∈ rest, IsSmallLetter c ∨ IsDigit c ∨ c = '_'

def parameterNames : List String :=
  ["year", "week", "seas_type", "year_offset", "scoring_format", "source", "rate_type", "dwn", "qtr",
    "ydstogo"]

inductive IsParameter : Value → Prop where
  | single (value : Value) : value.IsScalar → IsParameter value
  | choice (items : List Value) : (∀ item ∈ items, item.IsScalar) → IsParameter (.array items)
  | range (members : List (String × Value)) :
      (∀ member ∈ members, member.1 = "min" ∨ member.1 = "max") →
      Optionally (.object members) "min" Value.IsScalar →
      Optionally (.object members) "max" Value.IsScalar →
      (∃ name bound, Value.given? name (.object members) = some bound) →
        IsParameter (.object members)

def IsParameters : Value → Prop
  | .object members =>
      ∀ member ∈ members, member.1 ∈ parameterNames ∧ IsParameter member.2
  | _ => False

def idNames : List String := ["column_id", "id"]

def IsReference : Value → Prop
  | .string id => IsColumnId id
  | .object members => (∃ id, FirstGiven (.object members) idNames (.string id) ∧ IsColumnId id) ∧
      Optionally (.object members) "params" IsParameters
  | _ => False

def spellings : List (String × FilterOperator) :=
  [("=", .eq), ("==", .eq), ("!=", .ne), ("<>", .ne), (">", .gt), (">=", .gte), ("<", .lt),
    ("<=", .lte), ("IN", .isIn), ("NOT IN", .notIn), ("IS NULL", .isNull),
    ("IS NOT NULL", .isNotNull), ("LIKE", .like), ("NOT LIKE", .notLike)]

-- A text spells an operator in any case and with any blanks around and between its words.
def Spells (text : String) (operator : FilterOperator) : Prop :=
  ((Text.squeeze text).toUpper, operator) ∈ spellings

def IsOperand : OperandShape → Option Value → Prop
  | .none, none => True
  | .scalar, some value => value.IsScalar
  | .list, some (.array items) => items ≠ [] ∧ ∀ item ∈ items, item.IsScalar
  | .pattern, some (.string _) => True
  | _, _ => False

def IsFilter (value : Value) : Prop :=
  (∃ members, value = .object members) ∧ IsReference value ∧
    ∃ text operator, value.get? "operator" = some (.string text) ∧ Spells text operator ∧
      IsOperand operator.shape (value.given? "value")

def IsCount (Allowed : Nat → Prop) (value : Value) : Prop :=
  ∃ count : Nat, value.Denotes count ∧ Allowed count

def Descends : Value → Bool → Prop
  | .bool b, descending => b = descending
  | .number n, descending => n = .integer (if descending then 1 else 0)
  | .string s, descending =>
      s.toLower ∈ if descending then ["desc", "true", "1"] else ["asc", "false", "0"]
  | _, _ => False

def occurrenceNames : List String := ["column_index", "occurrence", "occurrence_index"]

def directionNames : List String := ["desc", "descending"]

def IsSort (Allowed : Nat → Prop) (value : Value) : Prop :=
  (∃ members, value = .object members) ∧ IsReference value ∧
    (∀ member, FirstGiven value occurrenceNames member → IsCount Allowed member) ∧
    ∀ member, FirstGiven value directionNames member → ∃ descending, Descends member descending

def splitItem (split : Split) : Value := .string split.name

structure Conforms (Allowed : Nat → Prop) (limits : Limits) (document : Value) : Prop where
  object : ∃ members, document = .object members
  leading : ∃ items, Lists document "prefix_columns" items ∧ ∀ item ∈ items, IsReference item
  columns : ∃ items, Lists document "columns" items ∧ ∀ item ∈ items, IsReference item
  filters : ∃ items, Lists document "where" items ∧ ∀ item ∈ items, IsFilter item
  sorts : ∃ items, Lists document "sort" items ∧ ∀ item ∈ items, IsSort Allowed item
  splits : ∃ splits : List Split, Lists document "splits" (splits.map splitItem) ∧ splits.Nodup ∧
    (.week ∈ splits → .year ∈ splits)
  offset : Optionally document "offset" (IsCount Allowed)
  limit : Optionally document "limit" (IsCount fun count => 1 ≤ count ∧ count ≤ limits.maximum.toNat)

inductive TellsParameter : Value → ParamValue → Prop where
  | single (value : Value) (s : Scalar) :
      Scalar.ofJson value = some s → TellsParameter value (.scalar s)
  | choice (items : List Value) (value : ParamValue) (scalars : List Scalar) :
      value = .list scalars ∨ (∃ s, value = .scalar s ∧ scalars = [s]) →
      (∀ s, s ∈ scalars ↔ ∃ item ∈ items, Scalar.ofJson item = some s) →
        TellsParameter (.array items) value
  | range (members : List (String × Value)) :
      TellsParameter (.object members)
        (.range ((Value.given? "min" (.object members)).bind Scalar.ofJson)
          ((Value.given? "max" (.object members)).bind Scalar.ofJson))

def TellsParameters : Option Value → Params → Prop
  | some (.object members), params => ∀ key : ParamKey,
      (params.get? key = none ∧ ∀ value, (key.name, value) ∉ members) ∨
        ∃ given value, (key.name, given) ∈ members ∧ params.get? key = some value ∧
          TellsParameter given value
  | none, params => params = .empty
  | some _, _ => False

def TellsColumn (item : Value) (id : String) (params : Params) : Prop :=
  (item = .string id ∧ params = .empty) ∨
    (FirstGiven item idNames (.string id) ∧ TellsParameters (item.given? "params") params)

def TellsOperand : Option Value → Option Operand → Prop
  | none, operand => operand = none
  | some (.array items), operand => ∃ scalars, operand = some (.list scalars) ∧
      ∀ s, s ∈ scalars ↔ ∃ item ∈ items, Scalar.ofJson item = some s
  | some value, operand => ∃ s, operand = some (.scalar s) ∧ Scalar.ofJson value = some s

structure TellsFilter (item : Value) (clause : FilterClause) : Prop where
  column : TellsColumn item clause.id clause.params
  operator : ∃ text, item.get? "operator" = some (.string text) ∧ Spells text clause.operator
  operand : TellsOperand (item.given? "value") clause.operand

structure TellsSort (item : Value) (clause : SortClause) : Prop where
  column : TellsColumn item clause.id clause.params
  occurrence : ∀ member (count : Nat), FirstGiven item occurrenceNames member →
    member.Denotes count → count < UInt64.size → clause.occurrence.toNat = count
  first : (∀ member, ¬ FirstGiven item occurrenceNames member) → clause.occurrence = 0
  direction : ∀ member, FirstGiven item directionNames member → Descends member clause.descending
  ascending : (∀ member, ¬ FirstGiven item directionNames member) → clause.descending = false

-- Nothing that a document lists is dropped, doubled or moved.
structure Tells (document : Value) (state : TableState) : Prop where
  leading : ∃ items, Lists document "prefix_columns" items ∧
    List.Forall₂ (fun item (column : ColumnSpec) => TellsColumn item column.id column.params) items
      state.leading
  columns : ∃ items, Lists document "columns" items ∧
    List.Forall₂ (fun item (column : ColumnSpec) => TellsColumn item column.id column.params) items
      state.columns
  filters : ∃ items, Lists document "where" items ∧ List.Forall₂ TellsFilter items state.filters
  sorts : ∃ items, Lists document "sort" items ∧ List.Forall₂ TellsSort items state.sorts
  splits : Lists document "splits" (state.splits.map splitItem)
  offset : ∀ member (count : Nat), document.given? "offset" = some member → member.Denotes count →
    count < UInt64.size → state.offset.toNat = count
  start : document.given? "offset" = none → state.offset = 0
  limit : ∀ member (count : Nat), document.given? "limit" = some member → member.Denotes count →
    count < UInt64.size → state.limit.map UInt64.toNat = some count
  unlimited : document.given? "limit" = none → state.limit = none

end StatTable.TableState
