import StatTable.Catalog.Basic
import StatTable.Plan.Problem
import StatTable.TableState.Basic

set_option autoImplicit false

namespace StatTable.Plan

structure Request where
  column : Column
  params : Params
  rate : Option Rate
  place : Nat

structure Select where
  request : Request
  occurrence : Nat

structure Filter where
  request : Request
  operator : FilterOperator
  operand : Option Operand

structure Requests where
  selects : List Select
  filters : List Filter

def readRate (column : Column) (value : ParamValue) : Except CompileError Rate :=
  match value.toScalar?.bind Scalar.toText? with
  | none => .error (.param column.id (.invalid .rateType .rateNotText))
  | some name =>
      match Rate.parse name with
      | .error unknown => .error (.unknownRate column.id unknown.text)
      | .ok rate =>
          if column.supportsRate rate then .ok rate else .error (.unsupportedRate column.id rate)

def Request.of (id : String) (params : Params) (place : Nat) : Except CompileError Request :=
  match Catalog.lookup id with
  | none => .error (.unknownColumn id)
  | some column =>
      let others := params.erase .rateType
      match params.get? .rateType with
      | none => .ok ⟨column, others, none, place⟩
      | some value => (readRate column value).map fun rate => ⟨column, others, some rate, place⟩

def suits (column : Column) (operator : FilterOperator) : Bool :=
  operator.shape != .pattern || column.dataType == .text

def Filter.of (clause : FilterClause) (place : Nat) : Except CompileError Filter := do
  let request ← Request.of clause.id clause.params place
  if suits request.column clause.operator then
    return ⟨request, clause.operator, clause.operand⟩
  else throw (.unsupportedOperator request.column.id clause.operator request.column.dataType)

def Select.name (select : Select) : String :=
  select.request.column.id ++ "_" ++ Text.decimal select.occurrence

def Select.isUseOf (select : Select) (id : String) : Bool := select.request.column.id == id

def countUses (id : String) (selects : List Select) : Nat :=
  selects.countP (·.isUseOf id)

def findUse? (id : String) (occurrence : Nat) (selects : List Select) : Option Nat :=
  selects.findIdx? fun select => select.isUseOf id && select.occurrence == occurrence

namespace Requests

def addSelect (requests : Requests) (spec : ColumnSpec) : Except CompileError Requests := do
  let place := requests.selects.length + requests.filters.length
  let request ← Request.of spec.id spec.params place
  let select : Select := ⟨request, countUses request.column.id requests.selects⟩
  return { requests with selects := requests.selects ++ [select] }

def addFilter (requests : Requests) (clause : FilterClause) : Except CompileError Requests := do
  let place := requests.selects.length + requests.filters.length
  let filter ← Filter.of clause place
  return { requests with filters := requests.filters ++ [filter] }

-- A clause that orders by a column nobody requested adds the column, if it means the first use of
-- it; any other use that was not requested is an error.
def addSort (requests : Requests) (clause : SortClause) : Except CompileError Requests :=
  match findUse? clause.id clause.occurrence.toNat requests.selects with
  | some _ => .ok requests
  | none =>
      if clause.occurrence = 0 ∧ countUses clause.id requests.selects = 0 then
        requests.addSelect ⟨clause.id, clause.params⟩
      else .error (.unknownSortOccurrence clause.id clause.occurrence)

def ofState (state : TableState) : Except CompileError Requests := do
  let selected ← (state.leading ++ state.columns).foldlM addSelect ⟨[], []⟩
  let filtered ← state.filters.foldlM addFilter selected
  state.sorts.foldlM addSort filtered

end Requests

end StatTable.Plan
