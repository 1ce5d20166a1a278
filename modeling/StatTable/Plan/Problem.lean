import StatTable.Catalog.Rate
import StatTable.Catalog.Column
import StatTable.TableState.Operator

set_option autoImplicit false

namespace StatTable

inductive ParamFault where
  | rateNotText
  | offsetNotInteger
  | yearOutOfRange (offset : Int64)

def ParamFault.message : ParamFault → String
  | .rateNotText => "rate_type must be a single string"
  | .offsetNotInteger => "year_offset must be a single integer"
  | .yearOutOfRange offset =>
      "year_offset " ++ Text.decimal offset.toInt ++ " moves the year out of range"

inductive ParamProblem where
  | invalid (key : ParamKey) (fault : ParamFault)
  | unsatisfiable (key : ParamKey) (reason : ParamValue.Unsatisfiable)
  | ambiguous (key : ParamKey)

inductive CompileError where
  | unknownColumn (id : String)
  | unknownRate (id rate : String)
  | unsupportedRate (id : String) (rate : Rate)
  | param (id : String) (problem : ParamProblem)
  | unsupportedOperator (id : String) (operator : FilterOperator) (dataType : DataType)
  | unknownSortOccurrence (id : String) (occurrence : UInt64)

def ParamProblem.message (id : String) : ParamProblem → String
  | .invalid key fault =>
      "column '" ++ id ++ "': invalid parameter '" ++ key.name ++ "': " ++ fault.message
  | .unsatisfiable key reason =>
      "column '" ++ id ++ "': parameter '" ++ key.name ++ "' can never match: " ++ reason.message
  | .ambiguous key =>
      "column '" ++ id ++ "': parameter '" ++ key.name ++
        "' must be a single value unless split by " ++ key.name

def CompileError.message : CompileError → String
  | .unknownColumn id => "unknown column '" ++ id ++ "'"
  | .unknownRate id rate => "column '" ++ id ++ "': unknown rate type '" ++ rate ++ "'"
  | .unsupportedRate id rate =>
      "column '" ++ id ++ "' does not support rate type '" ++ rate.name ++ "'"
  | .param id problem => problem.message id
  | .unsupportedOperator id operator dataType =>
      "column '" ++ id ++ "': operator " ++ operator.text ++ " is not supported on " ++
        dataType.name ++ " columns"
  | .unknownSortOccurrence id occurrence =>
      "sort references occurrence " ++ Text.decimal occurrence.toNat ++ " of '" ++ id ++
        "', which is not requested"

end StatTable
