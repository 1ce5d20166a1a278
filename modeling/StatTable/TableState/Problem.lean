import StatTable.TableState.Basic
import StatTable.TableState.Path

set_option autoImplicit false

namespace StatTable.TableState

inductive OperandFault where
  | unwanted
  | missing
  | emptyList
  | notScalars
  | notAList
  | notAPattern
  | notAScalar
deriving DecidableEq

inductive Cause where
  | notAnObject
  | notAnArray
  | idEmpty
  | idNotSnakeCase (id : String)
  | idNotText
  | idMissing
  | notAColumn
  | params (problem : Params.Problem)
  | filterNotAnObject
  | operatorMissing
  | operatorNotText
  | operatorUnknown (unknown : FilterOperator.Unknown)
  | operand (operator : FilterOperator) (fault : OperandFault)
  | sortNotAnObject
  | occurrence
  | direction
  | splitNotText
  | splitUnknown (unknown : Split.Unknown)
  | splitRepeated (split : Split)
  | weekWithoutYear
  | offset
  | limitZero
  | limitTooLarge (asked maximum : UInt64)
  | limit

def OperandFault.message : OperandFault → String
  | .unwanted => "takes no value"
  | .missing => "requires a value"
  | .emptyList => "requires a non-empty array"
  | .notScalars => "values must be scalars"
  | .notAList => "requires an array value"
  | .notAPattern => "requires a string pattern"
  | .notAScalar => "requires a scalar value"

def Cause.message : Cause → String
  | .notAnObject => "table state must be a JSON object"
  | .notAnArray => "must be an array"
  | .idEmpty => "column id must not be empty"
  | .idNotSnakeCase id => "column id '" ++ id ++ "' must be snake_case"
  | .idNotText => "column id must be a string"
  | .idMissing => "column id is required"
  | .notAColumn => "must be a column id or an object with 'column_id'"
  | .params problem => problem.message
  | .filterNotAnObject => "filter must be an object"
  | .operatorMissing => "operator is required"
  | .operatorNotText => "operator must be a string"
  | .operatorUnknown unknown => unknown.message
  | .operand operator fault => operator.text ++ " " ++ fault.message
  | .sortNotAnObject => "sort clause must be an object"
  | .occurrence => "occurrence index must be a non-negative integer"
  | .direction => "sort direction must be boolean-like (true/false, 1/0, \"asc\"/\"desc\")"
  | .splitNotText => "split must be a string"
  | .splitUnknown unknown => unknown.message
  | .splitRepeated split => "split '" ++ split.name ++ "' listed more than once"
  | .weekWithoutYear => "splitting by week requires splitting by year"
  | .offset => "offset must be a non-negative integer"
  | .limitZero => "limit must be at least 1"
  | .limitTooLarge asked maximum =>
      "limit " ++ Text.decimal asked.toNat ++ " exceeds the maximum of " ++
        Text.decimal maximum.toNat
  | .limit => "limit must be a positive integer"

structure Problem where
  path : Path
  cause : Cause

def problemLine (path : Path) (message : String) : String :=
  path.text ++ ": " ++ message

def Problem.line (problem : Problem) : String :=
  problemLine problem.path problem.cause.message

def refusal (lines : List String) : String :=
  "invalid table state: " ++ String.intercalate "; " lines

end StatTable.TableState
