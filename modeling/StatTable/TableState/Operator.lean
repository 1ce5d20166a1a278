import StatTable.Text.Blank

set_option autoImplicit false

namespace StatTable

inductive FilterOperator where
  | eq
  | ne
  | gt
  | gte
  | lt
  | lte
  | isIn
  | notIn
  | isNull
  | isNotNull
  | like
  | notLike
deriving DecidableEq

inductive OperandShape where
  | none
  | scalar
  | list
  | pattern
deriving DecidableEq

namespace FilterOperator

def all : List FilterOperator :=
  [eq, ne, gt, gte, lt, lte, isIn, notIn, isNull, isNotNull, like, notLike]

def text : FilterOperator → String
  | eq => "="
  | ne => "!="
  | gt => ">"
  | gte => ">="
  | lt => "<"
  | lte => "<="
  | isIn => "IN"
  | notIn => "NOT IN"
  | isNull => "IS NULL"
  | isNotNull => "IS NOT NULL"
  | like => "LIKE"
  | notLike => "NOT LIKE"

def shape : FilterOperator → OperandShape
  | eq | ne | gt | gte | lt | lte => .scalar
  | isIn | notIn => .list
  | isNull | isNotNull => .none
  | like | notLike => .pattern

def matchesMissing : FilterOperator → Bool
  | isNull => true
  | _ => false

structure Unknown where
  text : String

def Unknown.message (unknown : Unknown) : String :=
  "unsupported operator '" ++ unknown.text ++ "'"

def parse (text : String) : Except Unknown FilterOperator :=
  let spelled := (Text.squeeze text).toUpper
  if spelled = "==" then .ok eq
  else if spelled = "<>" then .ok ne
  else
    match all.find? (·.text == spelled) with
    | some operator => .ok operator
    | none => .error ⟨text⟩

end FilterOperator

end StatTable
