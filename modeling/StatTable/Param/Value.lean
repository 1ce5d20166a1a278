import StatTable.Scalar

set_option autoImplicit false

namespace StatTable

inductive ParamValue where
  | scalar (s : Scalar)
  | list (items : List Scalar)
  | range (min max : Option Scalar)
deriving DecidableEq

namespace ParamValue

inductive Problem where
  | element (index : Nat)
  | unknownBound (name : String)
  | bound (name : String)
  | unbounded
  | shape

def Problem.message : Problem → String
  | .element index => "list element " ++ Text.decimal index ++ " is not a scalar"
  | .unknownBound name => "range objects only accept 'min' and 'max', found '" ++ name ++ "'"
  | .bound name => "range '" ++ name ++ "' must be a scalar"
  | .unbounded => "range needs at least one of 'min' or 'max'"
  | .shape => "expected a scalar, an array of scalars, or a \x7bmin,max\x7d range"

def ofList (scalars : List Scalar) : ParamValue :=
  match Scalar.ascending scalars with
  | [s] => .scalar s
  | items => .list items

def readElements (index : Nat) : List Json.Value → Except Problem (List Scalar)
  | [] => .ok []
  | item :: rest =>
      match Scalar.ofJson item with
      | none => .error (.element index)
      | some s => (readElements (index + 1) rest).map (s :: ·)

def readBound (name : String) (value : Json.Value) : Except Problem (Option Scalar) :=
  match value.given? name with
  | none => .ok none
  | some bound =>
      match Scalar.ofJson bound with
      | some s => .ok (some s)
      | none => .error (.bound name)

def isBoundName (name : String) : Bool := name == "min" || name == "max"

def readRange (members : List (String × Json.Value)) : Except Problem ParamValue :=
  match members.find? fun member => !isBoundName member.1 with
  | some (name, _) => .error (.unknownBound name)
  | none => do
      let min ← readBound "min" (.object members)
      let max ← readBound "max" (.object members)
      if min.isNone && max.isNone then .error .unbounded else .ok (.range min max)

def ofJson : Json.Value → Except Problem ParamValue
  | .array items => (readElements 0 items).map ofList
  | .object members => readRange members
  | value =>
      match Scalar.ofJson value with
      | some s => .ok (.scalar s)
      | none => .error .shape

def boundJson : Option Scalar → Json.Value
  | some s => s.toJson
  | none => .null

def toJson : ParamValue → Json.Value
  | .scalar s => s.toJson
  | .list items => .array (items.map Scalar.toJson)
  | .range min max => .object [("min", boundJson min), ("max", boundJson max)]

def toScalar? : ParamValue → Option Scalar
  | .scalar s => some s
  | _ => none

def toInt64? (value : ParamValue) : Option Int64 :=
  value.toScalar?.bind Scalar.toInt64?

inductive Unsatisfiable where
  | emptyList
  | crossed (min max : Scalar)

def Unsatisfiable.message : Unsatisfiable → String
  | .emptyList => "empty list"
  | .crossed min max => "range min " ++ min.display ++ " is greater than max " ++ max.display

def unsatisfiable? : ParamValue → Option Unsatisfiable
  | .list [] => some .emptyList
  | .range (some min) (some max) => if min.compare max = .gt then some (.crossed min max) else none
  | _ => none

def shiftScalar? (delta : Int64) : Scalar → Option Scalar
  | .integer n => (addWords? n delta).map .integer
  | s => some s

def shiftBound? (delta : Int64) : Option Scalar → Option (Option Scalar)
  | some s => (shiftScalar? delta s).map some
  | none => some none

def shift? (delta : Int64) : ParamValue → Option ParamValue
  | .scalar s => (shiftScalar? delta s).map .scalar
  | .list items => (items.mapM (shiftScalar? delta)).map ofList
  | .range min max => do return .range (← shiftBound? delta min) (← shiftBound? delta max)

def condition (column : Sql.Expr) : ParamValue → Sql.Expr
  | .scalar s => .binary .eq column s.toExpr
  | .list items => .among false column (items.map Scalar.toExpr)
  | .range (some min) (some max) => .between false column min.toExpr max.toExpr
  | .range (some min) none => .binary .gte column min.toExpr
  | .range none (some max) => .binary .lte column max.toExpr
  | .range none none => .isNull true column

end ParamValue

end StatTable
