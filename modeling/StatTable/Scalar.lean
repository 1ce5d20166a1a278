import StatTable.Json.Basic
import StatTable.Sql.Expr

set_option autoImplicit false

namespace StatTable

inductive Scalar where
  | bool (b : Bool)
  | integer (n : Int64)
  | binary (x : Binary64)
  | text (s : String)
deriving DecidableEq

namespace Scalar

-- A number becomes an integer if it is one and lies between -2^63 and 2^63; the upper end is held
-- as the largest integer below it.
def ofBinary64 (x : Binary64) : Scalar :=
  match x.toInt? with
  | some n =>
      if -9223372036854775808 ≤ n ∧ n ≤ 9223372036854775808 then
        .integer (Int64.ofInt (min n 9223372036854775807))
      else .binary x
  | none => .binary x

def ofNumber (n : Json.Number) : Option Scalar :=
  match n.toInt64? with
  | some i => some (.integer i)
  | none => if n.toBinary64.isFinite then some (ofBinary64 n.toBinary64) else none

def ofJson : Json.Value → Option Scalar
  | .bool b => some (.bool b)
  | .number n => ofNumber n
  | .string s => some (.text s)
  | .null | .array _ | .object _ => none

def toJson : Scalar → Json.Value
  | .bool b => .bool b
  | .integer n => .number (.integer n.toInt)
  | .binary x => .number (.binary x)
  | .text s => .string s

def toExpr : Scalar → Sql.Expr
  | .bool b => .literal (.bool b)
  | .integer n => .literal (.integer n)
  | .binary x => .literal (.binary x)
  | .text s => .literal (.string s)

def display : Scalar → String
  | .bool true => "true"
  | .bool false => "false"
  | .integer n => Text.decimal n.toInt
  | .binary x => x.text .message
  | .text s => "'" ++ s ++ "'"

def toInt64? : Scalar → Option Int64
  | .integer n => some n
  | _ => none

def toText? : Scalar → Option String
  | .text s => some s
  | _ => none

-- Booleans come first, then numbers, then texts. An integer is compared with a binary64 number by
-- the nearest one to it, and comes first if that is the same.
def compare : Scalar → Scalar → Ordering
  | .bool a, .bool b => Ord.compare a b
  | .integer a, .integer b => Ord.compare a.toInt b.toInt
  | .integer a, .binary b => ((Binary64.ofInt a.toInt).compare b).then .lt
  | .binary a, .integer b => (a.compare (Binary64.ofInt b.toInt)).then .gt
  | .binary a, .binary b => a.compare b
  | .text a, .text b => Ord.compare a b
  | .bool _, _ => .lt
  | _, .bool _ => .gt
  | _, .text _ => .lt
  | .text _, _ => .gt

def le (a b : Scalar) : Bool := (a.compare b).isLE

def sort (scalars : List Scalar) : List Scalar := scalars.mergeSort le

def dropRepeats : List Scalar → List Scalar
  | [] => []
  | [a] => [a]
  | a :: b :: rest => if a = b then dropRepeats (b :: rest) else a :: dropRepeats (b :: rest)

def ascending (scalars : List Scalar) : List Scalar := dropRepeats (sort scalars)

end Scalar

end StatTable
