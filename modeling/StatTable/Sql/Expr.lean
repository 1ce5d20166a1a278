import StatTable.Sql.Token

set_option autoImplicit false

namespace StatTable.Sql

inductive Literal where
  | integer (n : Int64)
  | binary (x : Binary64)
  | string (s : String)
  | bool (b : Bool)
  | null
deriving DecidableEq

inductive Operator where
  | eq
  | ne
  | lt
  | gt
  | lte
  | gte
  | and
  | or
  | plus
  | minus
  | times
  | over
  | concat
deriving DecidableEq

inductive Expr where
  | column (table : Option String) (name : String)
  | literal (value : Literal)
  | binary (operator : Operator) (left right : Expr)
  | call (function : String) (distinct : Bool) (arguments : List Expr)
  | among (negated : Bool) (value : Expr) (choices : List Expr)
  | between (negated : Bool) (value low high : Expr)
  | isNull (negated : Bool) (value : Expr)
  | like (negated caseless : Bool) (value pattern : Expr)
  | star (table : Option String)
  | paren (inner : Expr)

def Literal.token : Literal → Token
  | .integer n => .integer n
  | .binary x => .binary x
  | .string s => .string s
  | .bool b => .bool b
  | .null => .null

def Operator.token : Operator → Token
  | .eq => .symbol .eq
  | .ne => .symbol .ne
  | .lt => .symbol .lt
  | .gt => .symbol .gt
  | .lte => .symbol .lte
  | .gte => .symbol .gte
  | .and => .keyword .and
  | .or => .keyword .or
  | .plus => .symbol .plus
  | .minus => .symbol .minus
  | .times => .symbol .times
  | .over => .symbol .over
  | .concat => .symbol .concat

def qualifier : Option String → List Token
  | some table => [.identifier table, .symbol .dot]
  | none => []

def negation (negated : Bool) : List Token :=
  if negated then [.space, .keyword .not] else []

mutual

-- No value is among none at all, so a test against an empty list is written as its truth value.
def Expr.tokens (dialect : Dialect) : Expr → List Token
  | .column table name => qualifier table ++ [.identifier name]
  | .literal value => [value.token]
  | .binary operator left right =>
      left.tokens dialect ++ [.space, operator.token, .space] ++ right.tokens dialect
  | .call function distinct arguments =>
      [.function function, .symbol .openParen] ++
        (if distinct then [.keyword .distinct, .space] else []) ++
        listed (tokensOfEach dialect arguments) ++ [.symbol .closeParen]
  | .among negated _ [] => [.keyword (if negated then .true else .false)]
  | .among negated value choices =>
      value.tokens dialect ++ negation negated ++
        [.space, .keyword .inList, .space, .symbol .openParen] ++
        listed (tokensOfEach dialect choices) ++ [.symbol .closeParen]
  | .between negated value low high =>
      value.tokens dialect ++ negation negated ++ [.space, .keyword .between, .space] ++
        low.tokens dialect ++ [.space, .keyword .and, .space] ++ high.tokens dialect
  | .isNull negated value =>
      value.tokens dialect ++ [.space, .keyword (if negated then .isNotNull else .isNull)]
  | .like negated caseless value pattern =>
      value.tokens dialect ++ negation negated ++
        [.space, if caseless then .caselessLike else .keyword .like, .space] ++
        pattern.tokens dialect
  | .star table => qualifier table ++ [.symbol .star]
  | .paren inner => .symbol .openParen :: inner.tokens dialect ++ [.symbol .closeParen]

def tokensOfEach (dialect : Dialect) : List Expr → List (List Token)
  | [] => []
  | expr :: rest => expr.tokens dialect :: tokensOfEach dialect rest

end

def aggregateFunctions : List String := ["SUM", "COUNT", "AVG", "MIN", "MAX"]

mutual

def Expr.isAggregate : Expr → Bool
  | .call function _ arguments =>
      aggregateFunctions.contains function.toUpper || anyAggregate arguments
  | .binary _ left right => left.isAggregate || right.isAggregate
  | .among _ value choices => value.isAggregate || anyAggregate choices
  | .between _ value low high => value.isAggregate || low.isAggregate || high.isAggregate
  | .isNull _ value => value.isAggregate
  | .like _ _ value pattern => value.isAggregate || pattern.isAggregate
  | .paren inner => inner.isAggregate
  | .column .. | .literal _ | .star _ => false

def anyAggregate : List Expr → Bool
  | [] => false
  | expr :: rest => expr.isAggregate || anyAggregate rest

end

namespace Expr

def integer (n : Int64) : Expr := .literal (.integer n)

def string (s : String) : Expr := .literal (.string s)

def field (table name : String) : Expr := .column (some table) name

def eq (left right : Expr) : Expr := .binary .eq left right

def and (left right : Expr) : Expr := .binary .and left right

-- A disjunction stands in parentheses, so that it may be a part of a conjunction.
def or (left right : Expr) : Expr := .paren (.binary .or left right)

def function (name : String) (arguments : List Expr) : Expr := .call name false arguments

def countRows : Expr := function "COUNT" [.star none]

def countDistinct (value : Expr) : Expr := .call "COUNT" true [value]

def sum (value : Expr) : Expr := function "SUM" [value]

def coalesce (choices : List Expr) : Expr := function "COALESCE" choices

def nullIf (value absent : Expr) : Expr := function "NULLIF" [value, absent]

def conjunction : List Expr → Option Expr
  | [] => none
  | condition :: rest => some (rest.foldl and condition)

end Expr

end StatTable.Sql
