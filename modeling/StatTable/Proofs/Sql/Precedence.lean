import Mathlib.Data.Option.Basic
import StatTable.Sql.Expr

/-
A precedence parser for the tokens of expressions. OR binds weakest, then AND, then comparisons and
tests, then sums, then products, and concatenation binds tightest; operators of one level group to
the left. The fuel bounds the nesting of calls, of which each token needs a few.
-/

set_option autoImplicit false

namespace StatTable.Sql

def Operator.level : Operator → Nat
  | .or => 1
  | .and => 2
  | .eq | .ne | .lt | .gt | .lte | .gte => 3
  | .plus | .minus => 4
  | .times | .over => 5
  | .concat => 6

def testLevel : Nat := 3

def Token.isBlank : Token → Bool
  | .space | .newline | .indent _ => true
  | _ => false

def dense (tokens : List Token) : List Token := tokens.filter (!·.isBlank)

def operator? : Token → Option Operator
  | .symbol .eq => some .eq
  | .symbol .ne => some .ne
  | .symbol .lt => some .lt
  | .symbol .gt => some .gt
  | .symbol .lte => some .lte
  | .symbol .gte => some .gte
  | .keyword .and => some .and
  | .keyword .or => some .or
  | .symbol .plus => some .plus
  | .symbol .minus => some .minus
  | .symbol .star | .symbol .times => some .times
  | .symbol .over => some .over
  | .symbol .concat => some .concat
  | _ => none

def literal? : Token → Option Literal
  | .integer n => some (.integer n)
  | .binary x => some (.binary x)
  | .string s => some (.string s)
  | .bool b => some (.bool b)
  | .null => some .null
  | _ => none

inductive Link where
  | operation (operator : Operator)
  | among (negated : Bool)
  | between (negated : Bool)
  | like (negated caseless : Bool)
  | isNull (negated : Bool)

def Link.level : Link → Nat
  | .operation operator => operator.level
  | .among _ | .between _ | .like .. | .isNull _ => testLevel

def link? : List Token → Option (Link × List Token)
  | .keyword .not :: .keyword .inList :: .symbol .openParen :: rest => some (.among true, rest)
  | .keyword .inList :: .symbol .openParen :: rest => some (.among false, rest)
  | .keyword .not :: .keyword .between :: rest => some (.between true, rest)
  | .keyword .between :: rest => some (.between false, rest)
  | .keyword .not :: .keyword .like :: rest => some (.like true false, rest)
  | .keyword .like :: rest => some (.like false false, rest)
  | .keyword .not :: .caselessLike :: rest => some (.like true true, rest)
  | .caselessLike :: rest => some (.like false true, rest)
  | .keyword .isNotNull :: rest => some (.isNull true, rest)
  | .keyword .isNull :: rest => some (.isNull false, rest)
  | token :: rest => (operator? token).map fun operator => (.operation operator, rest)
  | [] => none

def expect (token : Token) : List Token → Option (List Token)
  | [] => none
  | next :: rest => if next = token then some rest else none

def readDistinct : List Token → Bool × List Token
  | .keyword .distinct :: rest => (true, rest)
  | rest => (false, rest)

mutual

def parseExpr : Nat → Nat → List Token → Option (Expr × List Token)
  | 0, _, _ => none
  | fuel + 1, level, tokens => do
      let (left, rest) ← parseOperand fuel tokens
      parseTail fuel level left rest

def parseTail : Nat → Nat → Expr → List Token → Option (Expr × List Token)
  | 0, _, _, _ => none
  | fuel + 1, level, left, tokens =>
      match link? tokens with
      | none => some (left, tokens)
      | some (link, rest) =>
          if link.level < level then some (left, tokens)
          else do
            let (whole, rest) ← parseLink fuel link left rest
            parseTail fuel level whole rest

def parseLink : Nat → Link → Expr → List Token → Option (Expr × List Token)
  | 0, _, _, _ => none
  | fuel + 1, .operation operator, left, tokens => do
      let (right, rest) ← parseExpr fuel (operator.level + 1) tokens
      some (.binary operator left right, rest)
  | fuel + 1, .among negated, value, tokens => do
      let (choices, rest) ← parseList fuel tokens
      some (.among negated value choices, rest)
  | fuel + 1, .between negated, value, tokens => do
      let (low, rest) ← parseExpr fuel (testLevel + 1) tokens
      let rest ← expect (.keyword .and) rest
      let (high, rest) ← parseExpr fuel (testLevel + 1) rest
      some (.between negated value low high, rest)
  | fuel + 1, .like negated caseless, value, tokens => do
      let (pattern, rest) ← parseExpr fuel (testLevel + 1) tokens
      some (.like negated caseless value pattern, rest)
  | _ + 1, .isNull negated, value, tokens => some (.isNull negated value, tokens)

def parseList : Nat → List Token → Option (List Expr × List Token)
  | 0, _ => none
  | fuel + 1, tokens => do
      let (first, rest) ← parseExpr fuel 1 tokens
      match rest with
      | .symbol .comma :: rest => do
          let (others, rest) ← parseList fuel rest
          some (first :: others, rest)
      | .symbol .closeParen :: rest => some ([first], rest)
      | _ => none

def parseArguments : Nat → List Token → Option (List Expr × List Token)
  | 0, _ => none
  | _ + 1, .symbol .closeParen :: rest => some ([], rest)
  | fuel + 1, tokens => parseList fuel tokens

def parseOperand : Nat → List Token → Option (Expr × List Token)
  | 0, _ => none
  | _ + 1, .identifier table :: .symbol .dot :: .identifier name :: rest =>
      some (.column (some table) name, rest)
  | _ + 1, .identifier table :: .symbol .dot :: .symbol .star :: rest =>
      some (.star (some table), rest)
  | _ + 1, .identifier name :: rest => some (.column none name, rest)
  | _ + 1, .symbol .star :: rest => some (.star none, rest)
  | fuel + 1, .symbol .openParen :: rest => do
      let (inner, rest) ← parseExpr fuel 1 rest
      let rest ← expect (.symbol .closeParen) rest
      some (.paren inner, rest)
  | fuel + 1, .function name :: .symbol .openParen :: rest => do
      let (distinct, rest) := readDistinct rest
      let (arguments, rest) ← parseArguments fuel rest
      some (.call name distinct arguments, rest)
  | _ + 1, token :: rest => (literal? token).map fun value => (.literal value, rest)
  | _ + 1, [] => none

end

def Expr.parse (tokens : List Token) : Option Expr :=
  let words := dense tokens
  match parseExpr (4 * words.length + 1) 1 words with
  | some (expr, []) => some expr
  | _ => none

end StatTable.Sql
