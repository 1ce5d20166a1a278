import StatTable.Binary64.Layout
import StatTable.Sql.Dialect
import StatTable.Text.Decimal
import StatTable.Text.Uppercase

set_option autoImplicit false

namespace StatTable.Sql

inductive Keyword where
  | select
  | fromTable
  | whereRow
  | and
  | or
  | not
  | as
  | on
  | join
  | inner
  | left
  | groupBy
  | having
  | orderBy
  | asc
  | desc
  | nullsFirst
  | nullsLast
  | limit
  | offset
  | inList
  | between
  | like
  | isNull
  | isNotNull
  | distinct
  | withQuery
  | true
  | false
deriving DecidableEq

def Keyword.text : Keyword → String
  | .select => "SELECT"
  | .fromTable => "FROM"
  | .whereRow => "WHERE"
  | .and => "AND"
  | .or => "OR"
  | .not => "NOT"
  | .as => "AS"
  | .on => "ON"
  | .join => "JOIN"
  | .inner => "INNER"
  | .left => "LEFT"
  | .groupBy => "GROUP BY"
  | .having => "HAVING"
  | .orderBy => "ORDER BY"
  | .asc => "ASC"
  | .desc => "DESC"
  | .nullsFirst => "NULLS FIRST"
  | .nullsLast => "NULLS LAST"
  | .limit => "LIMIT"
  | .offset => "OFFSET"
  | .inList => "IN"
  | .between => "BETWEEN"
  | .like => "LIKE"
  | .isNull => "IS NULL"
  | .isNotNull => "IS NOT NULL"
  | .distinct => "DISTINCT"
  | .withQuery => "WITH"
  | .true => "TRUE"
  | .false => "FALSE"

inductive Symbol where
  | comma
  | dot
  | star
  | openParen
  | closeParen
  | eq
  | ne
  | lt
  | gt
  | lte
  | gte
  | plus
  | minus
  | times
  | over
  | concat
deriving DecidableEq

def Symbol.text : Symbol → String
  | .comma => ","
  | .dot => "."
  | .star => "*"
  | .openParen => "("
  | .closeParen => ")"
  | .eq => "="
  | .ne => "<>"
  | .lt => "<"
  | .gt => ">"
  | .lte => "<="
  | .gte => ">="
  | .plus => "+"
  | .minus => "-"
  | .times => "*"
  | .over => "/"
  | .concat => "||"

inductive Token where
  | keyword (word : Keyword)
  | symbol (sign : Symbol)
  | caselessLike
  | space
  | newline
  | indent (depth : Nat)
  | identifier (name : String)
  | function (name : String)
  | integer (n : Int64)
  | binary (x : Binary64)
  | string (s : String)
  | bool (b : Bool)
  | null
deriving DecidableEq

def Token.text (dialect : Dialect) : Token → String
  | .keyword word => word.text
  | .symbol sign => sign.text
  | .caselessLike => dialect.caselessLike
  | .space => " "
  | .newline => "\n"
  | .indent depth => String.ofList (List.replicate (2 * depth) ' ')
  | .identifier name => dialect.quotedName name
  | .function name => Text.uppercase name
  | .integer n => Text.decimal n.toInt
  | .binary x => x.text .sql
  | .string s => dialect.quotedString s
  | .bool b => dialect.boolText b
  | .null => "NULL"

def render (dialect : Dialect) (tokens : List Token) : String :=
  String.join (tokens.map (Token.text dialect))

def listed (parts : List (List Token)) : List Token :=
  List.intercalate [.symbol .comma, .space] parts

end StatTable.Sql
