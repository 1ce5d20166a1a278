import StatTable.Sql.Expr

set_option autoImplicit false

namespace StatTable.Sql

structure Selection where
  expr : Expr
  aliasName : Option String

structure TableRef where
  table : String
  aliasName : Option String

inductive JoinKind where
  | inner
  | left
deriving DecidableEq

structure Join where
  kind : JoinKind
  table : TableRef
  on : Expr

inductive Direction where
  | asc
  | desc
deriving DecidableEq

inductive NullPlace where
  | first
  | last
deriving DecidableEq

structure Ordering where
  expr : Expr
  direction : Option Direction
  nulls : Option NullPlace

structure Page where
  limit : Option UInt64
  offset : Option UInt64

structure Query where
  withs : List (String × Query)
  selections : List Selection
  source : Option TableRef
  joins : List Join
  filter : Option Expr
  groupBy : List Expr
  having : Option Expr
  orderBy : List Ordering
  page : Option Page

def aliasTokens : Option String → List Token
  | some name => [.space, .keyword .as, .space, .identifier name]
  | none => []

def Selection.tokens (dialect : Dialect) (selection : Selection) : List Token :=
  selection.expr.tokens dialect ++ aliasTokens selection.aliasName

def TableRef.tokens (ref : TableRef) : List Token :=
  .identifier ref.table :: aliasTokens ref.aliasName

def JoinKind.keyword : JoinKind → Keyword
  | .inner => .inner
  | .left => .left

def Join.tokens (dialect : Dialect) (join : Join) : List Token :=
  [.keyword join.kind.keyword, .space, .keyword .join, .space] ++ join.table.tokens ++
    [.space, .keyword .on, .space] ++ join.on.tokens dialect

def directionTokens : Option Direction → List Token
  | some .asc => [.space, .keyword .asc]
  | some .desc => [.space, .keyword .desc]
  | none => []

def nullTokens : Option NullPlace → List Token
  | some .first => [.space, .keyword .nullsFirst]
  | some .last => [.space, .keyword .nullsLast]
  | none => []

def Ordering.tokens (dialect : Dialect) (term : Ordering) : List Token :=
  term.expr.tokens dialect ++ directionTokens term.direction ++
    (if dialect.placesNulls then nullTokens term.nulls else [])

-- A keyword, a space and a number that is written as a signed 64-bit word.
def countTokens (word : Keyword) (count : UInt64) : List Token :=
  [.keyword word, .space, .integer count.toInt64]

def pageTokens : Option UInt64 → Option UInt64 → List Token
  | none, none => []
  | some limit, none => countTokens .limit limit
  | none, some offset => countTokens .offset offset
  | some limit, some offset => countTokens .limit limit ++ .space :: countTokens .offset offset

def Dialect.pageTokens : Dialect → Option UInt64 → Option UInt64 → List Token
  | .postgres, limit, offset => Sql.pageTokens limit offset
  | .sqlite, limit, offset => Sql.pageTokens limit offset

theorem Dialect.page_tokens (dialect : Dialect) (limit offset : Option UInt64) :
    dialect.pageTokens limit offset = Sql.pageTokens limit offset := by
  cases dialect <;> rfl

def Page.tokens (dialect : Dialect) (page : Page) : List Token :=
  dialect.pageTokens page.limit page.offset

-- A page of all rows is an empty line.
def pageLine (dialect : Dialect) : Option Page → List Token
  | some page => .newline :: page.tokens dialect
  | none => []

def clause (word : Keyword) (body : List Token) : List Token :=
  [.newline, .keyword word, .space] ++ body

def optionalClause (word : Keyword) : Option (List Token) → List Token
  | some body => clause word body
  | none => []

def listClause (word : Keyword) : List (List Token) → List Token
  | [] => []
  | parts => clause word (listed parts)

def selectTokens (dialect : Dialect) (selections : List Selection) : List Token :=
  .keyword .select :: List.intercalate [.symbol .comma]
    (selections.map fun selection => [.newline, .indent 1] ++ selection.tokens dialect)

def Query.bodyTokens (dialect : Dialect) (query : Query) : List Token :=
  selectTokens dialect query.selections ++
    optionalClause .fromTable (query.source.map (·.tokens)) ++
    query.joins.flatMap (fun join => .newline :: join.tokens dialect) ++
    optionalClause .whereRow (query.filter.map (·.tokens dialect)) ++
    listClause .groupBy (query.groupBy.map (·.tokens dialect)) ++
    optionalClause .having (query.having.map (·.tokens dialect)) ++
    listClause .orderBy (query.orderBy.map (·.tokens dialect)) ++ pageLine dialect query.page

def withClause : List (List Token) → List Token
  | [] => []
  | parts =>
      [.keyword .withQuery, .space] ++ List.intercalate [.symbol .comma, .newline] parts ++
        [.newline]

mutual

def Query.tokens (dialect : Dialect) : Query → List Token
  | query@⟨withs, _, _, _, _, _, _, _, _⟩ =>
      withClause (withParts dialect withs) ++ query.bodyTokens dialect

def withParts (dialect : Dialect) : List (String × Query) → List (List Token)
  | [] => []
  | (name, query) :: rest =>
      ([.identifier name, .space, .keyword .as, .space, .symbol .openParen, .newline] ++
        query.tokens dialect ++ [.newline, .symbol .closeParen]) :: withParts dialect rest

end

namespace Query

def empty : Query := ⟨[], [], none, [], none, [], none, [], none⟩

def text (dialect : Dialect) (query : Query) : String :=
  render dialect (query.tokens dialect)

def addWith (query : Query) (name : String) (inner : Query) : Query :=
  { query with withs := query.withs ++ [(name, inner)] }

def addJoin (query : Query) (kind : JoinKind) (table : TableRef) (on : Expr) : Query :=
  { query with joins := query.joins ++ [⟨kind, table, on⟩] }

def addFilter (query : Query) (condition : Expr) : Query :=
  { query with filter := Expr.conjunction (query.filter.toList ++ [condition]) }

def addHaving (query : Query) (condition : Expr) : Query :=
  { query with having := Expr.conjunction (query.having.toList ++ [condition]) }

def setLimit (query : Query) (limit : UInt64) : Query :=
  { query with page := some ⟨some limit, query.page.bind (·.offset)⟩ }

def setOffset (query : Query) (offset : UInt64) : Query :=
  { query with page := some ⟨query.page.bind (·.limit), some offset⟩ }

end Query

end StatTable.Sql
