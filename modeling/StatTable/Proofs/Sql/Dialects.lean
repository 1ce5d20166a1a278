import Mathlib.Data.List.Forall2
import StatTable.Proofs.Lists
import StatTable.Proofs.Sql.QueryText

set_option autoImplicit false

namespace StatTable.Sql

def Token.isDialectal : Token → Bool
  | .bool _ | .caselessLike => true
  | _ => false

inductive Token.Spelled : Token → String × String → Prop where
  | alike (token : Token) (text : String) : token.isDialectal = false → Spelled token (text, text)
  | holds : Spelled (.bool true) ("true", "1")
  | fails : Spelled (.bool false) ("false", "0")
  | caseless : Spelled .caselessLike ("ILIKE", "LIKE")

def Token.spellings (token : Token) : String × String :=
  (token.text .postgres, token.text .sqlite)

theorem plain_alike (token : Token) (plain : token.isDialectal = false) :
    token.text .postgres = token.text .sqlite := by
  cases token with
  | identifier name => rw [Token.text, Token.text, Dialect.quoted_name, Dialect.quoted_name]
  | string s => rw [Token.text, Token.text, Dialect.quoted_string, Dialect.quoted_string]
  | bool b => cases plain
  | caselessLike => cases plain
  | _ => rfl

theorem spellings_spelled (token : Token) : token.Spelled token.spellings := by
  cases dialectal : token.isDialectal with
  | false =>
      rw [Token.spellings, plain_alike token dialectal]
      exact .alike token _ dialectal
  | true =>
      cases token with
      | bool b =>
          cases b with
          | true => exact .holds
          | false => exact .fails
      | caselessLike => exact .caseless
      | _ => cases dialectal

section

variable (one other : Dialect)

mutual

theorem expr_shared (expr : Expr) : expr.tokens one = expr.tokens other := by
  cases expr with
  | column table name => rw [Expr.tokens, Expr.tokens]
  | literal value => rw [Expr.tokens, Expr.tokens]
  | star table => rw [Expr.tokens, Expr.tokens]
  | binary operator left right =>
      rw [Expr.tokens, Expr.tokens, expr_shared left, expr_shared right]
  | call function distinct arguments =>
      rw [Expr.tokens, Expr.tokens, exprs_shared arguments]
  | among negated value choices =>
      cases choices with
      | nil => rw [Expr.tokens, Expr.tokens]
      | cons choice rest =>
          have choices := exprs_shared (choice :: rest)
          simp only [Expr.tokens, expr_shared value, choices]
  | between negated value low high =>
      rw [Expr.tokens, Expr.tokens, expr_shared value, expr_shared low, expr_shared high]
  | isNull negated value => rw [Expr.tokens, Expr.tokens, expr_shared value]
  | like negated caseless value pattern =>
      rw [Expr.tokens, Expr.tokens, expr_shared value, expr_shared pattern]
  | paren inner => rw [Expr.tokens, Expr.tokens, expr_shared inner]

theorem exprs_shared (exprs : List Expr) : tokensOfEach one exprs = tokensOfEach other exprs := by
  cases exprs with
  | nil => rw [tokensOfEach, tokensOfEach]
  | cons expr rest => rw [tokensOfEach, tokensOfEach, expr_shared expr, exprs_shared rest]

end

theorem selection_shared (selection : Selection) :
    selection.tokens one = selection.tokens other := by
  rw [Selection.tokens, Selection.tokens, expr_shared one other]

theorem join_shared (join : Join) : join.tokens one = join.tokens other := by
  rw [Join.tokens, Join.tokens, expr_shared one other]

theorem ordering_shared (term : Ordering) : term.tokens one = term.tokens other := by
  have placed : one.placesNulls = other.placesNulls := by cases one <;> cases other <;> rfl
  rw [Ordering.tokens, Ordering.tokens, expr_shared one other, placed]

theorem page_shared (page : Option Page) : pageLine one page = pageLine other page := by
  cases page with
  | none => rfl
  | some page =>
      rw [pageLine, pageLine, Page.tokens, Page.tokens, Dialect.page_tokens, Dialect.page_tokens]

theorem select_shared (selections : List Selection) :
    selectTokens one selections = selectTokens other selections := by
  simp only [selectTokens, selection_shared one other]

theorem body_shared (query : Query) : query.bodyTokens one = query.bodyTokens other := by
  simp only [Query.bodyTokens, select_shared one other, join_shared one other,
    expr_shared one other, ordering_shared one other, page_shared one other]

mutual

theorem tokens_shared (query : Query) : query.tokens one = query.tokens other := by
  cases query with
  | mk withs selections source joins filter groupBy having orderBy page =>
      rw [Query.tokens, Query.tokens, parts_shared withs, body_shared one other]

theorem parts_shared (withs : List (String × Query)) : withParts one withs = withParts other withs := by
  cases withs with
  | nil => rfl
  | cons named rest =>
      obtain ⟨name, query⟩ := named
      rw [withParts, withParts, tokens_shared query, parts_shared rest]

end

end

theorem render_length (dialect : Dialect) (token : Token) (rest : List Token) :
    (render dialect (token :: rest)).length =
      (token.text dialect).length + (render dialect rest).length := by
  rw [render, render, List.map_cons, String.join_cons, String.length_append]

theorem dialectal_longer (token : Token) (dialectal : token.isDialectal = true) :
    (token.text .sqlite).length < (token.text .postgres).length := by
  cases token with
  | bool b => cases b <;> decide
  | caselessLike => decide
  | _ => cases dialectal

theorem render_no_longer (tokens : List Token) :
    (render .sqlite tokens).length ≤ (render .postgres tokens).length := by
  induction tokens with
  | nil => exact Nat.le_refl _
  | cons token rest ih =>
      rw [render_length, render_length]
      cases own : token.isDialectal with
      | true => exact Nat.add_le_add (Nat.le_of_lt (dialectal_longer token own)) ih
      | false => rw [plain_alike token own]; exact Nat.add_le_add_left ih _

theorem same_length_plain (tokens : List Token)
    (same : (render .postgres tokens).length ≤ (render .sqlite tokens).length) :
    ∀ token ∈ tokens, token.isDialectal = false := by
  induction tokens with
  | nil => exact fun token member => absurd member List.not_mem_nil
  | cons token rest ih =>
      have shorter := render_no_longer rest
      rw [render_length, render_length] at same
      cases own : token.isDialectal with
      | true =>
          have longer := dialectal_longer token own
          omega
      | false =>
          rw [plain_alike token own] at same
          exact List.forall_mem_cons.mpr ⟨own, ih (by omega)⟩

theorem render_alike_iff (tokens : List Token) :
    render .postgres tokens = render .sqlite tokens ↔
      ∀ token ∈ tokens, token.isDialectal = false := by
  constructor
  · intro same
    exact same_length_plain tokens (Nat.le_of_eq (congrArg String.length same))
  · intro plain
    rw [render, render]
    exact congrArg String.join (List.map_congr_left fun token member =>
      plain_alike token (plain token member))

mutual

-- The truth values and the matches without regard to case that an expression is written with.
def Expr.dialectals : Expr → List Token
  | .literal (.bool b) => [.bool b]
  | .literal _ | .column .. | .star _ => []
  | .binary _ left right => left.dialectals ++ right.dialectals
  | .call _ _ arguments => dialectalsOfEach arguments
  | .among _ _ [] => []
  | .among _ value choices => value.dialectals ++ dialectalsOfEach choices
  | .between _ value low high => value.dialectals ++ low.dialectals ++ high.dialectals
  | .isNull _ value => value.dialectals
  | .like _ caseless value pattern =>
      value.dialectals ++ (if caseless then [.caselessLike] else []) ++ pattern.dialectals
  | .paren inner => inner.dialectals

def dialectalsOfEach : List Expr → List Token
  | [] => []
  | expr :: rest => expr.dialectals ++ dialectalsOfEach rest

end

def dialectal (tokens : List Token) : List Token := tokens.filter (·.isDialectal)

theorem dialectal_append (left right : List Token) :
    dialectal (left ++ right) = dialectal left ++ dialectal right :=
  List.filter_append _ _

theorem dialectal_cons (token : Token) (rest : List Token) (plain : token.isDialectal = false) :
    dialectal (token :: rest) = dialectal rest :=
  List.filter_cons_of_neg (by simp [plain])

theorem dialectal_listed (parts : List (List Token)) :
    dialectal (listed parts) = parts.flatMap dialectal :=
  filter_intercalate _ _ _ rfl

theorem dialectal_qualifier (table : Option String) : dialectal (qualifier table) = [] := by
  cases table <;> rfl

theorem dialectal_negation (negated : Bool) : dialectal (negation negated) = [] := by
  cases negated <;> rfl

theorem dialectal_operator (operator : Operator) : dialectal [.space, operator.token, .space] = [] := by
  cases operator <;> rfl

theorem dialectal_alias (name : Option String) : dialectal (aliasTokens name) = [] := by
  cases name <;> rfl

theorem dialectal_table (ref : TableRef) : dialectal ref.tokens = [] :=
  dialectal_alias ref.aliasName

section

variable (dialect : Dialect)

mutual

theorem expr_dialectals (expr : Expr) : dialectal (expr.tokens dialect) = expr.dialectals := by
  cases expr with
  | column table name =>
      rw [Expr.tokens, dialectal_append, dialectal_qualifier, Expr.dialectals]
      rfl
  | star table =>
      rw [Expr.tokens, dialectal_append, dialectal_qualifier, Expr.dialectals]
      rfl
  | literal value => cases value <;> rfl
  | binary operator left right =>
      simp only [Expr.tokens, Expr.dialectals, dialectal_append, dialectal_operator,
        expr_dialectals left, expr_dialectals right, List.append_nil]
  | call function distinct arguments =>
      have called : dialectal ([.function function, .symbol .openParen] ++
          (if distinct then [.keyword .distinct, .space] else [])) = [] := by
        cases distinct <;> rfl
      rw [Expr.tokens, Expr.dialectals, dialectal_append, dialectal_append, called,
        dialectal_listed, exprs_dialectals arguments]
      exact List.append_nil _
  | among negated value choices =>
      cases choices with
      | nil => cases negated <;> rfl
      | cons choice rest =>
          have listed := exprs_dialectals (choice :: rest)
          simp only [Expr.tokens, Expr.dialectals, dialectal_append, dialectal_listed,
            dialectal_negation, expr_dialectals value, listed, List.append_nil]
          simp [dialectal, Token.isDialectal]
  | between negated value low high =>
      simp only [Expr.tokens, Expr.dialectals, dialectal_append, dialectal_negation,
        expr_dialectals value, expr_dialectals low, expr_dialectals high, List.append_nil]
      simp [dialectal, Token.isDialectal]
  | isNull negated value =>
      rw [Expr.tokens, Expr.dialectals, dialectal_append, expr_dialectals value]
      exact List.append_nil _
  | like negated caseless value pattern =>
      simp only [Expr.tokens, Expr.dialectals, dialectal_append, dialectal_negation,
        expr_dialectals value, expr_dialectals pattern, List.append_nil]
      cases caseless <;> rfl
  | paren inner =>
      rw [Expr.tokens, Expr.dialectals, List.cons_append, dialectal_cons _ _ rfl, dialectal_append,
        expr_dialectals inner]
      exact List.append_nil _

theorem exprs_dialectals (exprs : List Expr) :
    (tokensOfEach dialect exprs).flatMap dialectal = dialectalsOfEach exprs := by
  cases exprs with
  | nil => rfl
  | cons expr rest =>
      rw [tokensOfEach, List.flatMap_cons, dialectalsOfEach, expr_dialectals expr,
        exprs_dialectals rest]

end

theorem selection_dialectals (selection : Selection) :
    dialectal (selection.tokens dialect) = selection.expr.dialectals := by
  rw [Selection.tokens, dialectal_append, expr_dialectals, dialectal_alias, List.append_nil]

theorem join_dialectals (join : Join) :
    dialectal (join.tokens dialect) = join.on.dialectals := by
  simp only [Join.tokens, dialectal_append, dialectal_table, expr_dialectals]
  simp [dialectal, Token.isDialectal]

theorem ordering_dialectals (term : Ordering) :
    dialectal (term.tokens dialect) = term.expr.dialectals := by
  have direction : dialectal (directionTokens term.direction) = [] := by
    rcases term.direction with _ | _ | _ <;> rfl
  have nulls : dialectal (if dialect.placesNulls then nullTokens term.nulls else []) = [] := by
    rcases term.nulls with _ | _ | _ <;> cases dialect <;> rfl
  simp only [Ordering.tokens, dialectal_append, expr_dialectals, direction, nulls, List.append_nil]

theorem page_dialectals (page : Option Page) : dialectal (pageLine dialect page) = [] := by
  cases page with
  | none => rfl
  | some page =>
      rw [pageLine, Page.tokens, Dialect.page_tokens]
      cases page.limit <;> cases page.offset <;> rfl

theorem optional_clause_dialectals (word : Keyword) (body : Option (List Token)) :
    dialectal (optionalClause word body) = body.toList.flatMap dialectal := by
  cases body with
  | none => rfl
  | some tokens => exact (List.append_nil _).symm

theorem list_clause_dialectals (word : Keyword) (parts : List (List Token)) :
    dialectal (listClause word parts) = parts.flatMap dialectal := by
  cases parts with
  | nil => rfl
  | cons part rest => exact dialectal_listed (part :: rest)

theorem select_dialectals (selections : List Selection) :
    dialectal (selectTokens dialect selections) = selections.flatMap (·.expr.dialectals) := by
  rw [selectTokens, dialectal_cons _ _ rfl, dialectal, filter_intercalate _ _ _ rfl,
    List.flatMap_map]
  exact List.flatMap_congr fun selection _ => selection_dialectals dialect selection

theorem joins_dialectals (joins : List Join) :
    dialectal (joins.flatMap fun join => .newline :: join.tokens dialect) =
      joins.flatMap (·.on.dialectals) := by
  rw [dialectal, List.filter_flatMap]
  exact List.flatMap_congr fun join _ => join_dialectals dialect join

theorem body_dialectals (query : Query) : dialectal (query.bodyTokens dialect) =
    (query.selections.map (·.expr) ++ query.joins.map (·.on) ++ query.filter.toList ++
      query.groupBy ++ query.having.toList ++ query.orderBy.map (·.expr)).flatMap
        (·.dialectals) := by
  have tables : query.source.toList.flatMap (fun ref => dialectal ref.tokens) = [] :=
    List.flatMap_eq_nil_iff.mpr fun ref _ => dialectal_table ref
  simp only [Query.bodyTokens, dialectal_append, select_dialectals, optional_clause_dialectals,
    tables, joins_dialectals, list_clause_dialectals, page_dialectals, List.append_nil,
    List.flatMap_append, List.flatMap_map, Option.toList_map, expr_dialectals, ordering_dialectals]

mutual

theorem query_dialectals (query : Query) :
    dialectal (query.tokens dialect) = query.exprs.flatMap (·.dialectals) := by
  cases query with
  | mk withs selections source joins filter groupBy having orderBy page =>
      have named : dialectal (withClause (withParts dialect withs)) =
          (withParts dialect withs).flatMap dialectal := by
        cases withParts dialect withs with
        | nil => rfl
        | cons part rest =>
            simp only [withClause, dialectal_append]
            exact (List.append_nil _).trans (filter_intercalate _ _ _ rfl)
      rw [Query.tokens, dialectal_append, named, parts_dialectals withs, body_dialectals]
      simp only [Query.exprs, List.flatMap_append, List.append_assoc]

theorem parts_dialectals (withs : List (String × Query)) :
    (withParts dialect withs).flatMap dialectal = (exprsOfWiths withs).flatMap (·.dialectals) := by
  cases withs with
  | nil => rfl
  | cons named rest =>
      obtain ⟨name, query⟩ := named
      rw [withParts, List.flatMap_cons, exprsOfWiths, List.flatMap_append, parts_dialectals rest,
        dialectal_append, dialectal_append, query_dialectals query]
      exact congrArg (· ++ _) (List.append_nil _)

end

end

-- What the two dialects make of a query: the same tokens, each written alike or in one of the ways
-- in which the dialects differ, and these are the truth values and caseless matches of the query's
-- own expressions.
structure Query.WrittenAlike (query : Query) : Prop where
  tokens : query.tokens .postgres = query.tokens .sqlite
  texts : ∃ pieces, List.Forall₂ Token.Spelled (query.tokens .postgres) pieces ∧
    query.text .postgres = String.join (pieces.map Prod.fst) ∧
    query.text .sqlite = String.join (pieces.map Prod.snd)
  dialectals : dialectal (query.tokens .postgres) = query.exprs.flatMap (·.dialectals)
  differ : query.text .postgres ≠ query.text .sqlite ↔
    ∃ expr ∈ query.exprs, expr.dialectals ≠ []

theorem dialects_write_alike (query : Query) : query.WrittenAlike where
  tokens := tokens_shared .postgres .sqlite query
  texts := by
    refine ⟨(query.tokens .postgres).map Token.spellings, ?_, ?_, ?_⟩
    · exact List.forall₂_map_right_iff.mpr (List.forall₂_same.mpr fun token _ =>
        spellings_spelled token)
    · rw [Query.text, render, List.map_map]
      rfl
    · rw [Query.text, render, tokens_shared .sqlite .postgres, List.map_map]
      rfl
  dialectals := query_dialectals .postgres query
  differ := by
    have spread : (∀ token ∈ query.tokens .postgres, token.isDialectal = false) ↔
        ∀ expr ∈ query.exprs, expr.dialectals = [] := by
      rw [← List.flatMap_eq_nil_iff, ← query_dialectals .postgres, dialectal,
        List.filter_eq_nil_iff]
      simp
    rw [Query.text, Query.text, tokens_shared .sqlite .postgres, Ne, render_alike_iff, spread]
    simp

end StatTable.Sql
