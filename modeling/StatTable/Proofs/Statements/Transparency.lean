import StatTable.Plan.Query
import StatTable.Proofs.Statements.Plans

set_option autoImplicit false

namespace StatTable

open Sql

namespace Sql

structure Query.Transparent (dialect : Dialect) (query : Query) : Prop where
  read : lexemes (query.text dialect).toList =
    some ((query.tokens dialect).flatMap (Token.lexemes dialect))
  replaced : ∀ others, List.Forall₂ Token.Alike (query.tokens dialect) others →
    lexemes (render dialect others).toList = some (others.flatMap (Token.lexemes dialect)) ∧
      List.Forall₂ Lexeme.Alike ((query.tokens dialect).flatMap (Token.lexemes dialect))
        (others.flatMap (Token.lexemes dialect))

section

variable (dialect : Dialect) (Choices : List Expr → Prop)

theorem called_plain (function : String) (known : function ∈ calledFunctions) :
    (Token.function function).IsPlain := by
  have words : ∀ name ∈ calledFunctions, isWord (Text.uppercase name).toList = true := by decide
  exact words function known

theorem qualifier_plain (table : Option String) (last : Token) (plain : last.IsPlain) :
    Plain (qualifier table ++ [last]) := by
  cases table with
  | none => exact List.forall_mem_singleton.mpr plain
  | some table =>
      exact (plain_append _ _).mpr
        ⟨plain_of_none _ (by simp [qualifier]), List.forall_mem_singleton.mpr plain⟩

theorem negation_plain (negated : Bool) : Plain (negation negated) :=
  plain_of_none _ fun _ => by cases negated <;> simp [negation]

mutual

theorem formed_plain (expr : Expr) (formed : expr.Formed Choices) :
    Plain (expr.tokens dialect) := by
  cases expr with
  | column table name => exact qualifier_plain table _ trivial
  | star table => exact qualifier_plain table _ trivial
  | literal value =>
      exact List.forall_mem_singleton.mpr (by cases value <;> trivial)
  | binary operator left right =>
      obtain ⟨_, _, leftFormed, rightFormed⟩ := formed
      simp only [Expr.tokens, plain_append]
      refine ⟨⟨formed_plain left leftFormed, plain_of_none _ ?_⟩, formed_plain right rightFormed⟩
      cases operator <;> simp [Operator.token]
  | call function distinct arguments =>
      obtain ⟨known, each⟩ := formed
      simp only [Expr.tokens, plain_append, plain_cons]
      refine ⟨⟨⟨⟨called_plain function known, trivial, plain_nil⟩, plain_of_none _ ?_⟩,
        plain_intercalate _ _ (plain_of_none _ (by simp)) (each_plain arguments each)⟩,
        trivial, plain_nil⟩
      cases distinct <;> simp
  | among negated value choices =>
      obtain ⟨_, _, valueFormed, each⟩ := formed
      cases choices with
      | nil => exact plain_of_none _ (by simp [Expr.tokens])
      | cons choice rest =>
          simp only [Expr.tokens, plain_append]
          exact ⟨⟨⟨⟨formed_plain value valueFormed, negation_plain negated⟩,
            plain_of_none _ (by simp)⟩,
            plain_intercalate _ _ (plain_of_none _ (by simp)) (each_plain (choice :: rest) each)⟩,
            plain_of_none _ (by simp)⟩
  | between negated value low high =>
      obtain ⟨_, _, _, valueFormed, lowFormed, highFormed⟩ := formed
      simp only [Expr.tokens, plain_append]
      exact ⟨⟨⟨⟨⟨formed_plain value valueFormed, negation_plain negated⟩,
        plain_of_none _ (by simp)⟩, formed_plain low lowFormed⟩, plain_of_none _ (by simp)⟩,
        formed_plain high highFormed⟩
  | isNull negated value =>
      exact (plain_append _ _).mpr ⟨formed_plain value formed.2, plain_of_none _ (by simp)⟩
  | like negated caseless value pattern =>
      obtain ⟨_, _, valueFormed, patternFormed⟩ := formed
      simp only [Expr.tokens, plain_append]
      refine ⟨⟨⟨formed_plain value valueFormed, negation_plain negated⟩, plain_of_none _ ?_⟩,
        formed_plain pattern patternFormed⟩
      cases caseless <;> simp
  | paren inner =>
      simp only [Expr.tokens, plain_append, plain_cons]
      exact ⟨⟨trivial, formed_plain inner formed⟩, trivial, plain_nil⟩

theorem each_plain (exprs : List Expr) (formed : EachFormed Choices exprs) :
    ∀ part ∈ tokensOfEach dialect exprs, Plain part := by
  cases exprs with
  | nil => simp [tokensOfEach]
  | cons expr rest =>
      rw [tokensOfEach, List.forall_mem_cons]
      exact ⟨formed_plain expr formed.1, each_plain rest formed.2⟩

end

theorem query_transparent (query : Query)
    (formed : ∀ expr ∈ query.exprs, expr.Formed Choices) : query.Transparent dialect := by
  have meeting := query_meeting dialect query
  have plain := query_plain dialect query fun expr member =>
    formed_plain dialect Choices expr (formed expr member)
  exact ⟨render_lexemes dialect _ meeting plain, fun others alike =>
    ⟨render_lexemes dialect others (alike_meeting _ _ alike meeting) (alike_plain _ _ alike plain),
      alike_flat_lexemes dialect _ _ alike⟩⟩

end

end Sql

namespace Plan

theorem compiled_transparent (defaults : Defaults) (limits : Limits) (state : TableState)
    (plan : QueryPlan) (dialect : Dialect) (ok : compile defaults limits state = .ok plan) :
    plan.query.Transparent dialect := by
  have formed := compile_formed (fun _ => True) defaults limits state plan ok fun bindings _ =>
    { params := fun _ _ _ value _ => by cases value <;> trivial
      filters := fun _ _ _ => trivial }
  exact query_transparent dialect _ plan.query (query_formed _ plan formed)

def quotedNames : TableState :=
  { TableState.empty with
    filters := [⟨"player_name", .like, some (.scalar (.text "'' OR 1 = 1 --\n\\\"")), .empty⟩] }

def quotedNamesPlan : QueryPlan :=
  (compile .standard .usual quotedNames).toOption.getD ⟨[], ⟨"", none⟩, [], [], [], [], [], 0, 0⟩

theorem quoted_names_transparent : compile .standard .usual quotedNames = .ok quotedNamesPlan ∧
    .string "'' OR 1 = 1 --\n\\\"" ∈ quotedNamesPlan.query.tokens .sqlite ∧
      quotedNamesPlan.query.Transparent .sqlite := by
  have ok : compile .standard .usual quotedNames = .ok quotedNamesPlan :=
    ok_of_is_ok _ _ (by decide +kernel)
  exact ⟨ok, by decide +kernel, compiled_transparent .standard .usual quotedNames quotedNamesPlan
    .sqlite ok⟩

end Plan

end StatTable
