import StatTable.Proofs.Sql.Quoting

set_option autoImplicit false

namespace StatTable.Sql

def Starts (tokens : List Token) : Prop := ∀ token ∈ tokens.head?, token.separates = true

theorem starts_nil : Starts [] := fun _ held => by cases held

theorem starts_cons (token : Token) (rest : List Token) (separates : token.separates = true) :
    Starts (token :: rest) := by
  intro other held
  rwa [← Option.some.inj held]

theorem meeting_joined (left right : List Token) (first : Meeting left) (second : Meeting right)
    (starts : Starts right) : Meeting (left ++ right) :=
  first.append second fun _ _ next held => .inr (.inl (starts next held))

theorem alias_starts (name : Option String) : Starts (aliasTokens name) := by
  cases name with
  | none => exact starts_nil
  | some name => exact starts_cons _ _ rfl

theorem alias_meeting (name : Option String) : Meeting (aliasTokens name) := by
  cases name with
  | none => exact List.isChain_nil
  | some name =>
      exact meeting_infix (.keyword .as) [] [.identifier name] List.isChain_nil
        (List.isChain_singleton _)

theorem selection_meeting (dialect : Dialect) (selection : Selection) :
    Meeting (selection.tokens dialect) :=
  meeting_joined _ _ (expr_meeting dialect selection.expr) (alias_meeting _) (alias_starts _)

theorem table_meeting (ref : TableRef) : Meeting ref.tokens :=
  meeting_joined [.identifier ref.table] _ (List.isChain_singleton _) (alias_meeting _)
    (alias_starts _)

theorem join_meeting (dialect : Dialect) (join : Join) : Meeting (join.tokens dialect) := by
  have tied := meeting_infix (.keyword .on) _ _ (table_meeting join.table)
    (expr_meeting dialect join.on)
  have joined := meeting_infix (.keyword .join) [.keyword join.kind.keyword] _
    (List.isChain_singleton _) tied
  simp only [Join.tokens, List.append_assoc]
  exact joined

theorem direction_meeting (direction : Option Direction) (nulls : List Token)
    (meeting : Meeting nulls) (starts : Starts nulls) : Meeting (directionTokens direction ++ nulls) ∧
      Starts (directionTokens direction ++ nulls) := by
  cases direction with
  | none => exact ⟨meeting, starts⟩
  | some direction =>
      cases direction <;> exact ⟨meeting_opened _ _ rfl (meeting_joined [_] nulls
        (List.isChain_singleton _) meeting starts), starts_cons _ _ rfl⟩

theorem null_meeting (dialect : Dialect) (nulls : Option NullPlace) :
    Meeting (if dialect.placesNulls then nullTokens nulls else []) ∧
      Starts (if dialect.placesNulls then nullTokens nulls else []) := by
  cases dialect.placesNulls with
  | false => exact ⟨List.isChain_nil, starts_nil⟩
  | true =>
      cases nulls with
      | none => exact ⟨List.isChain_nil, starts_nil⟩
      | some place =>
          cases place <;> exact ⟨meeting_opened _ _ rfl (List.isChain_singleton _),
            starts_cons _ _ rfl⟩

theorem ordering_meeting (dialect : Dialect) (term : Ordering) : Meeting (term.tokens dialect) := by
  obtain ⟨nulls, nullStarts⟩ := null_meeting dialect term.nulls
  obtain ⟨placed, starts⟩ := direction_meeting term.direction _ nulls nullStarts
  rw [Ordering.tokens, List.append_assoc]
  exact meeting_joined _ _ (expr_meeting dialect term.expr) placed starts

theorem clause_meeting (word : Keyword) (body : List Token) (meeting : Meeting body) :
    Meeting (clause word body) :=
  meeting_opened _ _ rfl (meeting_before _ _ _ rfl (meeting_opened _ _ rfl meeting))

theorem optional_clause_meeting (word : Keyword) (body : Option (List Token))
    (meeting : ∀ tokens ∈ body, Meeting tokens) :
    Meeting (optionalClause word body) ∧ Starts (optionalClause word body) := by
  cases body with
  | none => exact ⟨List.isChain_nil, starts_nil⟩
  | some tokens => exact ⟨clause_meeting word tokens (meeting tokens rfl), starts_cons _ _ rfl⟩

theorem list_clause_meeting (word : Keyword) (parts : List (List Token))
    (each : ∀ part ∈ parts, Meeting part) :
    Meeting (listClause word parts) ∧ Starts (listClause word parts) := by
  cases parts with
  | nil => exact ⟨List.isChain_nil, starts_nil⟩
  | cons part rest => exact ⟨clause_meeting word _ (meeting_listed _ each), starts_cons _ _ rfl⟩

theorem count_meeting (word : Keyword) (count : UInt64) : Meeting (countTokens word count) :=
  meeting_before _ _ _ rfl (meeting_opened _ _ rfl (List.isChain_singleton _))

theorem page_meeting (limit offset : Option UInt64) : Meeting (pageTokens limit offset) := by
  cases limit with
  | none =>
      cases offset with
      | none => exact List.isChain_nil
      | some offset => exact count_meeting _ _
  | some limit =>
      cases offset with
      | none => exact count_meeting _ _
      | some offset =>
          exact meeting_closed _ .space _ rfl (count_meeting _ _)
            (meeting_opened _ _ rfl (count_meeting _ _))

theorem page_line_meeting (dialect : Dialect) (page : Option Page) :
    Meeting (pageLine dialect page) ∧ Starts (pageLine dialect page) := by
  cases page with
  | none => exact ⟨List.isChain_nil, starts_nil⟩
  | some page =>
      rw [pageLine, Page.tokens, Dialect.page_tokens]
      exact ⟨meeting_opened _ _ rfl (page_meeting _ _), starts_cons _ _ rfl⟩

theorem joins_meeting (dialect : Dialect) (joins : List Join) :
    Meeting (joins.flatMap fun join => .newline :: join.tokens dialect) ∧
      Starts (joins.flatMap fun join => .newline :: join.tokens dialect) := by
  induction joins with
  | nil => exact ⟨List.isChain_nil, starts_nil⟩
  | cons join rest ih =>
      exact ⟨meeting_joined _ _ (meeting_opened _ _ rfl (join_meeting dialect join)) ih.1 ih.2,
        starts_cons _ _ rfl⟩

theorem select_meeting (dialect : Dialect) (selections : List Selection) :
    Meeting (selectTokens dialect selections) := by
  rw [selectTokens]
  cases selections with
  | nil => exact List.isChain_singleton _
  | cons selection rest =>
      have parts : ∀ part ∈ (selection :: rest).map fun selection =>
          [Token.newline, .indent 1] ++ selection.tokens dialect, Meeting part := by
        intro part member
        obtain ⟨other, _, rfl⟩ := List.mem_map.mp member
        exact meeting_all_opened [.newline, .indent 1] _ (by decide) (selection_meeting dialect other)
      have listed := meeting_intercalate (.symbol .comma) [] rfl (by decide) _ parts
      rw [List.map_cons, List.cons_append, List.intercalate_cons_cons_left] at listed ⊢
      exact meeting_before _ _ _ rfl listed

theorem meeting_clauses (first : List Token) (clauses : List (List Token)) (meeting : Meeting first)
    (each : ∀ tokens ∈ clauses, Meeting tokens ∧ Starts tokens) :
    Meeting (clauses.foldl (· ++ ·) first) := by
  induction clauses generalizing first with
  | nil => exact meeting
  | cons tokens rest ih =>
      obtain ⟨own, starts⟩ := each tokens List.mem_cons_self
      exact ih _ (meeting_joined first tokens meeting own starts) fun other member =>
        each other (List.mem_cons_of_mem _ member)

theorem each_tokens {α : Type} (tokens : α → List Token) (meeting : ∀ a, Meeting (tokens a))
    (items : List α) : ∀ part ∈ items.map tokens, Meeting part := by
  intro part member
  obtain ⟨a, _, rfl⟩ := List.mem_map.mp member
  exact meeting a

theorem optional_tokens {α : Type} (tokens : α → List Token) (meeting : ∀ a, Meeting (tokens a))
    (item : Option α) : ∀ part ∈ item.map tokens, Meeting part := by
  intro part member
  obtain ⟨a, _, rfl⟩ := Option.map_eq_some_iff.mp member
  exact meeting a

theorem body_meeting (dialect : Dialect) (query : Query) : Meeting (query.bodyTokens dialect) := by
  refine meeting_clauses (selectTokens dialect query.selections) [_, _, _, _, _, _, _]
    (select_meeting dialect query.selections) ?_
  simp only [List.forall_mem_cons]
  exact ⟨optional_clause_meeting _ _ (optional_tokens _ table_meeting _),
    joins_meeting dialect query.joins,
    optional_clause_meeting _ _ (optional_tokens _ (expr_meeting dialect) _),
    list_clause_meeting _ _ (each_tokens _ (expr_meeting dialect) _),
    optional_clause_meeting _ _ (optional_tokens _ (expr_meeting dialect) _),
    list_clause_meeting _ _ (each_tokens _ (ordering_meeting dialect) _),
    page_line_meeting dialect query.page, by simp⟩

theorem with_clause_meeting (parts : List (List Token)) (each : ∀ part ∈ parts, Meeting part)
    (body : List Token) (meeting : Meeting body) : Meeting (withClause parts ++ body) := by
  cases parts with
  | nil => exact meeting
  | cons part rest =>
      have listed := meeting_intercalate (.symbol .comma) [.newline] rfl (by decide) _ each
      have whole := meeting_closed _ .newline body rfl listed (meeting_opened _ _ rfl meeting)
      simp only [withClause, List.append_assoc]
      exact meeting_before _ _ _ rfl (meeting_opened _ _ rfl whole)

mutual

theorem query_meeting (dialect : Dialect) (query : Query) : Meeting (query.tokens dialect) := by
  cases query with
  | mk withs selections source joins filter groupBy having orderBy page =>
      rw [Query.tokens]
      exact with_clause_meeting _ (with_parts_meeting dialect withs) _ (body_meeting dialect _)

theorem with_parts_meeting (dialect : Dialect) (withs : List (String × Query)) :
    ∀ part ∈ withParts dialect withs, Meeting part := by
  cases withs with
  | nil => simp [withParts]
  | cons named rest =>
      obtain ⟨name, query⟩ := named
      rw [withParts, List.forall_mem_cons]
      refine ⟨?_, with_parts_meeting dialect rest⟩
      have inner := meeting_closed _ .newline [.symbol .closeParen] rfl (query_meeting dialect query)
        (meeting_opened _ _ rfl (List.isChain_singleton _))
      have called := meeting_infix (.keyword .as) [.identifier name] _ (List.isChain_singleton _)
        (meeting_opened (.symbol .openParen) _ rfl (meeting_opened .newline _ rfl inner))
      simpa using called

end

mutual

def Query.exprs : Query → List Expr
  | ⟨withs, selections, _, joins, filter, groupBy, having, orderBy, _⟩ =>
      exprsOfWiths withs ++ selections.map (·.expr) ++ joins.map (·.on) ++ filter.toList ++ groupBy ++
        having.toList ++ orderBy.map (·.expr)

def exprsOfWiths : List (String × Query) → List Expr
  | [] => []
  | (_, query) :: rest => query.exprs ++ exprsOfWiths rest

end

def Plain (tokens : List Token) : Prop := ∀ token ∈ tokens, token.IsPlain

theorem plain_nil : Plain [] := fun _ member => absurd member List.not_mem_nil

theorem plain_cons (token : Token) (rest : List Token) :
    Plain (token :: rest) ↔ token.IsPlain ∧ Plain rest := List.forall_mem_cons

theorem plain_append (left right : List Token) :
    Plain (left ++ right) ↔ Plain left ∧ Plain right := List.forall_mem_append

theorem plain_intercalate (gap : List Token) (parts : List (List Token)) (between : Plain gap)
    (each : ∀ part ∈ parts, Plain part) : Plain (List.intercalate gap parts) := by
  induction parts with
  | nil => exact plain_nil
  | cons part rest ih =>
      have others := ih fun other member => each other (List.mem_cons_of_mem _ member)
      have own := each part List.mem_cons_self
      cases rest with
      | nil => rwa [List.intercalate_singleton]
      | cons second rest =>
          rw [List.intercalate_cons_cons, plain_append, plain_append]
          exact ⟨⟨own, between⟩, others⟩

theorem plain_map {α : Type} (tokens : α → List Token) (items : List α) :
    (∀ part ∈ items.map tokens, Plain part) ↔ ∀ a ∈ items, Plain (tokens a) := List.forall_mem_map

theorem plain_of_none (tokens : List Token) (none : ∀ name, .function name ∉ tokens) :
    Plain tokens := by
  intro token member
  cases token with
  | function name => exact absurd member (none name)
  | _ => trivial

theorem alias_plain (name : Option String) : Plain (aliasTokens name) :=
  plain_of_none _ fun _ => by cases name <;> simp [aliasTokens]

theorem table_plain (ref : TableRef) : Plain ref.tokens :=
  (plain_cons _ _).mpr ⟨trivial, alias_plain _⟩

theorem clause_plain (word : Keyword) (body : List Token) (plain : Plain body) :
    Plain (clause word body) :=
  (plain_append _ _).mpr ⟨plain_of_none _ (by simp), plain⟩

theorem optional_clause_plain (word : Keyword) (body : Option (List Token))
    (plain : ∀ tokens ∈ body, Plain tokens) : Plain (optionalClause word body) := by
  cases body with
  | none => exact plain_nil
  | some tokens => exact clause_plain word tokens (plain tokens rfl)

theorem list_clause_plain (word : Keyword) (parts : List (List Token))
    (each : ∀ part ∈ parts, Plain part) : Plain (listClause word parts) := by
  cases parts with
  | nil => exact plain_nil
  | cons part rest =>
      exact clause_plain word _ (plain_intercalate _ _ (plain_of_none _ (by simp)) each)

theorem selections_plain (dialect : Dialect) (selections : List Selection)
    (each : ∀ selection ∈ selections, Plain (selection.expr.tokens dialect)) :
    Plain (selectTokens dialect selections) := by
  refine (plain_cons _ _).mpr ⟨trivial, plain_intercalate _ _ (plain_of_none _ (by simp)) ?_⟩
  refine (plain_map _ _).mpr fun selection member => (plain_append _ _).mpr
    ⟨plain_of_none _ (by simp), (plain_append _ _).mpr ⟨each selection member, alias_plain _⟩⟩

theorem joins_plain (dialect : Dialect) (joins : List Join)
    (each : ∀ join ∈ joins, Plain (join.on.tokens dialect)) :
    Plain (joins.flatMap fun join => .newline :: join.tokens dialect) := by
  intro token member
  obtain ⟨join, listed, held⟩ := List.mem_flatMap.mp member
  have own : Plain (.newline :: join.tokens dialect) := by
    simp only [Join.tokens, plain_cons, plain_append]
    exact ⟨trivial, ⟨⟨⟨trivial, trivial, trivial, trivial, plain_nil⟩, table_plain _⟩,
      trivial, trivial, trivial, plain_nil⟩, each join listed⟩
  exact own token held

theorem ordering_plain (dialect : Dialect) (term : Ordering)
    (plain : Plain (term.expr.tokens dialect)) : Plain (term.tokens dialect) := by
  simp only [Ordering.tokens, plain_append]
  refine ⟨⟨plain, plain_of_none _ fun _ => ?_⟩, plain_of_none _ fun _ => ?_⟩
  · cases term.direction with
    | none => simp [directionTokens]
    | some direction => cases direction <;> simp [directionTokens]
  · cases dialect.placesNulls with
    | false => simp
    | true =>
        cases term.nulls with
        | none => simp [nullTokens]
        | some place => cases place <;> simp [nullTokens]

theorem with_clause_plain (parts : List (List Token)) (each : ∀ part ∈ parts, Plain part) :
    Plain (withClause parts) := by
  cases parts with
  | nil => exact plain_nil
  | cons part rest =>
      simp only [withClause, plain_append]
      exact ⟨⟨plain_of_none _ (by simp), plain_intercalate _ _ (plain_of_none _ (by simp)) each⟩,
        plain_of_none _ (by simp)⟩

theorem page_plain (limit offset : Option UInt64) : Plain (pageTokens limit offset) :=
  plain_of_none _ fun _ => by cases limit <;> cases offset <;> simp [pageTokens, countTokens]

theorem page_line_plain (dialect : Dialect) (page : Option Page) : Plain (pageLine dialect page) := by
  cases page with
  | none => exact plain_nil
  | some page =>
      rw [pageLine, Page.tokens, Dialect.page_tokens]
      exact (plain_cons _ _).mpr ⟨trivial, page_plain _ _⟩

mutual

theorem query_plain (dialect : Dialect) (query : Query)
    (each : ∀ expr ∈ query.exprs, Plain (expr.tokens dialect)) : Plain (query.tokens dialect) := by
  cases query with
  | mk withs selections source joins filter groupBy having orderBy page =>
      simp only [Query.exprs, List.forall_mem_append, List.forall_mem_map] at each
      obtain ⟨⟨⟨⟨⟨⟨inner, selected⟩, joined⟩, filtered⟩, grouped⟩, kept⟩, ordered⟩ := each
      simp only [Query.tokens, Query.bodyTokens, plain_append]
      refine ⟨with_clause_plain _ (with_parts_plain dialect withs inner),
        ⟨⟨⟨⟨⟨⟨selections_plain _ _ selected, optional_clause_plain _ _ ?_⟩, joins_plain _ _ joined⟩,
          optional_clause_plain _ _ ?_⟩, list_clause_plain _ _ ((plain_map _ _).mpr grouped)⟩,
          optional_clause_plain _ _ ?_⟩, list_clause_plain _ _ ((plain_map _ _).mpr ?_)⟩,
          page_line_plain dialect page⟩
      · intro tokens held
        obtain ⟨ref, _, rfl⟩ := Option.map_eq_some_iff.mp held
        exact table_plain ref
      · intro tokens held
        obtain ⟨expr, given, rfl⟩ := Option.map_eq_some_iff.mp held
        exact filtered expr (Option.mem_toList.mpr given)
      · intro tokens held
        obtain ⟨expr, given, rfl⟩ := Option.map_eq_some_iff.mp held
        exact kept expr (Option.mem_toList.mpr given)
      · exact fun term member => ordering_plain dialect term (ordered term member)

theorem with_parts_plain (dialect : Dialect) (withs : List (String × Query))
    (each : ∀ expr ∈ exprsOfWiths withs, Plain (expr.tokens dialect)) :
    ∀ part ∈ withParts dialect withs, Plain part := by
  cases withs with
  | nil => simp [withParts]
  | cons named rest =>
      obtain ⟨name, query⟩ := named
      rw [exprsOfWiths, List.forall_mem_append] at each
      rw [withParts, List.forall_mem_cons]
      refine ⟨?_, with_parts_plain dialect rest each.2⟩
      simp only [plain_append]
      exact ⟨⟨plain_of_none _ (by simp), query_plain dialect query each.1⟩,
        plain_of_none _ (by simp)⟩

end

-- Tokens that differ at most in what they quote.
inductive Token.Alike : Token → Token → Prop where
  | same (token : Token) : Alike token token
  | strings (one other : String) : Alike (.string one) (.string other)
  | identifiers (one other : String) : Alike (.identifier one) (.identifier other)

inductive Lexeme.Alike : Lexeme → Lexeme → Prop where
  | same (lexeme : Lexeme) : Alike lexeme lexeme
  | strings (one other : String) : Alike (.string one) (.string other)
  | identifiers (one other : String) : Alike (.identifier one) (.identifier other)

theorem alike_lexemes (dialect : Dialect) (one other : Token) (alike : one.Alike other) :
    List.Forall₂ Lexeme.Alike (one.lexemes dialect) (other.lexemes dialect) := by
  cases alike with
  | same => exact List.forall₂_same.mpr fun lexeme _ => .same lexeme
  | strings one other => exact .cons (.strings one other) .nil
  | identifiers one other => exact .cons (.identifiers one other) .nil

theorem alike_plain (one other : List Token) (alike : List.Forall₂ Token.Alike one other)
    (plain : Plain one) : Plain other := by
  induction alike with
  | nil => exact plain_nil
  | cons first _ ih =>
      obtain ⟨own, rest⟩ := (plain_cons _ _).mp plain
      refine (plain_cons _ _).mpr ⟨?_, ih rest⟩
      cases first with
      | same => exact own
      | strings => trivial
      | identifiers => trivial

theorem alike_meets (a b c d : Token) (first : a.Alike b) (second : c.Alike d) (meets : a.Meets c) :
    b.Meets d := by
  have opened : b.isOpen = a.isOpen := by cases first <;> rfl
  have named : b.isIdentifier = a.isIdentifier := by cases first <;> rfl
  have separates : d.separates = c.separates := by cases second <;> rfl
  rw [Token.Meets, opened, named, separates]
  rcases meets with open_ | apart | ⟨identifier, rfl⟩
  · exact .inl open_
  · exact .inr (.inl apart)
  · cases second
    exact .inr (.inr ⟨identifier, rfl⟩)

theorem alike_meeting (one other : List Token) (alike : List.Forall₂ Token.Alike one other)
    (meeting : Meeting one) : Meeting other := by
  induction alike with
  | nil => exact List.isChain_nil
  | cons first rest ih =>
      have others := ih meeting.tail
      cases rest with
      | nil => exact List.isChain_singleton _
      | cons second _ =>
          exact List.isChain_cons_cons.mpr
            ⟨alike_meets _ _ _ _ first second (List.isChain_cons_cons.mp meeting).1, others⟩

theorem alike_flat_lexemes (dialect : Dialect) (one other : List Token)
    (alike : List.Forall₂ Token.Alike one other) :
    List.Forall₂ Lexeme.Alike (one.flatMap (Token.lexemes dialect))
      (other.flatMap (Token.lexemes dialect)) := by
  induction alike with
  | nil => exact .nil
  | cons first _ ih =>
      rw [List.flatMap_cons, List.flatMap_cons]
      exact List.rel_append (alike_lexemes dialect _ _ first) ih

end StatTable.Sql
