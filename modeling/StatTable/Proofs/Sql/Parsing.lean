import StatTable.Proofs.Sql.Precedence

set_option autoImplicit false

namespace StatTable.Sql

def Expr.level : Expr → Nat
  | .binary operator .. => operator.level
  | .among .. | .between .. | .isNull .. | .like .. => testLevel
  | .column .. | .literal _ | .call .. | .star _ | .paren _ => 7

def calledFunctions : List String := ["SUM", "COUNT", "COALESCE", "NULLIF"]

mutual

-- Each part binds tighter than what it is a part of; the left one of two may bind as tightly.
def Expr.Formed (Choices : List Expr → Prop) : Expr → Prop
  | .column .. | .literal _ | .star _ => True
  | .binary operator left right => operator.level ≤ left.level ∧ operator.level < right.level ∧
      left.Formed Choices ∧ right.Formed Choices
  | .call function _ arguments => function ∈ calledFunctions ∧ EachFormed Choices arguments
  | .among _ value choices => testLevel ≤ value.level ∧ Choices choices ∧ value.Formed Choices ∧
      EachFormed Choices choices
  | .between _ value low high => testLevel ≤ value.level ∧ testLevel < low.level ∧
      testLevel < high.level ∧ value.Formed Choices ∧ low.Formed Choices ∧ high.Formed Choices
  | .isNull _ value => testLevel ≤ value.level ∧ value.Formed Choices
  | .like _ _ value pattern => testLevel ≤ value.level ∧ testLevel < pattern.level ∧
      value.Formed Choices ∧ pattern.Formed Choices
  | .paren inner => inner.Formed Choices

def EachFormed (Choices : List Expr → Prop) : List Expr → Prop
  | [] => True
  | expr :: rest => expr.Formed Choices ∧ EachFormed Choices rest

end

def Expr.words (dialect : Dialect) (expr : Expr) : List Token := dense (expr.tokens dialect)

def listWords (dialect : Dialect) (exprs : List Expr) : List Token :=
  dense (listed (tokensOfEach dialect exprs))

structure Ends (level : Nat) (rest : List Token) : Prop where
  link : ∀ link after, link? rest = some (link, after) → link.level < level
  dot : ∀ after, rest ≠ .symbol .dot :: after

def Settles {α : Type} (parse : Nat → Option α) (enough : Nat) (result : α) : Prop :=
  ∀ fuel, enough ≤ fuel → parse fuel = some result

section

variable {α : Type} (parse : Nat → Option α) (enough : Nat) (result : α)

theorem settles_more (more : Nat) (settles : Settles parse enough result) (later : enough ≤ more) :
    Settles parse more result := fun fuel bound => settles fuel (Nat.le_trans later bound)

theorem settles_succ (each : ∀ fuel, enough ≤ fuel → parse (fuel + 1) = some result) :
    Settles parse (enough + 1) result := by
  intro fuel bound
  obtain ⟨less, rfl⟩ := Nat.exists_eq_add_of_le' (Nat.le_trans (Nat.le_add_left 1 enough) bound)
  exact each less (by omega)

end

theorem ends_mono (low high : Nat) (rest : List Token) (ends : Ends low rest) (le : low ≤ high) :
    Ends high rest :=
  ⟨fun link after read => Nat.lt_of_lt_of_le (ends.link link after read) le, ends.dot⟩

theorem tail_settles (level : Nat) (left : Expr) (rest : List Token) (ends : Ends level rest) :
    Settles (parseTail · level left rest) 1 (left, rest) := by
  refine settles_succ _ 0 _ fun fuel _ => ?_
  rw [parseTail]
  cases read : link? rest with
  | none => rfl
  | some entry =>
      obtain ⟨link, after⟩ := entry
      exact if_pos (ends.link link after read)

theorem expr_settles (level first last : Nat) (tokens rest : List Token) (left : Expr)
    (result : Expr × List Token) (operand : Settles (parseOperand · tokens) first (left, rest))
    (tail : Settles (parseTail · level left rest) last result) :
    Settles (parseExpr · level tokens) (max first last + 1) result := by
  refine settles_succ _ _ _ fun fuel bound => ?_
  simp only [parseExpr, operand fuel (by omega), Option.bind_eq_bind, Option.bind_some]
  exact tail fuel (by omega)

theorem link_settles (level first last : Nat) (link : Link) (left whole : Expr)
    (tokens after rest : List Token) (result : Expr × List Token)
    (read : link? tokens = some (link, after)) (binds : level ≤ link.level)
    (linked : Settles (parseLink · link left after) first (whole, rest))
    (tail : Settles (parseTail · level whole rest) last result) :
    Settles (parseTail · level left tokens) (max first last + 1) result := by
  refine settles_succ _ _ _ fun fuel bound => ?_
  simp only [parseTail, read, if_neg (Nat.not_lt.mpr binds), linked fuel (by omega),
    Option.bind_eq_bind, Option.bind_some]
  exact tail fuel (by omega)

-- An expression that is read back in front of anything that may follow it: reading goes on with the
-- expression as what stands on the left.
def Expr.ReadsBack (dialect : Dialect) (expr : Expr) : Prop :=
  ∀ (level : Nat) (rest : List Token) (enough : Nat) (result : Expr × List Token),
    level ≤ expr.level → Ends (expr.level + 1) rest →
    Settles (parseTail · level expr rest) enough result →
      Settles (parseExpr · level (expr.words dialect ++ rest))
        (enough + 4 * (expr.words dialect).length) result

section

variable {dialect : Dialect}

theorem whole_settles (expr : Expr) (back : expr.ReadsBack dialect) (level : Nat)
    (rest : List Token) (binds : level ≤ expr.level) (ends : Ends level rest) :
    Settles (parseExpr · level (expr.words dialect ++ rest))
      (4 * (expr.words dialect).length + 1) (expr, rest) := by
  have settles := back level rest 1 _ binds (ends_mono _ _ rest ends (by omega))
    (tail_settles level expr rest ends)
  rwa [Nat.add_comm] at settles

theorem operand_back (expr : Expr) (enough : Nat) (short : enough < 4 * (expr.words dialect).length)
    (operand : ∀ rest, Ends (expr.level + 1) rest →
      Settles (parseOperand · (expr.words dialect ++ rest)) enough (expr, rest)) :
    expr.ReadsBack dialect := by
  intro level rest more result _ ends tail
  exact settles_more _ _ _ _
    (expr_settles level enough more _ rest expr result (operand rest ends) tail) (by omega)

theorem dense_append (left right : List Token) : dense (left ++ right) = dense left ++ dense right :=
  List.filter_append _ _

theorem column_back (table : Option String) (name : String) :
    (Expr.column table name).ReadsBack dialect := by
  cases table with
  | some table => exact operand_back _ 1 (show 1 < 4 * 3 by decide) fun rest _ =>
      settles_succ _ 0 _ fun fuel _ => rfl
  | none =>
      refine operand_back _ 1 (show 1 < 4 * 1 by decide) fun rest ends =>
        settles_succ _ 0 _ fun fuel _ => ?_
      have words : (Expr.column none name).words dialect ++ rest = .identifier name :: rest :=
        rfl
      rw [words, parseOperand]
      · exact fun _ _ same => ends.dot _ same
      · exact fun _ same => ends.dot _ same

theorem star_back (table : Option String) : (Expr.star table).ReadsBack dialect := by
  cases table with
  | some table => exact operand_back _ 1 (show 1 < 4 * 3 by decide) fun rest _ =>
      settles_succ _ 0 _ fun fuel _ => rfl
  | none => exact operand_back _ 1 (show 1 < 4 * 1 by decide) fun rest _ =>
      settles_succ _ 0 _ fun fuel _ => rfl

theorem literal_back (value : Literal) : (Expr.literal value).ReadsBack dialect := by
  refine operand_back _ 1 ?_ fun rest _ => settles_succ _ 0 _ fun fuel _ => ?_
  · cases value <;> exact (show 1 < 4 * 1 by decide)
  · cases value <;> rfl

theorem close_ends (level : Nat) (rest : List Token) :
    Ends level (.symbol .closeParen :: rest) where
  link := fun link after read => by cases read
  dot := fun after same => by cases same

theorem nothing_ends (level : Nat) : Ends level [] where
  link := fun link after read => by cases read
  dot := fun after same => by cases same

theorem comma_ends (level : Nat) (rest : List Token) : Ends level (.symbol .comma :: rest) where
  link := fun link after read => by cases read
  dot := fun after same => by cases same

theorem paren_words (inner : Expr) :
    (Expr.paren inner).words dialect =
      .symbol .openParen :: (inner.words dialect ++ [.symbol .closeParen]) := by
  simp [Expr.words, Expr.tokens, dense, Token.isBlank]

theorem level_positive (expr : Expr) : 1 ≤ expr.level := by
  cases expr with
  | binary operator => cases operator <;> simp [Expr.level, Operator.level]
  | _ => simp [Expr.level, testLevel]

theorem paren_back (inner : Expr) (back : inner.ReadsBack dialect) :
    (Expr.paren inner).ReadsBack dialect := by
  have length : ((Expr.paren inner).words dialect).length = (inner.words dialect).length + 2 := by
    simp [paren_words]
  refine operand_back _ (4 * (inner.words dialect).length + 1 + 1) (by omega) fun rest _ =>
    settles_succ _ _ _ fun fuel bound => ?_
  have read := whole_settles inner back 1 (.symbol .closeParen :: rest) (level_positive inner)
    (close_ends 1 rest) fuel bound
  rw [paren_words, List.cons_append, List.append_assoc]
  simp only [parseOperand, List.cons_append, List.nil_append, read, Option.bind_eq_bind,
    Option.bind_some, expect, if_pos]

theorem list_words_single (expr : Expr) : listWords dialect [expr] = expr.words dialect := by
  rw [listWords, tokensOfEach, tokensOfEach, listed, List.intercalate_singleton, Expr.words]

theorem list_words_cons (first second : Expr) (rest : List Expr) :
    listWords dialect (first :: second :: rest) =
      first.words dialect ++ .symbol .comma :: listWords dialect (second :: rest) := by
  simp only [listWords, listed, tokensOfEach, List.intercalate_cons_cons, dense_append,
    List.append_assoc]
  rfl

theorem list_back (first : Expr) (others : List Expr)
    (each : ∀ expr ∈ first :: others, expr.ReadsBack dialect) (rest : List Token) :
    Settles (parseList · (listWords dialect (first :: others) ++ .symbol .closeParen :: rest))
      (4 * (listWords dialect (first :: others)).length + 2) (first :: others, rest) := by
  induction others generalizing first with
  | nil =>
      rw [list_words_single]
      refine settles_succ _ _ _ fun fuel bound => ?_
      have read := whole_settles first (each first List.mem_cons_self) 1
        (.symbol .closeParen :: rest) (level_positive first) (close_ends 1 rest) fuel bound
      simp only [parseList, read, Option.bind_eq_bind, Option.bind_some]
  | cons second others ih =>
      have tail := ih second fun expr member => each expr (List.mem_cons_of_mem _ member)
      rw [list_words_cons, List.append_assoc, List.cons_append, List.length_append,
        List.length_cons]
      refine settles_succ _ _ _ fun fuel bound => ?_
      have read := whole_settles first (each first List.mem_cons_self) 1
        (.symbol .comma :: (listWords dialect (second :: others) ++ .symbol .closeParen :: rest))
        (level_positive first) (comma_ends 1 _) fuel (by omega)
      simp only [parseList, read, tail fuel (by omega), Option.bind_eq_bind, Option.bind_some]

theorem list_starts (token : Token) (tokens : List Token) (enough : Nat)
    (result : List Expr × List Token)
    (never : ∀ fuel, parseOperand fuel (token :: tokens) = none) :
    ¬ Settles (parseList · (token :: tokens)) enough result := by
  intro settles
  have none (fuel : Nat) : parseExpr fuel 1 (token :: tokens) = none := by
    cases fuel with
    | zero => rfl
    | succ fuel => simp only [parseExpr, never, Option.bind_eq_bind, Option.bind_none]
  have read := settles (enough + 1) (Nat.le_succ _)
  simp only [parseList, none, Option.bind_eq_bind, Option.bind_none] at read
  cases read

theorem close_never (rest : List Token) (fuel : Nat) :
    parseOperand fuel (.symbol .closeParen :: rest) = none := by
  cases fuel <;> rfl

theorem distinct_never (rest : List Token) (fuel : Nat) :
    parseOperand fuel (.keyword .distinct :: rest) = none := by
  cases fuel <;> rfl

theorem arguments_settle (tokens : List Token) (enough : Nat) (result : List Expr × List Token)
    (settles : Settles (parseList · tokens) enough result) :
    Settles (parseArguments · tokens) (enough + 1) result := by
  refine settles_succ _ _ _ fun fuel bound => ?_
  rw [parseArguments]
  · exact settles fuel bound
  · rintro rest rfl
    exact list_starts _ _ _ _ (close_never rest) settles

theorem distinct_read (distinct : Bool) (tokens : List Token)
    (other : ∀ rest, tokens ≠ .keyword .distinct :: rest) :
    readDistinct ((if distinct then [.keyword .distinct] else []) ++ tokens) =
      (distinct, tokens) := by
  cases distinct with
  | true => rfl
  | false =>
      rw [if_neg (by decide), List.nil_append, readDistinct]
      exact fun rest same => other rest same

theorem call_words (function : String) (distinct : Bool) (arguments : List Expr) :
    (Expr.call function distinct arguments).words dialect =
      .function function :: .symbol .openParen ::
      ((if distinct then [.keyword .distinct] else []) ++
        (listWords dialect arguments ++ [.symbol .closeParen])) := by
  cases distinct <;> simp [Expr.words, Expr.tokens, listWords, dense, Token.isBlank]

theorem call_back (function : String) (distinct : Bool) (arguments : List Expr)
    (each : ∀ expr ∈ arguments, expr.ReadsBack dialect) :
    (Expr.call function distinct arguments).ReadsBack dialect := by
  have length : (listWords dialect arguments).length + 3 ≤
      ((Expr.call function distinct arguments).words dialect).length := by
    cases distinct <;> simp [call_words]
  refine operand_back _ (4 * (listWords dialect arguments).length + 3 + 1) (by omega) fun rest _ =>
    settles_succ _ _ _ fun fuel bound => ?_
  have read : parseArguments fuel (listWords dialect arguments ++ .symbol .closeParen :: rest) =
        some (arguments, rest) ∧
      ∀ more, listWords dialect arguments ++ .symbol .closeParen :: rest ≠
        .keyword .distinct :: more := by
    cases arguments with
    | nil =>
        obtain ⟨less, rfl⟩ := Nat.exists_eq_add_of_le' (Nat.le_trans (Nat.le_add_left 1 _) bound)
        exact ⟨rfl, fun more same => by cases same⟩
    | cons first others =>
        have settles := list_back first others each rest
        refine ⟨arguments_settle _ _ _ settles fuel bound, fun more same => ?_⟩
        rw [same] at settles
        exact list_starts _ _ _ _ (distinct_never more) settles
  rw [call_words]
  simp only [List.cons_append, List.append_assoc, List.nil_append, parseOperand,
    distinct_read distinct _ read.2, read.1, Option.bind_eq_bind, Option.bind_some]

theorem operator_link (operator : Operator) (rest : List Token) :
    link? (operator.token :: rest) = some (.operation operator, rest) := by
  cases operator <;> rfl

-- In front of a link that binds no tighter than it, an expression is whole.
theorem link_ends (level : Nat) (tokens after : List Token) (link : Link)
    (read : link? tokens = some (link, after)) (weak : link.level < level) : Ends level tokens where
  link := fun other more found => by
    obtain ⟨rfl, rfl⟩ := Prod.mk.inj (Option.some.inj (read.symm.trans found))
    exact weak
  dot := fun more same => by
    rw [same] at read
    cases read

theorem linked_back (expr left : Expr) (link : Link) (signs words : List Token) (enough : Nat)
    (level : link.level = expr.level) (binds : link.level ≤ left.level)
    (spelled : expr.words dialect = left.words dialect ++ (signs ++ words))
    (read : ∀ rest, link? (signs ++ rest) = some (link, rest))
    (short : enough < 4 * (signs ++ words).length) (back : left.ReadsBack dialect)
    (linked : ∀ rest, Ends (expr.level + 1) rest →
      Settles (parseLink · link left (words ++ rest)) enough (expr, rest)) :
    expr.ReadsBack dialect := by
  intro asked rest more result bound ends tail
  have length : (expr.words dialect).length =
      (left.words dialect).length + (signs ++ words).length := by
    rw [spelled, List.length_append]
  have continued := link_settles asked enough more link left expr (signs ++ (words ++ rest))
    (words ++ rest) rest result (read _) (level ▸ bound) (linked rest ends) tail
  have whole := back asked (signs ++ (words ++ rest)) _ result (by omega)
    (link_ends _ _ _ link (read _) (by omega)) continued
  have shape : expr.words dialect ++ rest = left.words dialect ++ (signs ++ (words ++ rest)) := by
    rw [spelled, List.append_assoc, List.append_assoc]
  rw [shape]
  exact settles_more _ _ _ _ whole (by omega)

theorem binary_back (operator : Operator) (left right : Expr) (leftBack : left.ReadsBack dialect)
    (rightBack : right.ReadsBack dialect) (leftBinds : operator.level ≤ left.level)
    (rightBinds : operator.level < right.level) :
    (Expr.binary operator left right).ReadsBack dialect := by
  have spelled : (Expr.binary operator left right).words dialect =
      left.words dialect ++ ([operator.token] ++ right.words dialect) := by
    cases operator <;> simp [Expr.words, Expr.tokens, dense, Token.isBlank, Operator.token]
  refine linked_back _ left (.operation operator) [operator.token] (right.words dialect)
    (4 * (right.words dialect).length + 1 + 1) rfl leftBinds spelled (operator_link operator)
    (by simp; omega) leftBack fun rest ends => settles_succ _ _ _ fun fuel bound => ?_
  have read := whole_settles right rightBack (operator.level + 1) rest rightBinds ends fuel bound
  simp only [parseLink, read, Option.bind_eq_bind, Option.bind_some]

section

variable (negated : Bool) (value : Expr) (back : value.ReadsBack dialect)
variable (binds : testLevel ≤ value.level)

include back binds

def negationSign (negated : Bool) : List Token := if negated then [.keyword .not] else []

theorem is_null_back : (Expr.isNull negated value).ReadsBack dialect := by
  refine linked_back _ value (.isNull negated)
    [.keyword (if negated then .isNotNull else .isNull)] [] 1 rfl binds ?_ ?_ (by simp) back
    fun rest _ => settles_succ _ 0 _ fun fuel _ => rfl
  · cases negated <;> simp [Expr.words, Expr.tokens, dense, Token.isBlank]
  · intro rest
    cases negated <;> rfl

theorem like_back (caseless : Bool) (pattern : Expr) (patternBack : pattern.ReadsBack dialect)
    (patternBinds : testLevel < pattern.level) :
    (Expr.like negated caseless value pattern).ReadsBack dialect := by
  refine linked_back _ value (.like negated caseless)
    (negationSign negated ++ [if caseless then .caselessLike else .keyword .like])
    (pattern.words dialect) (4 * (pattern.words dialect).length + 1 + 1) rfl binds ?_ ?_
    (by cases negated <;> simp [negationSign] <;> omega) back
    fun rest ends => settles_succ _ _ _ fun fuel bound => ?_
  · cases negated <;> cases caseless <;>
      simp [Expr.words, Expr.tokens, dense, Token.isBlank, negation, negationSign]
  · intro rest
    cases negated <;> cases caseless <;> rfl
  · have read := whole_settles pattern patternBack (testLevel + 1) rest patternBinds ends fuel bound
    simp only [parseLink, read, Option.bind_eq_bind, Option.bind_some]

theorem among_back (first : Expr) (others : List Expr)
    (each : ∀ expr ∈ first :: others, expr.ReadsBack dialect) :
    (Expr.among negated value (first :: others)).ReadsBack dialect := by
  refine linked_back _ value (.among negated)
    (negationSign negated ++ [.keyword .inList, .symbol .openParen])
    (listWords dialect (first :: others) ++ [.symbol .closeParen])
    (4 * (listWords dialect (first :: others)).length + 2 + 1) rfl binds ?_ ?_
    (by cases negated <;> simp [negationSign] <;> omega)
    back fun rest _ => settles_succ _ _ _ fun fuel bound => ?_
  · cases negated <;>
      simp [Expr.words, Expr.tokens, listWords, dense, Token.isBlank, negation, negationSign]
  · intro rest
    cases negated <;> rfl
  · have read := list_back first others each rest fuel bound
    simp only [List.append_assoc, List.cons_append, List.nil_append, parseLink, read,
      Option.bind_eq_bind, Option.bind_some]

theorem between_back (low high : Expr) (lowBack : low.ReadsBack dialect)
    (highBack : high.ReadsBack dialect) (lowBinds : testLevel < low.level)
    (highBinds : testLevel < high.level) :
    (Expr.between negated value low high).ReadsBack dialect := by
  refine linked_back _ value (.between negated) (negationSign negated ++ [.keyword .between])
    (low.words dialect ++ .keyword .and :: high.words dialect)
    (4 * (low.words dialect).length + 4 * (high.words dialect).length + 1 + 1) rfl binds ?_ ?_
    (by cases negated <;> simp [negationSign] <;> omega)
    back fun rest ends => settles_succ _ _ _ fun fuel bound => ?_
  · cases negated <;>
      simp [Expr.words, Expr.tokens, dense, Token.isBlank, negation, negationSign]
  · intro rest
    cases negated <;> rfl
  · have first := whole_settles low lowBack (testLevel + 1)
      (.keyword .and :: (high.words dialect ++ rest)) lowBinds
      (link_ends _ _ _ _ (operator_link .and _) (by decide)) fuel (by omega)
    have second := whole_settles high highBack (testLevel + 1) rest highBinds ends fuel (by omega)
    simp only [List.append_assoc, List.cons_append, parseLink, first, second, expect, if_pos,
      Option.bind_eq_bind, Option.bind_some]

end

mutual

theorem formed_back (expr : Expr) (formed : expr.Formed (· ≠ [])) : expr.ReadsBack dialect := by
  cases expr with
  | column table name => exact column_back table name
  | literal value => exact literal_back value
  | star table => exact star_back table
  | binary operator left right =>
      obtain ⟨leftBinds, rightBinds, leftFormed, rightFormed⟩ := formed
      exact binary_back operator left right (formed_back left leftFormed)
        (formed_back right rightFormed) leftBinds rightBinds
  | call function distinct arguments =>
      exact call_back function distinct arguments (each_back arguments formed.2)
  | among negated value choices =>
      obtain ⟨binds, some, valueFormed, each⟩ := formed
      cases choices with
      | nil => exact absurd rfl some
      | cons first others =>
          exact among_back negated value (formed_back value valueFormed) binds first others
            (each_back (first :: others) each)
  | between negated value low high =>
      obtain ⟨binds, lowBinds, highBinds, valueFormed, lowFormed, highFormed⟩ := formed
      exact between_back negated value (formed_back value valueFormed) binds low high
        (formed_back low lowFormed) (formed_back high highFormed) lowBinds highBinds
  | isNull negated value =>
      exact is_null_back negated value (formed_back value formed.2) formed.1
  | like negated caseless value pattern =>
      obtain ⟨binds, patternBinds, valueFormed, patternFormed⟩ := formed
      exact like_back negated value (formed_back value valueFormed) binds caseless pattern
        (formed_back pattern patternFormed) patternBinds
  | paren inner => exact paren_back inner (formed_back inner formed)

theorem each_back (exprs : List Expr) (formed : EachFormed (· ≠ []) exprs) :
    ∀ expr ∈ exprs, expr.ReadsBack dialect := by
  cases exprs with
  | nil => simp
  | cons expr rest =>
      rw [List.forall_mem_cons]
      exact ⟨formed_back expr formed.1, each_back rest formed.2⟩

end

theorem parse_tokens (dialect : Dialect) (expr : Expr) (formed : expr.Formed (· ≠ [])) :
    Expr.parse (expr.tokens dialect) = some expr := by
  have read : parseExpr (4 * (dense (expr.tokens dialect)).length + 1) 1
      (dense (expr.tokens dialect)) = some (expr, []) := by
    have back : expr.ReadsBack dialect := formed_back expr formed
    have settles := whole_settles expr back 1 [] (level_positive expr) (nothing_ends 1) _
      (Nat.le_refl _)
    rwa [List.append_nil] at settles
  simp only [Expr.parse, read]

end

end StatTable.Sql
