import StatTable.Proofs.Sql.Lexeme
import StatTable.Sql.Query

set_option autoImplicit false

namespace StatTable.Sql

open Json (Stops)

def Keyword.words : Keyword → List String
  | .groupBy => ["GROUP", "BY"]
  | .orderBy => ["ORDER", "BY"]
  | .nullsFirst => ["NULLS", "FIRST"]
  | .nullsLast => ["NULLS", "LAST"]
  | .isNull => ["IS", "NULL"]
  | .isNotNull => ["IS", "NOT", "NULL"]
  | word => [word.text]

def signedLexemes (negative : Bool) (magnitude : List Char) : List Lexeme :=
  (if negative then [.sign "-"] else []) ++ [.number (String.ofList magnitude)]

def Token.lexemes (dialect : Dialect) : Token → List Lexeme
  | .keyword word => word.words.map .word
  | .symbol sign => [.sign sign.text]
  | .caselessLike => [.word dialect.caselessLike]
  | .space | .newline | .indent _ => []
  | .identifier name => [.identifier name]
  | .function name => [.word (Text.uppercase name)]
  | .integer n => signedLexemes (n.toInt < 0) (Nat.toDigits 10 n.toInt.natAbs)
  | .binary x =>
      if x.isFinite then signedLexemes x.negative (Binary64.magnitudeChars .sql x.rank)
      else [.word "NULL"]
  | .string s => [.string s]
  | .bool b =>
      match dialect with
      | .postgres => [.word (dialect.boolText b)]
      | .sqlite => [.number (dialect.boolText b)]
  | .null => [.word "NULL"]

-- A function is called by a word; any other token may be written as it is.
def Token.IsPlain : Token → Prop
  | .function name => isWord (Text.uppercase name).toList = true
  | _ => True

def isSeparator (c : Char) : Bool := c == ' ' || c == '\n' || c == ',' || c == '(' || c == ')'

def Separates (rest : List Char) : Prop := Stops (!isSeparator ·) rest

def Token.isOpen : Token → Bool
  | .space | .newline | .indent _ => true
  | .symbol sign => sign = .comma || sign = .dot || sign = .openParen || sign = .closeParen
  | _ => false

def Token.separates : Token → Bool
  | .space | .newline => true
  | .indent depth => depth ≠ 0
  | .symbol sign => sign = .comma || sign = .openParen || sign = .closeParen
  | _ => false

def Token.isIdentifier : Token → Bool
  | .identifier _ => true
  | _ => false

-- The second token may stand right behind the first one.
def Token.Meets (first second : Token) : Prop :=
  first.isOpen = true ∨ second.separates = true ∨
    (first.isIdentifier = true ∧ second = .symbol .dot)

def Token.Clear (token : Token) (rest : List Char) : Prop :=
  token.isOpen = true ∨ Separates rest ∨ (token.isIdentifier = true ∧ ∃ tail, rest = '.' :: tail)

theorem separator_ends (c : Char) (separator : isSeparator c = true) :
    numberRunsOn c = false ∧ isOperatorChar c = false := by
  simp only [isSeparator, Bool.or_eq_true, beq_iff_eq] at separator
  rcases separator with (((rfl | rfl) | rfl) | rfl) | rfl <;> decide

section

variable (rest : List Char) (separates : Separates rest)

include separates

theorem number_ends : Stops numberRunsOn rest := fun c tail same => by
  have separator := separates c tail same
  exact (separator_ends c (by simpa using separator)).1

theorem word_ends : Stops runsOn rest :=
  stops_weaken _ _ rest (number_ends rest separates) fun c on => by
    rw [numberRunsOn, on, Bool.true_or]

theorem operator_ends : Stops isOperatorChar rest := fun c tail same => by
  have separator := separates c tail same
  exact (separator_ends c (by simpa using separator)).2

theorem quote_ends (mark : Char) (quote : isQuote mark = true) : Stops (· == mark) rest :=
  stops_weaken _ _ rest (word_ends rest separates) fun c same => by
    rw [beq_iff_eq.mp same, runsOn, quote, Bool.or_true]

theorem reads_text (text : String) (word : isWord text.toList = true) :
    Reads text.toList [.word text] rest := by
  have reads := reads_word text.toList rest word (word_ends rest separates)
  rwa [String.ofList_toList] at reads

theorem reads_words (first : String) (others : List String)
    (words : ∀ text ∈ first :: others, isWord text.toList = true) :
    Reads (first.toList ++ others.flatMap fun text => ' ' :: text.toList)
      ((first :: others).map .word) rest := by
  induction others generalizing first with
  | nil =>
      rw [List.flatMap_nil, List.append_nil]
      exact reads_text rest separates first (words first List.mem_cons_self)
  | cons second others ih =>
      have tail := ih second fun text member => words text (List.mem_cons_of_mem _ member)
      have space := reads_blanks [' '] (second.toList ++ (others.flatMap fun text =>
        ' ' :: text.toList) ++ rest) (List.forall_mem_singleton.mpr rfl)
      have blank := reads_append [' '] _ [] _ rest space tail
      have head := reads_text (' ' :: (second.toList ++ others.flatMap fun text =>
        ' ' :: text.toList) ++ rest) (Json.stops_cons _ _ _ (by decide)) first
        (words first List.mem_cons_self)
      exact reads_append _ _ _ _ rest head blank

theorem reads_signed (negative : Bool) (magnitude : List Char) (number : IsNumber magnitude) :
    Reads (Json.signed negative magnitude) (signedLexemes negative magnitude) rest := by
  have unsigned := reads_number magnitude rest number (number_ends rest separates)
  cases negative with
  | false => exact unsigned
  | true =>
      exact reads_append ['-'] magnitude [.sign "-"] _ rest
        (reads_operator "-" (magnitude ++ rest) (by decide) (number_start magnitude rest number))
        unsigned

theorem reads_keyword (word : Keyword) :
    Reads word.text.toList (word.words.map .word) rest := by
  have spelled : ∃ first others, word.words = first :: others ∧
      word.text.toList = first.toList ++ others.flatMap (fun text => ' ' :: text.toList) ∧
      (first :: others).all (isWord ·.toList) = true := by
    cases word <;> exact ⟨_, _, rfl, by decide, by decide⟩
  obtain ⟨first, others, words, text, all⟩ := spelled
  rw [words, text]
  exact reads_words rest separates first others (List.all_eq_true.mp all)

theorem reads_integer (n : Int) : Reads (Text.decimalChars n)
    (signedLexemes (n < 0) (Nat.toDigits 10 n.natAbs)) rest := by
  have reads := reads_signed rest separates (n < 0) _
    (whole_number _ Nat.toDigits_ne_nil (Json.digits_to_digits n.natAbs))
  rw [Json.signed] at reads
  rw [Text.decimalChars]
  simpa using reads

theorem reads_binary (dialect : Dialect) (x : Binary64) :
    Reads (x.text .sql).toList (Token.lexemes dialect (.binary x)) rest := by
  rw [Token.lexemes]
  by_cases finite : x.isFinite = true
  · have number : x.isNaN = false := by
      rw [Binary64.isFinite, decide_eq_true_iff] at finite
      rw [Binary64.isNaN, decide_eq_false_iff_not]
      omega
    have text : (x.text .sql).toList =
        Json.signed x.negative (Binary64.magnitudeChars .sql x.rank) := by
      rw [Binary64.text, number, if_neg (by decide), if_pos finite]
      exact String.toList_ofList
    rw [if_pos finite, text]
    exact reads_signed rest separates x.negative _ (magnitude_number x.rank)
  · have text : x.text .sql = "NULL" := by
      rw [Binary64.text, if_neg finite]
      split
      · rfl
      · split <;> rfl
    rw [if_neg finite, text]
    exact reads_text rest separates "NULL" (by decide)

theorem reads_bool (dialect : Dialect) (b : Bool) :
    Reads (dialect.boolText b).toList (Token.lexemes dialect (.bool b)) rest := by
  cases dialect with
  | postgres => exact reads_text rest separates _ (by cases b <;> decide)
  | sqlite =>
      have digit : ∃ n : Nat, (Dialect.sqlite.boolText b) = String.ofList (Nat.toDigits 10 n) := by
        cases b
        · exact ⟨0, rfl⟩
        · exact ⟨1, rfl⟩
      obtain ⟨n, text⟩ := digit
      rw [Token.lexemes, text, String.toList_ofList]
      exact reads_number _ rest
        (whole_number _ Nat.toDigits_ne_nil (Json.digits_to_digits n)) (number_ends rest separates)

end

theorem reads_symbol (sign : Symbol) (rest : List Char)
    (clear : (Token.symbol sign).isOpen = true ∨ Separates rest) :
    Reads sign.text.toList [.sign sign.text] rest := by
  by_cases mark : (Token.symbol sign).isOpen = true
  · have one : ∃ c, sign.text.toList = [c] ∧ sign.text = String.singleton c ∧
        isPunctuation c = true := by
      cases sign with
      | comma => exact ⟨',', by decide⟩
      | dot => exact ⟨'.', by decide⟩
      | openParen => exact ⟨'(', by decide⟩
      | closeParen => exact ⟨')', by decide⟩
      | _ => cases mark
    obtain ⟨c, chars, text, punctuation⟩ := one
    rw [chars, text]
    exact reads_punctuation c rest punctuation
  · have known : sign.text ∈ operators := by
      cases sign with
      | comma | dot | openParen | closeParen => exact absurd rfl mark
      | _ => decide
    exact reads_operator sign.text rest known (operator_ends rest (clear.resolve_left mark))

theorem token_reads (dialect : Dialect) (token : Token) (plain : token.IsPlain) (rest : List Char)
    (clear : token.Clear rest) :
    Reads (token.text dialect).toList (token.lexemes dialect) rest := by
  have closed (shut : token.isOpen = false) (named : token.isIdentifier = false) :
      Separates rest := by
    rcases clear with open_ | separates | ⟨identifier, _⟩
    · rw [shut] at open_
      cases open_
    · exact separates
    · rw [named] at identifier
      cases identifier
  cases token with
  | keyword word => exact reads_keyword rest (closed rfl rfl) word
  | symbol sign =>
      refine reads_symbol sign rest ?_
      rcases clear with open_ | separates | ⟨identifier, _⟩
      · exact .inl open_
      · exact .inr separates
      · cases identifier
  | caselessLike =>
      exact reads_text rest (closed rfl rfl) _ (by cases dialect <;> decide)
  | space => exact reads_blanks _ rest (List.all_eq_true.mp (by rw [Token.text]; decide))
  | newline => exact reads_blanks _ rest (List.all_eq_true.mp (by rw [Token.text]; decide))
  | indent depth =>
      refine reads_blanks _ rest fun c member => ?_
      rw [Token.text, String.toList_ofList] at member
      rw [List.eq_of_mem_replicate member]
      rfl
  | identifier name =>
      rw [Token.text, Dialect.quoted_name]
      refine reads_identifier name rest ?_
      rcases clear with open_ | separates | ⟨_, tail, rfl⟩
      · cases open_
      · exact quote_ends rest separates '"' rfl
      · exact Json.stops_cons _ _ _ (by decide)
  | function name => exact reads_text rest (closed rfl rfl) _ plain
  | integer n =>
      rw [Token.text, Text.decimal, String.toList_ofList]
      exact reads_integer rest (closed rfl rfl) n.toInt
  | binary x => exact reads_binary rest (closed rfl rfl) dialect x
  | string s =>
      rw [Token.text, Dialect.quoted_string]
      exact reads_string s rest (quote_ends rest (closed rfl rfl) '\'' rfl)
  | bool b => exact reads_bool rest (closed rfl rfl) dialect b
  | null => exact reads_text rest (closed rfl rfl) "NULL" (by decide)

theorem render_cons (dialect : Dialect) (token : Token) (rest : List Token) :
    (render dialect (token :: rest)).toList =
      (token.text dialect).toList ++ (render dialect rest).toList := by
  rw [render, render, List.map_cons, String.join_cons, String.toList_append]

theorem separator_first (dialect : Dialect) (token : Token) (separates : token.separates = true) :
    ∃ c tail, (token.text dialect).toList = c :: tail ∧ isSeparator c = true := by
  cases token with
  | space => exact ⟨' ', [], by rw [Token.text]; decide⟩
  | newline => exact ⟨'\n', [], by rw [Token.text]; decide⟩
  | indent depth =>
      obtain ⟨count, rfl⟩ := Nat.exists_eq_succ_of_ne_zero (of_decide_eq_true separates)
      refine ⟨' ', List.replicate (2 * count + 1) ' ', ?_, rfl⟩
      rw [Token.text, String.toList_ofList]
      rfl
  | symbol sign =>
      cases sign with
      | comma => exact ⟨',', [], by rw [Token.text]; decide⟩
      | openParen => exact ⟨'(', [], by rw [Token.text]; decide⟩
      | closeParen => exact ⟨')', [], by rw [Token.text]; decide⟩
      | _ => cases separates
  | _ => cases separates

def Meeting (tokens : List Token) : Prop := tokens.IsChain Token.Meets

theorem meeting_clear (dialect : Dialect) (token : Token) (rest : List Token)
    (meeting : Meeting (token :: rest)) : token.Clear (render dialect rest).toList := by
  cases rest with
  | nil => exact .inr (.inl (Json.stops_nil _))
  | cons next more =>
      rw [render_cons]
      rcases (List.isChain_cons_cons.mp meeting).1 with open_ | separates | ⟨identifier, rfl⟩
      · exact .inl open_
      · obtain ⟨c, tail, text, separator⟩ := separator_first dialect next separates
        rw [text]
        exact .inr (.inl (Json.stops_cons _ _ _ (by simp [separator])))
      · have dot : (Token.text dialect (.symbol .dot)).toList = ['.'] := by
          rw [Token.text]
          decide
        rw [dot]
        exact .inr (.inr ⟨identifier, _, rfl⟩)

theorem render_lexemes (dialect : Dialect) (tokens : List Token) (meeting : Meeting tokens)
    (plain : ∀ token ∈ tokens, token.IsPlain) :
    lexemes (render dialect tokens).toList = some (tokens.flatMap (Token.lexemes dialect)) := by
  induction tokens with
  | nil =>
      rw [render, List.map_nil, String.join_nil, String.toList_empty, lexemes]
      rfl
  | cons token rest ih =>
      have reads := token_reads dialect token (plain token List.mem_cons_self) _
        (meeting_clear dialect token rest meeting)
      rw [render_cons, reads, ih meeting.tail fun other member =>
        plain other (List.mem_cons_of_mem _ member)]
      rfl

theorem meeting_opened (token : Token) (tokens : List Token) (opened : token.isOpen = true)
    (meeting : Meeting tokens) : Meeting (token :: tokens) :=
  meeting.cons fun _ _ => .inl opened

theorem meeting_before (token next : Token) (rest : List Token) (separates : next.separates = true)
    (meeting : Meeting (next :: rest)) : Meeting (token :: next :: rest) :=
  List.isChain_cons_cons.mpr ⟨.inr (.inl separates), meeting⟩

theorem meeting_closed (tokens : List Token) (next : Token) (rest : List Token)
    (separates : next.separates = true) (left : Meeting tokens) (right : Meeting (next :: rest)) :
    Meeting (tokens ++ next :: rest) := by
  refine left.append right fun first _ second held => ?_
  obtain rfl := Option.some.inj held
  exact .inr (.inl separates)

theorem meeting_all_opened (gap tokens : List Token) (opened : ∀ token ∈ gap, token.isOpen = true)
    (meeting : Meeting tokens) : Meeting (gap ++ tokens) := by
  induction gap with
  | nil => exact meeting
  | cons token rest ih =>
      exact meeting_opened token _ (opened token List.mem_cons_self)
        (ih fun other member => opened other (List.mem_cons_of_mem _ member))

theorem meeting_intercalate (first : Token) (gap : List Token) (separates : first.separates = true)
    (opened : ∀ token ∈ first :: gap, token.isOpen = true) (parts : List (List Token))
    (each : ∀ part ∈ parts, Meeting part) : Meeting (List.intercalate (first :: gap) parts) := by
  induction parts with
  | nil => exact List.isChain_nil
  | cons part rest ih =>
      have others := ih fun other member => each other (List.mem_cons_of_mem _ member)
      cases rest with
      | nil =>
          rw [List.intercalate_singleton]
          exact each part List.mem_cons_self
      | cons second rest =>
          rw [List.intercalate_cons_cons]
          rw [List.append_assoc, List.cons_append]
          exact meeting_closed part first _ separates (each part List.mem_cons_self)
            (meeting_all_opened (first :: gap) _ opened others)

theorem meeting_listed (parts : List (List Token)) (each : ∀ part ∈ parts, Meeting part) :
    Meeting (listed parts) :=
  meeting_intercalate (.symbol .comma) [.space] rfl (by decide) parts each

theorem qualifier_meeting (table : Option String) (last : Token) :
    Meeting (qualifier table ++ [last]) := by
  cases table with
  | none => exact List.isChain_singleton last
  | some name =>
      exact List.isChain_cons_cons.mpr ⟨.inr (.inr ⟨rfl, rfl⟩),
        meeting_opened _ _ rfl (List.isChain_singleton last)⟩

theorem meeting_infix (token : Token) (left right : List Token) (first : Meeting left)
    (second : Meeting right) : Meeting (left ++ .space :: token :: .space :: right) :=
  meeting_closed left .space _ rfl first
    (meeting_opened _ _ rfl (meeting_before _ _ _ rfl (meeting_opened _ _ rfl second)))

theorem meeting_test (negated : Bool) (token : Token) (left right : List Token)
    (first : Meeting left) (second : Meeting right) :
    Meeting (left ++ (negation negated ++ .space :: token :: .space :: right)) := by
  cases negated with
  | false => exact meeting_infix token left right first second
  | true =>
      have tested := meeting_infix token [.keyword .not] right (List.isChain_singleton _) second
      exact meeting_closed left .space _ rfl first (meeting_opened _ _ rfl tested)

theorem meeting_parens (parts : List Token) (meeting : Meeting parts) :
    Meeting (.symbol .openParen :: parts ++ [.symbol .closeParen]) :=
  meeting_closed _ _ [] rfl (meeting_opened _ _ rfl meeting) (List.isChain_singleton _)

variable (dialect : Dialect)

mutual

theorem expr_meeting (expr : Expr) : Meeting (expr.tokens dialect) := by
  cases expr with
  | column table name => exact qualifier_meeting table _
  | literal value => exact List.isChain_singleton _
  | binary operator left right =>
      simp only [Expr.tokens, List.append_assoc, List.cons_append, List.nil_append]
      exact meeting_infix _ _ _ (expr_meeting left) (expr_meeting right)
  | call function distinct arguments =>
      have listed := meeting_listed _ (exprs_meeting arguments)
      rw [Expr.tokens, List.append_assoc [_, _]]
      refine meeting_before _ _ _ rfl (meeting_parens _ ?_)
      cases distinct with
      | false => exact listed
      | true => exact meeting_before _ _ _ rfl (meeting_opened _ _ rfl listed)
  | among negated value choices =>
      cases choices with
      | nil =>
          rw [Expr.tokens]
          exact List.isChain_singleton _
      | cons choice rest =>
          have listed := meeting_parens _ (meeting_listed _ (exprs_meeting (choice :: rest)))
          have tested := meeting_test negated (.keyword .inList) _ _ (expr_meeting value) listed
          simp only [Expr.tokens, List.append_assoc]
          exact tested
  | between negated value low high =>
      have bounds := meeting_infix (.keyword .and) _ _ (expr_meeting low) (expr_meeting high)
      have tested := meeting_test negated (.keyword .between) _ _ (expr_meeting value) bounds
      simp only [Expr.tokens, List.append_assoc]
      exact tested
  | isNull negated value =>
      exact meeting_closed _ .space _ rfl (expr_meeting value)
        (meeting_opened _ _ rfl (List.isChain_singleton _))
  | like negated caseless value pattern =>
      simp only [Expr.tokens, List.append_assoc]
      exact meeting_test negated _ _ _ (expr_meeting value) (expr_meeting pattern)
  | star table => exact qualifier_meeting table _
  | paren inner =>
      exact meeting_parens _ (expr_meeting inner)

theorem exprs_meeting (exprs : List Expr) :
    ∀ part ∈ tokensOfEach dialect exprs, Meeting part := by
  cases exprs with
  | nil => simp [tokensOfEach]
  | cons expr rest =>
      rw [tokensOfEach, List.forall_mem_cons]
      exact ⟨expr_meeting expr, exprs_meeting rest⟩

end

end StatTable.Sql
