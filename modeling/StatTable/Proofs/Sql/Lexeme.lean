import StatTable.Proofs.Json.Numeral
import StatTable.Proofs.Lists
import StatTable.Text.Quoted

/-
The lexical rules of SQL. A quoted text ends at the first quote that is not written twice; a run of
operator characters is one operator, so that a comment can start nowhere; a word or a number does not
run on into another one or into a quoted text.
-/

set_option autoImplicit false

namespace StatTable.Sql

open Json (Stops)

inductive Lexeme where
  | word (text : String)
  | number (text : String)
  | string (content : String)
  | identifier (content : String)
  | sign (text : String)
deriving DecidableEq

def isBlank (c : Char) : Bool := c == ' ' || c == '\n' || c == '\t' || c == '\r'

def isQuote (c : Char) : Bool := c == '\'' || c == '"'

def isWordStart (c : Char) : Bool :=
  ('A' ≤ c && c ≤ 'Z') || ('a' ≤ c && c ≤ 'z') || c == '_' || 0x80 ≤ c.toNat

def isWordChar (c : Char) : Bool := isWordStart c || Json.isDigit c || c == '$'

def isOperatorChar (c : Char) : Bool := "+-*/<>=~!@#%^&|?".toList.contains c

def operators : List String := ["=", "<>", "<", ">", "<=", ">=", "+", "-", "*", "/", "||"]

def isPunctuation (c : Char) : Bool := c == '(' || c == ')' || c == ',' || c == '.'

def runsOn (c : Char) : Bool := isWordChar c || isQuote c

def numberRunsOn (c : Char) : Bool := runsOn c || c == '.'

def endsBefore (p : Char → Bool) : List Char → Bool
  | [] => true
  | c :: _ => !p c

def readQuoted (mark : Char) : List Char → Option (List Char × List Char)
  | [] => none
  | [c] => if c = mark then some ([], []) else none
  | c :: d :: rest =>
      if c = mark then
        if d = mark then
          (readQuoted mark rest).map fun (content, after) => (mark :: content, after)
        else some ([], d :: rest)
      else (readQuoted mark (d :: rest)).map fun (content, after) => (c :: content, after)

def readQuotedLexeme (mark : Char) (rest : List Char) : Option (Lexeme × List Char) :=
  (readQuoted mark rest).map fun (content, after) =>
    (if mark = '"' then .identifier (String.ofList content) else .string (String.ofList content), after)

def readWord (c : Char) (rest : List Char) : Option (Lexeme × List Char) :=
  let after := rest.dropWhile isWordChar
  if endsBefore runsOn after then
    some (.word (String.ofList (c :: rest.takeWhile isWordChar)), after)
  else none

def readFraction : List Char → List Char × List Char
  | '.' :: rest => ('.' :: rest.takeWhile Json.isDigit, rest.dropWhile Json.isDigit)
  | rest => ([], rest)

def readPower : List Char → List Char × List Char
  | '-' :: rest => ('-' :: rest.takeWhile Json.isDigit, rest.dropWhile Json.isDigit)
  | '+' :: rest => ('+' :: rest.takeWhile Json.isDigit, rest.dropWhile Json.isDigit)
  | rest => (rest.takeWhile Json.isDigit, rest.dropWhile Json.isDigit)

def readExponent : List Char → List Char × List Char
  | 'e' :: rest => let (power, after) := readPower rest; ('e' :: power, after)
  | 'E' :: rest => let (power, after) := readPower rest; ('E' :: power, after)
  | rest => ([], rest)

def readNumber (c : Char) (rest : List Char) : Option (Lexeme × List Char) :=
  let fraction := readFraction (rest.dropWhile Json.isDigit)
  let exponent := readExponent fraction.2
  if endsBefore numberRunsOn exponent.2 then
    some (.number (String.ofList (c :: rest.takeWhile Json.isDigit ++ fraction.1 ++ exponent.1)),
      exponent.2)
  else none

def readOperator (c : Char) (rest : List Char) : Option (Lexeme × List Char) :=
  let text := String.ofList (c :: rest.takeWhile isOperatorChar)
  if text ∈ operators then some (.sign text, rest.dropWhile isOperatorChar) else none

def nextLexeme (c : Char) (rest : List Char) : Option (Lexeme × List Char) :=
  if isQuote c then readQuotedLexeme c rest
  else if Json.isDigit c then readNumber c rest
  else if isWordStart c then readWord c rest
  else if isOperatorChar c then readOperator c rest
  else if isPunctuation c then some (.sign (String.singleton c), rest)
  else none

theorem read_quoted_length (mark : Char) (cs : List Char) (result : List Char × List Char)
    (found : readQuoted mark cs = some result) : result.2.length < cs.length := by
  fun_induction readQuoted mark cs generalizing result with
  | case1 => cases found
  | case2 =>
      obtain rfl := Option.some.inj found
      simp
  | case3 => cases found
  | case4 rest ih =>
      obtain ⟨inner, innerFound, rfl⟩ := Option.map_eq_some_iff.mp found
      have := ih inner innerFound
      simp only [List.length_cons]
      omega
  | case5 =>
      obtain rfl := Option.some.inj found
      simp
  | case6 c d rest other ih =>
      obtain ⟨inner, innerFound, rfl⟩ := Option.map_eq_some_iff.mp found
      have := ih inner innerFound
      simp only [List.length_cons] at *
      omega

theorem read_fraction_length (cs : List Char) : (readFraction cs).2.length ≤ cs.length := by
  fun_cases readFraction cs with
  | case1 rest => exact (drop_length _ rest).trans (by simp)
  | case2 => exact le_rfl

theorem read_power_length (cs : List Char) : (readPower cs).2.length ≤ cs.length := by
  fun_cases readPower cs with
  | case1 rest => exact (drop_length _ rest).trans (by simp)
  | case2 rest => exact (drop_length _ rest).trans (by simp)
  | case3 => exact drop_length _ cs

theorem read_exponent_length (cs : List Char) : (readExponent cs).2.length ≤ cs.length := by
  fun_cases readExponent cs with
  | case1 rest power after found =>
      have := read_power_length rest
      rw [found] at this
      exact this.trans (by simp)
  | case2 rest power after found =>
      have := read_power_length rest
      rw [found] at this
      exact this.trans (by simp)
  | case3 => exact le_rfl

theorem next_lexeme_length (c : Char) (rest : List Char) (result : Lexeme × List Char)
    (found : nextLexeme c rest = some result) : result.2.length ≤ rest.length := by
  unfold nextLexeme at found
  split at found
  · obtain ⟨inner, innerFound, rfl⟩ := Option.map_eq_some_iff.mp found
    exact (read_quoted_length c rest inner innerFound).le
  · split at found
    · obtain ⟨-, same⟩ := Option.ite_none_right_eq_some.mp found
      rw [← Option.some.inj same]
      exact (read_exponent_length _).trans ((read_fraction_length _).trans (drop_length _ rest))
    · split at found
      · obtain ⟨-, same⟩ := Option.ite_none_right_eq_some.mp found
        rw [← Option.some.inj same]
        exact drop_length _ rest
      · split at found
        · obtain ⟨-, same⟩ := Option.ite_none_right_eq_some.mp found
          rw [← Option.some.inj same]
          exact drop_length _ rest
        · obtain ⟨-, same⟩ := Option.ite_none_right_eq_some.mp found
          rw [← Option.some.inj same]

def lexemes : List Char → Option (List Lexeme)
  | [] => some []
  | c :: rest =>
      if isBlank c then lexemes rest
      else
        match _found : nextLexeme c rest with
        | none => none
        | some (lexeme, after) => (lexemes after).map (lexeme :: ·)
termination_by cs => cs.length
decreasing_by
  · simp
  · have : after.length ≤ rest.length := next_lexeme_length c rest (lexeme, after) _found
    simp only [List.length_cons]
    omega

theorem lexemes_cons (c : Char) (rest : List Char) (lexeme : Lexeme) (after : List Char)
    (dark : isBlank c = false) (found : nextLexeme c rest = some (lexeme, after)) :
    lexemes (c :: rest) = (lexemes after).map (lexeme :: ·) := by
  rw [lexemes, if_neg (by simp [dark])]
  split
  · rename_i none
    rw [found] at none
    cases none
  · rename_i some
    rw [found] at some
    obtain ⟨rfl, rfl⟩ := Prod.mk.inj (Option.some.inj some)
    rfl

theorem lexemes_blank (c : Char) (rest : List Char) (blank : isBlank c = true) :
    lexemes (c :: rest) = lexemes rest := by
  rw [lexemes, if_pos blank]

-- A text in front of another one that is read as the given lexemes, whatever comes after them.
def Reads (cs : List Char) (found : List Lexeme) (rest : List Char) : Prop :=
  lexemes (cs ++ rest) = (lexemes rest).map (found ++ ·)

theorem reads_append (cs ds : List Char) (first second : List Lexeme) (rest : List Char)
    (left : Reads cs first (ds ++ rest)) (right : Reads ds second rest) :
    Reads (cs ++ ds) (first ++ second) rest := by
  rw [Reads, List.append_assoc, left, right, Option.map_map]
  simp [Function.comp_def]

theorem reads_blanks (cs : List Char) (rest : List Char) (blank : ∀ c ∈ cs, isBlank c = true) :
    Reads cs [] rest := by
  induction cs with
  | nil => simp [Reads]
  | cons c cs ih =>
      rw [Reads, List.cons_append, lexemes_blank c _ (blank c List.mem_cons_self)]
      exact ih fun d member => blank d (List.mem_cons_of_mem _ member)

theorem read_quoted_double (mark : Char) (cs rest : List Char) (stop : Stops (· == mark) rest) :
    readQuoted mark (Text.double mark cs ++ mark :: rest) = some (cs, rest) := by
  induction cs with
  | nil =>
      cases rest with
      | nil => simp [Text.double, readQuoted]
      | cons d rest =>
          have other : d ≠ mark := by simpa using stop d rest rfl
          simp [Text.double, readQuoted, other]
  | cons c cs ih =>
      rw [Text.double]
      by_cases same : c = mark
      · rw [if_pos same, List.cons_append, List.cons_append, readQuoted, if_pos rfl, if_pos rfl, ih,
          same]
        rfl
      · rw [if_neg same, List.cons_append]
        obtain ⟨d, tail, held⟩ : ∃ d tail, Text.double mark cs ++ mark :: rest = d :: tail := by
          cases Text.double mark cs with
          | nil => exact ⟨_, _, rfl⟩
          | cons d tail => exact ⟨_, _, rfl⟩
        rw [held] at ih ⊢
        rw [readQuoted, if_neg same, ih]
        rfl

theorem reads_string (content : String) (rest : List Char) (stop : Stops (· == '\'') rest) :
    Reads (Text.quoted '\'' content).toList [.string content] rest := by
  have text : (Text.quoted '\'' content).toList ++ rest =
      '\'' :: (Text.double '\'' content.toList ++ '\'' :: rest) := by
    simp [Text.quoted]
  rw [Reads, text]
  refine lexemes_cons _ _ _ _ (by decide) ?_
  rw [nextLexeme, if_pos (by decide), readQuotedLexeme, read_quoted_double _ _ _ stop]
  simp

theorem reads_identifier (content : String) (rest : List Char) (stop : Stops (· == '"') rest) :
    Reads (Text.quoted '"' content).toList [.identifier content] rest := by
  have text : (Text.quoted '"' content).toList ++ rest =
      '"' :: (Text.double '"' content.toList ++ '"' :: rest) := by
    simp [Text.quoted]
  rw [Reads, text]
  refine lexemes_cons _ _ _ _ (by decide) ?_
  rw [nextLexeme, if_pos (by decide), readQuotedLexeme, read_quoted_double _ _ _ stop]
  simp

theorem ends_before_stops (p : Char → Bool) (cs : List Char) (stop : Stops p cs) :
    endsBefore p cs = true := by
  cases cs with
  | nil => rfl
  | cons c rest => simp [endsBefore, stop c rest rfl]

theorem stops_weaken (p q : Char → Bool) (cs : List Char) (stop : Stops p cs)
    (weaker : ∀ c, q c = true → p c = true) : Stops q cs := by
  intro c rest same
  by_contra goes
  have on := weaker c (Bool.eq_true_of_not_eq_false goes)
  rw [stop c rest same] at on
  cases on

theorem digit_range (c : Char) (digit : Json.isDigit c = true) : 48 ≤ c.toNat ∧ c.toNat ≤ 57 := by
  rw [Json.isDigit, Json.digit?] at digit
  split at digit
  · rename_i range
    exact range
  · cases digit

theorem word_start_above (c : Char) (start : isWordStart c = true) : 65 ≤ c.toNat := by
  simp only [isWordStart, Bool.or_eq_true, Bool.and_eq_true, decide_eq_true_eq, beq_iff_eq] at start
  rcases start with ((upper | lower) | rfl) | other
  · exact upper.1
  · have low : 97 ≤ c.toNat := lower.1
    omega
  · decide
  · omega

theorem not_blank (c : Char) (above : 33 ≤ c.toNat) : isBlank c = false := by
  by_contra blank
  simp only [Bool.not_eq_false, isBlank, Bool.or_eq_true, beq_iff_eq] at blank
  rcases blank with ((rfl | rfl) | rfl) | rfl <;> exact absurd above (by decide)

theorem not_quote (c : Char) (above : 40 ≤ c.toNat) : isQuote c = false := by
  by_contra quote
  simp only [Bool.not_eq_false, isQuote, Bool.or_eq_true, beq_iff_eq] at quote
  rcases quote with rfl | rfl <;> exact absurd above (by decide)

theorem digit_not_operator (c : Char) (digit : Json.isDigit c = true) :
    isOperatorChar c = false := by
  by_contra operator
  have apart : "+-*/<>=~!@#%^&|?".toList.all (fun d => d.toNat < 48 || 57 < d.toNat) = true := by
    decide
  have outside := List.all_eq_true.mp apart c
    (List.contains_iff_mem.mp (Bool.eq_true_of_not_eq_false operator))
  have range := digit_range c digit
  simp only [Bool.or_eq_true, decide_eq_true_eq] at outside
  omega

def isWord : List Char → Bool
  | [] => false
  | c :: rest => isWordStart c && rest.all isWordChar

theorem reads_word (cs rest : List Char) (word : isWord cs = true) (stop : Stops runsOn rest) :
    Reads cs [.word (String.ofList cs)] rest := by
  cases cs with
  | nil => cases word
  | cons c tail =>
      obtain ⟨start, all⟩ := Bool.and_eq_true_iff.mp word
      have above := word_start_above c start
      have digit : Json.isDigit c = false := by
        by_contra digit
        have := (digit_range c (Bool.eq_true_of_not_eq_false digit)).2
        omega
      have taken := Json.take_while_stops isWordChar tail rest (List.all_eq_true.mp all)
        (stops_weaken _ _ rest stop fun d other => by rw [runsOn, other, Bool.true_or])
      rw [Reads, List.cons_append]
      refine lexemes_cons _ _ _ _ (not_blank c (by omega)) ?_
      rw [nextLexeme, not_quote c (by omega), digit, start, if_neg (by decide), if_neg (by decide),
        if_pos rfl, readWord, taken.1, taken.2, if_pos (ends_before_stops _ _ stop)]

inductive IsFraction : List Char → Prop where
  | none : IsFraction []
  | point (digits : List Char) : Json.Digits digits → IsFraction ('.' :: digits)

inductive IsExponent : List Char → Prop where
  | none : IsExponent []
  | positive (digits : List Char) : digits ≠ [] → Json.Digits digits → IsExponent ('e' :: digits)
  | negative (digits : List Char) : Json.Digits digits → IsExponent ('e' :: '-' :: digits)

inductive IsNumber : List Char → Prop where
  | mk (whole fraction exponent : List Char) : whole ≠ [] → Json.Digits whole → IsFraction fraction →
      IsExponent exponent → IsNumber (whole ++ fraction ++ exponent)

theorem digit_stops (rest : List Char) (stop : Stops numberRunsOn rest) : Stops Json.isDigit rest :=
  stops_weaken _ _ rest stop fun c digit => by simp [numberRunsOn, runsOn, isWordChar, digit]

theorem exponent_stops (exponent rest : List Char) (form : IsExponent exponent)
    (stop : Stops numberRunsOn rest) : Stops Json.isDigit (exponent ++ rest) := by
  cases form with
  | none => exact digit_stops rest stop
  | positive digits _ _ => exact Json.stops_cons _ _ _ (by decide)
  | negative digits _ => exact Json.stops_cons _ _ _ (by decide)

theorem read_fraction_form (fraction tail : List Char) (form : IsFraction fraction)
    (stop : Stops Json.isDigit tail) (pointless : ∀ rest, tail ≠ '.' :: rest) :
    readFraction (fraction ++ tail) = (fraction, tail) := by
  cases form with
  | none =>
      rw [List.nil_append]
      cases tail with
      | nil => rfl
      | cons c rest =>
          unfold readFraction
          split
          · rename_i same
            exact absurd same (pointless _)
          · rfl
  | point digits all =>
      have taken := Json.take_while_stops Json.isDigit digits tail all stop
      rw [List.cons_append, readFraction, taken.1, taken.2]

theorem read_exponent_form (exponent rest : List Char) (form : IsExponent exponent)
    (stop : Stops numberRunsOn rest) : readExponent (exponent ++ rest) = (exponent, rest) := by
  have digits := digit_stops rest stop
  cases form with
  | none =>
      rw [List.nil_append]
      unfold readExponent
      split
      · exact absurd (stop 'e' _ rfl) (by decide)
      · exact absurd (stop 'E' _ rfl) (by decide)
      · rfl
  | negative ds all =>
      have taken := Json.take_while_stops Json.isDigit ds rest all digits
      rw [List.cons_append, List.cons_append, readExponent, readPower, taken.1, taken.2]
  | positive ds some all =>
      have taken := Json.take_while_stops Json.isDigit ds rest all digits
      have unsigned (c : Char) (cs : List Char) (sign : Json.isDigit c = false) :
          ds ++ rest ≠ c :: cs := by
        intro same
        cases ds with
        | nil => exact some rfl
        | cons d ds =>
            have digit := all d List.mem_cons_self
            rw [(List.cons.inj same).1, sign] at digit
            cases digit
      have power : readPower (ds ++ rest) = (ds, rest) := by
        unfold readPower
        split
        · exact absurd ‹_› (unsigned '-' _ (by decide))
        · exact absurd ‹_› (unsigned '+' _ (by decide))
        · rw [taken.1, taken.2]
      rw [List.cons_append, readExponent, power]

theorem reads_number (cs rest : List Char) (number : IsNumber cs)
    (stop : Stops numberRunsOn rest) : Reads cs [.number (String.ofList cs)] rest := by
  obtain ⟨whole, fraction, exponent, some, digits, fractionForm, exponentForm⟩ := number
  cases whole with
  | nil => exact absurd rfl some
  | cons c whole =>
      have range := digit_range c (digits c List.mem_cons_self)
      have tail := exponent_stops exponent rest exponentForm stop
      have pointless (more : List Char) : exponent ++ rest ≠ '.' :: more := by
        intro same
        cases exponentForm with
        | none => exact absurd (stop '.' more same) (by decide)
        | positive ds _ _ => cases same
        | negative ds _ => cases same
      have leading : Stops Json.isDigit (fraction ++ (exponent ++ rest)) := by
        cases fractionForm with
        | none => exact tail
        | point ds _ => exact Json.stops_cons _ _ _ (by decide)
      have taken := Json.take_while_stops Json.isDigit whole _
        (fun d member => digits d (List.mem_cons_of_mem _ member)) leading
      rw [Reads, List.append_assoc, List.append_assoc, List.cons_append]
      refine lexemes_cons _ _ _ _ (not_blank c (by omega)) ?_
      rw [nextLexeme, not_quote c (by omega), digits c List.mem_cons_self, if_neg (by decide),
        if_pos rfl, readNumber, taken.1, taken.2,
        read_fraction_form fraction _ fractionForm tail pointless]
      dsimp only
      rw [read_exponent_form exponent rest exponentForm stop]
      dsimp only
      rw [if_pos (ends_before_stops _ _ stop)]

theorem reads_operator (text : String) (rest : List Char) (known : text ∈ operators)
    (stop : Stops isOperatorChar rest) : Reads text.toList [.sign text] rest := by
  have shape : ∀ text ∈ operators, ∃ c tail, text.toList = c :: tail ∧ isBlank c = false ∧
      isQuote c = false ∧ Json.isDigit c = false ∧ isWordStart c = false ∧
        isOperatorChar c = true ∧ tail.all isOperatorChar = true := by
    intro text known
    simp only [operators, List.mem_cons, List.not_mem_nil, or_false] at known
    rcases known with rfl | rfl | rfl | rfl | rfl | rfl | rfl | rfl | rfl | rfl | rfl <;>
      exact ⟨_, _, rfl, by decide⟩
  obtain ⟨c, tail, same, dark, quote, digit, word, operator, all⟩ := shape text known
  have taken := Json.take_while_stops isOperatorChar tail rest
    (List.all_eq_true.mp all) stop
  rw [Reads, same, List.cons_append]
  refine lexemes_cons _ _ _ _ dark ?_
  rw [nextLexeme, quote, digit, word, operator, if_neg (by decide), if_neg (by decide),
    if_neg (by decide), if_pos rfl, readOperator, taken.1, taken.2, ← same, String.ofList_toList,
    if_pos known]

theorem reads_punctuation (c : Char) (rest : List Char) (mark : isPunctuation c = true) :
    Reads [c] [.sign (String.singleton c)] rest := by
  have one : isPunctuation c = true ∧ isBlank c = false ∧ isQuote c = false ∧
      Json.isDigit c = false ∧ isWordStart c = false ∧ isOperatorChar c = false := by
    simp only [isPunctuation, Bool.or_eq_true, beq_iff_eq] at mark
    rcases mark with ((rfl | rfl) | rfl) | rfl <;> decide
  obtain ⟨-, dark, quote, digit, word, operator⟩ := one
  refine lexemes_cons _ _ _ _ dark ?_
  rw [nextLexeme, quote, digit, word, operator, mark, if_neg (by decide), if_neg (by decide),
    if_neg (by decide), if_neg (by decide), if_pos rfl]
  rfl

theorem number_start (cs rest : List Char) (number : IsNumber cs) :
    Stops isOperatorChar (cs ++ rest) := by
  obtain ⟨whole, fraction, exponent, some, digits, -, -⟩ := number
  cases whole with
  | nil => exact absurd rfl some
  | cons c whole => exact Json.stops_cons _ _ _ (digit_not_operator c (digits c List.mem_cons_self))

theorem whole_number (digits : List Char) (some : digits ≠ []) (all : Json.Digits digits) :
    IsNumber digits := by
  have number := IsNumber.mk digits [] [] some all .none .none
  rwa [List.append_nil, List.append_nil] at number

theorem pointed_number (whole fraction : List Char) (some : whole ≠ []) (all : Json.Digits whole)
    (digits : Json.Digits fraction) : IsNumber (whole ++ '.' :: fraction) := by
  have number := IsNumber.mk whole ('.' :: fraction) [] some all (.point fraction digits) .none
  rwa [List.append_nil] at number

theorem positional_number (digits : List Char) (leading : Int) (some : digits ≠ [])
    (all : Json.Digits digits) : IsNumber (Binary64.positional true digits leading) := by
  rw [Binary64.positional]
  split
  · exact pointed_number ['0'] _ (by decide) (Json.digits_zeros 1)
      (Json.digits_append _ _ (Json.digits_zeros _) all)
  · dsimp only
    split
    · exact pointed_number _ ['0'] (List.append_ne_nil_of_left_ne_nil some _)
        (Json.digits_append _ _ all (Json.digits_zeros _)) (Json.digits_zeros 1)
    · refine pointed_number _ _ ?_ (fun c member => all c (List.mem_of_mem_take member))
        (fun c member => all c (List.mem_of_mem_drop member))
      cases digits with
      | nil => exact absurd rfl some
      | cons c rest => simp

theorem scientific_number (digits : List Char) (leading : Int) (some : digits ≠ [])
    (all : Json.Digits digits) : IsNumber (Binary64.scientific "" digits leading) := by
  have whole : digits.take 1 ≠ [] := by
    cases digits with
    | nil => exact absurd rfl some
    | cons c rest => simp
  have exponent : IsExponent ('e' :: ((if leading < 0 then ['-'] else []) ++
      Nat.toDigits 10 leading.natAbs)) := by
    split
    · exact .negative _ (Json.digits_to_digits _)
    · exact .positive _ Nat.toDigits_ne_nil (Json.digits_to_digits _)
  have fraction : IsFraction (if digits.drop 1 = [] then [] else '.' :: digits.drop 1) := by
    split
    · exact .none
    · exact .point _ fun c member => all c (List.mem_of_mem_drop member)
  have number := IsNumber.mk _ _ _ whole (fun c member => all c (List.mem_of_mem_take member))
    fraction exponent
  rw [Binary64.scientific]
  simpa using number

theorem magnitude_number (rank : Nat) : IsNumber (Binary64.magnitudeChars .sql rank) := by
  rw [Binary64.magnitudeChars]
  split
  · exact pointed_number ['0'] ['0'] (by decide) (Json.digits_zeros 1) (Json.digits_zeros 1)
  · have digits := Json.digits_to_digits (Binary64.shortest .even rank).digits
    dsimp only
    split
    · exact positional_number _ _ Nat.toDigits_ne_nil digits
    · exact scientific_number _ _ Nat.toDigits_ne_nil digits

end StatTable.Sql
