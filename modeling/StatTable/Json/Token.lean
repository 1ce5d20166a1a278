import StatTable.Json.Number

set_option autoImplicit false

namespace StatTable.Json

inductive Token where
  | openBrace
  | closeBrace
  | openBracket
  | closeBracket
  | comma
  | colon
  | null
  | bool (b : Bool)
  | number (n : Number)
  | string (s : String)

def isSpace (c : Char) : Bool :=
  c == ' ' || c == '\t' || c == '\n' || c == '\r'

inductive Piece where
  | plain (c : Char)
  | unit (code : Nat)

def hexDigit? (c : Char) : Option Nat :=
  if '0' ≤ c ∧ c ≤ '9' then some (c.toNat - '0'.toNat)
  else if 'a' ≤ c ∧ c ≤ 'f' then some (c.toNat - 'a'.toNat + 10)
  else if 'A' ≤ c ∧ c ≤ 'F' then some (c.toNat - 'A'.toNat + 10)
  else none

def hexNumber? (cs : List Char) : Option Nat :=
  cs.foldlM (fun n c => (hexDigit? c).map (16 * n + ·)) 0

def escaped? (c : Char) : Option Char :=
  match c with
  | '"' => some '"'
  | '\\' => some '\\'
  | '/' => some '/'
  | 'b' => some '\x08'
  | 'f' => some '\x0c'
  | 'n' => some '\n'
  | 'r' => some '\r'
  | 't' => some '\t'
  | _ => none

def prepend (piece : Piece) (rest : List Piece × List Char) : List Piece × List Char :=
  (piece :: rest.1, rest.2)

def readPieces : List Char → Option (List Piece × List Char)
  | [] => none
  | '"' :: rest => some ([], rest)
  | '\\' :: 'u' :: a :: b :: c :: d :: rest =>
      match hexNumber? [a, b, c, d] with
      | some code => (readPieces rest).map (prepend (.unit code))
      | none => none
  | '\\' :: c :: rest =>
      match escaped? c with
      | some e => (readPieces rest).map (prepend (.plain e))
      | none => none
  | c :: rest =>
      if c.toNat < 0x20 ∨ c = '\\' then none
      else (readPieces rest).map (prepend (.plain c))

def isLeading (code : Nat) : Bool := 0xD800 ≤ code && code < 0xDC00

def isTrailing (code : Nat) : Bool := 0xDC00 ≤ code && code < 0xE000

-- The characters of a string. A leading unit needs a trailing one behind it, and the other way
-- round.
def joinPieces : List Piece → Option (List Char)
  | [] => some []
  | .plain c :: rest => (joinPieces rest).map (c :: ·)
  | .unit high :: .unit low :: rest =>
      if isLeading high && isTrailing low then
        (joinPieces rest).map
          (Char.ofNat (0x10000 + (high - 0xD800) * 0x400 + (low - 0xDC00)) :: ·)
      else if isLeading high || isTrailing high then none
      else (joinPieces (.unit low :: rest)).map (Char.ofNat high :: ·)
  | .unit code :: rest =>
      if isLeading code || isTrailing code then none
      else (joinPieces rest).map (Char.ofNat code :: ·)

def readString (cs : List Char) : Option (Token × List Char) :=
  match readPieces cs with
  | some (pieces, rest) => (joinPieces pieces).map fun s => (.string (String.ofList s), rest)
  | none => none

def isNumeral (c : Char) : Bool :=
  isDigit c || c == '-' || c == '+' || c == '.' || c == 'e' || c == 'E'

def readNumber (c : Char) (rest : List Char) : Option (Token × List Char) :=
  (Number.read (c :: rest.takeWhile isNumeral)).map fun n => (.number n, rest.dropWhile isNumeral)

def nextToken (c : Char) (rest : List Char) : Option (Token × List Char) :=
  match c, rest with
  | '\x7b', rest => some (.openBrace, rest)
  | '\x7d', rest => some (.closeBrace, rest)
  | '[', rest => some (.openBracket, rest)
  | ']', rest => some (.closeBracket, rest)
  | ',', rest => some (.comma, rest)
  | ':', rest => some (.colon, rest)
  | '"', rest => readString rest
  | 'n', 'u' :: 'l' :: 'l' :: rest => some (.null, rest)
  | 't', 'r' :: 'u' :: 'e' :: rest => some (.bool true, rest)
  | 'f', 'a' :: 'l' :: 's' :: 'e' :: rest => some (.bool false, rest)
  | c, rest => if c == '-' || isDigit c then readNumber c rest else none

theorem readPieces_length (cs : List Char) (result : List Piece × List Char)
    (found : readPieces cs = some result) : result.2.length < cs.length := by
  fun_induction readPieces cs generalizing result with
  | case1 => simp at found
  | case2 rest =>
      obtain rfl := Option.some.inj found
      simp
  | case3 a b c d rest code known shorter =>
      obtain ⟨inner, innerFound, rfl⟩ := Option.map_eq_some_iff.mp found
      have := shorter inner innerFound
      simp only [prepend, List.length_cons]
      omega
  | case4 => simp at found
  | case5 c rest e known other shorter =>
      obtain ⟨inner, innerFound, rfl⟩ := Option.map_eq_some_iff.mp found
      have := shorter inner innerFound
      simp only [prepend, List.length_cons]
      omega
  | case6 => simp at found
  | case7 => simp at found
  | case8 c rest _ _ _ plain shorter =>
      obtain ⟨inner, innerFound, rfl⟩ := Option.map_eq_some_iff.mp found
      have := shorter inner innerFound
      simp only [prepend, List.length_cons]
      omega

theorem readString_length (cs : List Char) (result : Token × List Char)
    (found : readString cs = some result) : result.2.length < cs.length := by
  unfold readString at found
  split at found
  · rename_i pieces rest read
    obtain ⟨inner, _, rfl⟩ := Option.map_eq_some_iff.mp found
    exact readPieces_length cs (pieces, rest) read
  · simp at found

theorem readNumber_length (c : Char) (rest : List Char) (result : Token × List Char)
    (found : readNumber c rest = some result) : result.2.length ≤ rest.length := by
  obtain ⟨_, _, rfl⟩ := Option.map_eq_some_iff.mp found
  exact (List.dropWhile_suffix isNumeral).length_le

theorem nextToken_length (c : Char) (rest : List Char) (result : Token × List Char)
    (found : nextToken c rest = some result) : result.2.length ≤ rest.length := by
  unfold nextToken at found
  split at found
  case h_7 => exact Nat.le_of_lt (readString_length _ result found)
  case h_11 =>
    split at found
    · exact readNumber_length _ _ result found
    · simp at found
  all_goals
    obtain rfl := Option.some.inj found
    simp only [List.length_cons]
    omega

def tokens : List Char → Option (List Token)
  | [] => some []
  | c :: rest =>
      if isSpace c then tokens rest
      else
        match _found : nextToken c rest with
        | none => none
        | some (token, remaining) => (tokens remaining).map (token :: ·)
termination_by cs => cs.length
decreasing_by
  · simp
  · have : remaining.length ≤ rest.length := nextToken_length c rest (token, remaining) _found
    simp only [List.length_cons]
    omega

end StatTable.Json
