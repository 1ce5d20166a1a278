import StatTable.Binary64.Rounding
import StatTable.Json.Token
import StatTable.Toml.Basic
import StatTable.Toml.DateTime

set_option autoImplicit false

namespace StatTable.Toml

def isSpace (c : Char) : Bool := c == ' ' || c == '\t'

def skipSpaces (cs : List Char) : List Char := cs.dropWhile isSpace

def isForbidden (c : Char) : Bool := (c.toNat < 0x20 && c != '\t') || c.toNat == 0x7f

def skipFiller (inComment : Bool) : List Char → Option (List Char)
  | [] => some []
  | '\n' :: rest => skipFiller false rest
  | '\r' :: '\n' :: rest => skipFiller false rest
  | c :: rest =>
      if inComment then if isForbidden c then none else skipFiller true rest
      else if c = '#' then skipFiller true rest
      else if isSpace c then skipFiller false rest
      else some (c :: rest)

def endsLine (cs : List Char) : Bool :=
  match skipSpaces cs with
  | [] => true
  | '\n' :: _ => true
  | '\r' :: '\n' :: _ => true
  | '#' :: _ => true
  | _ => false

def endsBlank (cs : List Char) : Bool :=
  match skipSpaces cs with
  | '\n' :: _ => true
  | '\r' :: '\n' :: _ => true
  | _ => false

def escaped? (c : Char) : Option Char :=
  match c with
  | '"' => some '"'
  | '\\' => some '\\'
  | 'b' => some '\x08'
  | 'e' => some '\x1b'
  | 't' => some '\t'
  | 'n' => some '\n'
  | 'f' => some '\x0c'
  | 'r' => some '\r'
  | _ => none

def codePoint? (digits : List Char) : Option Char :=
  match Json.hexNumber? digits with
  | some n => if n.isValidChar then some (Char.ofNat n) else none
  | none => none

abbrev Span : Type := List Char × List Char

def prepend (c : Char) (rest : Span) : Span := (c :: rest.1, rest.2)

-- What ends a string: one mark, or for a string of several lines three. Up to two more marks in
-- front of the three belong to the string.
def closing? (isLong : Bool) (mark : Char) (cs : List Char) : Option Span :=
  if isLong then
    let marks := (cs.takeWhile (· == mark)).length
    if marks < 3 then none
    else
      let kept := min (marks - 3) 2
      some (List.replicate kept mark, cs.drop (kept + 3))
  else if cs.head? = some mark then some ([], cs.drop 1)
  else none

def isPlain (isLong : Bool) (c : Char) : Bool := !isForbidden c || (isLong && c == '\n')

-- The rest of a string between quotation marks, and what follows it. A backslash at the end of a
-- line joins the next text to it: behind it there is a gap, in which blanks are left out.
def readBasic (isLong : Bool) : Bool → List Char → Option Span
  | _, [] => none
  | _, '\\' :: 'x' :: a :: b :: rest =>
      match codePoint? [a, b] with
      | some point => (readBasic isLong false rest).map (prepend point)
      | none => none
  | _, '\\' :: 'u' :: a :: b :: c :: d :: rest =>
      match codePoint? [a, b, c, d] with
      | some point => (readBasic isLong false rest).map (prepend point)
      | none => none
  | _, '\\' :: 'U' :: a :: b :: c :: d :: e :: f :: g :: h :: rest =>
      match codePoint? [a, b, c, d, e, f, g, h] with
      | some point => (readBasic isLong false rest).map (prepend point)
      | none => none
  | _, '\\' :: c :: rest =>
      match escaped? c with
      | some e => (readBasic isLong false rest).map (prepend e)
      | none => if isLong && endsBlank (c :: rest) then readBasic isLong true (c :: rest) else none
  | inGap, '\r' :: '\n' :: rest =>
      if !isLong then none
      else if inGap then readBasic isLong true rest
      else (readBasic isLong false rest).map fun span => prepend '\r' (prepend '\n' span)
  | inGap, c :: rest =>
      if inGap && (isSpace c || c == '\n') then readBasic isLong true rest
      else
        match closing? isLong '"' (c :: rest) with
        | some span => some span
        | none =>
            if isPlain isLong c && c != '\\' then (readBasic isLong false rest).map (prepend c)
            else none

def readLiteral (isLong : Bool) : List Char → Option Span
  | [] => none
  | '\r' :: '\n' :: rest =>
      if isLong then
        (readLiteral isLong rest).map fun span => prepend '\r' (prepend '\n' span)
      else none
  | c :: rest =>
      match closing? isLong '\'' (c :: rest) with
      | some span => some span
      | none => if isPlain isLong c then (readLiteral isLong rest).map (prepend c) else none

def dropLineEnd : List Char → List Char
  | '\n' :: rest => rest
  | '\r' :: '\n' :: rest => rest
  | cs => cs

def readString : List Char → Option Span
  | '"' :: '"' :: '"' :: rest => readBasic true false (dropLineEnd rest)
  | '"' :: rest => readBasic false false rest
  | '\'' :: '\'' :: '\'' :: rest => readLiteral true (dropLineEnd rest)
  | '\'' :: rest => readLiteral false rest
  | _ => none

def isAsciiWord (c : Char) : Bool := c.isAlphanum || c == '_' || c == '-'

def readKey : List Char → Option (String × List Char)
  | '"' :: rest => (readBasic false false rest).map fun (s, rest) => (String.ofList s, rest)
  | '\'' :: rest => (readLiteral false rest).map fun (s, rest) => (String.ofList s, rest)
  | cs =>
      match cs.takeWhile isAsciiWord with
      | [] => none
      | name => some (String.ofList name, cs.dropWhile isAsciiWord)

def readPath : Nat → List Char → Option (List String × List Char)
  | 0, _ => none
  | bound + 1, cs => do
      let (key, rest) ← readKey (skipSpaces cs)
      match skipSpaces rest with
      | '.' :: rest =>
          let (path, rest) ← readPath bound rest
          return (key :: path, rest)
      | rest => return ([key], rest)

def ungroup (isDigit : Char → Bool) : List Char → Option (List Char)
  | [] => some []
  | c :: rest =>
      if isDigit c then
        match rest with
        | '_' :: d :: more =>
            if isDigit d then (ungroup isDigit (d :: more)).map (c :: ·) else none
        | rest => (ungroup isDigit rest).map (c :: ·)
      else none

def natural? (base : Nat) (cs : List Char) : Option Nat :=
  let value := fun c => (Json.hexDigit? c).filter (· < base)
  match ungroup (fun c => (value c).isSome) cs with
  | none | some [] => none
  | some digits => some ((digits.filterMap value).foldl (fun n d => base * n + d) 0)

def decimal? : List Char → Option Nat
  | ['0'] => some 0
  | '0' :: _ => none
  | cs => natural? 10 cs

def fraction? : List Char → Option (List Char)
  | [] => some []
  | _ :: digits => (ungroup Json.isDigit digits).filter (· ≠ [])

def exponent? : List Char → Option Int
  | [] => some 0
  | _ :: cs =>
      let (negative, digits) := Json.readSign cs
      (natural? 10 digits).map fun n => if negative then -n else n

def isExponentMark (c : Char) : Bool := c == 'e' || c == 'E'

def ofFinite (x : Binary64) : Value := .float (if x.isFinite then some x else none)

def float? (negative : Bool) (cs : List Char) : Option Value := do
  let mantissa := cs.takeWhile (!isExponentMark ·)
  let whole ← decimal? (mantissa.takeWhile (· != '.'))
  let fraction ← fraction? (mantissa.dropWhile (· != '.'))
  let exponent ← exponent? (cs.dropWhile (!isExponentMark ·))
  let digits := (Json.digitsOf fraction).foldl (fun n d => 10 * n + d) whole
  return ofFinite (.ofDecimal negative digits (exponent - fraction.length))

def unsigned? (negative : Bool) (cs : List Char) : Option Value :=
  match cs with
  | ['i', 'n', 'f'] => some (.float (some (.infinity negative)))
  | ['n', 'a', 'n'] => some (.float (some .nan))
  | cs =>
      match decimal? cs with
      | some n => some (.integer (if negative then -n else n))
      | none => float? negative cs

def number? (cs : List Char) : Option Value :=
  match cs with
  | '0' :: 'x' :: digits => (natural? 16 digits).map fun n => .integer n
  | '0' :: 'o' :: digits => (natural? 8 digits).map fun n => .integer n
  | '0' :: 'b' :: digits => (natural? 2 digits).map fun n => .integer n
  | cs => unsigned? (Json.readSign cs).1 (Json.readSign cs).2

def word? (cs : List Char) : Option Value :=
  match cs with
  | ['t', 'r', 'u', 'e'] => some (.bool true)
  | ['f', 'a', 'l', 's', 'e'] => some (.bool false)
  | cs => if isDateTime cs then some .dateTime else number? cs

def isWordChar (c : Char) : Bool := isAsciiWord c || c == '+' || c == '.' || c == ':'

-- A word and what follows it. A space stands in a word only between a date and a time.
def takeWord (cs : List Char) : Span :=
  let word := cs.takeWhile isWordChar
  match cs.dropWhile isWordChar with
  | ' ' :: c :: rest =>
      if isDate word && Json.isDigit c then
        (word ++ ' ' :: (c :: rest).takeWhile isWordChar, (c :: rest).dropWhile isWordChar)
      else (word, ' ' :: c :: rest)
  | rest => (word, rest)

end StatTable.Toml
