import StatTable.Json.Basic

/-
Numbers as JSON texts write them. Without fraction and exponent a number that fits a 64-bit word is
an integer. Every other number is read in binary64 arithmetic: its leading digits that fit an
unsigned 64-bit word, rounded once, are multiplied or divided by a power of ten, rounding once
more. A number beyond the largest finite one has no value.
-/

set_option autoImplicit false

namespace StatTable.Json

structure Numeral where
  negative : Bool
  whole : List Nat
  fraction : Option (List Nat)
  exponent : Option Int

def digit? (c : Char) : Option Nat :=
  if '0' ≤ c ∧ c ≤ '9' then some (c.toNat - '0'.toNat) else none

def isDigit (c : Char) : Bool := (digit? c).isSome

def digitsOf (cs : List Char) : List Nat := cs.filterMap digit?

def takeDigits (cs : List Char) : List Nat × List Char :=
  (digitsOf (cs.takeWhile isDigit), cs.dropWhile isDigit)

def natOfDigits (digits : List Nat) : Nat :=
  digits.foldl (fun n d => 10 * n + d) 0

def readSign : List Char → Bool × List Char
  | '-' :: rest => (true, rest)
  | '+' :: rest => (false, rest)
  | rest => (false, rest)

def readExponent (cs : List Char) : Option Int :=
  let (negative, rest) := readSign cs
  match takeDigits rest with
  | ([], _) => none
  | (digits, []) =>
      let n : Int := natOfDigits digits
      some (if negative then -n else n)
  | _ => none

def readTail (negative : Bool) (whole : List Nat) (fraction : Option (List Nat)) :
    List Char → Option Numeral
  | [] => some ⟨negative, whole, fraction, none⟩
  | c :: rest =>
      if c = 'e' ∨ c = 'E' then
        (readExponent rest).map fun exponent => ⟨negative, whole, fraction, some exponent⟩
      else none

def readFraction (negative : Bool) (whole : List Nat) : List Char → Option Numeral
  | '.' :: rest =>
      match takeDigits rest with
      | ([], _) => none
      | (digits, rest) => readTail negative whole (some digits) rest
  | rest => readTail negative whole none rest

-- Reads a number that takes up the whole text. The whole part has a digit, and starts with a zero
-- only if it has no other.
def Numeral.read (cs : List Char) : Option Numeral :=
  let (negative, rest) :=
    match cs with
    | '-' :: rest => (true, rest)
    | rest => (false, rest)
  match takeDigits rest with
  | ([], _) => none
  | (0 :: _ :: _, _) => none
  | (digits, rest) => readFraction negative digits rest

structure Kept where
  digits : Nat
  exponent : Int

def Kept.push? (kept : Kept) (digit : Nat) : Option Nat :=
  let extended := 10 * kept.digits + digit
  if extended < UInt64.size then some extended else none

-- From the first digit that does not fit, each digit of the whole part only scales by ten.
def keepWhole : Kept → List Nat → Kept
  | kept, [] => kept
  | kept, digit :: rest =>
      match kept.push? digit with
      | some digits => keepWhole ⟨digits, kept.exponent⟩ rest
      | none => ⟨kept.digits, kept.exponent + rest.length + 1⟩

-- From the first digit that does not fit, the digits of the fraction are dropped.
def keepFraction : Kept → List Nat → Kept
  | kept, [] => kept
  | kept, digit :: rest =>
      match kept.push? digit with
      | some digits => keepFraction ⟨digits, kept.exponent - 1⟩ rest
      | none => kept

def largestPower : Nat := 308

def powerOfTen (exponent : Nat) : Binary64 :=
  Binary64.ofDecimal false 1 exponent

def scaleDown (x : Binary64) (exponent : Nat) : Binary64 :=
  if exponent ≤ largestPower then x.div (powerOfTen exponent)
  else if x.rank = 0 then x
  else scaleDown (x.div (powerOfTen largestPower)) (exponent - largestPower)
termination_by exponent
decreasing_by simp only [largestPower] at *; omega

def scaleUp (x : Binary64) (exponent : Nat) : Option Binary64 :=
  if exponent ≤ largestPower then
    let product := x.mul (powerOfTen exponent)
    if product.isFinite then some product else none
  else if x.rank = 0 then some x
  else none

def Kept.toBinary64? (kept : Kept) : Option Binary64 :=
  let x := Binary64.ofInt kept.digits
  if 0 ≤ kept.exponent then scaleUp x kept.exponent.toNat
  else some (scaleDown x (-kept.exponent).toNat)

def wholeNumber? (negative : Bool) (n : Nat) : Option Number :=
  if negative then
    if n = 0 then none
    else if n ≤ 9223372036854775808 then some (.integer (-n))
    else none
  else if n < UInt64.size then some (.integer n)
  else none

def Numeral.binary? (numeral : Numeral) : Option Binary64 :=
  let kept := keepFraction (keepWhole ⟨0, 0⟩ numeral.whole) (numeral.fraction.getD [])
  let scaled : Kept := ⟨kept.digits, kept.exponent + numeral.exponent.getD 0⟩
  scaled.toBinary64?.map fun x => if numeral.negative then x.neg else x

def Numeral.value? (numeral : Numeral) : Option Number :=
  let plain := numeral.fraction.isNone && numeral.exponent.isNone
  let whole := if plain then wholeNumber? numeral.negative (natOfDigits numeral.whole) else none
  match whole with
  | some n => some n
  | none => numeral.binary?.map .binary

def Number.read (cs : List Char) : Option Number :=
  (Numeral.read cs).bind Numeral.value?

end StatTable.Json
