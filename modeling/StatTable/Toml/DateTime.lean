import StatTable.Json.Number

set_option autoImplicit false

namespace StatTable.Toml

def isUpTo (bound : Nat) (cs : List Char) : Bool :=
  cs.all Json.isDigit && decide (Json.natOfDigits (Json.digitsOf cs) ≤ bound)

def isLeapYear (year : Nat) : Bool :=
  (year % 4 == 0 && year % 100 != 0) || year % 400 == 0

def daysIn (year month : Nat) : Nat :=
  if month = 2 then if isLeapYear year then 29 else 28
  else if [4, 6, 9, 11].contains month then 30
  else if 1 ≤ month ∧ month ≤ 12 then 31
  else 0

def isDate : List Char → Bool
  | [y₁, y₂, y₃, y₄, '-', m₁, m₂, '-', d₁, d₂] =>
      let year := Json.natOfDigits (Json.digitsOf [y₁, y₂, y₃, y₄])
      let month := Json.natOfDigits (Json.digitsOf [m₁, m₂])
      [y₁, y₂, y₃, y₄, m₁, m₂].all Json.isDigit && isUpTo (daysIn year month) [d₁, d₂] &&
        [d₁, d₂] != ['0', '0']
  | _ => false

def isFraction : List Char → Bool
  | [] => true
  | '.' :: digits => !digits.isEmpty && digits.all Json.isDigit
  | _ => false

-- What may follow the minutes. A minute with a leap second has 61 seconds.
def isSeconds : List Char → Bool
  | [] => true
  | ':' :: s₁ :: s₂ :: rest => isUpTo 60 [s₁, s₂] && isFraction rest
  | _ => false

def isTime : List Char → Bool
  | h₁ :: h₂ :: ':' :: m₁ :: m₂ :: rest =>
      isUpTo 23 [h₁, h₂] && isUpTo 59 [m₁, m₂] && isSeconds rest
  | _ => false

def isOffset : List Char → Bool
  | [] => true
  | ['Z'] | ['z'] => true
  | [sign, h₁, h₂, ':', m₁, m₂] =>
      (sign == '+' || sign == '-') && isUpTo 23 [h₁, h₂] && isUpTo 59 [m₁, m₂]
  | _ => false

def isTimeChar (c : Char) : Bool := Json.isDigit c || c == ':' || c == '.'

def isOffsetTime (cs : List Char) : Bool :=
  isTime (cs.takeWhile isTimeChar) && isOffset (cs.dropWhile isTimeChar)

def isDateTime (cs : List Char) : Bool :=
  match cs.drop 10 with
  | [] => isDate cs || isTime cs
  | 'T' :: time | 't' :: time | ' ' :: time => isDate (cs.take 10) && isOffsetTime time
  | _ => isTime cs

end StatTable.Toml
