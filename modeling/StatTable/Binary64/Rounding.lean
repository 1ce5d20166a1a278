import StatTable.Binary64.Basic

set_option autoImplicit false

namespace StatTable.Binary64

def roundHalfEven (num den : Nat) : Nat :=
  let quotient := num / den
  let twice := 2 * (num % den)
  if twice < den then quotient
  else if twice = den then quotient + quotient % 2
  else quotient + 1

-- The rank of the magnitude nearest to a ratio of units. With 53 significant bits kept, the dropped
-- bits are a factor 2^d, and a carry into the next power of two needs no case of its own since
-- ranks are consecutive.
def nearestRank (num den : Nat) : Nat :=
  let dropped := Nat.log2 (num / den) - 52
  min infinityRank (dropped * blockSize + roundHalfEven num (den * Nat.pow 2 dropped))

theorem nearestRank_lt (num den : Nat) : nearestRank num den < 9223372036854775808 := by
  have bound : nearestRank num den ≤ infinityRank := Nat.min_le_left _ _
  have : infinityRank < 9223372036854775808 := by decide
  omega

def ofRatio (negative : Bool) (num den : Nat) : Binary64 :=
  ⟨negative, nearestRank (num * unitsPerOne) den, nearestRank_lt _ _⟩

def ofInt (n : Int) : Binary64 :=
  ofRatio (n < 0) n.natAbs 1

def decimalLength (n : Nat) : Nat :=
  (Nat.toDigits 10 n).length

-- The number nearest to digits · 10^exponent. A value below 10^-400 rounds to zero and one from
-- 10^400 up to infinity, so the power of ten that is computed stays small.
def ofDecimal (negative : Bool) (digits : Nat) (exponent : Int) : Binary64 :=
  if digits = 0 then signedZero negative
  else if 400 < exponent + decimalLength digits then infinity negative
  else if exponent + decimalLength digits < -400 then signedZero negative
  else if 0 ≤ exponent then ofRatio negative (digits * Nat.pow 10 exponent.toNat) 1
  else ofRatio negative digits (Nat.pow 10 (-exponent).toNat)

def mul (x y : Binary64) : Binary64 :=
  ⟨x.negative != y.negative, nearestRank (units x.rank * units y.rank) unitsPerOne,
    nearestRank_lt _ _⟩

def div (x y : Binary64) : Binary64 :=
  ⟨x.negative != y.negative, nearestRank (units x.rank * unitsPerOne) (units y.rank),
    nearestRank_lt _ _⟩

end StatTable.Binary64
