import StatTable.Binary64.Rounding

set_option autoImplicit false

namespace StatTable.Binary64

inductive Tie where
  | even
  | up
deriving DecidableEq

structure Decimal where
  digits : Nat
  exponent : Int
deriving DecidableEq

def roundingInterval (rank : Nat) : Nat × Nat :=
  (units (rank - 1) + units rank, units rank + units (rank + 1))

-- Whether a decimal magnitude rounds to a rank; the ends of the interval do for even ranks.
def Decimal.roundsTo (d : Decimal) (rank : Nat) : Bool :=
  let (low, high) := roundingInterval rank
  let scale := Nat.pow 10 (-d.exponent).toNat
  let value := 2 * d.digits * Nat.pow 10 d.exponent.toNat * unitsPerOne
  if rank % 2 = 0 then low * scale ≤ value && value ≤ high * scale
  else low * scale < value && value < high * scale

def leadingExponent (amount : Nat) : Int :=
  if unitsPerOne ≤ amount then (decimalLength (amount / unitsPerOne) : Int) - 1
  else -(decimalLength ((unitsPerOne - 1) / amount) : Int)

def neighbours (tie : Tie) (rank : Nat) (exponent : Int) : List Decimal :=
  let num := units rank * Nat.pow 10 (-exponent).toNat
  let den := unitsPerOne * Nat.pow 10 exponent.toNat
  let below := num / den
  let twice := 2 * (num % den)
  let lowFirst : Bool :=
    if twice = den then tie == .even && below % 2 == 0 else twice < den
  let low := ⟨below, exponent⟩
  let high := ⟨below + 1, exponent⟩
  if lowFirst then [low, high] else [high, low]

def Decimal.trim : Nat → Decimal → Decimal
  | 0, d => d
  | count + 1, d =>
      if d.digits % 10 = 0 then Decimal.trim count ⟨d.digits / 10, d.exponent + 1⟩ else d

def shortest (tie : Tie) (rank : Nat) : Decimal :=
  let leading := leadingExponent (units rank)
  let candidates := (List.range 17).flatMap fun (place : Nat) =>
    neighbours tie rank (leading - place)
  match candidates.find? (·.roundsTo rank) with
  | some d => d.trim 17
  | none => ⟨0, 0⟩

end StatTable.Binary64
