/-
Binary64 numbers as data: a sign and the rank of the magnitude. Ranks count the magnitudes in
ascending order, zero first; they are the low 63 bits of the interchange encoding. Every finite
magnitude is a whole number of units, one unit being 2^-1074, the smallest positive magnitude.
-/

set_option autoImplicit false

namespace StatTable

structure Binary64 where
  negative : Bool
  rank : Nat
  rank_lt : rank < 9223372036854775808 := by omega
deriving DecidableEq

namespace Binary64

def blockSize : Nat := 4503599627370496

def infinityRank : Nat := 2047 * blockSize

def unitsPerOne : Nat := Nat.pow 2 1074

-- The magnitude of a rank in units: the ranks of the first block count units, and from there on
-- each block takes steps twice as wide as the block before it.
def units (rank : Nat) : Nat :=
  if rank < blockSize then rank
  else (blockSize + rank % blockSize) * Nat.pow 2 (rank / blockSize - 1)

def zero : Binary64 := ⟨false, 0, by decide⟩

def signedZero (negative : Bool) : Binary64 := { zero with negative := negative }

def infinity (negative : Bool) : Binary64 := ⟨negative, infinityRank, by decide⟩

def nan : Binary64 := ⟨false, infinityRank + blockSize / 2, by decide⟩

def neg (x : Binary64) : Binary64 := ⟨!x.negative, x.rank, x.rank_lt⟩

def isFinite (x : Binary64) : Bool := x.rank < infinityRank

def isNaN (x : Binary64) : Bool := infinityRank < x.rank

def signedUnits (x : Binary64) : Int :=
  if x.negative then -(units x.rank : Int) else units x.rank

def toInt? (x : Binary64) : Option Int :=
  if x.isFinite && units x.rank % unitsPerOne == 0 then
    some (x.signedUnits / unitsPerOne)
  else none

def orderKey (x : Binary64) : Int :=
  if x.negative then -1 - (x.rank : Int) else x.rank

def compare (x y : Binary64) : Ordering :=
  Ord.compare x.orderKey y.orderKey

end Binary64

end StatTable
