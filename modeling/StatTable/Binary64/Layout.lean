import StatTable.Binary64.Shortest

set_option autoImplicit false

namespace StatTable.Binary64

structure Layout where
  tie : Tie
  isPositional : Int → Bool
  pointZero : Bool
  exponentPlus : String
  nan : String
  infinity : String
  negativeInfinity : String

def isMiddling (leading : Int) : Bool :=
  -5 ≤ leading && leading < 16

-- Numbers in statements: an exponent outside 10^-5 up to 10^16, without a plus sign. What is not
-- finite has no literal and is written as NULL.
def Layout.sql : Layout where
  tie := .even
  isPositional := isMiddling
  pointZero := true
  exponentPlus := ""
  nan := "NULL"
  infinity := "NULL"
  negativeInfinity := "NULL"

def Layout.json : Layout where
  tie := .even
  isPositional := isMiddling
  pointZero := true
  exponentPlus := "+"
  nan := "null"
  infinity := "null"
  negativeInfinity := "null"

def Layout.message : Layout where
  tie := .up
  isPositional := fun _ => true
  pointZero := false
  exponentPlus := ""
  nan := "NaN"
  infinity := "inf"
  negativeInfinity := "-inf"

def zeros (count : Nat) : List Char := List.replicate count '0'

def positional (pointZero : Bool) (digits : List Char) (leading : Int) : List Char :=
  if leading < 0 then '0' :: '.' :: zeros (-leading - 1).toNat ++ digits
  else
    let whole := leading.toNat + 1
    if digits.length ≤ whole then
      digits ++ zeros (whole - digits.length) ++ (if pointZero then ['.', '0'] else [])
    else digits.take whole ++ '.' :: digits.drop whole

def scientific (plus : String) (digits : List Char) (leading : Int) : List Char :=
  let fraction := digits.drop 1
  let sign := if leading < 0 then ['-'] else plus.toList
  digits.take 1 ++ (if fraction = [] then [] else '.' :: fraction) ++
    'e' :: sign ++ Nat.toDigits 10 leading.natAbs

def magnitudeChars (layout : Layout) (rank : Nat) : List Char :=
  if rank = 0 then if layout.pointZero then ['0', '.', '0'] else ['0']
  else
    let d := shortest layout.tie rank
    let digits := Nat.toDigits 10 d.digits
    let leading := d.exponent + digits.length - 1
    if layout.isPositional leading then positional layout.pointZero digits leading
    else scientific layout.exponentPlus digits leading

def text (layout : Layout) (x : Binary64) : String :=
  if x.isNaN then layout.nan
  else if x.isFinite then
    let magnitude := magnitudeChars layout x.rank
    String.ofList (if x.negative then '-' :: magnitude else magnitude)
  else if x.negative then layout.negativeInfinity
  else layout.infinity

end StatTable.Binary64
