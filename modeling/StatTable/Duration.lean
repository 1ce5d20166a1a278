import StatTable.Text.Decimal

set_option autoImplicit false

namespace StatTable

structure Duration where
  nanoseconds : Nat
deriving DecidableEq

namespace Duration

def ofSeconds (n : Nat) : Duration := ⟨n * 1000000000⟩

def fractionDigits (width count : Nat) : List Char :=
  let digits := Nat.toDigits 10 count
  let padded := List.replicate (width - digits.length) '0' ++ digits
  (padded.reverse.dropWhile (· == '0')).reverse

def inUnit (count places : Nat) (unit : String) : String :=
  let whole := Text.decimal (count / Nat.pow 10 places)
  match fractionDigits places (count % Nat.pow 10 places) with
  | [] => whole ++ unit
  | digits => whole ++ "." ++ String.ofList digits ++ unit

def text (duration : Duration) : String :=
  let count := duration.nanoseconds
  if 1000000000 ≤ count then inUnit count 9 "s"
  else if 1000000 ≤ count then inUnit count 6 "ms"
  else if 1000 ≤ count then inUnit count 3 "µs"
  else inUnit count 0 "ns"

end Duration

end StatTable
