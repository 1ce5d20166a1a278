set_option autoImplicit false

namespace StatTable

def toWord? (n : Int) : Option Int64 :=
  if -9223372036854775808 ≤ n ∧ n ≤ 9223372036854775807 then some (Int64.ofInt n) else none

def addWords? (a b : Int64) : Option Int64 := toWord? (a.toInt + b.toInt)

def subWords? (a b : Int64) : Option Int64 := toWord? (a.toInt - b.toInt)

def negWord? (a : Int64) : Option Int64 := toWord? (-a.toInt)

end StatTable
